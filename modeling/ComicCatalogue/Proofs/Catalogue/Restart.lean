import ComicCatalogue.Proofs.Catalogue.Alike

/-!
# Purging everything is like starting again

After a purge of every cache, a catalogue is like a new one: whatever comes later, it answers the
same, makes the same inquiries, and shows itself the same. Only the counts of what was found and
what was not go on from where they were.
-/

namespace ComicCatalogue.Catalogue

variable {settings : Settings} {a b : Catalogue}

/-- The catalogue after events in turn. -/
def after (catalogue : Catalogue) (events : List Event) : Catalogue :=
  events.foldl (fun catalogue event => (catalogue.step event).2) catalogue

/-- How many answers the cache of each name would find. -/
def sizes (now : Nat) (catalogue : Catalogue) : List (String × Nat) :=
  (catalogue.stats now).map fun (name, stats) => (name, stats.size)

theorem Alike.after (alike : Alike settings a b) (events : List Event) :
    Alike settings (a.after events) (b.after events) := by
  induction events generalizing a b with
  | nil => exact alike
  | cons event rest ih => exact ih (alike.step event).2

theorem Alike.session (alike : Alike settings a b) (events : List Event) :
    a.session events = b.session events := by
  induction events generalizing a b with
  | nil => rfl
  | cons event rest ih =>
    obtain ⟨sameRecord, alikeAfter⟩ := alike.step event
    rw [Catalogue.session, Catalogue.session, sameRecord, ih alikeAfter]

theorem Alike.text (alike : Alike settings a b) : a.text = b.text := by
  have sameName : a.directory.listings.name = b.directory.listings.name := by
    have same := congrArg Cache.name alike.directory.listings.uncounted
    exact same
  unfold Catalogue.text Directory.text
  rw [alike.pageSize, alike.pageSizeOther, sameName, alike.directory.verdicts]

theorem Alike.sizes (alike : Alike settings a b) (now : Nat) : a.sizes now = b.sizes now := by
  have sameSize (place : CacheName) :
      ((handle place).stats now a).size = ((handle place).stats now b).size := by
    cases place with
    | archives => exact alike.archives.size_stats now
    | archive => exact alike.lookups.size_stats now
    | taxonomies => exact alike.directory.listings.size_stats now
  simp only [Catalogue.sizes, stats, Cache.Registry.stats, List.map_map, Function.comp_def,
    sameSize]

/-- What a purge of every cache leaves is like a new catalogue. -/
theorem Alike.left_everyCache (alike : Alike settings a b) :
    Alike settings (a.left everyCache none) (ofSettings settings) where
  pageSize := alike.pageSize
  pageSizeOther := rfl
  taxonomyPageSize := alike.taxonomyPageSize
  taxonomyPageSizeOther := rfl
  directory := {
    listings := alike.directory.listings.purge_none
    verdicts := rfl
    memo := alike.directory.memo
    memoOther := Slug.Memo.sound_empty }
  archives := alike.archives.purge_none
  lookups := alike.lookups.purge_none

/-- Whatever happened before, after a purge of every cache each later event is answered as by a new
catalogue, with the same inquiries, and the catalogue shows the same text and the same sizes. -/
theorem session_purged (settings : Settings) (past future : List Event) (source : Source)
    (now : Nat) :
    let fresh := ofSettings settings
    let purged := ((fresh.after past).step ⟨source, now, .purge everyCache none⟩).2
    purged.session future = fresh.session future ∧
      (purged.after future).text = (fresh.after future).text ∧
      ∀ moment, (purged.after future).sizes moment = (fresh.after future).sizes moment := by
  intro fresh purged
  have reached : Alike settings (fresh.after past) (fresh.after past) :=
    (alike_ofSettings settings).after past
  have isLeft : purged = (fresh.after past).left everyCache none := by
    obtain ⟨count, stepped⟩ := step_purge_of_known source now none (fresh.after past) (.inl rfl)
    exact congrArg Prod.snd stepped
  have alike : Alike settings purged fresh := by
    rw [isLeft]
    exact reached.left_everyCache
  exact ⟨alike.session future, (alike.after future).text, (alike.after future).sizes⟩

end ComicCatalogue.Catalogue
