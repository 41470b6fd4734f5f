import ComicCatalogue.Proofs.Catalogue.Restart
import ComicCatalogue.Proofs.Catalogue.Steps

/-!
# Catalogues that have served requests

Whatever a catalogue was asked before, as long as there was only one source, what it lists is what
this source says.
-/

namespace ComicCatalogue.Catalogue

variable {settings : Settings} {source : Source} {texts : List String} {catalogue : Catalogue}

/-- A backed catalogue that has asked one source only stays so. -/
theorem Backed.served (noCollision : NoCollision texts) {events : List Event} {asked : Askings}
    (backed : Backed settings texts asked catalogue) (only : asked.Only source)
    (fixed : ∀ event ∈ events, event.source = source)
    (known : (catalogue.session events).flatMap Record.texts ⊆ texts) :
    ∃ later : Askings,
      Backed settings texts later (catalogue.after events) ∧ later.Only source := by
  induction events generalizing catalogue asked with
  | nil => exact ⟨asked, backed, only⟩
  | cons event rest ih =>
    rw [session, List.flatMap_cons, List.append_subset] at known
    obtain rfl := fixed event List.mem_cons_self
    obtain ⟨backedAfter, -, -⟩ := backed_step noCollision event backed known.1
    exact ih backedAfter (only.after (catalogue.step event).1 rfl)
      (fun later member => fixed later (List.mem_cons_of_mem _ member)) known.2

/-- The catalogue has the settings and has served requests with the source. The hashes of the texts
that were needed, and of some more, do not collide. -/
def HasServed (settings : Settings) (source : Source) (texts : List String)
    (catalogue : Catalogue) : Prop :=
  ∃ events : List Event, (∀ event ∈ events, event.source = source) ∧
    NoCollision (((ofSettings settings).session events).flatMap Record.texts ++ texts) ∧
    catalogue = (ofSettings settings).after events

theorem HasServed.taxonomyPageSize (served : HasServed settings source texts catalogue) :
    catalogue.taxonomyPageSize = settings.taxonomyPageSize := by
  obtain ⟨events, -, -, rfl⟩ := served
  exact ((alike_ofSettings settings).after events).taxonomyPageSize

/-- A listing of entries is what the source says. -/
theorem HasServed.entries {taxonomy : Taxonomy} {limit offset : Int}
    (served : HasServed settings source [(EntryRequest.ofNumbers taxonomy limit offset).text]
      catalogue) (now : Nat) :
    (entries taxonomy limit offset ⟨source, now⟩ ⟨catalogue, []⟩).1 =
      Scheme.entries.answer (.ofNumbers taxonomy limit offset) source := by
  obtain ⟨events, fixed, noCollision, rfl⟩ := served
  obtain ⟨asked, backed, only⟩ := (backed_ofSettings fun _ other _ => other = source).served
    noCollision (fun _ _ _ => id) fixed (List.subset_append_left _ _)
  have known : (EntryRequest.ofNumbers taxonomy limit offset).text ∈
      ((ofSettings settings).session events).flatMap Record.texts ++
        [(EntryRequest.ofNumbers taxonomy limit offset).text] :=
    List.mem_append_right _ List.mem_cons_self
  rw [← @Askings.during_nil asked ⟨source, now⟩] at backed
  obtain ⟨-, -, recent⟩ :=
    ensures_entries noCollision taxonomy limit offset known ⟨_, []⟩ backed
  exact recent.eq_of_only only

end ComicCatalogue.Catalogue
