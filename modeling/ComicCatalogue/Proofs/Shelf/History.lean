import Mathlib.Data.List.Nodup
import ComicCatalogue.Shelf.Basic

/-!
# Shelves that come about

A shelf comes about by changes of the empty one. Whatever the changes were, the archives have
different numbers, their slugs and folded paths are those of their titles and paths, and the slugs
of labels are slugs of names.
-/

namespace ComicCatalogue

/-- A change of a shelf. -/
inductive ShelfChange where
  | put (now : Nat) (new : NewArchive)
  | publish (now : Nat) (id : Int) (published : Bool)
  | withdraw (now : Nat) (id : Int)
  deriving DecidableEq, Repr

namespace Shelf

/-- The shelf after a change. A change that is refused leaves it as it is. -/
def apply (shelf : Shelf) : ShelfChange → Shelf
  | .put now new =>
    match shelf.put now new with
    | .ok (_, changed) => changed
    | .error _ => shelf
  | .publish now id published => (shelf.publish now id published).2
  | .withdraw now id => (shelf.withdraw now id).2

/-- The shelf that changes of the empty shelf lead to. -/
def ofChanges (changes : List ShelfChange) : Shelf :=
  changes.foldl apply {}

theorem ofChanges_append_singleton (changes : List ShelfChange) (change : ShelfChange) :
    ofChanges (changes ++ [change]) = (ofChanges changes).apply change := by
  rw [ofChanges, List.foldl_append, List.foldl_cons, List.foldl_nil, ofChanges]

/-- What is true of every shelf that comes about. -/
structure Sound (shelf : Shelf) : Prop where
  idsNodup : (shelf.volumes.map (·.id)).Nodup
  slugs : ∀ volume ∈ shelf.volumes, volume.slug = Slug.ofText volume.title
  foldedPaths : ∀ volume ∈ shelf.volumes, volume.foldedPath = Text.lowercase volume.path
  labelSlugs : ∀ taxonomy, ∀ label ∈ (shelf.labellings.get taxonomy).labels,
    ∃ name, label.slug = Slug.ofText name

theorem le_foldl_max (ids : List Int) (start : Int) :
    start ≤ ids.foldl max start ∧ ∀ id ∈ ids, id ≤ ids.foldl max start := by
  induction ids generalizing start with
  | nil => simp
  | cons first rest ih =>
    obtain ⟨above, aboveRest⟩ := ih (max start first)
    rw [List.foldl_cons, List.forall_mem_cons]
    exact ⟨by omega, by omega, aboveRest⟩

theorem nextId_notMem (ids : List Int) : nextId ids ∉ ids := by
  intro member
  have below := (le_foldl_max ids 0).2 _ member
  unfold nextId at below
  omega

/-- Archives that are replaced by ones with the same number, path or the like keep the list of
these. -/
theorem map_replace {α : Type} {get : Volume → α} {f : Volume → Volume} (p : Volume → Prop)
    [DecidablePred p] (keeps : ∀ volume, p volume → get (f volume) = get volume)
    (volumes : List Volume) :
    (volumes.map fun volume => if p volume then f volume else volume).map get =
      volumes.map get := by
  rw [List.map_map]
  refine List.map_congr_left fun volume _ => ?_
  rw [Function.comp_apply]
  split
  · rename_i replaced
    exact keeps volume replaced
  · rfl

theorem sound_empty : Sound {} where
  idsNodup := List.nodup_nil
  slugs _ member := absurd member List.not_mem_nil
  foldedPaths _ member := absurd member List.not_mem_nil
  labelSlugs taxonomy label member := by
    cases taxonomy <;> exact absurd member List.not_mem_nil

variable {shelf : Shelf}

/-- A change of archives that keeps numbers, titles and paths keeps a shelf sound. -/
theorem Sound.change (sound : shelf.Sound) (id : Int) {f : Volume → Volume}
    (keeps : ∀ volume, (f volume).id = volume.id ∧ (f volume).title = volume.title ∧
      (f volume).slug = volume.slug ∧ (f volume).path = volume.path ∧
      (f volume).foldedPath = volume.foldedPath) : (shelf.change id f).2.Sound := by
  have changed : ∀ volume ∈ (shelf.change id f).2.volumes, ∃ old ∈ shelf.volumes,
      volume.title = old.title ∧ volume.slug = old.slug ∧ volume.path = old.path ∧
        volume.foldedPath = old.foldedPath := by
    intro volume member
    obtain ⟨old, inShelf, rfl⟩ := List.mem_map.mp member
    refine ⟨old, inShelf, ?_⟩
    split
    · exact (keeps old).2
    · exact ⟨rfl, rfl, rfl, rfl⟩
  refine ⟨?_, fun volume member => ?_, fun volume member => ?_, sound.labelSlugs⟩
  · rw [Shelf.change, map_replace _ fun volume _ => (keeps volume).1]
    exact sound.idsNodup
  · obtain ⟨old, inShelf, sameTitle, sameSlug, _⟩ := changed volume member
    rw [sameSlug, sameTitle, sound.slugs old inShelf]
  · obtain ⟨old, inShelf, _, _, samePath, sameFolded⟩ := changed volume member
    rw [sameFolded, samePath, sound.foldedPaths old inShelf]

/-- Where an archive has been put, the archives are the new one and old ones. -/
theorem mem_putVolume {now : Nat} {new : NewArchive} {volume : Volume}
    (member : volume ∈ shelf.putVolume now new) :
    volume ∈ shelf.volumes ∨
      volume.slug = Slug.ofText volume.title ∧ volume.foldedPath = Text.lowercase volume.path := by
  unfold putVolume at member
  split at member
  · obtain ⟨old, inShelf, rfl⟩ := List.mem_map.mp member
    split
    · exact .inr ⟨rfl, rfl⟩
    · exact .inl inShelf
  · rcases List.mem_append.mp member with old | fresh
    · exact .inl old
    · rw [List.mem_singleton.mp fresh]
      exact .inr ⟨rfl, rfl⟩

/-- The numbers or the paths of the archives where one has been put: what there was, and something
new only if nothing was at the path. -/
theorem map_putVolume {α : Type} {get : Volume → α} {now : Nat} {new : NewArchive}
    (keeps : ∀ volume, volume.path = new.path → get { volumeOf now volume.id new with
      createdAt := volume.createdAt, withdrawn := volume.withdrawn } = get volume) :
    (shelf.putVolume now new).map get =
      if shelf.atPath? new.path = none then
        shelf.volumes.map get ++ [get (volumeOf now (shelf.idAt new.path) new)]
      else shelf.volumes.map get := by
  unfold putVolume
  split
  · rename_i there
    rw [if_neg (by simp [there])]
    exact map_replace (·.path = new.path) keeps _
  · rename_i absent
    rw [if_pos absent, List.map_append, List.map_singleton]

theorem nodup_map_putVolume {α : Type} {get : Volume → α} {now : Nat} {new : NewArchive}
    (keeps : ∀ volume, volume.path = new.path → get { volumeOf now volume.id new with
      createdAt := volume.createdAt, withdrawn := volume.withdrawn } = get volume)
    (fresh : shelf.atPath? new.path = none →
      get (volumeOf now (shelf.idAt new.path) new) ∉ shelf.volumes.map get)
    (nodup : (shelf.volumes.map get).Nodup) : ((shelf.putVolume now new).map get).Nodup := by
  rw [map_putVolume keeps]
  split
  · rename_i absent
    rw [← List.concat_eq_append]
    exact nodup.concat (fresh absent)
  · exact nodup

theorem nodup_ids_putVolume (nodup : (shelf.volumes.map (·.id)).Nodup) (now : Nat)
    (new : NewArchive) : ((shelf.putVolume now new).map (·.id)).Nodup := by
  refine nodup_map_putVolume (fun _ _ => rfl) (fun absent => ?_) nodup
  have next : shelf.idAt new.path = nextId (shelf.volumes.map (·.id)) := by rw [idAt, absent]
  exact fun member => nextId_notMem _ (next ▸ member)

end Shelf

namespace Labelling

variable {labelling : Labelling}

/-- The label that a name brings with it has the slug of the name. -/
theorem mem_labels_attach {volume : Int} {name : String} {label : Label}
    (member : label ∈ (labelling.attach volume name).labels) :
    label ∈ labelling.labels ∨ label.slug = Slug.ofText name := by
  have labelled : (labelling.attach volume name).labels = labelling.labels ∨
      (labelling.attach volume name).labels =
        (labelling.label name (Slug.ofText name)).2.labels := by
    simp only [attach]
    split
    · exact .inl rfl
    · split <;> exact .inr rfl
  rcases labelled with same | same
  · exact .inl (same ▸ member)
  · rw [same, Labelling.label] at member
    split at member
    · exact .inl member
    · rcases List.mem_append.mp member with old | fresh
      · exact .inl old
      · rw [List.mem_singleton.mp fresh]
        exact .inr rfl

theorem mem_labels_foldl_attach {volume : Int} {names : List String} {label : Label}
    (labelling : Labelling) (member : label ∈ (names.foldl (attach volume) labelling).labels) :
    label ∈ labelling.labels ∨ ∃ name, label.slug = Slug.ofText name := by
  induction names generalizing labelling with
  | nil => exact .inl member
  | cons name rest ih =>
    rw [List.foldl_cons] at member
    rcases ih (labelling.attach volume name) member with old | new
    · exact (mem_labels_attach old).imp_right fun same => ⟨name, same⟩
    · exact .inr new

theorem mem_labels_relabel {volume : Int} {names : List String} {label : Label}
    (member : label ∈ (labelling.relabel volume names).labels) :
    label ∈ labelling.labels ∨ ∃ name, label.slug = Slug.ofText name := by
  rw [relabel] at member
  exact mem_labels_foldl_attach (labelling.clear volume) member

end Labelling

namespace Shelf

variable {shelf : Shelf}

theorem Sound.put {changed : Shelf} (sound : shelf.Sound) {now : Nat} {new : NewArchive} {id : Int}
    (done : shelf.put now new = .ok (id, changed)) : changed.Sound := by
  simp only [Shelf.put] at done
  split at done
  · cases done
  · simp only [Except.ok.injEq, Prod.mk.injEq] at done
    obtain ⟨_, rfl⟩ := done
    refine ⟨nodup_ids_putVolume sound.idsNodup now new, fun volume member => ?_,
      fun volume member => ?_, fun taxonomy label member => ?_⟩
    · exact (mem_putVolume member).elim (sound.slugs volume) fun fresh => fresh.1
    · exact (mem_putVolume member).elim (sound.foldedPaths volume) fun fresh => fresh.2
    · rw [PerTaxonomy.get_ofFn] at member
      rcases Labelling.mem_labels_relabel member with old | fresh
      · exact sound.labelSlugs taxonomy label old
      · exact fresh

theorem Sound.apply (sound : shelf.Sound) (change : ShelfChange) : (shelf.apply change).Sound := by
  cases change with
  | put now new =>
    rw [Shelf.apply]
    split
    · rename_i done
      exact sound.put done
    · exact sound
  | publish now id published => exact sound.change id fun _ => ⟨rfl, rfl, rfl, rfl, rfl⟩
  | withdraw now id => exact sound.change id fun _ => ⟨rfl, rfl, rfl, rfl, rfl⟩

/-- An archive at a new path comes behind the others. -/
theorem volumes_apply_put (now : Nat) (new : NewArchive)
    (named : (Text.trim new.path).isEmpty = false)
    (fresh : ∀ volume ∈ shelf.volumes, volume.path ≠ new.path) :
    (shelf.apply (.put now new)).volumes =
      shelf.volumes ++ [volumeOf now (nextId (shelf.volumes.map (·.id))) new] := by
  have absent : shelf.atPath? new.path = none := by
    rw [atPath?, List.find?_eq_none]
    exact fun volume member => by simpa using fresh volume member
  simp [Shelf.apply, Shelf.put, named, putVolume, idAt, absent]

/-- Every shelf that comes about is sound. -/
theorem sound_ofChanges (changes : List ShelfChange) : (ofChanges changes).Sound := by
  have kept : ∀ shelf : Shelf, shelf.Sound → (changes.foldl Shelf.apply shelf).Sound := by
    induction changes with
    | nil => exact fun shelf sound => sound
    | cons change rest ih => exact fun shelf sound => ih _ (sound.apply change)
  exact kept {} sound_empty

end Shelf

end ComicCatalogue
