import Mathlib.Data.List.Induction
import ComicCatalogue.Proofs.Shelf.History

/-!
# What was put last

Of the archives that were put at one path the last counts: whatever else is changed, the archive at
the path has the title that it was put with last, and a label for each of the names.
-/

namespace ComicCatalogue

namespace Labelling

variable {labelling : Labelling} {volume other : Int} {name : String}

/-- A label that is made or found is one of the labels, and no label is lost. -/
theorem label_spec (name slug : String) (labelling : Labelling) :
    (labelling.label name slug).2.links = labelling.links ∧
      labelling.labels ⊆ (labelling.label name slug).2.labels ∧
      ∃ label ∈ (labelling.label name slug).2.labels,
        label.id = (labelling.label name slug).1 ∧ label.slug = slug := by
  unfold Labelling.label
  split
  · rename_i label found
    have sameSlug : label.slug = slug := by simpa using List.find?_some found
    exact ⟨rfl, List.Subset.refl _, label, List.mem_of_find?_eq_some found, rfl, sameSlug⟩
  · exact ⟨rfl, List.subset_append_left _ _, _,
      List.mem_append_right _ List.mem_cons_self, rfl, rfl⟩

/-- An archive keeps its labels where the labels and the links are kept. -/
theorem labelsOf_subset {grown : Labelling} (labels : labelling.labels ⊆ grown.labels)
    (links : ∀ id, (volume, id) ∈ labelling.links → (volume, id) ∈ grown.links) :
    labelling.labelsOf volume ⊆ grown.labelsOf volume := by
  intro label member
  simp only [labelsOf, List.mem_filter, decide_eq_true_eq] at member ⊢
  exact ⟨labels member.1, links label.id member.2⟩

theorem labelsOf_subset_attach (other : Int) (name : String) :
    labelling.labelsOf volume ⊆ (labelling.attach other name).labelsOf volume := by
  have spec := label_spec name (Slug.ofText name) labelling
  simp only [attach]
  generalize labelling.label name (Slug.ofText name) = made at spec ⊢
  obtain ⟨sameLinks, kept, _⟩ := spec
  split
  · exact List.Subset.refl _
  · split
    · exact labelsOf_subset kept fun id linked => by rwa [sameLinks]
    · exact labelsOf_subset kept fun id linked => List.mem_append_left _ (by rwa [sameLinks])

theorem labelsOf_subset_foldl_attach (other : Int) (names : List String) (labelling : Labelling) :
    labelling.labelsOf volume ⊆ (names.foldl (attach other) labelling).labelsOf volume := by
  induction names generalizing labelling with
  | nil => exact List.Subset.refl _
  | cons name rest ih =>
    rw [List.foldl_cons]
    exact List.Subset.trans (labelsOf_subset_attach other name) (ih (labelling.attach other name))

/-- The label of a name is on the archive that it was put on. -/
theorem exists_labelsOf_attach (volume : Int) (labelling : Labelling)
    (named : Slug.ofText name ≠ "") :
    ∃ label ∈ (labelling.attach volume name).labelsOf volume, label.slug = Slug.ofText name := by
  have spec := label_spec name (Slug.ofText name) labelling
  simp only [attach, String.isEmpty_iff, named, if_false]
  generalize labelling.label name (Slug.ofText name) = made at spec ⊢
  obtain ⟨_, _, label, there, sameId, sameSlug⟩ := spec
  refine ⟨label, ?_, sameSlug⟩
  split
  · rename_i linked
    simpa [labelsOf, there, sameId] using linked
  · simp [labelsOf, there, sameId]

theorem exists_labelsOf_relabel {names : List String} (member : name ∈ names)
    (named : Slug.ofText name ≠ "") :
    ∃ label ∈ (labelling.relabel volume names).labelsOf volume, label.slug = Slug.ofText name := by
  -- Names before this one do not matter, and those behind it take no label away.
  obtain ⟨before, after, rfl⟩ := List.append_of_mem member
  rw [relabel, List.foldl_append, List.foldl_cons]
  obtain ⟨label, onVolume, sameSlug⟩ := exists_labelsOf_attach volume _ named
  exact ⟨label, labelsOf_subset_foldl_attach volume after _ onVolume, sameSlug⟩

/-- The other archives keep their labels. -/
theorem labelsOf_subset_relabel (different : volume ≠ other) (names : List String) :
    labelling.labelsOf volume ⊆ (labelling.relabel other names).labelsOf volume := by
  have cleared : labelling.labelsOf volume ⊆ (labelling.clear other).labelsOf volume := by
    refine labelsOf_subset (List.Subset.refl _) fun id linked => ?_
    simpa [clear] using ⟨linked, different⟩
  exact List.Subset.trans cleared (labelsOf_subset_foldl_attach other names _)

end Labelling

/-- The archive that a change puts at a path. -/
def ShelfChange.putAt? (path : String) : ShelfChange → Option NewArchive
  | put _ new => if new.path = path then some new else none
  | publish _ _ _ => none
  | withdraw _ _ => none

/-- The archive that was put at a path last. -/
def latestPut? (path : String) (changes : List ShelfChange) : Option NewArchive :=
  (changes.filterMap (·.putAt? path)).getLast?

theorem latestPut?_append_singleton (path : String) (changes : List ShelfChange)
    (change : ShelfChange) : latestPut? path (changes ++ [change]) =
      (change.putAt? path).or (latestPut? path changes) := by
  cases same : change.putAt? path <;> simp [latestPut?, List.filterMap_append, same]

namespace Shelf

/-- An archive has the title that it was put with, and a label for each of the names. -/
structure Carries (shelf : Shelf) (volume : Volume) (new : NewArchive) : Prop where
  title : volume.title = new.title
  labels : ∀ taxonomy, ∀ name ∈ new.names.get taxonomy, Slug.ofText name ≠ "" →
    ∃ label ∈ shelf.labelsOf taxonomy volume, label.slug = Slug.ofText name

/-- No two archives are at one path and none at a blank one, and each is as it was put last. -/
structure IsLatest (changes : List ShelfChange) (shelf : Shelf) : Prop where
  named : ∀ volume ∈ shelf.volumes, (Text.trim volume.path).isEmpty = false
  pathsNodup : (shelf.volumes.map (·.path)).Nodup
  carries : ∀ volume ∈ shelf.volumes,
    ∃ new, latestPut? volume.path changes = some new ∧ shelf.Carries volume new

variable {shelf : Shelf} {volume : Volume} {new : NewArchive} {now : Nat}

theorem path_notMem_of_atPath?_eq_none {path : String} (absent : shelf.atPath? path = none) :
    path ∉ shelf.volumes.map (·.path) := by
  intro member
  obtain ⟨volume, inShelf, same⟩ := List.mem_map.mp member
  simpa [same] using List.find?_eq_none.mp absent volume inShelf

theorem atPath?_eq_some_iff (paths : (shelf.volumes.map (·.path)).Nodup) {path : String} :
    shelf.atPath? path = some volume ↔ volume ∈ shelf.volumes ∧ volume.path = path := by
  constructor
  · exact fun there => ⟨List.mem_of_find?_eq_some there, by simpa using List.find?_some there⟩
  · rintro ⟨inShelf, rfl⟩
    cases there : shelf.atPath? volume.path with
    | some found =>
      have samePath : found.path = volume.path := by simpa using List.find?_some there
      exact congrArg some (List.inj_on_of_nodup_map paths (List.mem_of_find?_eq_some there) inShelf
        samePath)
    | none =>
      exact absurd (List.mem_map_of_mem inShelf) (path_notMem_of_atPath?_eq_none there)

/-- The archive that comes to a path: what is there keeps its number, the moment of its creation,
and whether it is withdrawn. -/
def placed (shelf : Shelf) (now : Nat) (new : NewArchive) : Volume :=
  { volumeOf now (shelf.idAt new.path) new with
    createdAt := (shelf.atPath? new.path).elim now (·.createdAt)
    withdrawn := (shelf.atPath? new.path).elim false (·.withdrawn) }

theorem placed_spec (shelf : Shelf) (now : Nat) (new : NewArchive) :
    (shelf.placed now new).id = shelf.idAt new.path ∧ (shelf.placed now new).path = new.path ∧
      (shelf.placed now new).title = new.title :=
  ⟨rfl, rfl, rfl⟩

theorem placed_of_atPath?_eq_some {old : Volume} (there : shelf.atPath? new.path = some old) :
    shelf.placed now new =
      { volumeOf now old.id new with createdAt := old.createdAt, withdrawn := old.withdrawn } := by
  simp [placed, idAt, there]

theorem placed_of_atPath?_eq_none (absent : shelf.atPath? new.path = none) :
    shelf.placed now new = volumeOf now (shelf.idAt new.path) new := by
  simp [placed, absent, volumeOf]

/-- Where an archive has been put, there are the one at its path and the old ones at others. -/
theorem mem_putVolume_iff (paths : (shelf.volumes.map (·.path)).Nodup) :
    volume ∈ shelf.putVolume now new ↔
      volume = shelf.placed now new ∨ volume ∈ shelf.volumes ∧ volume.path ≠ new.path := by
  unfold putVolume
  cases there : shelf.atPath? new.path with
  | some found =>
    obtain ⟨member, samePath⟩ := (atPath?_eq_some_iff paths).mp there
    rw [placed_of_atPath?_eq_some there]
    simp only [List.mem_map]
    constructor
    · rintro ⟨old, inShelf, rfl⟩
      split
      · rename_i atPath
        have same : old = found :=
          List.inj_on_of_nodup_map paths inShelf member (atPath.trans samePath.symm)
        exact .inl (by rw [same])
      · rename_i elsewhere
        exact .inr ⟨inShelf, elsewhere⟩
    · rintro (rfl | ⟨inShelf, elsewhere⟩)
      · exact ⟨found, member, if_pos samePath⟩
      · exact ⟨volume, inShelf, if_neg elsewhere⟩
  | none =>
    rw [placed_of_atPath?_eq_none there, List.mem_append, List.mem_singleton, or_comm]
    refine or_congr_right ⟨fun inShelf => ⟨inShelf, fun same => ?_⟩, And.left⟩
    exact path_notMem_of_atPath?_eq_none there (same ▸ List.mem_map_of_mem inShelf)

/-- An archive at another path has another number than the one that is put. -/
theorem id_ne_idAt (ids : (shelf.volumes.map (·.id)).Nodup) (member : volume ∈ shelf.volumes)
    (otherPath : volume.path ≠ new.path) : volume.id ≠ shelf.idAt new.path := by
  intro same
  unfold idAt at same
  split at same
  · rename_i found there
    have equal : volume = found :=
      List.inj_on_of_nodup_map ids member (List.mem_of_find?_eq_some there) same
    exact otherPath (equal ▸ by simpa using List.find?_some there)
  · exact nextId_notMem _ (List.mem_map.mpr ⟨volume, member, same⟩)

theorem nodup_paths_putVolume (paths : (shelf.volumes.map (·.path)).Nodup) :
    ((shelf.putVolume now new).map (·.path)).Nodup :=
  nodup_map_putVolume (fun _ same => same.symm) path_notMem_of_atPath?_eq_none paths

variable {changes : List ShelfChange}

/-- An archive keeps what it carries when another one is labelled anew. -/
theorem Carries.relabel (carries : shelf.Carries volume new) {id : Int} (different : volume.id ≠ id)
    (volumes : List Volume) (names : PerTaxonomy (List String)) :
    Carries ⟨volumes, .ofFn fun taxonomy =>
      (shelf.labellings.get taxonomy).relabel id (names.get taxonomy)⟩ volume new := by
  refine ⟨carries.title, fun taxonomy name isName named => ?_⟩
  obtain ⟨label, onVolume, sameSlug⟩ := carries.labels taxonomy name isName named
  refine ⟨label, ?_, sameSlug⟩
  rw [labelsOf, PerTaxonomy.get_ofFn]
  exact Labelling.labelsOf_subset_relabel different _ onVolume

/-- An archive that is labelled anew carries what it is put with. -/
theorem carries_relabel (shelf : Shelf) (volumes : List Volume)
    (sameTitle : volume.title = new.title) :
    Carries ⟨volumes, .ofFn fun taxonomy =>
      (shelf.labellings.get taxonomy).relabel volume.id (new.names.get taxonomy)⟩ volume new := by
  refine ⟨sameTitle, fun taxonomy name isName named => ?_⟩
  rw [labelsOf, PerTaxonomy.get_ofFn]
  exact Labelling.exists_labelsOf_relabel isName named

theorem IsLatest.put (latest : shelf.IsLatest changes) (ids : (shelf.volumes.map (·.id)).Nodup)
    {changed : Shelf} {id : Int} (done : shelf.put now new = .ok (id, changed)) :
    changed.IsLatest (changes ++ [.put now new]) := by
  simp only [Shelf.put] at done
  split at done
  · cases done
  · rename_i some
    cases done
    refine ⟨fun volume member => ?_, nodup_paths_putVolume latest.pathsNodup,
      fun volume member => ?_⟩
    · rcases (mem_putVolume_iff latest.pathsNodup).mp member with rfl | ⟨inShelf, _⟩
      · exact eq_false_of_ne_true some
      · exact latest.named volume inShelf
    · rw [latestPut?_append_singleton, ShelfChange.putAt?]
      rcases (mem_putVolume_iff latest.pathsNodup).mp member with rfl | ⟨inShelf, otherPath⟩
      · obtain ⟨sameId, samePath, sameTitle⟩ := placed_spec shelf now new
        rw [if_pos samePath.symm, ← sameId]
        exact ⟨new, rfl, carries_relabel shelf _ sameTitle⟩
      · obtain ⟨last, isLast, carries⟩ := latest.carries volume inShelf
        rw [if_neg otherPath.symm]
        exact ⟨last, isLast, carries.relabel (id_ne_idAt ids inShelf otherPath) _ _⟩

/-- A change of archives that keeps numbers, titles and paths keeps what was put. -/
theorem IsLatest.change (latest : shelf.IsLatest changes) (id : Int) {f : Volume → Volume}
    (keeps : ∀ volume, (f volume).id = volume.id ∧ (f volume).title = volume.title ∧
      (f volume).path = volume.path) : (shelf.change id f).2.IsLatest changes := by
  have changed : ∀ old, (if old.id = id then f old else old).id = old.id ∧
      (if old.id = id then f old else old).title = old.title ∧
      (if old.id = id then f old else old).path = old.path := by
    intro old
    split
    · exact keeps old
    · exact ⟨rfl, rfl, rfl⟩
  constructor
  · intro volume member
    obtain ⟨old, inShelf, rfl⟩ := List.mem_map.mp member
    rw [(changed old).2.2]
    exact latest.named old inShelf
  · rw [Shelf.change, map_replace _ fun old _ => (keeps old).2.2]
    exact latest.pathsNodup
  · intro volume member
    obtain ⟨old, inShelf, rfl⟩ := List.mem_map.mp member
    obtain ⟨new, isLast, carries⟩ := latest.carries old inShelf
    obtain ⟨sameId, sameTitle, samePath⟩ := changed old
    refine ⟨new, by rwa [samePath], sameTitle.trans carries.title, fun taxonomy => ?_⟩
    rw [labelsOf, sameId]
    exact carries.labels taxonomy

/-- What puts nothing at the path of an archive does not count. -/
theorem IsLatest.append_of_putAt?_eq_none (latest : shelf.IsLatest changes) {change : ShelfChange}
    (nothing : ∀ volume ∈ shelf.volumes, change.putAt? volume.path = none) :
    shelf.IsLatest (changes ++ [change]) := by
  refine ⟨latest.named, latest.pathsNodup, fun volume member => ?_⟩
  rw [latestPut?_append_singleton, nothing volume member]
  exact latest.carries volume member

theorem IsLatest.apply (latest : shelf.IsLatest changes) (sound : shelf.Sound)
    (change : ShelfChange) : (shelf.apply change).IsLatest (changes ++ [change]) := by
  cases change with
  | put now new =>
    rw [Shelf.apply]
    split
    · rename_i done
      exact latest.put sound.idsNodup done
    · rename_i refused
      refine latest.append_of_putAt?_eq_none fun volume member => if_neg fun same => ?_
      have named := latest.named volume member
      simp [Shelf.put, same, named] at refused
  | publish now id published =>
    rw [Shelf.apply, publish]
    refine IsLatest.append_of_putAt?_eq_none ?_ fun _ _ => rfl
    exact latest.change id fun _ => ⟨rfl, rfl, rfl⟩
  | withdraw now id =>
    rw [Shelf.apply, withdraw]
    refine IsLatest.append_of_putAt?_eq_none ?_ fun _ _ => rfl
    exact latest.change id fun _ => ⟨rfl, rfl, rfl⟩

/-- On every shelf that comes about, the archives are as they were put last. -/
theorem isLatest_ofChanges (changes : List ShelfChange) : (ofChanges changes).IsLatest changes := by
  induction changes using List.reverseRecOn with
  | nil =>
    exact ⟨fun _ member => absurd member List.not_mem_nil, List.nodup_nil,
      fun _ member => absurd member List.not_mem_nil⟩
  | append_singleton changes change ih =>
    rw [ofChanges_append_singleton]
    exact ih.apply (sound_ofChanges changes) change

end Shelf

end ComicCatalogue
