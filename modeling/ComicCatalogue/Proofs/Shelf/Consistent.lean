import ComicCatalogue.Proofs.Shelf.Labels

/-!
# What a shelf is like, and what is put on it

On every shelf that comes about, archives are told apart by number and by path, and the labels of
each taxonomy are consistent. Putting an archive on it changes the archive at the path, its links,
and nothing else.
-/

namespace ComicCatalogue

namespace Shelf

/-- Archives have different numbers and paths, the slugs of their titles and the lower case of their
paths, and the labels and links are consistent with them. -/
structure IsConsistent (shelf : Shelf) : Prop where
  idsNodup : (shelf.volumes.map (·.id)).Nodup
  pathsNodup : (shelf.volumes.map (·.path)).Nodup
  slugs : ∀ volume ∈ shelf.volumes, volume.slug = Slug.ofText volume.title
  foldedPaths : ∀ volume ∈ shelf.volumes, volume.foldedPath = Text.lowercase volume.path
  labellings : ∀ taxonomy,
    (shelf.labellings.get taxonomy).IsConsistent (shelf.volumes.map (·.id))

variable {shelf : Shelf} {now : Nat} {new : NewArchive}

theorem put_of_blank (blank : (Text.trim new.path).isEmpty) (shelf : Shelf) (now : Nat) :
    shelf.put now new = .error (.invalidInput "archive path must not be empty") := by
  simp [put, blank]

/-- The shelf with an archive put on it. -/
def withPut (shelf : Shelf) (now : Nat) (new : NewArchive) : Shelf where
  volumes := shelf.putVolume now new
  labellings := .ofFn fun taxonomy =>
    (shelf.labellings.get taxonomy).relabel (shelf.idAt new.path) (new.names.get taxonomy)

theorem put_of_named (named : (Text.trim new.path).isEmpty = false) (shelf : Shelf) (now : Nat) :
    shelf.put now new = .ok (shelf.idAt new.path, shelf.withPut now new) := by
  simp [put, named, withPut]

theorem ids_subset_putVolume (shelf : Shelf) (now : Nat) (new : NewArchive) :
    shelf.volumes.map (·.id) ⊆ (shelf.putVolume now new).map (·.id) := by
  rw [map_putVolume fun _ _ => rfl]
  split
  · exact List.subset_append_left _ _
  · exact List.Subset.refl _

theorem idAt_mem_putVolume (paths : (shelf.volumes.map (·.path)).Nodup) (now : Nat)
    (new : NewArchive) : shelf.idAt new.path ∈ (shelf.putVolume now new).map (·.id) := by
  have placed : shelf.placed now new ∈ shelf.putVolume now new :=
    (mem_putVolume_iff paths).mpr (.inl rfl)
  exact List.mem_map_of_mem placed

/-- A change keeps the labels and links consistent with the archives. -/
theorem labellings_apply (paths : (shelf.volumes.map (·.path)).Nodup)
    (consistent : ∀ taxonomy,
      (shelf.labellings.get taxonomy).IsConsistent (shelf.volumes.map (·.id)))
    (change : ShelfChange) (taxonomy : Taxonomy) :
    ((shelf.apply change).labellings.get taxonomy).IsConsistent
      ((shelf.apply change).volumes.map (·.id)) := by
  have changed (id : Int) (f : Volume → Volume) (keeps : ∀ volume, (f volume).id = volume.id) :
      ((shelf.change id f).2.labellings.get taxonomy).IsConsistent
        ((shelf.change id f).2.volumes.map (·.id)) := by
    rw [Shelf.change, map_replace _ fun volume _ => keeps volume]
    exact consistent taxonomy
  cases change with
  | put now new =>
    cases blank : (Text.trim new.path).isEmpty with
    | true =>
      simp only [apply, put_of_blank blank]
      exact consistent taxonomy
    | false =>
      simp only [apply, put_of_named blank, withPut, PerTaxonomy.get_ofFn]
      exact ((consistent taxonomy).mono (ids_subset_putVolume shelf now new)).relabel
        (idAt_mem_putVolume paths now new) _
  | publish now id published => exact changed id _ fun _ => rfl
  | withdraw now id => exact changed id _ fun _ => rfl

theorem labellings_ofChanges (changes : List ShelfChange) (taxonomy : Taxonomy) :
    ((ofChanges changes).labellings.get taxonomy).IsConsistent
      ((ofChanges changes).volumes.map (·.id)) := by
  induction changes using List.reverseRecOn generalizing taxonomy with
  | nil =>
    have none : (ofChanges []).labellings.get taxonomy = {} := by cases taxonomy <;> rfl
    rw [none]
    exact ⟨List.nodup_nil, List.nodup_nil, fun _ member => absurd member List.not_mem_nil,
      List.nodup_nil, fun _ member => absurd member List.not_mem_nil⟩
  | append_singleton changes change ih =>
    rw [ofChanges_append_singleton]
    exact labellings_apply (isLatest_ofChanges changes).pathsNodup ih change taxonomy

/-- Every shelf that comes about is consistent. -/
theorem isConsistent_ofChanges (changes : List ShelfChange) : (ofChanges changes).IsConsistent :=
  have sound := sound_ofChanges changes
  { idsNodup := sound.idsNodup
    pathsNodup := (isLatest_ofChanges changes).pathsNodup
    slugs := sound.slugs
    foldedPaths := sound.foldedPaths
    labellings := labellings_ofChanges changes }

/-- An archive is put on a shelf at a moment, and becomes this one on the changed shelf. -/
structure IsPut (shelf : Shelf) (now : Nat) (new : NewArchive) (volume : Volume) (changed : Shelf) :
    Prop where
  /-- It is the only archive at its path. -/
  atPath : ∀ other, other ∈ changed.volumes ∧ other.path = new.path ↔ other = volume
  title : volume.title = new.title
  pages : volume.pages = new.pages
  size : volume.size = new.size
  publishedAt : volume.publishedAt = if new.published then some now else none
  /-- What was at the path keeps its number, its creation, and its withdrawal. -/
  kept : ∀ old ∈ shelf.volumes, old.path = new.path →
    volume.id = old.id ∧ volume.createdAt = old.createdAt ∧ volume.withdrawn = old.withdrawn
  /-- Where nothing was, the number is new. -/
  fresh : (∀ old ∈ shelf.volumes, old.path ≠ new.path) →
    volume.id ∉ shelf.volumes.map (·.id) ∧ volume.createdAt = now ∧ volume.withdrawn = false
  /-- The archives at other paths stay. -/
  others : ∀ other : Volume, other.path ≠ new.path →
    (other ∈ changed.volumes ↔ other ∈ shelf.volumes)
  /-- In every taxonomy its labels become those of its names. -/
  labels : ∀ taxonomy, Labelling.Relabels volume.id (new.names.get taxonomy)
    (shelf.labellings.get taxonomy) (changed.labellings.get taxonomy)

theorem isPut_withPut (consistent : shelf.IsConsistent) (now : Nat) (new : NewArchive) :
    shelf.IsPut now new (shelf.placed now new) (shelf.withPut now new) where
  atPath other := by
    rw [withPut, mem_putVolume_iff consistent.pathsNodup]
    constructor
    · rintro ⟨same | ⟨_, elsewhere⟩, atPath⟩
      · exact same
      · exact absurd atPath elsewhere
    · rintro rfl
      exact ⟨.inl rfl, rfl⟩
  title := rfl
  pages := rfl
  size := rfl
  publishedAt := rfl
  kept old inShelf atPath := by
    have there := (atPath?_eq_some_iff consistent.pathsNodup).mpr ⟨inShelf, atPath⟩
    rw [placed_of_atPath?_eq_some there]
    exact ⟨rfl, rfl, rfl⟩
  fresh elsewhere := by
    have absent : shelf.atPath? new.path = none := by
      simpa [atPath?, List.find?_eq_none] using elsewhere
    rw [placed_of_atPath?_eq_none absent, idAt, absent]
    exact ⟨nextId_notMem _, rfl, rfl⟩
  others other elsewhere := by
    rw [withPut, mem_putVolume_iff consistent.pathsNodup]
    constructor
    · rintro (rfl | ⟨inShelf, _⟩)
      · exact absurd rfl elsewhere
      · exact inShelf
    · exact fun inShelf => .inr ⟨inShelf, elsewhere⟩
  labels taxonomy := by
    rw [withPut, PerTaxonomy.get_ofFn]
    exact Labelling.relabels_relabel
      ((consistent.labellings taxonomy).mono (ids_subset_putVolume shelf now new))
      (idAt_mem_putVolume consistent.pathsNodup now new) _

/-- Every shelf that comes about is consistent, and an archive is put on it in this way: at a blank
path it is refused and the shelf stays, and at any other it is put there under the number that is
given. -/
theorem put_ofChanges (changes : List ShelfChange) (now : Nat) (new : NewArchive) :
    let shelf := ofChanges changes
    shelf.IsConsistent ∧
      if (Text.trim new.path).isEmpty then
        shelf.put now new = .error (.invalidInput "archive path must not be empty") ∧
          shelf.apply (.put now new) = shelf
      else ∃ volume changed, shelf.put now new = .ok (volume.id, changed) ∧
        shelf.apply (.put now new) = changed ∧ shelf.IsPut now new volume changed := by
  intro shelf
  have consistent : shelf.IsConsistent := isConsistent_ofChanges changes
  refine ⟨consistent, ?_⟩
  split
  · rename_i blank
    exact ⟨put_of_blank blank shelf now, by rw [apply, put_of_blank blank]⟩
  · rename_i notBlank
    have named := eq_false_of_ne_true notBlank
    exact ⟨shelf.placed now new, shelf.withPut now new, put_of_named named shelf now,
      by rw [apply, put_of_named named], isPut_withPut consistent now new⟩

end Shelf

end ComicCatalogue
