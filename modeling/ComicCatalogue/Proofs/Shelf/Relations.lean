import ComicCatalogue.Proofs.PageWindow
import ComicCatalogue.Proofs.Shelf.Consistent
import ComicCatalogue.Proofs.Shelf.LabelOrder
import ComicCatalogue.Proofs.Shelf.Order
import ComicCatalogue.Proofs.Shelf.Selected
import ComicCatalogue.Proofs.Taxonomy
import ComicCatalogue.Shelf.Relations

/-!
# Loading relations only adds them

What one look-up finds for all archives is handed out without loss: each archive gets the entries
that it is linked with, by name, and nothing else of it changes.
-/

namespace ComicCatalogue

namespace Labelling

variable {labelling : Labelling} {archives volumes : List Int} {volume : Int}

theorem mem_joined_iff {line : Int × Label} : line ∈ labelling.joined volumes ↔
    line.1 ∈ volumes ∧ (line.1, line.2.id) ∈ labelling.links ∧ line.2 ∈ labelling.labels := by
  simp only [joined, List.mem_flatMap, List.mem_filter, List.mem_map, decide_eq_true_eq]
  constructor
  · rintro ⟨link, ⟨linked, wanted⟩, label, ⟨inLabels, same⟩, rfl⟩
    exact ⟨wanted, same ▸ linked, inLabels⟩
  · rintro ⟨wanted, linked, inLabels⟩
    exact ⟨_, ⟨linked, wanted⟩, line.2, ⟨inLabels, rfl⟩, rfl⟩

/-- There are no two lines for the same archive and label. -/
theorem nodup_joined (consistent : labelling.IsConsistent archives) (volumes : List Int) :
    (labelling.joined volumes).Nodup := by
  have labels : labelling.labels.Nodup := consistent.idsNodup.of_map _
  refine List.nodup_flatMap.mpr ⟨fun link _ => ?_, ?_⟩
  · exact (labels.filter _).map fun a b same => congrArg Prod.snd same
  · refine (consistent.linksNodup.filter _).imp fun {link other} different => ?_
    intro line fromLink fromOther
    simp only [List.mem_map, List.mem_filter, decide_eq_true_eq] at fromLink fromOther
    obtain ⟨label, ⟨-, toLabel⟩, rfl⟩ := fromLink
    obtain ⟨_, ⟨-, toOther⟩, same⟩ := fromOther
    injection same with sameVolume sameLabel
    exact different (Prod.ext sameVolume.symm (toLabel.symm.trans (sameLabel ▸ toOther)))

/-- The lines of an archive are its labels by name. -/
theorem filter_lines (consistent : labelling.IsConsistent archives) (member : volume ∈ volumes) :
    ((labelling.lines volumes).filter (·.1 = volume)).map (·.2) =
      (labelling.labelsOf volume).mergeSort Label.mayPrecede := by
  have labels : labelling.labels.Nodup := consistent.idsNodup.of_map _
  have lines : (labelling.lines volumes).Perm (labelling.joined volumes) := List.mergeSort_perm _ _
  have nodup : (((labelling.lines volumes).filter (·.1 = volume)).map (·.2)).Nodup := by
    refine ((lines.nodup_iff.mpr (nodup_joined consistent volumes)).filter _).map_on ?_
    intro line isLine other isOther same
    rw [List.mem_filter, decide_eq_true_eq] at isLine isOther
    exact Prod.ext (isLine.2.trans isOther.2.symm) same
  have mem (label : Label) : label ∈ ((labelling.lines volumes).filter (·.1 = volume)).map (·.2) ↔
      label ∈ (labelling.labelsOf volume).mergeSort Label.mayPrecede := by
    simp only [List.mem_map, List.mem_filter, List.mem_mergeSort, decide_eq_true_eq, labelsOf,
      lines.mem_iff, mem_joined_iff]
    constructor
    · rintro ⟨line, ⟨⟨-, linked, inLabels⟩, rfl⟩, rfl⟩
      exact ⟨inLabels, linked⟩
    · rintro ⟨inLabels, linked⟩
      exact ⟨(volume, label), ⟨⟨member, linked, inLabels⟩, rfl⟩, rfl⟩
  have perm : (((labelling.lines volumes).filter (·.1 = volume)).map (·.2)).Perm
      ((labelling.labelsOf volume).mergeSort Label.mayPrecede) :=
    (List.perm_ext_iff_of_nodup nodup
      ((List.mergeSort_perm _ _).nodup_iff.mpr (labels.filter _))).mpr mem
  have sorted : (((labelling.lines volumes).filter (·.1 = volume)).map (·.2)).Pairwise
      fun a b => a.mayPrecede b := by
    refine List.pairwise_map.mpr (.filter _ (List.pairwise_mergeSort ?_ ?_ _))
    · exact fun a b c => Label.mayPrecede_trans a.2 b.2 c.2
    · exact fun a b => Label.mayPrecede_total a.2 b.2
  -- Labels that may stand on either side of one another are the same.
  refine perm.eq_of_pairwise (fun a b isLine isLabel first second => ?_) sorted
    (List.pairwise_mergeSort Label.mayPrecede_trans Label.mayPrecede_total _)
  rw [List.mem_mergeSort] at isLabel
  exact List.inj_on_of_nodup_map consistent.idsNodup
    (List.mem_of_mem_filter (List.mem_mergeSort.mp ((mem a).mp isLine)))
    (List.mem_of_mem_filter isLabel) (Label.id_eq_of_mayPrecede first second)

end Labelling

namespace Shelf

/-- Gathering loses no line and keeps their order. -/
theorem getD_gather (lines : List (Int × Label)) (volume : Int) :
    (gather lines).getD volume [] = (lines.filter (·.1 = volume)).map (·.2.entry) := by
  induction lines using List.reverseRecOn with
  | nil => simp [gather]
  | append_singleton lines line ih =>
    rw [gather, List.foldl_append, List.foldl_cons, List.foldl_nil, ← gather,
      Std.HashMap.getD_insert, List.filter_append, List.map_append, ← ih]
    by_cases same : line.1 = volume
    · simp [same]
    · simp [same]

/-- As archives have different numbers, what one has taken is missed by no other. -/
theorem handOut_eq_map (taxonomy : Taxonomy) {archives : List Archive}
    (distinct : (archives.map (·.id)).Nodup) (groups : Std.HashMap Int (List Entry)) :
    handOut taxonomy archives groups =
      archives.map fun archive => archive.withRelation taxonomy (groups.getD archive.id []) := by
  induction archives generalizing groups with
  | nil => rfl
  | cons archive rest ih =>
    rw [List.map_cons, List.nodup_cons] at distinct
    rw [handOut, List.map_cons, ih distinct.2]
    refine congrArg _ (List.map_congr_left fun other member => ?_)
    have apart : (archive.id == other.id) = false :=
      beq_false_of_ne fun same => distinct.1 (same ▸ List.mem_map_of_mem member)
    rw [Std.HashMap.getD_erase, apart, if_neg Bool.false_ne_true]

variable {shelf : Shelf} {rows : List Volume} {relations : List Taxonomy}

theorem withRelation_archiveOf (shelf : Shelf) (relations : List Taxonomy) (taxonomy : Taxonomy)
    (volume : Volume) :
    (shelf.archiveOf relations volume).withRelation taxonomy (shelf.relation volume taxonomy) =
      shelf.archiveOf (relations ++ [taxonomy]) volume := by
  have same : (shelf.archiveOf relations volume).relations.modify taxonomy
      (fun _ => shelf.relation volume taxonomy) =
        (shelf.archiveOf (relations ++ [taxonomy]) volume).relations := by
    refine PerTaxonomy.eq_of_get fun other => ?_
    simp only [archiveOf, PerTaxonomy.get_modify, PerTaxonomy.get_ofFn, List.mem_append,
      List.mem_singleton]
    by_cases requested : other = taxonomy
    · rw [if_pos requested, if_pos (.inr requested), requested]
    · rw [if_neg requested]
      simp only [requested, or_false]
  rw [Archive.withRelation, same]
  rfl

/-- One more relation is loaded by one look-up. -/
theorem handOut_archiveOf (consistent : shelf.IsConsistent) (distinct : (rows.map (·.id)).Nodup)
    (relations : List Taxonomy) (taxonomy : Taxonomy) :
    handOut taxonomy (rows.map (shelf.archiveOf relations))
        (gather ((shelf.labellings.get taxonomy).lines (rows.map (·.id)))) =
      rows.map (shelf.archiveOf (relations ++ [taxonomy])) := by
  have ids : (rows.map (shelf.archiveOf relations)).map (·.id) = rows.map (·.id) := List.map_map
  rw [handOut_eq_map taxonomy (ids ▸ distinct), List.map_map]
  refine List.map_congr_left fun volume member => ?_
  have lines := Labelling.filter_lines (consistent.labellings taxonomy)
    (List.mem_map_of_mem (f := Volume.id) member)
  have gathered : (gather ((shelf.labellings.get taxonomy).lines (rows.map (·.id)))).getD
      volume.id [] = shelf.relation volume taxonomy := by
    rw [getD_gather, relation, labelsOf, ← lines, List.map_map]
    rfl
  rw [← withRelation_archiveOf, ← gathered]
  rfl

theorem foldl_handOut (consistent : shelf.IsConsistent) (distinct : (rows.map (·.id)).Nodup)
    (relations : List Taxonomy) :
    relations.foldl (fun archives taxonomy => handOut taxonomy archives
        (gather ((shelf.labellings.get taxonomy).lines (rows.map (·.id)))))
        (rows.map (shelf.archiveOf [])) =
      rows.map (shelf.archiveOf relations) := by
  induction relations using List.reverseRecOn with
  | nil => rfl
  | append_singleton relations taxonomy ih =>
    rw [List.foldl_append, ih, List.foldl_cons, List.foldl_nil,
      handOut_archiveOf consistent distinct]

/-- The relations that are loaded are those that were asked for, unless a look-up is refused. -/
theorem load_eq (consistent : shelf.IsConsistent) (distinct : (rows.map (·.id)).Nodup)
    (relations : List Taxonomy) :
    shelf.load relations (rows.map (shelf.archiveOf [])) =
      match lookupFault? relations rows.length with
      | some fault => .error (.database fault)
      | none => .ok (rows.map (shelf.archiveOf relations)) := by
  rw [load, List.length_map]
  cases lookupFault? relations rows.length with
  | some fault => rfl
  | none =>
    simp only [List.map_map]
    exact congrArg Except.ok (foldl_handOut consistent distinct relations)

/-- The relations of an archive are the entries that it is linked with on a shelf, as far as they
are asked for. -/
structure Relates (shelf : Shelf) (relations : List Taxonomy) (archive : Archive) : Prop where
  /-- An entry is listed if one of the links of the archive leads to it. It comes without a
  number of archives. -/
  mem : ∀ taxonomy ∈ relations, ∀ entry, entry ∈ archive.relations.get taxonomy ↔
    ∃ label ∈ (shelf.labellings.get taxonomy).labels,
      (archive.id, label.id) ∈ (shelf.labellings.get taxonomy).links ∧
        entry = { id := label.id, name := label.name, slug := label.slug, count := none }
  idsNodup : ∀ taxonomy, ((archive.relations.get taxonomy).map (·.id)).Nodup
  ordered : ∀ taxonomy, (archive.relations.get taxonomy).Pairwise Entry.Precedes
  unasked : ∀ taxonomy ∉ relations, archive.relations.get taxonomy = []

theorem relates_archiveOf (consistent : shelf.IsConsistent) (relations : List Taxonomy)
    (volume : Volume) : shelf.Relates relations (shelf.archiveOf relations volume) := by
  have labels (taxonomy : Taxonomy) : ((shelf.labelsOf taxonomy volume).map (·.id)).Nodup :=
    (consistent.labellings taxonomy).idsNodup.sublist (List.filter_sublist.map _)
  have get (taxonomy : Taxonomy) : (shelf.archiveOf relations volume).relations.get taxonomy =
      if taxonomy ∈ relations then shelf.relation volume taxonomy else [] :=
    PerTaxonomy.get_ofFn _ taxonomy
  constructor
  · intro taxonomy asked entry
    rw [get, if_pos asked, relation, List.mem_map]
    simp only [List.mem_mergeSort, labelsOf, Labelling.labelsOf, List.mem_filter, decide_eq_true_eq,
      and_assoc]
    exact exists_congr fun label => and_congr_right fun _ => and_congr_right fun _ => eq_comm
  · intro taxonomy
    rw [get]
    split
    · rw [relation, List.map_map]
      exact ((List.mergeSort_perm _ _).map _).nodup_iff.mpr (labels taxonomy)
    · exact List.nodup_nil
  · intro taxonomy
    rw [get]
    split
    · exact Label.pairwise_map_mergeSort (labels taxonomy) (fun _ => rfl) (fun _ => rfl)
    · exact .nil
  · intro taxonomy unasked
    rw [get, if_neg unasked]

/-- Archives have been loaded with relations: without them they are the same as before, and the
relations are the right ones. -/
structure Loads (shelf : Shelf) (relations : List Taxonomy) (bare archives : List Archive) : Prop
    where
  load : shelf.load relations bare = .ok archives
  bare : archives.map Archive.withoutRelations = bare
  relates : ∀ archive ∈ archives, shelf.Relates relations archive

theorem loads_archiveOf (consistent : shelf.IsConsistent) (distinct : (rows.map (·.id)).Nodup)
    (few : rows.length ≤ maxLookedUp) (relations : List Taxonomy) :
    shelf.Loads relations (rows.map (shelf.archiveOf [])) (rows.map (shelf.archiveOf relations))
    where
  load := by rw [load_eq consistent distinct, lookupFault?_of_le few]
  bare := List.map_map
  relates archive member := by
    obtain ⟨volume, -, rfl⟩ := List.mem_map.mp member
    exact relates_archiveOf consistent relations volume

/-- Relations are looked up last. -/
theorem fault?_eq_or (shelf : Shelf) (selection : Selection) :
    shelf.fault? selection = (shelf.fault? { selection with preloads := [] }).or
      (lookupFault? selection.preloads (shelf.rows selection).length) := by
  change _ = (Option.or _ none).or _
  rw [Option.or_none]
  rfl

/-- A selection that asks for relations loads them for the archives that it finds without them. -/
theorem select_eq_load (consistent : shelf.IsConsistent) {selection : Selection}
    {page : ArchivePage} (done : shelf.select { selection with preloads := [] } = .ok page) :
    page.archives = (shelf.rows selection).map (shelf.archiveOf []) ∧
      shelf.select selection = (shelf.load selection.preloads page.archives).map
        fun archives => { archives := archives, total := page.total } := by
  have distinct : ((shelf.rows selection).map (·.id)).Nodup :=
    (nodup_ids_ordered consistent.idsNodup selection).sublist ((excerpt_sublist _ _ _).map _)
  rcases shelf.select_cases { selection with preloads := [] } with
    ⟨accepted, given⟩ | ⟨fault, _, failed⟩
  · cases done.symm.trans given
    refine ⟨rfl, ?_⟩
    have loaded := load_eq consistent distinct selection.preloads
    have fault := shelf.fault?_eq_or selection
    rw [accepted, Option.none_or] at fault
    change _ = (shelf.load _ ((shelf.rows selection).map _)).map _
    rw [loaded, ← fault]
    cases refused : shelf.fault? selection with
    | some fault => exact select_of_fault refused
    | none => exact select_of_faultless refused
  · cases done.symm.trans failed

/-- Whether or not relations are asked for, the same archives are found, in the same order and with
the same data. Those that are asked for are loaded by one look-up each, as long as a look-up takes
so many archives, and hold the entries that the archives are linked with. -/
theorem select_and_archive?_loads (changes : List ShelfChange) :
    let shelf := ofChanges changes
    (∀ selection : Selection,
      (∀ error, shelf.select { selection with preloads := [] } = .error error →
        shelf.select selection = .error error) ∧
      ∀ page, shelf.select { selection with preloads := [] } = .ok page →
        shelf.select selection = (shelf.load selection.preloads page.archives).map
          (fun archives => { archives := archives, total := page.total }) ∧
        (page.archives.length ≤ maxLookedUp →
          ∃ archives, shelf.select selection = .ok { archives := archives, total := page.total } ∧
            shelf.Loads selection.preloads page.archives archives)) ∧
    ∀ (id : Int) (relations : List Taxonomy),
      (shelf.archive? id [] = none → shelf.archive? id relations = none) ∧
      ∀ bare, shelf.archive? id [] = some bare →
        ∃ archive, shelf.archive? id relations = some archive ∧
          shelf.Loads relations [bare] [archive] := by
  intro shelf
  have consistent : shelf.IsConsistent := isConsistent_ofChanges changes
  clear_value shelf
  refine ⟨fun selection => ⟨fun error failed => ?_, fun page done => ?_⟩, fun id relations => ?_⟩
  · rcases shelf.select_cases { selection with preloads := [] } with
      ⟨_, given⟩ | ⟨fault, refused, given⟩
    · cases failed.symm.trans given
    · cases failed.symm.trans given
      exact select_of_fault (by rw [fault?_eq_or, refused, Option.some_or])
  · obtain ⟨bare, given⟩ := select_eq_load consistent done
    refine ⟨given, fun few => ?_⟩
    have distinct : ((shelf.rows selection).map (·.id)).Nodup :=
      (nodup_ids_ordered consistent.idsNodup selection).sublist ((excerpt_sublist _ _ _).map _)
    rw [bare, List.length_map] at few
    have loads := loads_archiveOf consistent distinct few selection.preloads
    refine ⟨_, ?_, bare ▸ loads⟩
    rw [given, bare, loads.load]
    rfl
  · unfold archive?
    cases shelf.volumes.find? fun volume => volume.id = id ∧ volume.isVisible with
    | none => exact ⟨fun _ => rfl, fun bare found => nomatch found⟩
    | some volume =>
      refine ⟨fun missing => (nomatch missing), fun bare found => ?_⟩
      cases found
      have loads : shelf.Loads relations ([volume].map (shelf.archiveOf []))
          ([volume].map (shelf.archiveOf relations)) :=
        @loads_archiveOf shelf [volume] consistent (List.nodup_singleton volume.id)
          (by decide : 1 ≤ maxLookedUp) relations
      exact ⟨_, rfl, loads⟩

/-- Two archives that share a tag: both are selected with their tags, and the one without the other
tag is looked up. A relation that is asked for twice is loaded twice. -/
theorem select_and_archive?_loads_shared_tag :
    let changes : List ShelfChange := [
      .put 1 { title := "A", path := "/a",
               names := { PerTaxonomy.const [] with tags := ["Cat", "Big"] } },
      .put 2 { title := "B", path := "/b", names := { PerTaxonomy.const [] with tags := ["cat"] } }]
    let shelf := ofChanges changes
    let selection := Selection.ofQuery (Draft.settledAfter [] [.preload "tags", .order "asc"])
    (∃ page archives, shelf.select { selection with preloads := [] } = .ok page ∧
      page.archives.length = 2 ∧
      shelf.select selection = .ok { archives := archives, total := page.total } ∧
      shelf.Loads [.tag] page.archives archives) ∧
    ∃ bare archive, shelf.archive? 2 [] = some bare ∧
      shelf.archive? 2 [.tag, .artist, .tag] = some archive ∧
      shelf.Loads [.tag, .artist, .tag] [bare] [archive] ∧
      archive.relations.tags = [{ id := 1, name := "Cat", slug := "cat" }] := by
  intro changes shelf selection
  have loads := select_and_archive?_loads changes
  constructor
  · have total : (shelf.select { selection with preloads := [] }).map (·.total) = .ok 2 := by
      decide +kernel
    have shape : selection.preloads = [.tag] ∧ selection.limit = some 25 ∧
        selection.offset = 0 := by
      decide +kernel
    obtain ⟨rows, gives⟩ : ∃ rows, shelf.Gives { selection with preloads := [] } rows :=
      ⟨_, gives_ordered shelf rfl⟩
    have count := gives.length_eq total
    cases done : shelf.select { selection with preloads := [] } with
    | error error =>
      rw [done] at total
      cases total
    | ok page =>
      have length : page.archives.length = 2 := by
        rw [(gives.page page done).1, shape.2.1, shape.2.2, List.length_map, excerpt,
          List.drop_zero, List.length_take, count]
        rfl
      obtain ⟨archives, given, loaded⟩ := ((loads.1 selection).2 page done).2 (by
        rw [length]
        decide)
      exact ⟨page, archives, rfl, length, given, shape.1 ▸ loaded⟩
  · have found : (shelf.archive? 2 [.tag, .artist, .tag]).map (·.relations.tags) =
        some [{ id := 1, name := "Cat", slug := "cat" }] := by
      decide +kernel
    have both := loads.2 2 [.tag, .artist, .tag]
    cases bare : shelf.archive? 2 [] with
    | none =>
      rw [both.1 bare] at found
      exact absurd found (by decide)
    | some bare' =>
      obtain ⟨archive, same, loaded⟩ := both.2 bare' bare
      rw [same] at found
      exact ⟨bare', archive, rfl, same, loaded, Option.some.inj found⟩

end Shelf

end ComicCatalogue
