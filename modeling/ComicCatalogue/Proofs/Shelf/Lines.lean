import ComicCatalogue.Proofs.Shelf.Selected
import ComicCatalogue.Proofs.Slug.Edges

/-!
# What search lines select

A search line is read, settled into a query, and carried out as a selection. A line of one
constraint on a taxonomy or on the title becomes the conditions of this constraint and no others,
and unless the database refuses the conditions for their depth or for the length of a pattern, the
archives are selected that satisfy them.
-/

namespace ComicCatalogue

open Search (Reading)

/-- The query that the directives of a search line settle into, after the slugs of some texts were
asked for. -/
def Query.ofLine (seen : List String) (line : String) : Query :=
  ((Draft.addDirectives {} (Reading.ofLine line).directives).settle.run
    (Slug.Memo.ofTexts seen)).1

/-- The selection of a search line, without a limit. -/
def Selection.ofLine (seen : List String) (line : String) : Selection :=
  { Selection.ofQuery (.ofLine seen line) with limit := none, offset := 0 }

/-- The numbers of all archives that a search line selects. -/
def Shelf.found (shelf : Shelf) (seen : List String) (line : String) :
    Except ShelfError (List Int) :=
  (shelf.select (.ofLine seen line)).map (·.archives.map (·.id))

namespace Query

theorem ofLine_eq_settled (seen : List String) (line : String) :
    ofLine seen line = (Draft.addDirectives {} (Reading.ofLine line).directives).settled :=
  (Draft.yields_settle _ _ (Slug.Memo.sound_ofTexts seen)).1

/-- A search line asks for no relations. -/
theorem preloads_ofLine (seen : List String) (line : String) :
    (ofLine seen line).preloads = [] := by
  rw [ofLine_eq_settled, Draft.settled_preloads, (Draft.addDirectives_frame {} _).2]
  rfl

end Query

namespace Draft

theorem canonicalValues_map_trim (values : List String) :
    canonicalValues (values.map Text.trim) = canonicalValues values := by
  simp only [canonicalValues, List.map_map, Function.comp_def, Slug.ofText_trim]

theorem canonicalValues_singleton {value : String} (some : Slug.ofText value ≠ "") :
    canonicalValues [value] = [Slug.ofText value] := by
  simp [canonicalValues, some, Ascending.ofList, Ascending.insert]

theorem length_canonicalValues {values : List String}
    (some : ∀ value ∈ values, Slug.ofText value ≠ "") :
    (canonicalValues values).length = (values.map Slug.ofText).dedup.length := by
  have kept : (values.map Slug.ofText).filter (!·.isEmpty) = values.map Slug.ofText := by
    rw [List.filter_eq_self, List.forall_mem_map]
    exact fun value member => by simpa using some value member
  rw [canonicalValues, kept, Ascending.length_ofList]

theorem canonicalFilter_add (slot : Slot) (values : List String) :
    canonicalFilter (({} : TaxonomyFilter).add slot values) =
      ({} : TaxonomyFilter).add slot (canonicalValues values) := by
  obtain ⟨mode, wildcard⟩ := slot
  cases mode <;> cases wildcard <;> rfl

end Draft

namespace Condition

theorem ofFilter_empty (which : Taxonomy) : ofFilter which {} = [] := rfl

theorem ofQuery_of_pathless {query : Query} (noPath : query.path = none)
    (noPages : query.pages = none) :
    ofQuery query = (query.title.map ofTitle).toList ++
      Taxonomy.all.flatMap (fun taxonomy => ofFilter taxonomy (query.filters.get taxonomy)) ++
        [.visible] := by
  simp [ofQuery, noPath, noPages]

/-- The conditions of a query that constrains one taxonomy and nothing else. -/
theorem ofQuery_of_slot (which : Taxonomy) (slot : Slot) (values : List String) :
    ofQuery (Draft.addDirectives {} [.taxonomy which slot values]).settled =
      ofFilter which (({} : TaxonomyFilter).add slot (Draft.canonicalValues values)) ++
        [.visible] := by
  have empty : Draft.canonicalFilter {} = {} := rfl
  have filters (other : Taxonomy) :
      (Draft.addDirectives {} [.taxonomy which slot values]).settled.filters.get other =
        if other = which then ({} : TaxonomyFilter).add slot (Draft.canonicalValues values)
        else {} := by
    rw [Draft.settled_filters, PerTaxonomy.get_ofFn, Draft.addDirectives, List.foldl_cons,
      List.foldl_nil, Draft.addDirective, PerTaxonomy.get_modify, PerTaxonomy.const,
      PerTaxonomy.get_ofFn]
    split
    · exact Draft.canonicalFilter_add slot values
    · exact empty
  have constrained : (Taxonomy.all.flatMap fun other => ofFilter other
      ((Draft.addDirectives {} [.taxonomy which slot values]).settled.filters.get other)) =
        ofFilter which (({} : TaxonomyFilter).add slot (Draft.canonicalValues values)) := by
    simp only [filters]
    cases which <;> simp [Taxonomy.all, ofFilter_empty]
  rw [ofQuery_of_pathless rfl rfl, constrained]
  rfl

/-- The conditions of a query that constrains the title and nothing else. -/
theorem ofQuery_of_title {title : String} (some : Slug.ofText title ≠ "") :
    ofQuery (Draft.addDirectives {} [.title false [title]]).settled =
      [.title (.equals (Slug.ofText title)), .visible] := by
  have settled : (Draft.addDirectives {} [.title false [title]]).settled.title =
      Option.some (.equals (Slug.ofText title)) := by
    have slug : Draft.canonicalSlug? (Option.some title) = Option.some (Slug.ofText title) := by
      rw [Draft.canonicalSlug?, Option.map_some, Option.filter_some, if_pos (by simpa using some)]
    simp [Draft.settled_title, Draft.addDirectives, Draft.addDirective, Draft.canonicalTitle, slug]
  have noFilters : (Taxonomy.all.flatMap fun other => ofFilter other
      ((Draft.addDirectives {} [.title false [title]]).settled.filters.get other)) = [] := by
    refine List.flatMap_eq_nil_iff.mpr fun other _ => ?_
    cases other <;> rfl
  rw [ofQuery_of_pathless rfl rfl, settled, noFilters]
  rfl

end Condition

namespace Shelf

variable {shelf : Shelf} {seen : List String} {line : String} {conditions : List Condition}
  {volume : Volume}

/-- Without wildcards no pattern is too long. -/
theorem not_hasOverlong_nil : ¬Condition.HasOverlong [] := by
  rintro ⟨pattern, member, _⟩
  exact List.not_mem_nil member

/-- A selection without relations is carried out where the database does not refuse its
conditions. -/
theorem select_of_accepted (shelf : Shelf) {selection : Selection}
    (counted : selection.counted = selection.conditions) (bare : selection.preloads = [])
    (shallow : Condition.depth selection.conditions ≤ Depth.maximum)
    (short : ¬Condition.HasOverlong (selection.conditions.flatMap Condition.patterns)) :
    ∃ page, shelf.select selection = .ok page := by
  cases done : shelf.select selection with
  | ok page => exact ⟨page, rfl⟩
  | error error =>
    rcases (gives_ordered shelf counted).refusal error done with ⟨deep, _⟩ | ⟨overlong, _⟩ |
      ⟨related, _⟩
    · exact absurd (of_decide_eq_true deep) (Nat.not_lt.mpr shallow)
    · exact absurd overlong short
    · exact absurd bare related

/-- Where the database does not refuse the conditions of a line, the line selects the archives that
satisfy them. -/
theorem found_of_accepted (sound : shelf.Sound)
    (same : (Selection.ofLine seen line).conditions = conditions)
    (shallow : Condition.depth conditions ≤ Depth.maximum)
    (short : ¬Condition.HasOverlong (conditions.flatMap Condition.patterns)) :
    ∃ ids, shelf.found seen line = .ok ids ∧
      ∀ volume ∈ shelf.volumes,
        volume.id ∈ ids ↔ ∀ condition ∈ conditions, condition.holds shelf volume := by
  subst same
  obtain ⟨page, done⟩ :=
    shelf.select_of_accepted rfl (Query.preloads_ofLine seen line) shallow short
  have gives : shelf.Gives (.ofLine seen line) _ := gives_ordered shelf rfl
  have archives : page.archives.map (·.id) = (shelf.ordered (.ofLine seen line)).map (·.id) := by
    rw [(gives.page page done).1, List.map_map]
    rfl
  refine ⟨_, by rw [found, done, Except.map, archives], fun volume member => ?_⟩
  have isRow (other : Volume) : other ∈ shelf.ordered (.ofLine seen line) ↔
      other ∈ shelf.volumes ∧
        ∀ condition ∈ (Selection.ofLine seen line).conditions, condition.holds shelf other := by
    rw [ordered, List.mem_mergeSort, matching, List.mem_filter, List.all_eq_true]
  constructor
  · intro selected
    obtain ⟨other, isOther, sameId⟩ := List.mem_map.mp selected
    obtain ⟨inShelf, holds⟩ := (isRow other).mp isOther
    rwa [← List.inj_on_of_nodup_map sound.idsNodup inShelf member sameId]
  · exact fun holds => List.mem_map_of_mem ((isRow volume).mpr ⟨member, holds⟩)

/-- Conditions that are too deep are refused whatever is on the shelf. -/
theorem found_of_deep (same : (Selection.ofLine seen line).conditions = conditions)
    (deep : Depth.maximum < Condition.depth conditions) :
    shelf.found seen line = .error (.database .conditionsTooDeep) := by
  have refused : shelf.fault? (.ofLine seen line) = some .conditionsTooDeep := by
    have tooDeep : Condition.areTooDeep conditions := decide_eq_true deep
    rw [fault?_of_counted rfl, same, searchFault?, if_pos tooDeep, Option.some_or]
  rw [found, select_of_fault refused, Except.map]

/-- One archive on which a pattern is met that is too long is enough for a refusal. -/
theorem found_of_someFails (same : (Selection.ofLine seen line).conditions = conditions)
    (shallow : Condition.depth conditions ≤ Depth.maximum) (member : volume ∈ shelf.volumes)
    (fails : Condition.someFails shelf volume (Condition.tested conditions)) :
    shelf.found seen line = .error (.database .patternTooComplex) := by
  have refused : shelf.fault? (.ofLine seen line) = some .patternTooComplex := by
    have accepted : ¬Condition.areTooDeep conditions :=
      mt of_decide_eq_true (Nat.not_lt.mpr shallow)
    have overlong : shelf.volumes.any (Condition.someFails shelf · (Condition.tested conditions)) :=
      List.any_eq_true.mpr ⟨volume, member, fails⟩
    rw [fault?_of_counted rfl, same, searchFault?, if_neg accepted, if_pos overlong, Option.some_or]
  rw [found, select_of_fault refused, Except.map]

end Shelf

end ComicCatalogue
