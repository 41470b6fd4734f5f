import ComicCatalogue.Proofs.Query.Canonical
import ComicCatalogue.Proofs.Shelf.History
import ComicCatalogue.Proofs.Slug.Alphabet
import ComicCatalogue.Shelf.Select

/-!
# What selections select

`Query.Selects` says in terms of slugs and paths which archives a query asks for. On a shelf that
came about by changes, the conditions of a settled query hold of these archives and of no others.
-/

namespace ComicCatalogue

/-- The slugs of an archive's entries satisfy a filter. -/
structure TaxonomyFilter.Accepts (filter : TaxonomyFilter) (slugs : List String) : Prop where
  anyOf : filter.anyOf ≠ [] → ∃ slug ∈ slugs, slug ∈ filter.anyOf
  allOf : ∀ value ∈ filter.allOf, value ∈ slugs
  anyContaining : filter.anyContaining ≠ [] →
    ∃ slug ∈ slugs, ∃ part ∈ filter.anyContaining, part.toList <:+: slug.toList
  allContaining : ∀ part ∈ filter.allContaining, ∃ slug ∈ slugs, part.toList <:+: slug.toList
  noneOf : ∀ slug ∈ slugs, slug ∉ filter.noneOf
  noneContaining : ∀ slug ∈ slugs, ∀ part ∈ filter.noneContaining,
    ¬part.toList <:+: slug.toList

/-- The slug of a title satisfies a constraint. -/
def TitleFilter.Accepts (slug : String) : TitleFilter → Prop
  | equals expected => slug = expected
  | contains part => part.toList <:+: slug.toList

/-- A number of pages is within a bound. -/
def PageBound.Accepts (pages : Int) : PageBound → Prop
  | ⟨.equal, count⟩ => pages = count
  | ⟨.greater, count⟩ => count < pages
  | ⟨.atLeast, count⟩ => count ≤ pages
  | ⟨.less, count⟩ => pages < count
  | ⟨.atMost, count⟩ => pages ≤ count

namespace Query

/-- An archive on a shelf satisfies a query, but for its path. -/
structure Fits (query : Query) (shelf : Shelf) (volume : Volume) : Prop where
  published : volume.publishedAt ≠ none
  kept : volume.withdrawn = false
  title : ∀ title, query.title = some title → title.Accepts volume.slug
  filters : ∀ taxonomy,
    (query.filters.get taxonomy).Accepts ((shelf.labelsOf taxonomy volume).map (·.slug))
  pages : ∀ bound, query.pages = some bound → bound.Accepts volume.pages

/-- A query selects an archive on a shelf: the path is found as the database reads texts. -/
structure Selects (query : Query) (shelf : Shelf) (volume : Volume) : Prop
    extends query.Fits shelf volume where
  path : ∀ part, query.path = some part → Like.Finds part.toList volume.foldedPath.toList

/-- The texts of a query are such as come out of settling: the path is in lower case, and the parts
that slugs are tested for are slugs. -/
structure IsFolded (query : Query) : Prop where
  path : ∀ part, query.path = some part → Like.IsFolded part.toList
  title : ∀ part, query.title = some (.contains part) → ∃ text, part = Slug.ofText text
  filters : ∀ taxonomy slot, ∀ part ∈ (query.filters.get taxonomy).get slot,
    ∃ text, part = Slug.ofText text

theorem isFolded_settled (draft : Draft) : draft.settled.IsFolded where
  path part found := by
    rw [Draft.settled_path, Draft.settlePath] at found
    obtain ⟨lower, _⟩ := Option.filter_eq_some_iff.mp found
    obtain ⟨path, _, rfl⟩ := Option.map_eq_some_iff.mp lower
    intro c member
    rw [Text.lowercase, String.toList_ofList] at member
    exact Unicode.toLower_of_mem_lowercase member
  title part found := by
    rw [Draft.settled_title, Draft.canonicalTitle_eq_or, Option.or_eq_some_iff] at found
    rcases found with whole | ⟨_, containing⟩
    · obtain ⟨slug, _, same⟩ := Option.map_eq_some_iff.mp whole
      cases same
    · obtain ⟨slug, isSlug, same⟩ := Option.map_eq_some_iff.mp containing
      obtain ⟨folded, _⟩ := Option.filter_eq_some_iff.mp isSlug
      obtain ⟨text, _, sameSlug⟩ := Option.map_eq_some_iff.mp folded
      cases same
      exact ⟨text, sameSlug.symm⟩
  filters taxonomy slot part member := by
    rw [Draft.settled_filters, PerTaxonomy.get_ofFn, Draft.get_canonicalFilter,
      Draft.mem_canonicalValues] at member
    obtain ⟨_, value, _, same⟩ := member
    exact ⟨value, same.symm⟩

theorem isFolded_settledAfter (seen : List String) (edits : List Draft.Edit) :
    (Draft.settledAfter seen edits).IsFolded := by
  rw [Draft.settledAfter_eq_settled]
  exact isFolded_settled _

end Query

namespace Condition

variable {shelf : Shelf} {volume : Volume}

theorem holds_linked_equals_iff {taxonomy : Taxonomy} {slug : String} :
    (linked taxonomy (.equals slug)).holds shelf volume ↔
      slug ∈ (shelf.labelsOf taxonomy volume).map (·.slug) := by
  simp [holds, SlugTest.passes]

theorem holds_linked_contains_iff (sound : shelf.Sound) {taxonomy : Taxonomy} {part : String}
    (isSlug : ∃ text, part = Slug.ofText text) :
    (linked taxonomy (.contains part)).holds shelf volume ↔
      ∃ slug ∈ (shelf.labelsOf taxonomy volume).map (·.slug), part.toList <:+: slug.toList := by
  obtain ⟨text, rfl⟩ := isSlug
  simp only [holds, List.any_eq_true, List.mem_map, exists_exists_and_eq_and]
  refine exists_congr fun label => and_congr_right fun member => ?_
  obtain ⟨name, same⟩ := sound.labelSlugs taxonomy label (List.mem_of_mem_filter member)
  rw [SlugTest.passes, same]
  exact Slug.accepts_within_ofText_iff text name

theorem holds_linkedAny_iff {taxonomy : Taxonomy} {tests : List SlugTest} :
    (linkedAny taxonomy tests).holds shelf volume ↔
      ∃ test ∈ tests, (linked taxonomy test).holds shelf volume := by
  simp only [holds, List.any_eq_true]

theorem holds_unlinked_iff {taxonomy : Taxonomy} {test : SlugTest} :
    (unlinked taxonomy test).holds shelf volume ↔
      ¬(linked taxonomy test).holds shelf volume := by
  simp only [holds, Bool.not_eq_true', Bool.not_eq_true]

/-- The condition that one of several tests succeeds is left out if there are none. -/
theorem all_oneOf_iff {taxonomy : Taxonomy} {α : Type} {values : List α} {test : α → SlugTest} :
    (if (values.map test).isEmpty then [] else [linkedAny taxonomy (values.map test)]).all
        (·.holds shelf volume) ↔
      (values ≠ [] → ∃ value ∈ values, (linked taxonomy (test value)).holds shelf volume) := by
  cases values with
  | nil => simp
  | cons value rest => simp [holds_linkedAny_iff]

/-- The conditions of a filter hold of an archive if the slugs of its entries satisfy the filter. -/
theorem holds_ofFilter_iff (sound : shelf.Sound) {taxonomy : Taxonomy} {filter : TaxonomyFilter}
    (isSlug : ∀ slot, ∀ part ∈ filter.get slot, ∃ text, part = Slug.ofText text) :
    (ofFilter taxonomy filter).all (·.holds shelf volume) ↔
      filter.Accepts ((shelf.labelsOf taxonomy volume).map (·.slug)) := by
  have containing : ∀ wildcards : Slot, ∀ part ∈ filter.get wildcards,
      ((linked taxonomy (.contains part)).holds shelf volume ↔
        ∃ slug ∈ (shelf.labelsOf taxonomy volume).map (·.slug), part.toList <:+: slug.toList) :=
    fun slot part member => holds_linked_contains_iff sound (isSlug slot part member)
  simp only [ofFilter, List.all_append, Bool.and_eq_true, all_oneOf_iff]
  simp only [List.all_map, List.all_eq_true, Function.comp_apply, holds_unlinked_iff,
    holds_linked_equals_iff]
  constructor
  · rintro ⟨⟨⟨⟨⟨anyOf, allOf⟩, anyContaining⟩, allContaining⟩, noneOf⟩, noneContaining⟩
    refine ⟨?_, allOf, ?_, ?_, ?_, ?_⟩
    · intro nonempty
      obtain ⟨value, member, linked⟩ := anyOf nonempty
      exact ⟨value, linked, member⟩
    · intro nonempty
      obtain ⟨part, member, linked⟩ := anyContaining nonempty
      obtain ⟨slug, isLinked, inside⟩ := (containing ⟨.anyOf, true⟩ part member).mp linked
      exact ⟨slug, isLinked, part, member, inside⟩
    · exact fun part member =>
        (containing ⟨.allOf, true⟩ part member).mp (allContaining part member)
    · exact fun slug isLinked member => noneOf slug member isLinked
    · exact fun slug isLinked part member inside =>
        noneContaining part member
          ((containing ⟨.noneOf, true⟩ part member).mpr ⟨slug, isLinked, inside⟩)
  · intro accepts
    refine ⟨⟨⟨⟨⟨?_, accepts.allOf⟩, ?_⟩, ?_⟩, ?_⟩, ?_⟩
    · intro nonempty
      obtain ⟨slug, isLinked, member⟩ := accepts.anyOf nonempty
      exact ⟨slug, member, isLinked⟩
    · intro nonempty
      obtain ⟨slug, isLinked, part, member, inside⟩ := accepts.anyContaining nonempty
      exact ⟨part, member, (containing ⟨.anyOf, true⟩ part member).mpr ⟨slug, isLinked, inside⟩⟩
    · exact fun part member =>
        (containing ⟨.allOf, true⟩ part member).mpr (accepts.allContaining part member)
    · exact fun slug member isLinked => accepts.noneOf slug isLinked member
    · intro part member linked
      obtain ⟨slug, isLinked, inside⟩ := (containing ⟨.noneOf, true⟩ part member).mp linked
      exact accepts.noneContaining slug isLinked part member inside

theorem holds_path_iff (sound : shelf.Sound) (member : volume ∈ shelf.volumes) {part : String}
    (folded : Like.IsFolded part.toList) :
    (path part).holds shelf volume ↔ Like.Finds part.toList volume.foldedPath.toList := by
  have foldedPath : Like.IsFolded volume.foldedPath.toList := by
    rw [sound.foldedPaths volume member, Text.lowercase, String.toList_ofList]
    exact fun _ => Unicode.toLower_of_mem_lowercase
  rw [holds, pathPattern, String.toList_ofList]
  exact Like.accepts_within_escape_iff folded foldedPath

theorem holds_ofTitle_iff (sound : shelf.Sound) (member : volume ∈ shelf.volumes)
    {title : TitleFilter}
    (slug : ∀ part, title = .contains part → ∃ text, part = Slug.ofText text) :
    (ofTitle title).holds shelf volume ↔ title.Accepts volume.slug := by
  cases title with
  | equals expected => simp [ofTitle, holds, SlugTest.passes, TitleFilter.Accepts]
  | contains part =>
    obtain ⟨text, rfl⟩ := slug part rfl
    rw [ofTitle, holds, SlugTest.passes, TitleFilter.Accepts, sound.slugs volume member]
    exact Slug.accepts_within_ofText_iff text volume.title

theorem holds_pages_iff {bound : PageBound} :
    (pages bound).holds shelf volume ↔ bound.Accepts volume.pages := by
  obtain ⟨comparison, count⟩ := bound
  cases comparison <;> simp [holds, Comparison.holds, PageBound.Accepts]

theorem holds_visible_iff :
    visible.holds shelf volume ↔ volume.publishedAt ≠ none ∧ volume.withdrawn = false := by
  simp [holds, Volume.isVisible, Option.isSome_iff_ne_none]

/-- The conditions of a settled query hold of the archives that it asks for. -/
theorem holds_ofQuery_iff (sound : shelf.Sound) (member : volume ∈ shelf.volumes) {query : Query}
    (folded : query.IsFolded) :
    (ofQuery query).all (·.holds shelf volume) ↔ query.Selects shelf volume := by
  have filters : (Taxonomy.all.flatMap fun taxonomy =>
        ofFilter taxonomy (query.filters.get taxonomy)).all (·.holds shelf volume) ↔
      ∀ taxonomy,
        (query.filters.get taxonomy).Accepts ((shelf.labelsOf taxonomy volume).map (·.slug)) := by
    rw [List.all_flatMap, List.all_eq_true]
    simp only [holds_ofFilter_iff sound (folded.filters _), Taxonomy.mem_all, true_imp_iff]
  have path : (query.path.map path).toList.all (·.holds shelf volume) ↔
      ∀ part, query.path = some part → Like.Finds part.toList volume.foldedPath.toList := by
    cases asked : query.path with
    | none => simp
    | some part => simpa using holds_path_iff sound member (folded.path part asked)
  have title : (query.title.map ofTitle).toList.all (·.holds shelf volume) ↔
      ∀ title, query.title = some title → title.Accepts volume.slug := by
    cases asked : query.title with
    | none => simp
    | some title =>
      have isSlug : ∀ part, title = .contains part → ∃ text, part = Slug.ofText text :=
        fun part same => folded.title part (by rw [asked, same])
      simpa using holds_ofTitle_iff sound member isSlug
  have pages : (query.pages.map pages).toList.all (·.holds shelf volume) ↔
      ∀ bound, query.pages = some bound → bound.Accepts volume.pages := by
    cases query.pages with
    | none => simp
    | some bound => simpa using holds_pages_iff
  have visible : [visible].all (·.holds shelf volume) ↔
      volume.publishedAt ≠ none ∧ volume.withdrawn = false := by
    simpa using holds_visible_iff
  simp only [ofQuery, List.all_append, Bool.and_eq_true]
  rw [path, title, filters, pages, visible]
  constructor
  · rintro ⟨⟨⟨⟨onPath, onTitle⟩, onFilters⟩, onPages⟩, published, kept⟩
    exact ⟨⟨published, kept, onTitle, onFilters, onPages⟩, onPath⟩
  · rintro ⟨⟨published, kept, onTitle, onFilters, onPages⟩, onPath⟩
    exact ⟨⟨⟨⟨onPath, onTitle⟩, onFilters⟩, onPages⟩, published, kept⟩

end Condition

/-- The patterns that a test matches slugs with. -/
def SlugTest.patterns : SlugTest → List (List Char)
  | equals _ => []
  | contains part => [Like.within part.toList]

namespace Condition

/-- The patterns that a condition matches texts with. -/
def patterns : Condition → List (List Char)
  | path part => [Like.within (Like.escape part.toList)]
  | title test => test.patterns
  | linked _ test => test.patterns
  | linkedAny _ tests => tests.flatMap SlugTest.patterns
  | unlinked _ test => test.patterns
  | pages _ => []
  | visible => []

/-- A pattern that is too long is among the given ones. -/
def HasOverlong (patterns : List (List Char)) : Prop :=
  ∃ pattern ∈ patterns, Like.maxPatternBytes < Like.patternBytes pattern

theorem hasOverlong_of_isOverlong {test : SlugTest} (overlong : test.isOverlong) :
    HasOverlong test.patterns := by
  cases test with
  | equals slug => cases overlong
  | contains part =>
    rw [SlugTest.isOverlong, decide_eq_true_eq] at overlong
    exact ⟨_, List.mem_singleton_self _, overlong⟩

theorem HasOverlong.append_left {first : List (List Char)} (overlong : HasOverlong first)
    (second : List (List Char)) : HasOverlong (first ++ second) := by
  obtain ⟨pattern, member, long⟩ := overlong
  exact ⟨pattern, List.mem_append_left _ member, long⟩

theorem HasOverlong.append_right {second : List (List Char)} (overlong : HasOverlong second)
    (first : List (List Char)) : HasOverlong (first ++ second) := by
  obtain ⟨pattern, member, long⟩ := overlong
  exact ⟨pattern, List.mem_append_right _ member, long⟩

theorem hasOverlong_of_labelTestFails {taxonomy : Taxonomy} {test : SlugTest}
    (fails : labelTestFails shelf volume taxonomy test) : HasOverlong test.patterns := by
  rw [labelTestFails, Bool.and_eq_true] at fails
  exact hasOverlong_of_isOverlong fails.1

theorem hasOverlong_of_anyTestFails {taxonomy : Taxonomy} {tests : List SlugTest}
    (fails : anyTestFails shelf volume taxonomy tests) :
    HasOverlong (tests.flatMap SlugTest.patterns) := by
  induction tests with
  | nil => cases fails
  | cons test rest ih =>
    rw [anyTestFails, Bool.or_eq_true, Bool.and_eq_true] at fails
    rw [List.flatMap_cons]
    rcases fails with first | later
    · exact (hasOverlong_of_labelTestFails first).append_left _
    · exact (ih later.2).append_right _

/-- A condition fails only if one of its patterns is too long. -/
theorem hasOverlong_of_fails {condition : Condition} (fails : condition.fails shelf volume) :
    HasOverlong condition.patterns := by
  cases condition with
  | path part =>
    rw [Condition.fails, decide_eq_true_eq, pathPattern, String.toList_ofList] at fails
    exact ⟨_, List.mem_singleton_self _, fails⟩
  | title test => exact hasOverlong_of_isOverlong fails
  | linked taxonomy test => exact hasOverlong_of_labelTestFails fails
  | linkedAny taxonomy tests => exact hasOverlong_of_anyTestFails fails
  | unlinked taxonomy test => exact hasOverlong_of_labelTestFails fails
  | pages bound => cases fails
  | visible => cases fails

/-- Conditions that are tested in turn fail only if one of their patterns is too long. -/
theorem hasOverlong_of_someFails {conditions : List Condition}
    (fails : someFails shelf volume conditions) : HasOverlong (conditions.flatMap patterns) := by
  induction conditions with
  | nil => cases fails
  | cons condition rest ih =>
    rw [someFails, Bool.or_eq_true, Bool.and_eq_true] at fails
    rw [List.flatMap_cons]
    rcases fails with first | later
    · exact (hasOverlong_of_fails first).append_left _
    · exact (ih later.2).append_right _

/-- Testing conditions in stages tests no others. -/
theorem hasOverlong_of_tested {conditions : List Condition}
    (overlong : HasOverlong ((tested conditions).flatMap patterns)) :
    HasOverlong (conditions.flatMap patterns) := by
  obtain ⟨pattern, member, long⟩ := overlong
  obtain ⟨condition, isTested, ofCondition⟩ := List.mem_flatMap.mp member
  simp only [tested, List.mem_append, List.mem_filter] at isTested
  have asked : condition ∈ conditions := by
    rcases isTested with (first | second) | third
    · exact first.1
    · exact second.1
    · exact third.1
  exact ⟨pattern, List.mem_flatMap.mpr ⟨condition, asked, ofCondition⟩, long⟩

end Condition

namespace Shelf

theorem mem_ordered_iff {shelf : Shelf} (sound : shelf.Sound) {query : Query}
    (folded : query.IsFolded) {volume : Volume} :
    volume ∈ shelf.ordered (Selection.ofQuery query) ↔
      volume ∈ shelf.volumes ∧ query.Selects shelf volume := by
  rw [ordered, List.mem_mergeSort, matching, List.mem_filter]
  exact and_congr_right fun member => Condition.holds_ofQuery_iff sound member folded

theorem nodup_ordered {shelf : Shelf} (sound : shelf.Sound) (selection : Selection) :
    (shelf.ordered selection).Nodup := by
  rw [ordered, (List.mergeSort_perm _ _).nodup_iff]
  exact (List.Nodup.of_map _ sound.idsNodup).filter _

/-- Carrying out a selection gives these archives in its order, unless the database refuses it. -/
structure Gives (shelf : Shelf) (selection : Selection) (rows : List Volume) : Prop where
  /-- The part that is wanted comes with the number of all. -/
  page : ∀ page, shelf.select selection = .ok page →
    page.archives = (excerpt selection.limit selection.offset rows).map
        (shelf.archiveOf selection.preloads) ∧
      page.total = rows.length
  /-- The conditions are too deep, or one of the patterns is too long, or relations are asked for
  with more archives than a look-up takes. -/
  refusal : ∀ error, shelf.select selection = .error error →
    Condition.areTooDeep selection.conditions ∧ error = .database .conditionsTooDeep ∨
      Condition.HasOverlong (selection.conditions.flatMap Condition.patterns) ∧
        error = .database .patternTooComplex ∨
      selection.preloads ≠ [] ∧
        maxLookedUp < (excerpt selection.limit selection.offset rows).length ∧
          ∃ statement position, error = .database (.tooManyValues statement position)

theorem cases_of_searchFault? {shelf : Shelf} {conditions : List Condition} {fault : DatabaseFault}
    (refused : shelf.searchFault? conditions = some fault) :
    Condition.areTooDeep conditions ∧ fault = .conditionsTooDeep ∨
      Condition.HasOverlong (conditions.flatMap Condition.patterns) ∧
        fault = .patternTooComplex := by
  unfold searchFault? at refused
  split at refused
  · rename_i deep
    cases refused
    exact .inl ⟨deep, rfl⟩
  · split at refused
    · rename_i overlong
      cases refused
      obtain ⟨volume, _, fails⟩ := List.any_eq_true.mp overlong
      exact .inr ⟨Condition.hasOverlong_of_tested (Condition.hasOverlong_of_someFails fails), rfl⟩
    · cases refused

theorem cases_of_lookupFault? {relations : List Taxonomy} {count : Nat} {fault : DatabaseFault}
    (refused : lookupFault? relations count = some fault) :
    relations ≠ [] ∧ maxLookedUp < count ∧
      ∃ statement position, fault = .tooManyValues statement position := by
  cases relations with
  | nil => cases refused
  | cons taxonomy rest =>
    simp only [lookupFault?] at refused
    split at refused
    · cases refused
    · rename_i many
      cases refused
      exact ⟨List.cons_ne_nil _ _, Nat.lt_of_not_le many, _, _, rfl⟩

theorem lookupFault?_of_le {relations : List Taxonomy} {count : Nat} (few : count ≤ maxLookedUp) :
    lookupFault? relations count = none := by
  cases relations with
  | nil => rfl
  | cons taxonomy rest => exact if_pos few

/-- Where the same conditions tell what is counted and what is found, both are refused alike. -/
theorem fault?_of_counted {shelf : Shelf} {selection : Selection}
    (counted : selection.counted = selection.conditions) :
    shelf.fault? selection = (shelf.searchFault? selection.conditions).or
      (lookupFault? selection.preloads (shelf.rows selection).length) := by
  rw [fault?, counted, Option.or_self]

theorem select_of_fault {shelf : Shelf} {selection : Selection} {fault : DatabaseFault}
    (refused : shelf.fault? selection = some fault) :
    shelf.select selection = .error (.database fault) := by
  rw [select, refused]

theorem select_of_faultless {shelf : Shelf} {selection : Selection}
    (accepted : shelf.fault? selection = none) :
    shelf.select selection = .ok {
      archives := (shelf.rows selection).map (shelf.archiveOf selection.preloads)
      total := (shelf.matching selection.counted).length } := by
  rw [select, accepted]

/-- A selection is carried out where it is not refused, and it is refused for the fault that the
database finds. -/
theorem select_cases (shelf : Shelf) (selection : Selection) :
    shelf.fault? selection = none ∧ shelf.select selection = .ok {
        archives := (shelf.rows selection).map (shelf.archiveOf selection.preloads)
        total := (shelf.matching selection.counted).length } ∨
      ∃ fault, shelf.fault? selection = some fault ∧
        shelf.select selection = .error (.database fault) := by
  cases refused : shelf.fault? selection with
  | none => exact .inl ⟨rfl, select_of_faultless refused⟩
  | some fault => exact .inr ⟨fault, rfl, select_of_fault refused⟩

theorem gives_ordered (shelf : Shelf) {selection : Selection}
    (counted : selection.counted = selection.conditions) :
    shelf.Gives selection (shelf.ordered selection) := by
  have total : (shelf.ordered selection).length = (shelf.matching selection.counted).length := by
    rw [counted, ordered, List.length_mergeSort]
  rcases shelf.select_cases selection with ⟨_, done⟩ | ⟨fault, refused, failed⟩
  · constructor
    · intro page found
      cases done.symm.trans found
      exact ⟨rfl, congrArg Nat.cast total.symm⟩
    · intro error found
      cases done.symm.trans found
  · constructor
    · intro page found
      cases failed.symm.trans found
    · intro error found
      cases failed.symm.trans found
      rw [fault?_of_counted counted, Option.or_eq_some_iff] at refused
      rcases refused with search | ⟨_, lookup⟩
      · rcases cases_of_searchFault? search with ⟨deep, rfl⟩ | ⟨overlong, rfl⟩
        · exact .inl ⟨deep, rfl⟩
        · exact .inr (.inl ⟨overlong, rfl⟩)
      · obtain ⟨asked, many, statement, position, rfl⟩ := cases_of_lookupFault? lookup
        exact .inr (.inr ⟨asked, many, statement, position, rfl⟩)

/-- A selection with a limit that look-ups can keep is refused for its conditions only. -/
theorem fault?_of_limited {shelf : Shelf} {selection : Selection} {limit : Nat}
    (counted : selection.counted = selection.conditions) (limited : selection.limit = some limit)
    (few : limit ≤ maxLookedUp) :
    shelf.fault? selection = shelf.searchFault? selection.conditions := by
  have length : (shelf.rows selection).length ≤ limit := by
    rw [rows, limited, excerpt]
    exact List.length_take_le _ _
  rw [fault?_of_counted counted, lookupFault?_of_le (length.trans few), Option.or_none]

theorem refusal_of_limited {shelf : Shelf} {selection : Selection} {limit : Nat}
    (counted : selection.counted = selection.conditions) (limited : selection.limit = some limit)
    (few : limit ≤ maxLookedUp) {error : ShelfError}
    (failed : shelf.select selection = .error error) :
    Condition.areTooDeep selection.conditions ∧ error = .database .conditionsTooDeep ∨
      Condition.HasOverlong (selection.conditions.flatMap Condition.patterns) ∧
        error = .database .patternTooComplex := by
  rcases (gives_ordered shelf counted).refusal error failed with deep | overlong | ⟨_, many, _⟩
  · exact .inl deep
  · exact .inr overlong
  · rw [limited, excerpt] at many
    exact absurd ((List.length_take_le _ _).trans few) (Nat.not_le.mpr many)

theorem Gives.length_eq {shelf : Shelf} {selection : Selection} {rows : List Volume}
    (gives : shelf.Gives selection rows) {count : Nat}
    (total : (shelf.select selection).map (·.total) = .ok (count : Int)) : rows.length = count := by
  cases done : shelf.select selection with
  | ok page =>
    rw [done] at total
    have same : page.total = count := Except.ok.inj total
    exact Int.ofNat.inj ((gives.page page done).2.symm.trans same)
  | error error =>
    rw [done] at total
    cases total

/-- Where the pattern of the only condition besides visibility is too long, a search is refused if
there are archives. -/
theorem select_of_overlong {shelf : Shelf} {selection : Selection} {condition : Condition}
    (conditions : selection.counted = [condition, .visible])
    (shallow : Condition.areTooDeep [condition, .visible] = false)
    (tested : Condition.tested [condition, .visible] = [condition, .visible])
    (fails : ∀ volume, condition.fails shelf volume) (some : shelf.volumes ≠ []) :
    shelf.select selection = .error (.database .patternTooComplex) := by
  obtain ⟨volume, more, same⟩ := List.exists_cons_of_ne_nil some
  have someFails : shelf.volumes.any
      (Condition.someFails shelf · (Condition.tested [condition, .visible])) = true := by
    simp [same, tested, Condition.someFails, fails]
  apply select_of_fault
  rw [fault?, conditions, searchFault?, shallow, if_neg Bool.false_ne_true, if_pos someFails]
  rfl

end Shelf

end ComicCatalogue
