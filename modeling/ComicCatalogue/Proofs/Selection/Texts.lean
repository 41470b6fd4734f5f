import ComicCatalogue.Proofs.Clause.Condition
import ComicCatalogue.Proofs.Query.Canonical
import ComicCatalogue.Selection.Basic

/-!
# The texts of conditions

The database reads the conditions of a query as texts. These depend on the shape of the query alone,
and its strings and numbers stay outside of them, each behind a question mark of its own.
-/

namespace ComicCatalogue

/-- The shape of a query: which constraints there are, and how many values each of them has. -/
structure Query.Shape where
  hasPath : Bool
  /-- Whether the title is tested for a part, if it is tested. -/
  title : Option Bool
  /-- How the number of pages is compared, if it is. -/
  pages : Option Comparison
  /-- The number of values in each slot. -/
  values : Taxonomy → Slot → Nat

/-- Whether a constraint on the title asks for a part. -/
def TitleFilter.isPart : TitleFilter → Bool
  | equals _ => false
  | contains _ => true

/-- The shape of a query. -/
def Query.shape (query : Query) : Query.Shape where
  hasPath := query.path.isSome
  title := query.title.map TitleFilter.isPart
  pages := query.pages.map PageBound.comparison
  values taxonomy slot := ((query.filters.get taxonomy).get slot).length

/-- The values of a filter, kind by kind in the order of their conditions. -/
def TaxonomyFilter.values (filter : TaxonomyFilter) : List String :=
  filter.anyOf ++ filter.allOf ++ filter.anyContaining ++ filter.allContaining ++ filter.noneOf ++
    filter.noneContaining

/-- The text that a title is tested for. -/
def TitleFilter.value : TitleFilter → String
  | equals slug => slug
  | contains part => part

/-- The strings and numbers of a query in the order of its conditions. -/
def Query.values (query : Query) : List Argument :=
  (query.path.map fun part => .text (Condition.pathPattern part)).toList ++
    (query.title.map fun title => .text title.value).toList ++
    Taxonomy.all.flatMap (fun taxonomy => (query.filters.get taxonomy).values.map .text) ++
    (query.pages.map fun bound => .integer bound.count).toList

/-- The test without its value. -/
def SlugTest.blank : SlugTest → SlugTest
  | equals _ => equals ""
  | contains _ => contains ""

namespace Condition

open Fragment (IsMatched IsOperand IsPlain)

/-- The condition without its values. -/
def blank : Condition → Condition
  | path _ => path ""
  | title test => title test.blank
  | linked taxonomy test => linked taxonomy test.blank
  | linkedAny taxonomy tests => linkedAny taxonomy (tests.map SlugTest.blank)
  | unlinked taxonomy test => unlinked taxonomy test.blank
  | pages bound => pages { bound with count := 0 }
  | visible => visible

theorem existsEntry_blank (taxonomy : Taxonomy) (test : SlugTest) :
    existsEntry taxonomy test.blank = existsEntry taxonomy test := by
  cases test <;> rfl

/-- The text of one of several fragments depends on their texts. -/
theorem condition_anyOf_congr {fragments others : List Fragment}
    (same : fragments.map (·.condition) = others.map (·.condition)) :
    (Fragment.anyOf fragments).condition = (Fragment.anyOf others).condition := by
  match fragments, others with
  | [], [] => rfl
  | [], _ :: _ => cases same
  | _ :: _, [] => cases same
  | [first], [other] => exact (List.cons.inj same).1
  | [_], _ :: _ :: _ => simp at same
  | _ :: _ :: _, [_] => simp at same
  | first :: second :: rest, other :: next :: more =>
    rw [Fragment.anyOf_cons_cons, Fragment.anyOf_cons_cons]
    simp only [Fragment.joined, same]

/-- The text of a condition is that of the condition without its values. -/
theorem condition_fragment_blank (condition : Condition) :
    condition.blank.fragment.condition = condition.fragment.condition := by
  cases condition with
  | path part => rfl
  | title test => cases test <;> rfl
  | linked taxonomy test => exact existsEntry_blank taxonomy test
  | linkedAny taxonomy tests =>
    refine condition_anyOf_congr ?_
    simp [linkedFragment, existsEntry_blank]
  | unlinked taxonomy test => exact congrArg ("NOT " ++ ·) (existsEntry_blank taxonomy test)
  | pages bound => rfl
  | visible => rfl

theorem map_map_of_const {α β : Type} {f : α → β} {make : String → α} {b : β}
    (const : ∀ value, f (make value) = b) (values : List String) :
    (values.map make).map f = List.replicate values.length b := by
  rw [List.map_map, ← List.map_const']
  exact List.map_congr_left fun value _ => const value

theorem map_blank_congr {make : String → Condition} {values others : List String}
    (const : ∀ value, (make value).blank = make "") (length : values.length = others.length) :
    (values.map make).map blank = (others.map make).map blank := by
  rw [map_map_of_const const, map_map_of_const const, length]

theorem map_blank_oneOf_congr (taxonomy : Taxonomy) {make : String → SlugTest}
    {values others : List String} (const : ∀ value, (make value).blank = make "")
    (length : values.length = others.length) :
    (if (values.map make).isEmpty then [] else [linkedAny taxonomy (values.map make)]).map blank =
      (if (others.map make).isEmpty then []
        else [linkedAny taxonomy (others.map make)]).map blank := by
  have tests : (values.map make).map SlugTest.blank = (others.map make).map SlugTest.blank := by
    rw [map_map_of_const const, map_map_of_const const, length]
  cases values <;> cases others
  · rfl
  · cases length
  · cases length
  · exact congrArg (fun tests => [linkedAny taxonomy tests]) tests

/-- The conditions of a filter without their values depend on the numbers of its values. -/
theorem map_blank_ofFilter (taxonomy : Taxonomy) {filter other : TaxonomyFilter}
    (same : ∀ slot, (filter.get slot).length = (other.get slot).length) :
    (ofFilter taxonomy filter).map blank = (ofFilter taxonomy other).map blank := by
  have anyOf : filter.anyOf.length = other.anyOf.length := same ⟨.anyOf, false⟩
  have allOf : filter.allOf.length = other.allOf.length := same ⟨.allOf, false⟩
  have anyPart : filter.anyContaining.length = other.anyContaining.length := same ⟨.anyOf, true⟩
  have allParts : filter.allContaining.length = other.allContaining.length := same ⟨.allOf, true⟩
  have noneOf : filter.noneOf.length = other.noneOf.length := same ⟨.noneOf, false⟩
  have noParts : filter.noneContaining.length = other.noneContaining.length := same ⟨.noneOf, true⟩
  have equals (value : String) : (SlugTest.equals value).blank = .equals "" := rfl
  have contains (value : String) : (SlugTest.contains value).blank = .contains "" := rfl
  simp only [ofFilter, List.map_append]
  rw [map_blank_oneOf_congr taxonomy equals anyOf, map_blank_oneOf_congr taxonomy contains anyPart,
    map_blank_congr (fun _ => rfl) allOf, map_blank_congr (fun _ => rfl) allParts,
    map_blank_congr (fun _ => rfl) noneOf, map_blank_congr (fun _ => rfl) noParts]

/-- The conditions of a query without their values depend on its shape. -/
theorem map_blank_ofQuery {query other : Query} (same : query.shape = other.shape) :
    (ofQuery query).map blank = (ofQuery other).map blank := by
  simp only [Query.shape, Query.Shape.mk.injEq] at same
  obtain ⟨hasPath, title, pages, values⟩ := same
  have onPath : (query.path.map path).toList.map blank =
      (other.path.map path).toList.map blank := by
    cases first : query.path <;> cases second : other.path <;> simp_all [blank]
  have onTitle : (query.title.map ofTitle).toList.map blank =
      (other.title.map ofTitle).toList.map blank := by
    cases first : query.title <;> cases second : other.title <;> simp_all
    rename_i one two
    cases one <;> cases two <;> simp_all [ofTitle, blank, SlugTest.blank, TitleFilter.isPart]
  have onPages : (query.pages.map .pages).toList.map blank =
      (other.pages.map .pages).toList.map blank := by
    cases first : query.pages <;> cases second : other.pages <;> simp_all [blank]
  have onFilters (taxonomy : Taxonomy) :
      (ofFilter taxonomy (query.filters.get taxonomy)).map blank =
        (ofFilter taxonomy (other.filters.get taxonomy)).map blank :=
    map_blank_ofFilter taxonomy fun slot => congrFun (congrFun values taxonomy) slot
  simp only [ofQuery, List.map_append, List.map_flatMap, onPath, onTitle, onPages, onFilters]

theorem isPlain_name (taxonomy : Taxonomy) :
    IsPlain taxonomy.name.toList ∧ IsPlain taxonomy.plural.toList := by
  cases taxonomy <;> decide

/-- A look-up has its value behind everything else in its parentheses. -/
theorem exists_toList_existsEntry (taxonomy : Taxonomy) (test : SlugTest) :
    ∃ front, IsPlain front ∧ (existsEntry taxonomy test).toList =
      "EXISTS ".toList ++ ('(' :: (front ++ test.comparison.toList ++ [')'])) := by
  obtain ⟨name, plural⟩ := isPlain_name taxonomy
  have links : IsPlain taxonomy.linkTable.toList := by
    rw [Taxonomy.linkTable, String.toList_append]
    exact IsPlain.append (by decide) plural
  have column : IsPlain taxonomy.linkColumn.toList := by
    rw [Taxonomy.linkColumn, String.toList_append]
    exact name.append (by decide)
  have tables : IsPlain ("SELECT 1 FROM ".toList ++ taxonomy.linkTable.toList ++ " JOIN ".toList ++
      taxonomy.name.toList) :=
    ((IsPlain.append (by decide) links).append (by decide)).append name
  have link : IsPlain (" ON ".toList ++ taxonomy.name.toList ++ ".id = ".toList ++
      taxonomy.linkTable.toList ++ ".".toList ++ taxonomy.linkColumn.toList) :=
    ((((IsPlain.append (by decide) name).append (by decide)).append links).append
      (by decide)).append column
  have archive : IsPlain (" WHERE ".toList ++ taxonomy.linkTable.toList ++
      ".archive_id = archive.id AND ".toList ++ taxonomy.name.toList ++ ".slug ".toList) :=
    (((IsPlain.append (by decide) links).append (by decide)).append name).append (by decide)
  refine ⟨_, (tables.append link).append archive, ?_⟩
  unfold existsEntry
  simp [String.toList_append]

theorem comparison_facts (test : SlugTest) :
    test.comparison.toList.count '?' = 1 ∧ Fragment.nesting 0 test.comparison.toList = some 0 := by
  cases test with
  | equals slug =>
    change "= ?".toList.count '?' = 1 ∧ Fragment.nesting 0 "= ?".toList = some 0
    decide
  | contains part =>
    change "LIKE '%' || ? || '%'".toList.count '?' = 1 ∧
      Fragment.nesting 0 "LIKE '%' || ? || '%'".toList = some 0
    decide

theorem count_existsEntry (taxonomy : Taxonomy) (test : SlugTest) :
    (existsEntry taxonomy test).toList.count '?' = 1 := by
  obtain ⟨front, isPlain, same⟩ := exists_toList_existsEntry taxonomy test
  have behind : (front ++ test.comparison.toList).count '?' = 1 := by
    rw [List.count_append, isPlain.count, (comparison_facts test).1]
  rw [same, List.count_append, List.count_cons_of_ne (by decide), List.count_append, behind]
  decide

theorem isOperand_existsEntry (taxonomy : Taxonomy) (test : SlugTest) :
    IsOperand (existsEntry taxonomy test).toList ∧
      IsOperand ("NOT " ++ existsEntry taxonomy test).toList := by
  obtain ⟨front, isPlain, same⟩ := exists_toList_existsEntry taxonomy test
  have balanced : Fragment.nesting 0 (front ++ test.comparison.toList) = some 0 := by
    rw [Fragment.nesting_append, isPlain.nesting]
    exact (comparison_facts test).2
  have negated : ("NOT " ++ existsEntry taxonomy test).toList =
      "NOT EXISTS ".toList ++ ('(' :: (front ++ test.comparison.toList ++ [')'])) := by
    rw [String.toList_append, same, ← List.append_assoc]
    rfl
  rw [negated, same]
  exact ⟨Fragment.isOperand_enclosed (by decide) (by decide) (by decide) balanced,
    Fragment.isOperand_enclosed (by decide) (by decide) (by decide) balanced⟩

/-- Every condition has a question mark for each of its values. -/
theorem isMatched_fragment (condition : Condition) : condition.fragment.IsMatched := by
  have linked (taxonomy : Taxonomy) (test : SlugTest) :
      (linkedFragment taxonomy test).IsMatched := count_existsEntry taxonomy test
  cases condition with
  | path part =>
    change "archive.path_folded LIKE '%' || ? || '%' ESCAPE '\\'".toList.count '?' = 1
    decide
  | title test =>
    change ("archive.slug " ++ test.comparison).toList.count '?' = 1
    rw [String.toList_append, List.count_append, (comparison_facts test).1]
    decide
  | linked taxonomy test => exact linked taxonomy test
  | linkedAny taxonomy tests =>
    refine (IsMatched.anyOf ?_).1
    exact List.forall_mem_map.mpr fun test _ => linked taxonomy test
  | unlinked taxonomy test =>
    change ("NOT " ++ existsEntry taxonomy test).toList.count '?' = 1
    rw [String.toList_append, List.count_append, count_existsEntry]
    decide
  | pages bound =>
    change ("archive.pages " ++ bound.comparison.symbol ++ " ?").toList.count '?' = 1
    cases bound.comparison <;> decide
  | visible => decide

/-- In the text of every condition the parentheses balance, and every `OR` stands inside of some. -/
theorem isOperand_fragment (condition : Condition) :
    IsOperand condition.fragment.condition.toList := by
  have ofText {text : List Char} (balanced : Fragment.nesting 0 text = some 0)
      (orless : ¬" OR ".toList <:+: text) (first : text.head? ≠ some 'O')
      (last : text.getLast? ≠ some 'R') : IsOperand text :=
    ⟨Fragment.isGrouped_of_orless balanced orless, first, last⟩
  cases condition with
  | path part =>
    change IsOperand "archive.path_folded LIKE '%' || ? || '%' ESCAPE '\\'".toList
    exact ofText (by decide) (by decide) (by decide) (by decide)
  | title test =>
    cases test with
    | equals slug =>
      change IsOperand ("archive.slug " ++ "= ?").toList
      exact ofText (by decide) (by decide) (by decide) (by decide)
    | contains part =>
      change IsOperand ("archive.slug " ++ "LIKE '%' || ? || '%'").toList
      exact ofText (by decide) (by decide) (by decide) (by decide)
  | linked taxonomy test => exact (isOperand_existsEntry taxonomy test).1
  | linkedAny taxonomy tests =>
    refine Fragment.isOperand_anyOf ?_
    exact List.forall_mem_map.mpr fun test _ => (isOperand_existsEntry taxonomy test).1
  | unlinked taxonomy test => exact (isOperand_existsEntry taxonomy test).2
  | pages bound =>
    change IsOperand ("archive.pages " ++ bound.comparison.symbol ++ " ?").toList
    cases bound.comparison <;> exact ofText (by decide) (by decide) (by decide) (by decide)
  | visible => exact ofText (by decide) (by decide) (by decide) (by decide)

theorem ofFilter_eq_nil_iff (taxonomy : Taxonomy) (filter : TaxonomyFilter) :
    ofFilter taxonomy filter = [] ↔ filter.isEmpty := by
  have oneOf (tests : List SlugTest) :
      (if tests.isEmpty then [] else [linkedAny taxonomy tests]) = [] ↔ tests = [] := by
    cases tests <;> simp
  simp only [ofFilter, List.append_eq_nil_iff, oneOf]
  simp [TaxonomyFilter.isEmpty, and_assoc]

theorem arguments_anyOf (fragments : List Fragment) :
    (Fragment.anyOf fragments).arguments = fragments.flatMap (·.arguments) := by
  match fragments with
  | [] => rfl
  | [only] => exact (List.append_nil _).symm
  | first :: second :: rest => rfl

/-- The values of the conditions of a filter are those of the filter. -/
theorem flatMap_arguments_ofFilter (taxonomy : Taxonomy) (filter : TaxonomyFilter) :
    ((ofFilter taxonomy filter).map fragment).flatMap (·.arguments) = filter.values.map .text := by
  have each (make : String → Condition)
      (one : ∀ value, (make value).fragment.arguments = [.text value]) (values : List String) :
      ((values.map make).map fragment).flatMap (·.arguments) = values.map .text := by
    rw [List.map_map, List.flatMap_map, List.map_eq_flatMap]
    exact List.flatMap_congr fun value _ => one value
  have oneOf (make : String → SlugTest) (one : ∀ value, (make value).value = value)
      (values : List String) :
      ((if (values.map make).isEmpty then [] else [linkedAny taxonomy (values.map make)]).map
        fragment).flatMap (·.arguments) = values.map .text := by
    cases values with
    | nil => rfl
    | cons value values =>
      have tests : ((value :: values).map make).flatMap (fun test => [Argument.text test.value]) =
          (value :: values).map .text := by
        rw [List.flatMap_map, List.map_eq_flatMap]
        exact List.flatMap_congr fun value _ => by rw [one value]
      rw [if_neg (by simp), List.map_singleton, List.flatMap_singleton, fragment, arguments_anyOf,
        List.flatMap_map]
      exact tests
  simp only [ofFilter, List.map_append, List.flatMap_append, TaxonomyFilter.values]
  rw [oneOf _ (fun _ => rfl), oneOf _ (fun _ => rfl), each _ (fun _ => rfl), each _ (fun _ => rfl),
    each _ (fun _ => rfl), each _ (fun _ => rfl)]

/-- The values of the conditions of a query are those of the query. -/
theorem flatMap_arguments_ofQuery (query : Query) :
    ((ofQuery query).map fragment).flatMap (·.arguments) = query.values := by
  have onPath : ((query.path.map path).toList.map fragment).flatMap (·.arguments) =
      (query.path.map fun part => Argument.text (pathPattern part)).toList := by
    cases query.path <;> rfl
  have onTitle : ((query.title.map ofTitle).toList.map fragment).flatMap (·.arguments) =
      (query.title.map fun title => Argument.text title.value).toList := by
    rcases query.title with _ | title
    · rfl
    · cases title <;> rfl
  have onPages : ((query.pages.map pages).toList.map fragment).flatMap (·.arguments) =
      (query.pages.map fun bound => Argument.integer bound.count).toList := by
    cases query.pages <;> rfl
  have onFilters : ((Taxonomy.all.flatMap fun taxonomy =>
        ofFilter taxonomy (query.filters.get taxonomy)).map fragment).flatMap (·.arguments) =
      Taxonomy.all.flatMap fun taxonomy => (query.filters.get taxonomy).values.map .text := by
    rw [List.map_flatMap, List.flatMap_assoc]
    exact List.flatMap_congr fun taxonomy _ => flatMap_arguments_ofFilter taxonomy _
  simp only [ofQuery, List.map_append, List.flatMap_append, onPath, onTitle, onFilters, onPages]
  exact List.append_nil _

/-- Visible archives are asked for last, and there is more to ask for exactly if the query has
filters. -/
theorem exists_ofQuery_eq_append (query : Query) :
    ∃ others, ofQuery query = others ++ [visible] ∧ (others ≠ [] ↔ query.hasFilters) := by
  refine ⟨_, rfl, ?_⟩
  have none : (query.path.map path).toList ++ (query.title.map ofTitle).toList ++
      Taxonomy.all.flatMap (fun taxonomy => ofFilter taxonomy (query.filters.get taxonomy)) ++
      (query.pages.map pages).toList = [] ↔ query.hasFilters = false := by
    simp only [List.append_eq_nil_iff, List.flatMap_eq_nil_iff, ofFilter_eq_nil_iff,
      Option.toList_eq_nil_iff, Option.map_eq_none_iff, Query.hasFilters, Bool.or_eq_false_iff,
      List.any_eq_false, Option.isSome_eq_false_iff, Option.isNone_iff_eq_none, Bool.not_eq_true',
      Bool.not_eq_false]
    constructor
    · rintro ⟨⟨⟨noPath, noTitle⟩, noFilters⟩, noPages⟩
      exact ⟨⟨⟨noPath, noTitle⟩, noPages⟩, noFilters⟩
    · rintro ⟨⟨⟨noPath, noTitle⟩, noPages⟩, noFilters⟩
      exact ⟨⟨⟨noPath, noTitle⟩, noFilters⟩, noPages⟩
  rw [Ne, none, Bool.not_eq_false]

end Condition

namespace Fragment

/-- However fragments are joined, there is a question mark for each value, and each value is in the
place that it has in its own fragment. -/
structure JoinInPlace (fragments : List Fragment) : Prop where
  allOf : (allOf fragments).IsMatched
  filledAllOf : (Fragment.allOf fragments).filled =
    (" AND ".toList.map .inl).intercalate (fragments.map filled)
  anyOf : (anyOf fragments).IsMatched
  filledAnyOf : (Fragment.anyOf fragments).filled =
    match fragments.map filled with
    | [only] => only
    | texts => enclosed ((" OR ".toList.map .inl).intercalate texts)

end Fragment

/-- The values of a query stay outside of the texts of its conditions. -/
structure Query.IsParameterized (query : Query) : Prop where
  /-- Queries of the same shape have the same texts. -/
  texts : ∀ other : Query, other.shape = query.shape →
    (Selection.ofQuery other).fragments.map (·.condition) =
      (Selection.ofQuery query).fragments.map (·.condition)
  /-- There is a question mark for each value. -/
  matched : ∀ fragment ∈ (Selection.ofQuery query).fragments, fragment.IsMatched
  /-- The values are the strings and numbers of the query. -/
  values : (Selection.ofQuery query).fragments.flatMap (·.arguments) = query.values
  /-- In each text the parentheses balance, and every `OR` stands inside of some. -/
  grouped : ∀ fragment ∈ (Selection.ofQuery query).fragments,
    Fragment.IsGrouped fragment.condition.toList
  /-- So they do in the text of all together. -/
  groupedAll : Fragment.IsGrouped
    (Fragment.allOf (Selection.ofQuery query).fragments).condition.toList
  /-- Each text is a clause by itself. -/
  read : ∀ fragment ∈ (Selection.ofQuery query).fragments, fragment.clause? ≠ none
  /-- The text of all together asks for what the texts ask for one by one. -/
  readAll : (Fragment.allOf (Selection.ofQuery query).fragments).clause?.map Clause.conjuncts =
    some ((Selection.ofQuery query).fragments.flatMap fun fragment =>
      fragment.clause?.toList.flatMap Clause.conjuncts)
  /-- Visible archives are asked for last, and there is more to ask for exactly if the query has
  filters. -/
  visibleLast : ∃ others,
    (Selection.ofQuery query).fragments =
        others ++ [⟨"archive.published_at IS NOT NULL AND archive.expunged = 0", []⟩] ∧
      (others ≠ [] ↔ query.hasFilters)
  /-- The archives and their number are told by the same texts and values. -/
  counted : (Selection.ofQuery query).countedFragments = (Selection.ofQuery query).fragments

/-- Whatever strings and numbers a query has, they do not become part of the texts of its
conditions, and fragments keep their values in place when they are joined. -/
theorem Query.isParameterized (query : Query) :
    query.IsParameterized ∧ ∀ fragments : List Fragment,
      (∀ fragment ∈ fragments, fragment.IsMatched) → Fragment.JoinInPlace fragments := by
  refine ⟨⟨fun other same => ?_, ?_, ?_, ?_, ?_, ?_, ?_, ?_, rfl⟩, fun fragments areMatched => ?_⟩
  · have text (conditions : List Condition) :
        (conditions.map Condition.fragment).map (·.condition) =
          (conditions.map Condition.blank).map fun condition => condition.fragment.condition := by
      simp [Condition.condition_fragment_blank]
    simp only [Selection.fragments, Selection.ofQuery, text, Condition.map_blank_ofQuery same]
  · exact List.forall_mem_map.mpr fun condition _ => condition.isMatched_fragment
  · exact Condition.flatMap_arguments_ofQuery query
  · exact List.forall_mem_map.mpr fun condition _ => condition.isOperand_fragment.toIsGrouped
  · refine (Fragment.isOperand_allOf ?_).toIsGrouped
    exact List.forall_mem_map.mpr fun condition _ => condition.isOperand_fragment
  · refine List.forall_mem_map.mpr fun condition asked => ?_
    have isRead := condition.map_conjuncts_fragment (Condition.isProper_of_mem_ofQuery asked)
    intro unread
    rw [unread] at isRead
    cases isRead
  · exact Condition.map_conjuncts_allOf (by simp [Selection.ofQuery, Condition.ofQuery])
      fun condition => Condition.isProper_of_mem_ofQuery
  · obtain ⟨others, same, some⟩ := Condition.exists_ofQuery_eq_append query
    refine ⟨others.map Condition.fragment, ?_, by simpa using some⟩
    rw [Selection.fragments, Selection.ofQuery, same, List.map_append]
    rfl
  · have plain : '?' ∉ " AND ".toList := by decide
    obtain ⟨allOf, filledAllOf⟩ := Fragment.IsMatched.joined plain areMatched
    obtain ⟨anyOf, filledAnyOf⟩ := Fragment.IsMatched.anyOf areMatched
    exact ⟨allOf, filledAllOf, anyOf, filledAnyOf⟩

/-- A query whose strings look like conditions has the same texts as one of plain words, and with
these strings in place all of its conditions make up one text. -/
theorem Query.isParameterized_quoted :
    let query := Draft.settledAfter [] [.path "a", .entry .tag "one", .entry .tag "two"]
    let other := Draft.settledAfter [] [
      .path "' OR 1 = 1) OR (", .entry .tag "?", .entry .tag "b? OR", .entry .tag "c"]
    other.shape = query.shape ∧
      (Selection.ofQuery other).fragments.map (·.condition) =
        (Selection.ofQuery query).fragments.map (·.condition) ∧
      Fragment.JoinInPlace (Selection.ofQuery other).fragments := by
  intro query other
  have same : other.shape = query.shape := by
    have filters :
        query.filters = { PerTaxonomy.const {} with tags := { anyOf := ["one", "two"] } } ∧
          other.filters = { PerTaxonomy.const {} with tags := { anyOf := ["b-or", "c"] } } := by
      decide +kernel
    have others : other.path.isSome = query.path.isSome ∧ other.title = query.title ∧
        other.pages = query.pages := by
      decide +kernel
    rw [Query.shape, Query.shape, filters.1, filters.2, others.1, others.2.1, others.2.2,
      Query.Shape.mk.injEq]
    refine ⟨rfl, rfl, rfl, funext fun taxonomy => funext fun ⟨mode, wildcard⟩ => ?_⟩
    cases taxonomy <;> cases mode <;> cases wildcard <;> rfl
  obtain ⟨parameterized, joins⟩ := query.isParameterized
  exact ⟨same, parameterized.texts other same, joins _ other.isParameterized.1.matched⟩

end ComicCatalogue
