import ComicCatalogue.Proofs.Ascending
import ComicCatalogue.Proofs.Json.Compact
import ComicCatalogue.Proofs.Query.Settled
import ComicCatalogue.Proofs.Taxonomy

/-!
# A text belongs to one query

The object of a query shows every part of the query: parts that are left out are those that
constrain nothing. As a text belongs to one object, different queries have different texts.
-/

namespace ComicCatalogue

namespace Json

@[simp] theorem lookup_field? (wanted name : String) (value : Option Json) :
    (field? name value).lookup wanted = if wanted = name then value else none := by
  cases value with
  | none => simp [field?]
  | some value =>
    simp [field?, Ascending.lookup_cons_eq_ite]

@[simp] theorem lookup_listField {α : Type} (wanted name : String) (toJson : α → Json)
    (values : List α) :
    (listField name toJson values).lookup wanted =
      if wanted = name then if values = [] then none else some (arr (values.map toJson))
      else none := by
  cases values with
  | nil => simp [listField]
  | cons value values =>
    simp [listField, Ascending.lookup_cons_eq_ite]

/-- The list of a field that is left out when empty is known from the field. -/
theorem texts_inj {values others : List String}
    (same : (if values = [] then none else some (arr (values.map str))) =
      if others = [] then none else some (arr (others.map str))) : values = others := by
  have injective : Function.Injective str := fun _ _ => Json.str.inj
  by_cases empty : values = [] <;> by_cases emptyOther : others = []
  · rw [empty, emptyOther]
  · simp [empty, emptyOther] at same
  · simp [empty, emptyOther] at same
  · rw [if_neg empty, if_neg emptyOther, Option.some_inj, arr.injEq] at same
    exact List.map_injective_iff.mpr injective same

end Json

namespace TaxonomyFilter

theorem toJson_inj {a b : TaxonomyFilter} (same : a.toJson = b.toJson) : a = b := by
  have part : ∀ name, _ := fun name => congrArg (List.lookup name) (Json.obj.inj same)
  have anyOf := part "match"
  have allOf := part "matchAnd"
  have anyContaining := part "wildcard"
  have allContaining := part "wildcardAnd"
  have noneOf := part "excludedMatch"
  have noneContaining := part "excludedWildcard"
  simp [List.lookup_append] at anyOf allOf anyContaining allContaining noneOf noneContaining
  cases a
  cases b
  simp only [mk.injEq]
  exact ⟨Json.texts_inj anyOf, Json.texts_inj allOf, Json.texts_inj anyContaining,
    Json.texts_inj allContaining, Json.texts_inj noneOf, Json.texts_inj noneContaining⟩

theorem eq_of_isEmpty {a b : TaxonomyFilter} (empty : a.isEmpty) (emptyOther : b.isEmpty) :
    a = b := by
  cases a
  cases b
  simp_all [isEmpty]

end TaxonomyFilter

theorem TitleFilter.toJson_inj {a b : TitleFilter} (same : a.toJson = b.toJson) : a = b := by
  cases a <;> cases b <;> simp_all [toJson]

theorem Comparison.word_inj {a b : Comparison} (same : a.word = b.word) : a = b := by
  cases a <;> cases b <;> simp_all [word]

theorem PageBound.toJson_inj {a b : PageBound} (same : a.toJson = b.toJson) : a = b := by
  obtain ⟨comparison, count⟩ := a
  obtain ⟨other, countOther⟩ := b
  simp only [toJson, Json.obj.injEq, List.cons.injEq, Prod.mk.injEq, Json.str.injEq,
    Json.int.injEq, true_and, and_true] at same
  obtain ⟨sameWord, sameCount⟩ := same
  rw [Comparison.word_inj sameWord, Int.ofNat.inj sameCount]

theorem SortField.name_inj {a b : SortField} (same : a.name = b.name) : a = b := by
  cases a <;> cases b <;> simp_all [name]

theorem SortOrder.name_inj {a b : SortOrder} (same : a.name = b.name) : a = b := by
  cases a <;> cases b <;> simp_all [name]

theorem Taxonomy.name_injective : Function.Injective Taxonomy.name := by
  intro a b same
  cases a <;> cases b <;> simp_all [name]

theorem Taxonomy.plural_injective : Function.Injective Taxonomy.plural := by
  intro a b same
  cases a <;> cases b <;> simp_all [plural]

namespace Query

/-- The filter of a taxonomy stands under its plural, unless it constrains nothing. -/
theorem lookup_filterFields (filters : PerTaxonomy TaxonomyFilter) (taxonomy : Taxonomy) :
    (filterFields filters).lookup taxonomy.plural =
      if (filters.get taxonomy).isEmpty then none else some (filters.get taxonomy).toJson := by
  have field : ∀ (wanted other : Taxonomy), List.lookup wanted.plural
      (if (filters.get other).isEmpty then [] else [(other.plural, (filters.get other).toJson)]) =
        if wanted = other then
          if (filters.get other).isEmpty then none else some (filters.get other).toJson
        else none := by
    intro wanted other
    by_cases same : wanted = other
    · subst same
      split <;> simp_all
    · have different := beq_eq_false_iff_ne.mpr (Taxonomy.plural_injective.ne same)
      rw [if_neg same]
      split <;> simp [List.lookup_cons, different]
  simp only [filterFields, Taxonomy.all, List.flatMap_cons, List.flatMap_nil,
    List.lookup_append, field]
  cases taxonomy <;> simp

/-- The names of the fields of a query other than its filters. -/
def plainNames : List String :=
  ["path", "title", "pages", "sort", "order", "limit", "offset", "unbounded", "preloads"]

theorem plural_ne_of_mem_plainNames (taxonomy : Taxonomy) :
    ∀ name ∈ plainNames, taxonomy.plural ≠ name := by
  cases taxonomy <;> decide

theorem lookup_filterFields_of_mem_plainNames {filters : PerTaxonomy TaxonomyFilter} {name : String}
    (plain : name ∈ plainNames) : (filterFields filters).lookup name = none := by
  rw [List.lookup_eq_none_iff]
  intro field member
  obtain ⟨taxonomy, _, inFields⟩ := List.mem_flatMap.mp member
  have named : field.1 = taxonomy.plural := by
    simp only at inFields
    split at inFields
    · cases inFields
    · rw [List.mem_singleton.mp inFields]
  rw [named, bne_iff_ne]
  exact (plural_ne_of_mem_plainNames taxonomy name plain).symm

/-- Objects of queries are equal only if the queries are. -/
theorem toJson_inj {a b : Query} (same : a.toJson = b.toJson) : a = b := by
  have part : ∀ name, _ := fun name => congrArg (List.lookup name) (Json.obj.inj same)
  have sameFilters : a.filters = b.filters := by
    refine PerTaxonomy.eq_of_get fun taxonomy => ?_
    have apart := plural_ne_of_mem_plainNames taxonomy
    simp only [plainNames, List.mem_cons, List.not_mem_nil, or_false, forall_eq_or_imp,
      forall_eq] at apart
    have filter := part taxonomy.plural
    simp [List.lookup_append, lookup_filterFields, Ascending.lookup_cons_eq_ite, apart] at filter
    by_cases empty : (a.filters.get taxonomy).isEmpty <;>
      by_cases emptyOther : (b.filters.get taxonomy).isEmpty
    · exact TaxonomyFilter.eq_of_isEmpty empty emptyOther
    · simp [empty, emptyOther] at filter
    · simp [empty, emptyOther] at filter
    · rw [if_neg empty, if_neg emptyOther, Option.some_inj] at filter
      exact TaxonomyFilter.toJson_inj filter
  have alone : ∀ name ∈ plainNames, ∀ filters, (filterFields filters).lookup name = none :=
    fun name plain filters => lookup_filterFields_of_mem_plainNames plain
  simp only [plainNames, List.mem_cons, List.not_mem_nil, or_false, forall_eq_or_imp,
    forall_eq] at alone
  have path := part "path"
  have title := part "title"
  have pages := part "pages"
  have sort := part "sort"
  have order := part "order"
  have limit := part "limit"
  have offset := part "offset"
  have unbounded := part "unbounded"
  have preloads := part "preloads"
  simp [List.lookup_append, Ascending.lookup_cons_eq_ite, alone] at path title pages sort order
  simp [List.lookup_append, Ascending.lookup_cons_eq_ite, alone] at limit offset unbounded preloads
  have samePath := Option.map_injective (fun _ _ => Json.str.inj) path
  have sameTitle := Option.map_injective (fun _ _ => TitleFilter.toJson_inj) title
  have samePages := Option.map_injective (fun _ _ => PageBound.toJson_inj) pages
  have samePreloads := List.map_injective_iff.mpr
    (fun _ _ equal => Taxonomy.name_injective (Json.str.inj equal)) preloads
  have sameLimit : a.limit = b.limit := by omega
  have sameOffset : a.offset = b.offset := by omega
  cases a
  cases b
  simp only [mk.injEq]
  exact ⟨samePath, sameTitle, sameFilters, samePages, SortField.name_inj sort,
    SortOrder.name_inj order, sameLimit, sameOffset, unbounded, samePreloads⟩

end Query

namespace Json

theorem haveWhole_append {first second : List (String × Json)} :
    HaveWhole (first ++ second) ↔ HaveWhole first ∧ HaveWhole second := by
  simp only [haveWhole_iff, List.forall_mem_append]

theorem areWhole_map_str {α : Type} (text : α → String) (values : List α) :
    AreWhole (values.map fun value => str (text value)) := by
  rw [areWhole_iff, List.forall_mem_map]
  exact fun _ _ => trivial

theorem haveWhole_field? (name : String) {value : Option Json}
    (whole : ∀ json, value = some json → json.IsWhole) : HaveWhole (field? name value) := by
  cases value with
  | none => trivial
  | some json => exact ⟨whole json rfl, trivial⟩

theorem haveWhole_listField_str (name : String) (values : List String) :
    HaveWhole (listField name str values) := by
  rw [listField]
  split
  · trivial
  · exact ⟨areWhole_map_str id values, trivial⟩

end Json

theorem TaxonomyFilter.isWhole_toJson (filter : TaxonomyFilter) : filter.toJson.IsWhole := by
  simp only [toJson, Json.IsWhole, Json.haveWhole_append, Json.haveWhole_listField_str, and_self]

theorem TitleFilter.isWhole_toJson (title : TitleFilter) : title.toJson.IsWhole := by
  cases title <;> exact ⟨trivial, trivial⟩

theorem PageBound.isWhole_toJson (bound : PageBound) : bound.toJson.IsWhole :=
  ⟨trivial, trivial, trivial⟩

namespace Query

theorem haveWhole_filterFields (filters : PerTaxonomy TaxonomyFilter) :
    Json.HaveWhole (filterFields filters) := by
  rw [Json.haveWhole_iff]
  intro field member
  obtain ⟨taxonomy, _, inFields⟩ := List.mem_flatMap.mp member
  simp only at inFields
  split at inFields
  · cases inFields
  · rw [List.mem_singleton.mp inFields]
    exact (filters.get taxonomy).isWhole_toJson

theorem isWhole_toJson (query : Query) : query.toJson.IsWhole := by
  simp only [toJson, Json.IsWhole, Json.haveWhole_append]
  refine ⟨⟨⟨⟨?_, ?_⟩, haveWhole_filterFields _⟩, ?_⟩, ?_⟩
  · refine Json.haveWhole_field? _ fun json found => ?_
    obtain ⟨path, _, rfl⟩ := Option.map_eq_some_iff.mp found
    trivial
  · refine Json.haveWhole_field? _ fun json found => ?_
    obtain ⟨title, _, rfl⟩ := Option.map_eq_some_iff.mp found
    exact title.isWhole_toJson
  · refine Json.haveWhole_field? _ fun json found => ?_
    obtain ⟨bound, _, rfl⟩ := Option.map_eq_some_iff.mp found
    exact bound.isWhole_toJson
  · exact ⟨trivial, trivial, trivial, trivial, trivial, Json.areWhole_map_str _ _, trivial⟩

/-- Queries that have the same text are the same. -/
theorem canonicalText_inj {a b : Query} (same : a.canonicalText = b.canonicalText) : a = b :=
  toJson_inj (Json.compact_inj a.isWhole_toJson b.isWhole_toJson same)

end Query

end ComicCatalogue
