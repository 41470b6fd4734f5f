import ComicCatalogue.Proofs.Query.Edits
import ComicCatalogue.Proofs.Taxonomy

/-!
# What settling makes of any list of edits

`Canonical` says part by part which query a list of edits stands for, without reference to drafts:
which values count, which of several titles, bounds, paths and so on wins, and in which order lists
are written. Settling the edits gives that query with any memo, and edits that agree in what counts
give the same query, so they have the same text and the same key.
-/

namespace ComicCatalogue

/-- The place of a comparison in the order in which bounds on pages count. -/
def Comparison.priority : Comparison → Nat
  | equal => 0
  | greater => 1
  | atLeast => 2
  | less => 3
  | atMost => 4

theorem Comparison.mem_all (comparison : Comparison) : comparison ∈ Comparison.all := by
  cases comparison <;> decide

theorem Comparison.pairwise_all :
    Comparison.all.Pairwise fun first second => first.priority < second.priority := by
  decide

/-- What the first comparison with an answer says, in the order of all comparisons, is what the one
of highest priority says. -/
theorem Comparison.findSome?_all_eq_some_iff {α : Type} {answer? : Comparison → Option α} {a : α} :
    Comparison.all.findSome? answer? = some a ↔
      ∃ comparison : Comparison, answer? comparison = some a ∧
        ∀ other : Comparison, other.priority < comparison.priority → answer? other = none := by
  rw [List.findSome?_eq_some_iff]
  constructor
  · rintro ⟨before, comparison, after, split, found, free⟩
    refine ⟨comparison, found, fun other below => ?_⟩
    have ordered := Comparison.pairwise_all
    rw [split, List.pairwise_append] at ordered
    have member := Comparison.mem_all other
    rw [split, List.mem_append, List.mem_cons] at member
    rcases member with earlier | rfl | later
    · exact free other earlier
    · exact absurd below (Nat.lt_irrefl _)
    · have above := (List.pairwise_cons.mp ordered.2.1).1 other later
      exact absurd below (Nat.lt_asymm above)
  · rintro ⟨comparison, found, free⟩
    obtain ⟨before, after, split⟩ := List.append_of_mem (Comparison.mem_all comparison)
    refine ⟨before, comparison, after, split, found, fun other earlier => free other ?_⟩
    have ordered := Comparison.pairwise_all
    rw [split, List.pairwise_append] at ordered
    exact ordered.2.2 other earlier comparison List.mem_cons_self

namespace Draft

/-- The query that a list of edits stands for. -/
structure Canonical (edits : List Edit) (query : Query) : Prop where
  /-- A kind of constraint on a taxonomy has the slugs of all values that were asked for in it,
  without the empty slug. -/
  slots : ∀ taxonomy slot slug, slug ∈ (query.filters.get taxonomy).get slot ↔
    slug ≠ "" ∧ ∃ edit ∈ edits, ∃ value ∈ edit.values taxonomy slot, Slug.ofText value = slug
  /-- The slugs are in strictly ascending order, so each is there once. -/
  slotsAscending : ∀ taxonomy slot, ((query.filters.get taxonomy).get slot).Pairwise (· < ·)
  /-- The last title asked for as a whole goes before the last part of a title, unless its slug is
  empty. -/
  title : query.title =
    ((canonicalSlug? (last? (Edit.title? false) edits)).map TitleFilter.equals).or
      ((canonicalSlug? (last? (Edit.title? true) edits)).map TitleFilter.contains)
  /-- The bound on pages is the last one by its comparison, and there is none by a comparison of
  higher priority. -/
  pages : ∀ bound, query.pages = some bound ↔
    last? (Edit.boundBy? bound.comparison) edits = some bound ∧
      ∀ other : Comparison, other.priority < bound.comparison.priority →
        last? (Edit.boundBy? other) edits = none
  /-- The relations are those of the known names. -/
  preloads : ∀ taxonomy, taxonomy ∈ query.preloads ↔
    ∃ edit ∈ edits, ∃ name, edit.preload? = some name ∧
      Text.equalIgnoringCase taxonomy.plural (Text.trim name)
  preloadsAscending : query.preloads.Pairwise (· < ·)
  /-- The path is the last one, trimmed and in lower case, unless it is blank. -/
  path : query.path =
    ((last? Edit.path? edits).map fun path => Text.lowercase (Text.trim path)).filter (!·.isEmpty)
  sort : query.sort = SortField.ofName ((last? Edit.sort? edits).getD "")
  order : query.order = SortOrder.ofName ((last? Edit.order? edits).getD "")
  unbounded : query.unbounded = (last? Edit.unbounded? edits).getD false
  /-- The limit is the last one, between zero and a hundred. -/
  limit : query.limit =
    if query.unbounded then 0 else (max 0 (min ((last? Edit.limit? edits).getD 25) 100)).toNat
  /-- The offset is the last one, not below zero. -/
  offset : query.offset =
    if query.unbounded then 0 else (max 0 ((last? Edit.offset? edits).getD 0)).toNat

/-- Edits agree if they ask for the same slugs in each kind of constraint, and if in every other
respect the same thing counts. -/
structure Agree (edits others : List Edit) : Prop where
  slots : ∀ taxonomy slot slug, slug ≠ "" →
    ((∃ edit ∈ edits, ∃ value ∈ edit.values taxonomy slot, Slug.ofText value = slug) ↔
      ∃ edit ∈ others, ∃ value ∈ edit.values taxonomy slot, Slug.ofText value = slug)
  titles : ∀ wildcard,
    (last? (Edit.title? wildcard) edits).map Slug.ofText =
      (last? (Edit.title? wildcard) others).map Slug.ofText
  bounds : ∀ comparison,
    last? (Edit.boundBy? comparison) edits = last? (Edit.boundBy? comparison) others
  preloads : ∀ taxonomy : Taxonomy,
    (∃ edit ∈ edits, ∃ name, edit.preload? = some name ∧
        Text.equalIgnoringCase taxonomy.plural (Text.trim name)) ↔
      ∃ edit ∈ others, ∃ name, edit.preload? = some name ∧
        Text.equalIgnoringCase taxonomy.plural (Text.trim name)
  path : last? Edit.path? edits = last? Edit.path? others
  sort : last? Edit.sort? edits = last? Edit.sort? others
  order : last? Edit.order? edits = last? Edit.order? others
  limit : last? Edit.limit? edits = last? Edit.limit? others
  offset : last? Edit.offset? edits = last? Edit.offset? others
  unbounded : last? Edit.unbounded? edits = last? Edit.unbounded? others

variable {edits others : List Edit} {query other : Query}

theorem filters_eq_of_canonical (canonical : Canonical edits query)
    (canonicalOther : Canonical others other) (agree : Agree edits others) :
    query.filters = other.filters := by
  refine PerTaxonomy.eq_of_get fun taxonomy => TaxonomyFilter.eq_of_get fun slot => ?_
  refine (canonical.slotsAscending taxonomy slot).eq_of_mem_iff
    (canonicalOther.slotsAscending taxonomy slot) fun slug => ?_
  rw [canonical.slots, canonicalOther.slots]
  exact and_congr_right fun nonempty => agree.slots taxonomy slot slug nonempty

/-- Edits that agree stand for the same query. -/
theorem eq_of_canonical (canonical : Canonical edits query)
    (canonicalOther : Canonical others other) (agree : Agree edits others) : query = other := by
  have sameFilters := filters_eq_of_canonical canonical canonicalOther agree
  have sameTitle : query.title = other.title := by
    rw [canonical.title, canonicalOther.title]
    simp only [canonicalSlug?, agree.titles]
  have samePages : query.pages = other.pages := by
    refine Option.ext fun bound => ?_
    rw [canonical.pages, canonicalOther.pages]
    simp only [agree.bounds]
  have samePreloads : query.preloads = other.preloads :=
    canonical.preloadsAscending.eq_of_mem_iff canonicalOther.preloadsAscending fun taxonomy => by
      rw [canonical.preloads, canonicalOther.preloads, agree.preloads]
  have samePath : query.path = other.path := by rw [canonical.path, canonicalOther.path, agree.path]
  have sameSort : query.sort = other.sort := by rw [canonical.sort, canonicalOther.sort, agree.sort]
  have sameOrder : query.order = other.order := by
    rw [canonical.order, canonicalOther.order, agree.order]
  have sameUnbounded : query.unbounded = other.unbounded := by
    rw [canonical.unbounded, canonicalOther.unbounded, agree.unbounded]
  have sameLimit : query.limit = other.limit := by
    rw [canonical.limit, canonicalOther.limit, agree.limit, sameUnbounded]
  have sameOffset : query.offset = other.offset := by
    rw [canonical.offset, canonicalOther.offset, agree.offset, sameUnbounded]
  cases query
  cases other
  simp_all only

theorem find?_reverse_bounds (edits : List Edit) (comparison : Comparison) :
    (edits.filterMap Edit.bound?).reverse.find? (·.comparison = comparison) =
      last? (Edit.boundBy? comparison) edits := by
  rw [← List.head?_filter, List.filter_reverse, List.head?_reverse, List.filter_filterMap]
  rfl

theorem comparison_of_last?_boundBy? {comparison : Comparison} {bound : PageBound}
    (last : last? (Edit.boundBy? comparison) edits = some bound) :
    bound.comparison = comparison := by
  obtain ⟨edit, _, found⟩ := List.mem_filterMap.mp (List.mem_of_getLast? last)
  simpa using (Option.filter_eq_some_iff.mp found).2

theorem settlePages_eq_some_iff {bound : PageBound} :
    settlePages (ofEdits edits).pages = some bound ↔
      last? (Edit.boundBy? bound.comparison) edits = some bound ∧
        ∀ other : Comparison, other.priority < bound.comparison.priority →
          last? (Edit.boundBy? other) edits = none := by
  simp only [settlePages, pages_ofEdits, find?_reverse_bounds]
  rw [Comparison.findSome?_all_eq_some_iff]
  constructor
  · rintro ⟨comparison, last, free⟩
    obtain rfl := comparison_of_last?_boundBy? last
    exact ⟨last, free⟩
  · rintro ⟨last, free⟩
    exact ⟨bound.comparison, last, free⟩

theorem mem_settlePreloads_iff {names : List String} {taxonomy : Taxonomy} :
    taxonomy ∈ settlePreloads names ↔
      ∃ name ∈ names, Text.equalIgnoringCase taxonomy.plural (Text.trim name) := by
  simp only [settlePreloads, Ascending.mem_ofList, List.mem_filterMap,
    Taxonomy.ofRelation?_eq_some_iff]

theorem canonicalTitle_eq_or (draft : Draft) :
    draft.canonicalTitle =
      ((canonicalSlug? draft.titleEquals).map TitleFilter.equals).or
        ((canonicalSlug? draft.titleContains).map TitleFilter.contains) := by
  unfold canonicalTitle
  cases canonicalSlug? draft.titleEquals <;> rfl

/-- The query that a draft of edits settles into without a memo is the one they stand for. -/
theorem canonical_settled (edits : List Edit) : Canonical edits (ofEdits edits).settled where
  slots taxonomy slot slug := by
    rw [settled_filters, PerTaxonomy.get_ofFn, get_canonicalFilter, mem_canonicalValues,
      filters_ofEdits]
    refine and_congr_right fun _ => ⟨?_, ?_⟩
    · rintro ⟨value, member, same⟩
      obtain ⟨edit, member, asked⟩ := List.mem_flatMap.mp member
      exact ⟨edit, member, value, asked, same⟩
    · rintro ⟨edit, member, value, asked, same⟩
      exact ⟨value, List.mem_flatMap.mpr ⟨edit, member, asked⟩, same⟩
  slotsAscending taxonomy slot := by
    rw [settled_filters, PerTaxonomy.get_ofFn, get_canonicalFilter]
    exact Ascending.pairwise_ofList _
  title := by
    rw [settled_title, canonicalTitle_eq_or, titleEquals_ofEdits, titleContains_ofEdits]
  pages bound := by
    rw [settled_pages, settlePages_eq_some_iff]
  preloads taxonomy := by
    rw [settled_preloads, mem_settlePreloads_iff, preloads_ofEdits]
    constructor
    · rintro ⟨name, member, known⟩
      obtain ⟨edit, member, asked⟩ := List.mem_filterMap.mp member
      exact ⟨edit, member, name, asked, known⟩
    · rintro ⟨edit, member, name, asked, known⟩
      exact ⟨name, List.mem_filterMap.mpr ⟨edit, member, asked⟩, known⟩
  preloadsAscending := by
    rw [settled_preloads]
    exact Ascending.pairwise_ofList _
  path := by
    rw [settled_path, settlePath, path_ofEdits]
  sort := by
    rw [settled_sort, sort_ofEdits]
  order := by
    rw [settled_order, order_ofEdits]
  unbounded := by
    rw [settled_unbounded, unbounded_ofEdits]
  limit := by
    rw [settled_limit, settled_unbounded, limit_ofEdits, maxLimit]
    split
    · rfl
    · omega
  offset := by
    rw [settled_offset, settled_unbounded, offset_ofEdits]
    split
    · rfl
    · omega

/-- The query that edits settle into with the memo that some texts have left behind. -/
def settledAfter (seen : List String) (edits : List Edit) : Query :=
  ((ofEdits edits).settle.run (Slug.Memo.ofTexts seen)).1

theorem settledAfter_eq_settled (seen : List String) (edits : List Edit) :
    settledAfter seen edits = (ofEdits edits).settled :=
  (yields_settle _ _ (Slug.Memo.sound_ofTexts seen)).1

theorem canonical_settledAfter (edits : List Edit) (seen : List String) :
    Canonical edits (settledAfter seen edits) := by
  rw [settledAfter_eq_settled]
  exact canonical_settled edits

end Draft

end ComicCatalogue
