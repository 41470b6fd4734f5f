import ComicCatalogue.Proofs.Query.Canonical
import ComicCatalogue.Proofs.Query.Record
import ComicCatalogue.Proofs.Slug.Idempotence
import ComicCatalogue.Query.Call

/-!
# Normal forms of queries

Whatever calls a draft is made by, it settles into a query in normal form: its values are slugs, its
lists are in order, and its numbers are within their bounds. A query in normal form is settled into
once more by the calls that ask for what it asks for, so the normal forms are the queries that
drafts settle into.
-/

namespace ComicCatalogue

/-! ### Names -/

theorem SortField.ofName_name (field : SortField) : ofName field.name = field := by
  cases field <;> decide +kernel

theorem SortOrder.ofName_name (order : SortOrder) : ofName order.name = order := by
  cases order <;> decide +kernel

theorem Taxonomy.ofRelation?_plural (taxonomy : Taxonomy) :
    ofRelation? taxonomy.plural = some taxonomy := by
  cases taxonomy <;> decide +kernel

theorem Slot.mem_all (slot : Slot) : slot ∈ all := by
  obtain ⟨mode, wildcard⟩ := slot
  cases mode <;> cases wildcard <;> decide

/-! ### Records as directives -/

namespace Search

theorem readCount?_toString_of_lt {n : Nat} (fits : n < UInt32.size) :
    readCount? (toString n) = some n := by
  cases n with
  | zero => decide
  | succ n => exact readCount?_toString (Nat.succ_pos n) fits

/-- What a record says as a directive, unless it is passed over. -/
def Record.directive? (record : Record) : Option Directive :=
  match record.field with
  | .taxonomy which => some (.taxonomy which record.slot record.values)
  | .title => some (.title record.wildcard record.values)
  | .pages =>
    match record.comparison, record.pageCount? with
    | some comparison, some count => some (.pages comparison count)
    | _, _ => none

/-- A directive whose count fits in 32 bits is what its record says. -/
theorem directive?_record {directive : Directive}
    (fits : ∀ comparison count, directive = .pages comparison count → count < UInt32.size) :
    directive.record.directive? = some directive := by
  cases directive with
  | taxonomy which slot values =>
    obtain ⟨mode, wildcard⟩ := slot
    cases mode <;> rfl
  | title wildcard values => rfl
  | pages comparison count =>
    have read : readCount? (toString count) = some count :=
      readCount?_toString_of_lt (fits comparison count rfl)
    simp only [Record.directive?, Directive.record, Record.pageCount?, List.head?_cons,
      Option.bind_some, read]

/-- The count of a record on pages fits in 32 bits. -/
theorem lt_of_directive? {record : Record} {comparison : Comparison} {count : Nat}
    (said : record.directive? = some (.pages comparison count)) : count < UInt32.size := by
  unfold Record.directive? at said
  split at said
  · cases said
  · cases said
  · rename_i field
    split at said
    · rename_i other counted
      cases said
      simp only [Record.pageCount?, field] at counted
      obtain ⟨value, _, read⟩ := Option.bind_eq_some_iff.mp counted
      exact lt_of_readCount? read
    · cases said

end Search

namespace Draft

/-- Adding a record is adding the directive that it says. -/
theorem addRecord_eq (draft : Draft) (record : Search.Record) :
    draft.addRecord record = (record.directive?.map draft.addDirective).getD draft := by
  cases field : record.field with
  | taxonomy which =>
    simp only [addRecord, Search.Record.directive?, field, TaxonomyFilter.addRecord_eq]
    rfl
  | title =>
    simp only [addRecord, Search.Record.directive?, field]
    cases record.wildcard <;> rfl
  | pages =>
    simp only [addRecord, Search.Record.directive?, field]
    cases record.comparison <;> cases record.pageCount? <;> rfl

namespace Call

/-- The edit that a call makes, unless it is passed over. -/
def edit? : Call → Option Edit
  | .record said => said.directive?.map .directive
  | .entry taxonomy text => some (.entry taxonomy text)
  | .path text => some (.path text)
  | .sort name => some (.sort name)
  | .order name => some (.order name)
  | .limit count => some (.limit count.toInt)
  | .offset count => some (.offset count.toInt)
  | .unbounded flag => some (.unbounded flag)
  | .preload relation => some (.preload relation)

theorem call_eq (draft : Draft) (call : Call) :
    draft.call call = (call.edit?.map draft.edit).getD draft := by
  cases call with
  | record record =>
    rw [Draft.call, addRecord_eq, edit?, Option.map_map]
    rfl
  | _ => rfl

end Call

/-- The edits that calls make in turn. -/
def editsOf (calls : List Call) : List Edit :=
  calls.filterMap Call.edit?

/-- Calls make the draft of their edits. -/
theorem ofCalls_eq (calls : List Call) : ofCalls calls = ofEdits (editsOf calls) := by
  rw [ofCalls, ofEdits, editsOf, List.foldl_filterMap]
  congr 1
  funext draft call
  rw [Call.call_eq]
  cases call.edit? <;> rfl

/-- The query that calls settle into with the memo that some texts have left behind. -/
def settledBy (seen : List String) (calls : List Call) : Query :=
  ((ofCalls calls).settle.run (Slug.Memo.ofTexts seen)).1

theorem canonical_settledBy (seen : List String) (calls : List Call) :
    Canonical (editsOf calls) (settledBy seen calls) := by
  have same : settledBy seen calls = settledAfter seen (editsOf calls) := by
    rw [settledBy, ofCalls_eq, settledAfter]
  rw [same]
  exact canonical_settledAfter _ seen

end Draft

/-! ### Normal forms -/

/-- A text that is its own slug, and not empty. -/
structure IsSlug (text : String) : Prop where
  same : Slug.ofText text = text
  nonempty : text ≠ ""

/-- The slug that the title has to equal or contain. -/
def TitleFilter.slug : TitleFilter → String
  | equals slug => slug
  | contains slug => slug

/-- Whether a query is in normal form. -/
structure Query.IsNormal (query : Query) : Prop where
  slots : ∀ taxonomy slot, ∀ slug ∈ (query.filters.get taxonomy).get slot, IsSlug slug
  slotsAscending : ∀ taxonomy slot, ((query.filters.get taxonomy).get slot).Pairwise (· < ·)
  title : ∀ title ∈ query.title, IsSlug title.slug
  /-- The path is not empty, trimmed and in lower case. -/
  path : ∀ path ∈ query.path, path ≠ "" ∧ Text.trim path = path ∧ Text.lowercase path = path
  /-- The count of pages is one of 32 bits. -/
  pages : ∀ bound ∈ query.pages, bound.count < UInt32.size
  limit : query.limit ≤ 100
  /-- The offset is one of 63 bits. -/
  offset : query.offset < 2 ^ 63
  unbounded : query.unbounded → query.limit = 0 ∧ query.offset = 0
  preloadsAscending : query.preloads.Pairwise (· < ·)

theorem Text.trim_lowercase_trim (text : String) :
    Text.trim (Text.lowercase (Text.trim text)) = Text.lowercase (Text.trim text) := by
  simp only [Text.trim, Text.lowercase, String.toList_ofList]
  rw [Unicode.trim_lowercase (Unicode.trim_trim text.toList)]

namespace Draft

variable {calls : List Call} {query : Query}

theorem isSlug_of_mem_canonicalSlug? {text : Option String} {slug : String}
    (found : canonicalSlug? text = some slug) : IsSlug slug := by
  obtain ⟨same, some⟩ := Option.filter_eq_some_iff.mp found
  obtain ⟨text, -, rfl⟩ := Option.map_eq_some_iff.mp same
  exact ⟨Slug.ofText_ofText text, by simpa using some⟩

theorem canonicalSlug?_of_isSlug {slug : String} (isSlug : IsSlug slug) :
    canonicalSlug? (some slug) = some slug := by
  simp [canonicalSlug?, isSlug.same, isSlug.nonempty]

/-- What the last of some edits says was said by one of the calls. -/
theorem exists_of_last?_editsOf {α : Type} {part : Edit → Option α} {a : α}
    (last : last? part (editsOf calls) = some a) :
    ∃ call ∈ calls, ∃ edit, call.edit? = some edit ∧ part edit = some a := by
  obtain ⟨edit, member, said⟩ := List.mem_filterMap.mp (List.mem_of_getLast? last)
  obtain ⟨call, isCall, made⟩ := List.mem_filterMap.mp member
  exact ⟨call, isCall, edit, made, said⟩

theorem count_lt_of_last? {comparison : Comparison} {bound : PageBound}
    (last : last? (Edit.boundBy? comparison) (editsOf calls) = some bound) :
    bound.count < UInt32.size := by
  obtain ⟨call, -, edit, made, said⟩ := exists_of_last?_editsOf last
  have bounds := (Option.filter_eq_some_iff.mp said).1
  cases edit with
  | directive directive =>
    cases directive with
    | pages other count =>
      cases bounds
      cases call with
      | record record =>
        obtain ⟨directive, isSaid, same⟩ := Option.map_eq_some_iff.mp made
        cases same
        exact Search.lt_of_directive? isSaid
      | _ => cases made
    | _ => cases bounds
  | _ => cases bounds

theorem offset_lt_of_last? {offset : Int}
    (last : last? Edit.offset? (editsOf calls) = some offset) : offset < 2 ^ 63 := by
  obtain ⟨call, -, edit, made, said⟩ := exists_of_last?_editsOf last
  cases edit with
  | offset given =>
    cases said
    cases call with
    | offset number =>
      cases made
      exact number.toInt_lt
    | record record =>
      obtain ⟨directive, -, same⟩ := Option.map_eq_some_iff.mp made
      cases same
    | _ => cases made
  | _ => cases said

/-- The query that calls stand for is in normal form. -/
theorem isNormal_of_canonical (canonical : Canonical (editsOf calls) query) : query.IsNormal where
  slots taxonomy slot slug member := by
    obtain ⟨nonempty, edit, -, value, -, rfl⟩ := (canonical.slots taxonomy slot slug).mp member
    exact ⟨Slug.ofText_ofText value, nonempty⟩
  slotsAscending := canonical.slotsAscending
  title title isTitle := by
    have found := canonical.title
    rw [Option.mem_def.mp isTitle, eq_comm, Option.or_eq_some_iff] at found
    rcases found with whole | ⟨-, part⟩
    · obtain ⟨slug, found, rfl⟩ := Option.map_eq_some_iff.mp whole
      exact isSlug_of_mem_canonicalSlug? found
    · obtain ⟨slug, found, rfl⟩ := Option.map_eq_some_iff.mp part
      exact isSlug_of_mem_canonicalSlug? found
  path path isPath := by
    rw [canonical.path, Option.mem_def, Option.filter_eq_some_iff] at isPath
    obtain ⟨said, some⟩ := isPath
    obtain ⟨text, -, rfl⟩ := Option.map_eq_some_iff.mp said
    exact ⟨by simpa using some, Text.trim_lowercase_trim text, Text.lowercase_lowercase _⟩
  pages bound isBound := count_lt_of_last? ((canonical.pages bound).mp isBound).1
  limit := by
    rw [canonical.limit]
    split
    · exact Nat.zero_le 100
    · omega
  offset := by
    rw [canonical.offset]
    split
    · decide
    · cases last : last? Edit.offset? (editsOf calls) with
      | none => decide
      | some offset =>
        have below := offset_lt_of_last? last
        rw [Option.getD_some]
        omega
  unbounded := by
    intro all
    rw [canonical.limit, canonical.offset, if_pos all, if_pos all]
    exact ⟨rfl, rfl⟩
  preloadsAscending := canonical.preloadsAscending

end Draft

/-! ### The contents of a query in normal form -/

namespace Query

variable {query : Query} {taxonomy : Taxonomy} {slot : Slot}

/-- The edits that ask for what a query asks for. -/
def edits (query : Query) : List Draft.Edit :=
  query.directives.map .directive ++ query.path.toList.map .path ++
    [.sort query.sort.name, .order query.order.name, .limit query.limit, .offset query.offset,
      .unbounded query.unbounded] ++
    query.preloads.map fun taxonomy => .preload taxonomy.plural

/-- Whether a query asks for what an edit asks for. -/
def Asks (query : Query) : Draft.Edit → Prop
  | .directive directive => directive ∈ query.directives
  | .entry .. => False
  | .path text => query.path = some text
  | .sort name => query.sort.name = name
  | .order name => query.order.name = name
  | .limit count => query.limit = count
  | .offset count => query.offset = count
  | .unbounded flag => query.unbounded = flag
  | .preload relation => ∃ taxonomy ∈ query.preloads, taxonomy.plural = relation

theorem mem_edits_iff {edit : Draft.Edit} : edit ∈ query.edits ↔ query.Asks edit := by
  cases edit <;> simp [edits, Asks, eq_comm]

/-- A query is told by its slots that are not empty, its title, and its bound on pages. -/
theorem mem_directives_iff {directive : Directive} :
    directive ∈ query.directives ↔
      (∃ taxonomy slot, (query.filters.get taxonomy).get slot ≠ [] ∧
        .taxonomy taxonomy slot ((query.filters.get taxonomy).get slot) = directive) ∨
      (∃ title, query.title = some title ∧ title.directive = directive) ∨
      ∃ bound, query.pages = some bound ∧ bound.directive = directive := by
  simp only [directives, TaxonomyFilter.directives, List.mem_append, List.mem_flatMap,
    List.mem_map, List.mem_filter, Option.mem_toList, Taxonomy.mem_all, Slot.mem_all, true_and,
    Bool.not_eq_true', List.isEmpty_eq_false_iff, or_assoc]

theorem taxonomy_mem_directives {values : List String} :
    .taxonomy taxonomy slot values ∈ query.directives ↔
      values = (query.filters.get taxonomy).get slot ∧ values ≠ [] := by
  rw [mem_directives_iff]
  constructor
  · rintro (⟨_, _, some, same⟩ | ⟨title, -, same⟩ | ⟨bound, -, same⟩)
    · cases same
      exact ⟨rfl, some⟩
    · cases title <;> cases same
    · cases same
  · rintro ⟨rfl, some⟩
    exact .inl ⟨taxonomy, slot, some, rfl⟩

theorem title_mem_directives {wildcard : Bool} {values : List String} :
    .title wildcard values ∈ query.directives ↔
      ∃ title, query.title = some title ∧ title.directive = .title wildcard values := by
  rw [mem_directives_iff]
  constructor
  · rintro (⟨_, _, -, same⟩ | said | ⟨bound, -, same⟩)
    · cases same
    · exact said
    · cases same
  · exact fun said => .inr (.inl said)

theorem pages_mem_directives {comparison : Comparison} {count : Nat} :
    .pages comparison count ∈ query.directives ↔ query.pages = some ⟨comparison, count⟩ := by
  rw [mem_directives_iff]
  constructor
  · rintro (⟨_, _, -, same⟩ | ⟨title, -, same⟩ | ⟨bound, isBound, same⟩)
    · cases same
    · cases title <;> cases same
    · cases same
      exact isBound
  · exact fun isBound => .inr (.inr ⟨_, isBound, rfl⟩)

/-- A value is asked for in a kind of constraint if the query has it there. -/
theorem mem_values_edits {value : String} :
    (∃ edit ∈ query.edits, value ∈ edit.values taxonomy slot) ↔
      value ∈ (query.filters.get taxonomy).get slot := by
  constructor
  · rintro ⟨edit, member, asked⟩
    rw [mem_edits_iff] at member
    cases edit with
    | directive directive =>
      cases directive with
      | taxonomy other otherSlot values =>
        by_cases here : other = taxonomy ∧ otherSlot = slot
        · rw [Draft.Edit.values, if_pos here] at asked
          obtain ⟨rfl, rfl⟩ := here
          rwa [(taxonomy_mem_directives.mp member).1] at asked
        · rw [Draft.Edit.values, if_neg here] at asked
          cases asked
      | _ => cases asked
    | entry other text => exact member.elim
    | _ => cases asked
  · intro member
    refine ⟨.directive (.taxonomy taxonomy slot ((query.filters.get taxonomy).get slot)), ?_, ?_⟩
    · exact mem_edits_iff.mpr (taxonomy_mem_directives.mpr ⟨rfl, List.ne_nil_of_mem member⟩)
    · rwa [Draft.Edit.values, if_pos ⟨rfl, rfl⟩]

/-- The relations asked for are those that the query gives. -/
theorem preload_edits_iff :
    (∃ edit ∈ query.edits, ∃ name, edit.preload? = some name ∧
        Text.equalIgnoringCase taxonomy.plural (Text.trim name)) ↔ taxonomy ∈ query.preloads := by
  constructor
  · rintro ⟨edit, member, name, asked, known⟩
    rw [mem_edits_iff] at member
    cases edit with
    | preload relation =>
      cases asked
      obtain ⟨other, inside, rfl⟩ := member
      rw [← Taxonomy.ofRelation?_eq_some_iff, Taxonomy.ofRelation?_plural] at known
      cases known
      exact inside
    | _ => cases asked
  · intro inside
    refine ⟨.preload taxonomy.plural, mem_edits_iff.mpr ⟨taxonomy, inside, rfl⟩, _, rfl, ?_⟩
    rw [← Taxonomy.ofRelation?_eq_some_iff, Taxonomy.ofRelation?_plural]

/-- What counts in a respect that at most one edit says something about. -/
theorem last?_edits {α : Type} {part : Draft.Edit → Option α} {answer : Option α}
    (only : ∀ a, (∃ edit, query.Asks edit ∧ part edit = some a) ↔ answer = some a) :
    Draft.last? part query.edits = answer := by
  refine Option.ext fun a => ?_
  constructor
  · intro last
    obtain ⟨edit, member, said⟩ := List.mem_filterMap.mp (List.mem_of_getLast? last)
    exact (only a).mp ⟨edit, mem_edits_iff.mp member, said⟩
  · intro found
    obtain ⟨edit, asked, said⟩ := (only a).mpr found
    cases last : Draft.last? part query.edits with
    | none =>
      have nothing := List.filterMap_eq_nil_iff.mp (List.getLast?_eq_none_iff.mp last)
      rw [nothing edit (mem_edits_iff.mpr asked)] at said
      cases said
    | some b =>
      obtain ⟨other, member, saidOther⟩ := List.mem_filterMap.mp (List.mem_of_getLast? last)
      rw [← found, (only b).mp ⟨other, mem_edits_iff.mp member, saidOther⟩]

theorem title_edits (query : Query) (wildcard : Bool) :
    Draft.last? (Draft.Edit.title? wildcard) query.edits =
      query.title.bind fun title => Draft.Edit.title? wildcard (.directive title.directive) := by
  refine last?_edits fun text => ?_
  rw [Option.bind_eq_some_iff]
  constructor
  · rintro ⟨edit, asked, said⟩
    cases edit with
    | directive directive =>
      cases directive with
      | title other values =>
        obtain ⟨title, isTitle, same⟩ := title_mem_directives.mp asked
        exact ⟨title, isTitle, by rwa [same]⟩
      | _ => cases said
    | _ => cases said
  · rintro ⟨title, isTitle, said⟩
    refine ⟨.directive title.directive, ?_, said⟩
    cases title <;> exact title_mem_directives.mpr ⟨_, isTitle, rfl⟩

theorem bound_edits (query : Query) (comparison : Comparison) :
    Draft.last? (Draft.Edit.boundBy? comparison) query.edits =
      query.pages.filter (·.comparison = comparison) := by
  refine last?_edits fun bound => ?_
  rw [Option.filter_eq_some_iff]
  constructor
  · rintro ⟨edit, asked, said⟩
    obtain ⟨bounds, compares⟩ := Option.filter_eq_some_iff.mp said
    cases edit with
    | directive directive =>
      cases directive with
      | pages other count =>
        cases bounds
        exact ⟨pages_mem_directives.mp asked, compares⟩
      | _ => cases bounds
    | _ => cases bounds
  · rintro ⟨isBound, compares⟩
    refine ⟨.directive bound.directive, pages_mem_directives.mpr isBound, ?_⟩
    exact Option.filter_eq_some_iff.mpr ⟨rfl, compares⟩

/-- What counts in a respect that one kind of edit says everything about. -/
theorem last?_edits_of_kind {α : Type} {part : Draft.Edit → Option α} (kind : α → Draft.Edit)
    {answer : Option α} (only : ∀ edit a, part edit = some a ↔ edit = kind a)
    (asks : ∀ a, query.Asks (kind a) ↔ answer = some a) :
    Draft.last? part query.edits = answer := by
  refine last?_edits fun a => ?_
  simp only [only, exists_eq_right, asks]

theorem path_edits (query : Query) : Draft.last? Draft.Edit.path? query.edits = query.path :=
  last?_edits_of_kind .path (fun edit text => by cases edit <;> simp [Draft.Edit.path?])
    fun text => Iff.rfl

theorem sort_edits (query : Query) :
    Draft.last? Draft.Edit.sort? query.edits = some query.sort.name :=
  last?_edits_of_kind .sort (fun edit name => by cases edit <;> simp [Draft.Edit.sort?])
    fun name => by simp [Asks]

theorem order_edits (query : Query) :
    Draft.last? Draft.Edit.order? query.edits = some query.order.name :=
  last?_edits_of_kind .order (fun edit name => by cases edit <;> simp [Draft.Edit.order?])
    fun name => by simp [Asks]

theorem limit_edits (query : Query) :
    Draft.last? Draft.Edit.limit? query.edits = some (query.limit : Int) :=
  last?_edits_of_kind .limit (fun edit count => by cases edit <;> simp [Draft.Edit.limit?])
    fun count => by simp [Asks]

theorem offset_edits (query : Query) :
    Draft.last? Draft.Edit.offset? query.edits = some (query.offset : Int) :=
  last?_edits_of_kind .offset (fun edit count => by cases edit <;> simp [Draft.Edit.offset?])
    fun count => by simp [Asks]

theorem unbounded_edits (query : Query) :
    Draft.last? Draft.Edit.unbounded? query.edits = some query.unbounded :=
  last?_edits_of_kind .unbounded (fun edit flag => by cases edit <;> simp [Draft.Edit.unbounded?])
    fun flag => by simp [Asks]

/-- The calls of a query in normal form make its edits: nothing is passed over or cut off. -/
theorem editsOf_contents (normal : query.IsNormal) :
    Draft.editsOf query.contents = query.edits := by
  have said : (query.directives.map fun directive => Draft.Call.record directive.record).filterMap
      Draft.Call.edit? = query.directives.map .directive := by
    rw [List.filterMap_map, ← List.filterMap_eq_map]
    refine List.filterMap_congr fun directive member => ?_
    have same : directive.record.directive? = some directive := by
      refine Search.directive?_record ?_
      rintro comparison count rfl
      exact normal.pages _ (pages_mem_directives.mp member)
    simp only [Function.comp_apply, Draft.Call.edit?, same, Option.map_some]
  have limit : (Int64.ofNat query.limit).toInt = query.limit :=
    Int64.toInt_ofNat_of_lt (by have := normal.limit; omega)
  have offset : (Int64.ofNat query.offset).toInt = query.offset :=
    Int64.toInt_ofNat_of_lt normal.offset
  rw [Draft.editsOf, contents, List.filterMap_append, List.filterMap_append, List.filterMap_append,
    said]
  simp [edits, Draft.Call.edit?, Function.comp_def, limit, offset]

/-- A query in normal form is the one that its own edits stand for. -/
theorem IsNormal.canonical (normal : query.IsNormal) : Draft.Canonical query.edits query where
  slots taxonomy slot slug := by
    constructor
    · intro member
      have isSlug := normal.slots taxonomy slot slug member
      obtain ⟨edit, inside, asked⟩ := mem_values_edits.mpr member
      exact ⟨isSlug.nonempty, edit, inside, slug, asked, isSlug.same⟩
    · rintro ⟨-, edit, inside, value, asked, rfl⟩
      have member := mem_values_edits.mp ⟨edit, inside, asked⟩
      rwa [(normal.slots taxonomy slot value member).same]
  slotsAscending := normal.slotsAscending
  title := by
    rw [title_edits, title_edits]
    cases isTitle : query.title with
    | none => rfl
    | some title =>
      have found := Draft.canonicalSlug?_of_isSlug (normal.title title isTitle)
      cases title with
      | equals slug =>
        rw [TitleFilter.slug] at found
        simp [TitleFilter.directive, Draft.Edit.title?, found]
      | contains slug =>
        rw [TitleFilter.slug] at found
        have nothing : Draft.canonicalSlug? none = none := rfl
        simp [TitleFilter.directive, Draft.Edit.title?, found, nothing]
  pages bound := by
    rw [bound_edits, Option.filter_eq_some_iff]
    constructor
    · intro isBound
      refine ⟨⟨isBound, by simp⟩, fun other below => ?_⟩
      rw [bound_edits, isBound, Option.filter_some, if_neg]
      rintro same
      rw [of_decide_eq_true same] at below
      exact Nat.lt_irrefl _ below
    · rintro ⟨⟨isBound, -⟩, -⟩
      exact isBound
  preloads taxonomy := preload_edits_iff.symm
  preloadsAscending := normal.preloadsAscending
  path := by
    rw [path_edits]
    cases isPath : query.path with
    | none => rfl
    | some path =>
      obtain ⟨some, trimmed, lowercased⟩ := normal.path path isPath
      rw [Option.map_some, trimmed, lowercased, Option.filter_some, if_pos (by simpa using some)]
  sort := by
    rw [sort_edits, Option.getD_some, SortField.ofName_name]
  order := by
    rw [order_edits, Option.getD_some, SortOrder.ofName_name]
  unbounded := by
    rw [unbounded_edits, Option.getD_some]
  limit := by
    have atMost := normal.limit
    rw [limit_edits, Option.getD_some]
    split
    · exact (normal.unbounded ‹_›).1
    · omega
  offset := by
    rw [offset_edits, Option.getD_some]
    split
    · exact (normal.unbounded ‹_›).2
    · omega

end Query

namespace Draft

theorem agree_refl (edits : List Edit) : Agree edits edits := by
  refine ⟨fun _ _ _ _ => Iff.rfl, ?_, ?_, fun _ => Iff.rfl, ?_, ?_, ?_, ?_, ?_, ?_⟩ <;>
    intros <;> rfl

/-- A query in normal form is settled into by the calls that ask for what it asks for. -/
theorem settledBy_contents {query : Query} (normal : query.IsNormal) (seen : List String) :
    settledBy seen query.contents = query := by
  refine eq_of_canonical (canonical_settledBy seen query.contents) ?_ (agree_refl _)
  rw [Query.editsOf_contents normal]
  exact normal.canonical

/-- Whatever calls are made, and whatever texts the memo has seen, they settle into a query in
normal form, and the calls that ask for what it asks for settle into the same query, with the same
text and the same key. -/
theorem settledBy_isNormal (calls : List Call) (seen : List String) :
    (settledBy seen calls).IsNormal ∧
      ∀ seenAgain : List String,
        settledBy seenAgain (settledBy seen calls).contents = settledBy seen calls ∧
          (settledBy seenAgain (settledBy seen calls).contents).canonicalText =
            (settledBy seen calls).canonicalText ∧
          (settledBy seenAgain (settledBy seen calls).contents).key =
            (settledBy seen calls).key := by
  have normal := isNormal_of_canonical (canonical_settledBy seen calls)
  refine ⟨normal, fun seenAgain => ?_⟩
  have same := settledBy_contents normal seenAgain
  exact ⟨same, congrArg Query.canonicalText same, congrArg Query.key same⟩

end Draft

end ComicCatalogue
