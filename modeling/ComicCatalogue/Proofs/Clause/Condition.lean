import ComicCatalogue.Proofs.Clause.Reading
import ComicCatalogue.Selection.Condition

/-!
# Conditions as clauses

What the database reads the fragment of each condition as, and that the fragments of several
conditions, joined into one, are read as all of their clauses together.
-/

namespace ComicCatalogue

open Clause (ofOperand? ofTokens?)
open Token (split)

/-- A value between two wildcards. -/
def Term.containing (value : String) : Term :=
  .concat (.concat (.value (.text "%")) (.value (.text value))) (.value (.text "%"))

/-- The test of a slug in a table as a clause. -/
def SlugTest.clause (table : String) : SlugTest → Clause
  | equals slug => .compare .equal (.column table "slug") (.value (.text slug))
  | contains part => .like (.column table "slug") (.containing part) none

namespace Condition

/-- That an entry of a taxonomy passes a test, as a clause. -/
def lookupClause (taxonomy : Taxonomy) (test : SlugTest) : Clause :=
  let table := taxonomy.name
  let links := taxonomy.linkTable
  .exist links table
    (.compare .equal (.column table "id") (.column links taxonomy.linkColumn))
    (.and (.compare .equal (.column links "archive_id") (.column "archive" "id"))
      (test.clause table))

/-- The clauses all of which a condition asks for. -/
def clauses : Condition → List Clause
  | path part => [.like (.column "archive" "path_folded") (.containing (pathPattern part)) '\\']
  | title test => [test.clause "archive"]
  | linked taxonomy test => [lookupClause taxonomy test]
  | linkedAny taxonomy tests => (Clause.chain .or (tests.map (lookupClause taxonomy))).toList
  | unlinked taxonomy test => [.not (lookupClause taxonomy test)]
  | pages bound =>
    [.compare bound.comparison (.column "archive" "pages") (.value (.integer bound.count))]
  | visible =>
    [.present (.column "archive" "published_at"),
      .compare .equal (.column "archive" "expunged") (.value (.integer 0))]

/-- The condition asks for something: where one of several tests has to succeed, there are some. -/
def IsProper : Condition → Prop
  | linkedAny _ tests => tests ≠ []
  | _ => True

theorem clauses_ne_nil (condition : Condition) (proper : condition.IsProper) :
    condition.clauses ≠ [] := by
  cases condition with
  | linkedAny taxonomy tests =>
    obtain ⟨test, rest, rfl⟩ := List.exists_cons_of_ne_nil proper
    exact List.cons_ne_nil _ _
  | _ => exact List.cons_ne_nil _ _

theorem isProper_of_mem_ofFilter {taxonomy : Taxonomy} {filter : TaxonomyFilter}
    {condition : Condition} (member : condition ∈ ofFilter taxonomy filter) :
    condition.IsProper := by
  have oneOf {tests : List SlugTest}
      (asked : condition ∈ if tests.isEmpty then [] else [linkedAny taxonomy tests]) :
      condition.IsProper := by
    split at asked
    · cases asked
    · rename_i some
      rw [List.mem_singleton.mp asked]
      exact fun none => some (List.isEmpty_iff.mpr none)
  simp only [ofFilter, List.mem_append] at member
  rcases member with ((((anyOf | allOf) | anyContaining) | allContaining) | noneOf) | noneContaining
  · exact oneOf anyOf
  · obtain ⟨_, _, rfl⟩ := List.mem_map.mp allOf
    trivial
  · exact oneOf anyContaining
  · obtain ⟨_, _, rfl⟩ := List.mem_map.mp allContaining
    trivial
  · obtain ⟨_, _, rfl⟩ := List.mem_map.mp noneOf
    trivial
  · obtain ⟨_, _, rfl⟩ := List.mem_map.mp noneContaining
    trivial

theorem isProper_of_mem_ofQuery {query : Query} {condition : Condition}
    (member : condition ∈ ofQuery query) : condition.IsProper := by
  simp only [ofQuery, List.mem_append, List.mem_flatMap, Option.mem_toList,
    Option.map_eq_some_iff, List.mem_singleton] at member
  rcases member with (((path | title) | filters) | pages) | rfl
  · obtain ⟨_, _, rfl⟩ := path
    trivial
  · obtain ⟨title, _, rfl⟩ := title
    cases title <;> trivial
  · obtain ⟨taxonomy, _, asked⟩ := filters
    exact isProper_of_mem_ofFilter asked
  · obtain ⟨_, _, rfl⟩ := pages
    trivial
  · trivial

end Condition

/-! ### Tokens -/

/-- The tokens of a comparison with a value, if the place of the value is taken by the token. -/
def SlugTest.comparisonTokens (place : Token) : SlugTest → List Token
  | equals _ => [.comparison .equal, place]
  | contains _ =>
    [.keyword .like, .value (.text "%"), .concat, place, .concat, .value (.text "%")]

/-- The tokens of a look-up in front of the comparison. -/
def Taxonomy.lookupTokens (taxonomy : Taxonomy) : List Token :=
  let table := taxonomy.name
  let links := taxonomy.linkTable
  [.keyword .exist, .opening, .keyword .select, .value (.integer 1), .keyword .source, .name links,
    .keyword .join, .name table, .keyword .link, .name table, .dot, .name "id", .comparison .equal,
    .name links, .dot, .name taxonomy.linkColumn, .keyword .filter, .name links, .dot,
    .name "archive_id", .comparison .equal, .name "archive", .dot, .name "id", .keyword .and,
    .name table, .dot, .name "slug"]

namespace Condition

/-- The tokens of a look-up. -/
def lookupTokens (taxonomy : Taxonomy) (test : SlugTest) : List Token :=
  taxonomy.lookupTokens ++ test.comparisonTokens (.value (.text test.value)) ++ [.closing]

theorem read_comparison (test : SlugTest) :
    Token.Pending.nothing.read test.comparison.toList =
      some (test.comparisonTokens .parameter) := by
  cases test with
  | equals slug =>
    change Token.Pending.nothing.read "= ?".toList = some [.comparison .equal, .parameter]
    decide +kernel
  | contains part =>
    change Token.Pending.nothing.read "LIKE '%' || ? || '%'".toList =
      some [.keyword .like, .value (.text "%"), .concat, .parameter, .concat, .value (.text "%")]
    decide +kernel

/-- The text of a look-up in front of the comparison. -/
def lookupText (taxonomy : Taxonomy) : String :=
  let table := taxonomy.name
  let links := taxonomy.linkTable
  "EXISTS (SELECT 1 FROM " ++ links ++ " JOIN " ++ table ++ " ON " ++ table ++ ".id = " ++ links ++
    "." ++ taxonomy.linkColumn ++ " WHERE " ++ links ++ ".archive_id = archive.id AND " ++ table ++
    ".slug"

theorem ofText?_lookupText (taxonomy : Taxonomy) :
    Token.ofText? (lookupText taxonomy) = some taxonomy.lookupTokens := by
  unfold Token.ofText? lookupText
  -- Letters are faster to read than a text that has to be put together first.
  repeat rw [String.toList_append]
  cases taxonomy <;> decide +kernel

theorem ofText?_existsEntry (taxonomy : Taxonomy) (test : SlugTest) :
    Token.ofText? (existsEntry taxonomy test) =
      some (taxonomy.lookupTokens ++ test.comparisonTokens .parameter ++ [.closing]) := by
  have text : (existsEntry taxonomy test).toList =
      (lookupText taxonomy).toList ++ ' ' :: (test.comparison.toList ++ ')' :: []) := by
    have slug (rest : List Char) : ".slug ".toList ++ rest = ".slug".toList ++ ' ' :: rest := rfl
    unfold existsEntry lookupText
    simp only [String.toList_append, List.append_assoc]
    rw [slug]
    rfl
  have front : Token.Pending.nothing.read (lookupText taxonomy).toList =
      some taxonomy.lookupTokens := ofText?_lookupText taxonomy
  have blank : Token.begin ' ' = some ([], .nothing) := rfl
  have closing : Token.begin ')' = some ([.closing], .nothing) := rfl
  rw [Token.ofText?, text, Token.Pending.read_append blank front,
    Token.Pending.read_append closing (read_comparison test)]
  simp [Token.Pending.read, Token.Pending.finish]

theorem tokens?_linkedFragment (taxonomy : Taxonomy) (test : SlugTest) :
    (linkedFragment taxonomy test).tokens? = some (lookupTokens taxonomy test) := by
  have front : Token.bind taxonomy.lookupTokens [] = some taxonomy.lookupTokens := by
    simp [Taxonomy.lookupTokens, Token.bind]
  have back : Token.bind (test.comparisonTokens .parameter ++ [.closing]) [.text test.value] =
      some (test.comparisonTokens (.value (.text test.value)) ++ [.closing]) := by
    cases test <;> simp [SlugTest.comparisonTokens, Token.bind]
  have whole := Token.bind_append front back
  rw [← List.append_assoc, ← List.append_assoc] at whole
  exact Fragment.tokens?_eq_some_iff.mpr ⟨_, ofText?_existsEntry taxonomy test, whole⟩

end Condition

/-! ### Clauses -/

/-- A row of tokens is not divided, and it is read as the clause where so many parentheses may be
inside of it. -/
structure Clause.IsUnit (nesting : Nat) (tokens : List Token) (clause : Clause) : Prop where
  whole : ∀ word, word = .and ∨ word = .or → split word 0 tokens = some [tokens]
  read : ∀ depth, ofOperand? (ofTokens? (depth + nesting)) tokens = some clause

theorem Clause.IsUnit.add {nesting : Nat} {tokens : List Token} {clause : Clause}
    (isUnit : IsUnit nesting tokens clause) (more : Nat) :
    IsUnit (nesting + more) tokens clause where
  whole := isUnit.whole
  read depth := by
    rw [← Nat.add_assoc, Nat.add_right_comm]
    exact isUnit.read (depth + more)

/-- A fragment is read as all of the clauses together. It may have parentheses inside of
parentheses, but none inside of these. -/
structure Fragment.Reads (fragment : Fragment) (tokens : List Token) (clauses : List Clause) :
    Prop where
  written : fragment.tokens? = some tokens
  long : 3 ≤ tokens.length
  whole : split .or 0 tokens = some [tokens]
  read : ∃ parts, split .and 0 tokens = some parts ∧
    ∀ depth, parts.mapM (ofOperand? (ofTokens? (depth + 2))) = some clauses

namespace Fragment

variable {fragment first second : Fragment} {tokens others : List Token}
  {clauses more : List Clause}

theorem Reads.of_isUnit {clause : Clause} (written : fragment.tokens? = some tokens)
    (long : 3 ≤ tokens.length) (isUnit : Clause.IsUnit 2 tokens clause) :
    fragment.Reads tokens [clause] where
  written := written
  long := long
  whole := isUnit.whole .or (.inr rfl)
  read := by
    refine ⟨[tokens], isUnit.whole .and (.inl rfl), fun depth => ?_⟩
    simp [isUnit.read depth]

/-- Fragments with `AND` between them are read one by one. -/
theorem Reads.beside (reads : first.Reads tokens clauses) (readsSecond : second.Reads others more) :
    (first.beside " AND " second).Reads (tokens ++ .keyword .and :: others) (clauses ++ more) where
  written := tokens?_beside Token.divides_and reads.written readsSecond.written
  long := by
    rw [List.length_append]
    exact reads.long.trans (Nat.le_add_right _ _)
  whole := Token.split_append_whole reads.whole
    (Token.split_other_word Keyword.noConfusion readsSecond.whole)
  read := by
    obtain ⟨parts, isSplit, areRead⟩ := reads.read
    obtain ⟨behind, isSplitBehind, areReadBehind⟩ := readsSecond.read
    refine ⟨parts ++ behind, ?_, fun depth => ?_⟩
    · rw [Token.split_append isSplit, isSplitBehind, Option.map_some]
    · rw [List.mapM_append, areRead depth, areReadBehind depth]
      rfl

/-- A fragment is read as a clause, whose parts lean to the left. -/
theorem Reads.clause? (reads : fragment.Reads tokens clauses) :
    fragment.clause? = Clause.chain .and clauses := by
  obtain ⟨parts, isSplit, areRead⟩ := reads.read
  obtain ⟨depth, length⟩ := Nat.exists_eq_add_of_le' reads.long
  rw [Fragment.clause?, reads.written, Option.bind_eq_bind, Option.bind_some, length]
  exact Clause.ofTokens?_of_and reads.whole isSplit (areRead depth)

end Fragment

namespace Condition

open Clause (IsUnit)

theorem isUnit_test (table : String) (test : SlugTest) :
    IsUnit 0
      ([.name table, .dot, .name "slug"] ++ test.comparisonTokens (.value (.text test.value)))
      (test.clause table) where
  whole word isWord := by
    rcases isWord with rfl | rfl <;> cases test <;> rfl
  read depth := by
    cases test <;> rfl

theorem isUnit_lookup (taxonomy : Taxonomy) (test : SlugTest) :
    IsUnit 1 (lookupTokens taxonomy test) (lookupClause taxonomy test) where
  whole word isWord := by
    rcases isWord with rfl | rfl <;> cases test <;> rfl
  read depth := by
    cases test <;> rfl

theorem isUnit_not_lookup (taxonomy : Taxonomy) (test : SlugTest) :
    IsUnit 1 (.keyword .not :: lookupTokens taxonomy test)
      (.not (lookupClause taxonomy test)) where
  whole word isWord := by
    rcases isWord with rfl | rfl <;> cases test <;> rfl
  read depth := by
    cases test <;> rfl

/-- Look-ups with `OR` between them are read one by one, and parentheses hold them together. -/
theorem isUnit_anyLookup (taxonomy : Taxonomy) {tests : List SlugTest} (someTests : tests ≠ [])
    {clause : Clause}
    (isChain : Clause.chain .or (tests.map (lookupClause taxonomy)) = some clause) :
    IsUnit 2 (.opening :: ([.keyword .or].intercalate (tests.map (lookupTokens taxonomy)) ++
      [.closing])) clause := by
  have isSplit : split .or 0 ([.keyword .or].intercalate (tests.map (lookupTokens taxonomy))) =
      some (tests.map (lookupTokens taxonomy)) := by
    rw [Token.split_intercalate someTests
      fun test _ => (isUnit_lookup taxonomy test).whole .or (.inr rfl)]
    exact congrArg some (List.flatMap_pure_eq_map _ tests)
  constructor
  · intro word _
    exact Token.split_parenthesized isSplit
  · intro depth
    have inner : ofTokens? (depth + 2)
        ([.keyword .or].intercalate (tests.map (lookupTokens taxonomy))) = some clause := by
      rw [Clause.ofTokens?_of_or isSplit
        (fun test _ => (isUnit_lookup taxonomy test).whole .and (.inl rfl))
        (fun test _ => (isUnit_lookup taxonomy test).read depth)]
      exact isChain
    rw [ofOperand?, Token.enclosed?_append_closing]
    exact inner

theorem reads_linked (taxonomy : Taxonomy) (test : SlugTest) :
    (linkedFragment taxonomy test).Reads (lookupTokens taxonomy test)
      [lookupClause taxonomy test] := by
  refine .of_isUnit (tokens?_linkedFragment taxonomy test) ?_ ((isUnit_lookup taxonomy test).add 1)
  simp [lookupTokens, Taxonomy.lookupTokens]

theorem reads_path (part : String) :
    ∃ tokens, (path part).fragment.Reads tokens (path part).clauses := by
  let tokens (place : Token) : List Token :=
    [.name "archive", .dot, .name "path_folded", .keyword .like, .value (.text "%"), .concat, place,
      .concat, .value (.text "%"), .keyword .escape, .value (.text "\\")]
  have written : Token.ofText? "archive.path_folded LIKE '%' || ? || '%' ESCAPE '\\'" =
      some (tokens .parameter) := by
    decide +kernel
  refine ⟨_, .of_isUnit (Fragment.tokens?_eq_some_iff.mpr ⟨_, written, rfl⟩) ?_ ⟨?_, fun _ => rfl⟩⟩
  · simp
  · rintro word (rfl | rfl) <;> rfl

theorem reads_title (test : SlugTest) :
    ∃ tokens, (title test).fragment.Reads tokens (title test).clauses := by
  have written : Token.ofText? ("archive.slug " ++ test.comparison) =
      some ([.name "archive", .dot, .name "slug"] ++ test.comparisonTokens .parameter) := by
    cases test with
    | equals slug =>
      change Token.ofText? "archive.slug = ?" =
        some [.name "archive", .dot, .name "slug", .comparison .equal, .parameter]
      decide +kernel
    | contains part =>
      change Token.ofText? "archive.slug LIKE '%' || ? || '%'" =
        some [.name "archive", .dot, .name "slug", .keyword .like, .value (.text "%"), .concat,
          .parameter, .concat, .value (.text "%")]
      decide +kernel
  have bound : Token.bind
      ([.name "archive", .dot, .name "slug"] ++ test.comparisonTokens .parameter)
      [.text test.value] = some ([.name "archive", .dot, .name "slug"] ++
        test.comparisonTokens (.value (.text test.value))) := by
    cases test <;> rfl
  refine ⟨_, .of_isUnit (Fragment.tokens?_eq_some_iff.mpr ⟨_, written, bound⟩) ?_
    ((isUnit_test "archive" test).add 2)⟩
  simp

theorem reads_unlinked (taxonomy : Taxonomy) (test : SlugTest) :
    ∃ tokens, (unlinked taxonomy test).fragment.Reads tokens (unlinked taxonomy test).clauses := by
  obtain ⟨lookup, ofText, bound⟩ :=
    Fragment.tokens?_eq_some_iff.mp (tokens?_linkedFragment taxonomy test)
  have written : Token.ofText? ("NOT " ++ existsEntry taxonomy test) =
      some (.keyword .not :: lookup) := by
    have text : ("NOT " ++ existsEntry taxonomy test).toList =
        "NOT".toList ++ ' ' :: (existsEntry taxonomy test).toList := by
      rw [String.toList_append]
      rfl
    have word : Token.Pending.nothing.read "NOT".toList = some [.keyword .not] := by decide +kernel
    have isRead : Token.Pending.nothing.read (existsEntry taxonomy test).toList = some lookup :=
      ofText
    have blank : Token.begin ' ' = some ([], .nothing) := rfl
    rw [Token.ofText?, text, Token.Pending.read_append blank word, isRead]
    rfl
  have boundAll : Token.bind (.keyword .not :: lookup) [.text test.value] =
      some (.keyword .not :: lookupTokens taxonomy test) :=
    Token.bind_of_ne Token.noConfusion bound
  refine ⟨_, .of_isUnit (Fragment.tokens?_eq_some_iff.mpr ⟨_, written, boundAll⟩) ?_
    ((isUnit_not_lookup taxonomy test).add 1)⟩
  simp [lookupTokens, Taxonomy.lookupTokens]

theorem reads_pages (bound : PageBound) :
    ∃ tokens, (pages bound).fragment.Reads tokens (pages bound).clauses := by
  obtain ⟨comparison, count⟩ := bound
  let tokens (place : Token) : List Token :=
    [.name "archive", .dot, .name "pages", .comparison comparison, place]
  have written : Token.ofText? ("archive.pages " ++ comparison.symbol ++ " ?") =
      some (tokens .parameter) := by
    cases comparison <;> decide +kernel
  refine ⟨_, .of_isUnit (Fragment.tokens?_eq_some_iff.mpr ⟨_, written, rfl⟩) ?_ ⟨?_, fun _ => rfl⟩⟩
  · simp
  · rintro word (rfl | rfl) <;> rfl

theorem reads_visible :
    ∃ tokens, visible.fragment.Reads tokens visible.clauses := by
  refine ⟨[.name "archive", .dot, .name "published_at", .keyword .is, .keyword .not, .keyword .null,
    .keyword .and, .name "archive", .dot, .name "expunged", .comparison .equal,
    .value (.integer 0)], ?_, ?_, rfl, _, rfl, fun _ => rfl⟩
  · decide +kernel
  · simp

/-- The fragment of every condition is read as the clauses that the condition asks for. -/
theorem exists_reads (condition : Condition) (proper : condition.IsProper) :
    ∃ tokens, condition.fragment.Reads tokens condition.clauses := by
  cases condition with
  | path part => exact reads_path part
  | title test => exact reads_title test
  | linked taxonomy test => exact ⟨_, reads_linked taxonomy test⟩
  | linkedAny taxonomy tests =>
    obtain ⟨test, rest, rfl⟩ := List.exists_cons_of_ne_nil proper
    cases rest with
    | nil => exact ⟨_, reads_linked taxonomy test⟩
    | cons next rest =>
      have written := Fragment.tokens?_joined Token.divides_or
        (List.cons_ne_nil test (next :: rest)) fun test _ => tokens?_linkedFragment taxonomy test
      refine ⟨_, .of_isUnit (Fragment.tokens?_enclosed written) ?_
        (isUnit_anyLookup taxonomy proper rfl)⟩
      simp [lookupTokens, Taxonomy.lookupTokens, List.intercalate_cons_cons]
  | unlinked taxonomy test => exact reads_unlinked taxonomy test
  | pages bound => exact reads_pages bound
  | visible => exact reads_visible

theorem clause?_fragment (condition : Condition) (proper : condition.IsProper) :
    condition.fragment.clause? = Clause.chain .and condition.clauses := by
  obtain ⟨tokens, reads⟩ := condition.exists_reads proper
  exact reads.clause?

theorem map_conjuncts_fragment (condition : Condition) (proper : condition.IsProper) :
    condition.fragment.clause?.map Clause.conjuncts =
      some (condition.clauses.flatMap Clause.conjuncts) := by
  rw [clause?_fragment condition proper,
    Clause.map_conjuncts_chain (condition.clauses_ne_nil proper)]

/-- Conditions that are joined into one are read as all of their clauses. -/
theorem exists_reads_allOf {conditions : List Condition} (someConditions : conditions ≠ [])
    (proper : ∀ condition ∈ conditions, condition.IsProper) :
    ∃ tokens, (Fragment.allOf (conditions.map fragment)).Reads tokens
      (conditions.flatMap clauses) := by
  rw [Fragment.allOf]
  induction conditions with
  | nil => exact absurd rfl someConditions
  | cons first rest ih =>
    obtain ⟨properFirst, properRest⟩ := List.forall_mem_cons.mp proper
    obtain ⟨tokens, reads⟩ := first.exists_reads properFirst
    cases rest with
    | nil =>
      rw [List.map_singleton, Fragment.joined_singleton, List.flatMap_singleton]
      exact ⟨tokens, reads⟩
    | cons second rest =>
      obtain ⟨others, readsRest⟩ := ih (List.cons_ne_nil _ _) properRest
      rw [List.map_cons] at readsRest
      rw [List.map_cons, List.map_cons, Fragment.joined_cons_cons, List.flatMap_cons]
      exact ⟨_, reads.beside readsRest⟩

theorem flatMap_clauses_ne_nil {conditions : List Condition} (someConditions : conditions ≠ [])
    (proper : ∀ condition ∈ conditions, condition.IsProper) : conditions.flatMap clauses ≠ [] := by
  obtain ⟨condition, member⟩ := List.exists_mem_of_ne_nil _ someConditions
  exact fun none => condition.clauses_ne_nil (proper condition member)
    (List.flatMap_eq_nil_iff.mp none condition member)

theorem clause?_allOf {conditions : List Condition} (someConditions : conditions ≠ [])
    (proper : ∀ condition ∈ conditions, condition.IsProper) :
    (Fragment.allOf (conditions.map fragment)).clause? =
      Clause.chain .and (conditions.flatMap clauses) := by
  obtain ⟨tokens, reads⟩ := exists_reads_allOf someConditions proper
  exact reads.clause?

/-- The joined text asks for what the texts ask for one by one. -/
theorem map_conjuncts_allOf {conditions : List Condition} (someConditions : conditions ≠ [])
    (proper : ∀ condition ∈ conditions, condition.IsProper) :
    (Fragment.allOf (conditions.map fragment)).clause?.map Clause.conjuncts =
      some ((conditions.map fragment).flatMap fun fragment =>
        fragment.clause?.toList.flatMap Clause.conjuncts) := by
  have each : ∀ condition ∈ conditions, condition.clauses.flatMap Clause.conjuncts =
      condition.fragment.clause?.toList.flatMap Clause.conjuncts := by
    intro condition member
    obtain ⟨clause, isRead, same⟩ :=
      Option.map_eq_some_iff.mp (condition.map_conjuncts_fragment (proper condition member))
    rw [isRead, ← same, Option.toList_some, List.flatMap_singleton]
  rw [clause?_allOf someConditions proper,
    Clause.map_conjuncts_chain (flatMap_clauses_ne_nil someConditions proper), List.flatMap_assoc,
    List.flatMap_congr each, List.flatMap_map]

end Condition

end ComicCatalogue
