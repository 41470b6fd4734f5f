import Mathlib.Data.List.Forall2
import ComicCatalogue.Clause.Basic
import ComicCatalogue.Proofs.Clause.Token

/-!
# Reading joined clauses

Where no part of a row of tokens has the word between the parts outside of its own parentheses, the
row is divided into these parts. So clauses that are joined by `AND` are read one by one, and so are
clauses that are joined by `OR`; and what stands in parentheses holds together.
-/

namespace ComicCatalogue

namespace Token

variable {word other : Keyword} {depth : Nat} {tokens rest : List Token}
  {parts : List (List Token)}

theorem split_word (word : Keyword) (rest : List Token) :
    split word 0 (.keyword word :: rest) = (split word 0 rest).map ([] :: ·) := by
  rw [split, if_pos ⟨rfl, rfl⟩]

/-- A token that is not the word between two parts belongs to the first part. -/
theorem split_cons {token : Token} {deep : Nat} (isPart : ¬(depth = 0 ∧ token = .keyword word))
    (nested : nest depth token = some deep) :
    split word depth (token :: rest) =
      (split word deep rest).map (List.modifyHead (token :: ·)) := by
  rw [split, if_neg isPart, nested]
  rfl

/-- How a row of tokens is divided that begins with a token. -/
theorem split_cons_eq_some_iff {token : Token} :
    split word depth (token :: rest) = some parts ↔
      (depth = 0 ∧ token = .keyword word) ∧
          (∃ later, split word 0 rest = some later ∧ [] :: later = parts) ∨
        ¬(depth = 0 ∧ token = .keyword word) ∧ ∃ deep, nest depth token = some deep ∧
          ∃ later, split word deep rest = some later ∧ later.modifyHead (token :: ·) = parts := by
  by_cases isWord : depth = 0 ∧ token = .keyword word
  · obtain ⟨rfl, rfl⟩ := isWord
    rw [split_word, Option.map_eq_some_iff]
    simp
  · cases nested : nest depth token with
    | none => simp [split, isWord, nested]
    | some deep =>
      rw [split_cons isWord nested, Option.map_eq_some_iff]
      simp [isWord]

theorem split_ne_nil (isSplit : split word depth tokens = some parts) : parts ≠ [] := by
  induction tokens generalizing depth parts with
  | nil =>
    cases depth with
    | zero =>
      cases isSplit
      exact List.cons_ne_nil _ _
    | succ depth => cases isSplit
  | cons token rest ih =>
    rcases split_cons_eq_some_iff.mp isSplit with
      ⟨_, later, _, rfl⟩ | ⟨_, deep, _, later, found, rfl⟩
    · exact List.cons_ne_nil _ _
    · exact fun empty => ih found (List.modifyHead_eq_nil_iff.mp empty)

/-- Behind the word the next part begins. -/
theorem split_append (isSplit : split word depth tokens = some parts) (rest : List Token) :
    split word depth (tokens ++ .keyword word :: rest) = (split word 0 rest).map (parts ++ ·) := by
  induction tokens generalizing depth parts with
  | nil =>
    cases depth with
    | zero =>
      cases isSplit
      exact split_word word rest
    | succ depth => cases isSplit
  | cons token tokens ih =>
    rcases split_cons_eq_some_iff.mp isSplit with
      ⟨⟨rfl, rfl⟩, later, found, rfl⟩ | ⟨isPart, deep, nested, later, found, rfl⟩
    · rw [List.cons_append, split_word, ih found, Option.map_map]
      rfl
    · rw [List.cons_append, split_cons isPart nested, ih found, Option.map_map]
      obtain ⟨first, others, rfl⟩ := List.exists_cons_of_ne_nil (split_ne_nil found)
      rfl

/-- Rows that are not divided make up a row that is not. -/
theorem split_append_whole (isWhole : split word depth tokens = some [tokens])
    (isWholeRest : split word 0 rest = some [rest]) :
    split word depth (tokens ++ rest) = some [tokens ++ rest] := by
  induction tokens generalizing depth with
  | nil =>
    cases depth with
    | zero => exact isWholeRest
    | succ depth => cases isWhole
  | cons token tokens ih =>
    rcases split_cons_eq_some_iff.mp isWhole with
      ⟨_, later, _, same⟩ | ⟨isPart, deep, nested, later, found, same⟩
    · cases same
    · obtain ⟨first, others, rfl⟩ := List.exists_cons_of_ne_nil (split_ne_nil found)
      cases same
      rw [List.cons_append, split_cons isPart nested, ih found]
      rfl

theorem nest_succ {token : Token} {deep : Nat} (nested : nest depth token = some deep) :
    nest (depth + 1) token = some (deep + 1) := by
  cases token with
  | closing =>
    rw [nest, Option.ite_none_left_eq_some, Option.some.injEq] at nested
    rw [nest, if_neg (Nat.succ_ne_zero depth), Option.some.injEq]
    omega
  | _ =>
    cases nested
    rfl

/-- Within parentheses a row is not divided at all. -/
theorem split_enclosed (isSplit : split other depth tokens = some parts) (rest : List Token) :
    split word (depth + 1) (tokens ++ rest) =
      (split word 1 rest).map (List.modifyHead (tokens ++ ·)) := by
  induction tokens generalizing depth parts with
  | nil =>
    cases depth with
    | zero =>
      have same : List.modifyHead (([] : List Token) ++ ·) = id := List.modifyHead_id
      rw [same, Option.map_id]
      rfl
    | succ depth => cases isSplit
  | cons token tokens ih =>
    have within : ¬(depth + 1 = 0 ∧ token = .keyword word) :=
      fun ⟨outside, _⟩ => Nat.succ_ne_zero depth outside
    have step {deep : Nat} {later : List (List Token)}
        (found : split other deep tokens = some later)
        (nested : nest (depth + 1) token = some (deep + 1)) :
        split word (depth + 1) (token :: tokens ++ rest) =
          (split word 1 rest).map (List.modifyHead (token :: tokens ++ ·)) := by
      rw [List.cons_append, split_cons within nested, ih found, Option.map_map]
      refine congrArg (Option.map · _) (funext fun more => ?_)
      rw [Function.comp_apply, List.modifyHead_modifyHead]
      rfl
    rcases split_cons_eq_some_iff.mp isSplit with
      ⟨⟨rfl, rfl⟩, later, found, rfl⟩ | ⟨isPart, deep, nested, later, found, rfl⟩
    · exact step found rfl
    · exact step found (nest_succ nested)

/-- A row in parentheses is not divided. -/
theorem split_parenthesized (isSplit : split other 0 tokens = some parts) :
    split word 0 (.opening :: (tokens ++ [.closing])) =
      some [.opening :: (tokens ++ [.closing])] := by
  have apart : ¬(0 = 0 ∧ Token.opening = .keyword word) := fun ⟨_, same⟩ => nomatch same
  rw [split_cons apart rfl, split_enclosed isSplit]
  rfl

/-- Another word belongs to the part behind it. -/
theorem split_other_word (differ : other ≠ word) (isWhole : split word 0 rest = some [rest]) :
    split word 0 (.keyword other :: rest) = some [.keyword other :: rest] := by
  have isPart : ¬(0 = 0 ∧ Token.keyword other = .keyword word) :=
    fun ⟨_, same⟩ => differ (Token.keyword.inj same)
  rw [split_cons isPart rfl, isWhole]
  rfl

section

variable {α : Type} {read : α → List Token} {list : List α}

/-- Rows with the word between them are divided one by one. -/
theorem split_intercalate {divided : α → List (List Token)} (someParts : list ≠ [])
    (isSplit : ∀ part ∈ list, split word 0 (read part) = some (divided part)) :
    split word 0 ([.keyword word].intercalate (list.map read)) = some (list.flatMap divided) := by
  induction list with
  | nil => exact absurd rfl someParts
  | cons first rest ih =>
    obtain ⟨isSplitFirst, isSplitRest⟩ := List.forall_mem_cons.mp isSplit
    cases rest with
    | nil => simpa using isSplitFirst
    | cons second rest =>
      have later := ih (List.cons_ne_nil _ _) isSplitRest
      rw [List.map_cons] at later
      rw [List.map_cons, List.map_cons, List.intercalate_cons_cons, List.append_assoc,
        List.singleton_append, split_append isSplitFirst, later]
      rfl

end

theorem enclosed?_append_closing (tokens : List Token) :
    enclosed? (tokens ++ [.closing]) = some tokens := by
  rw [enclosed?, List.getLast?_concat, List.dropLast_concat]

end Token

namespace Clause

open Token (split)

variable {depth : Nat} {tokens : List Token} {parts : List (List Token)} {clauses : List Clause}

/-- Members are taken one by one. -/
theorem mapM_eq_some_iff {α β : Type} {f : α → Option β} {list : List α} {results : List β} :
    list.mapM f = some results ↔ List.Forall₂ (fun a b => f a = some b) list results := by
  induction list generalizing results with
  | nil => simp [eq_comm, List.forall₂_nil_left_iff]
  | cons a list ih =>
    simp only [List.mapM_cons, Option.bind_eq_bind, Option.bind_eq_some_iff, Option.pure_def,
      Option.some.injEq, ih, List.forall₂_cons_left_iff]
    constructor
    · rintro ⟨b, first, others, rest, rfl⟩
      exact ⟨b, others, first, rest, rfl⟩
    · rintro ⟨b, others, first, rest, rfl⟩
      exact ⟨b, first, others, rest, rfl⟩

/-- A row that is divided at `AND` only. -/
theorem ofTokens?_of_and (isWhole : split .or 0 tokens = some [tokens])
    (isSplit : split .and 0 tokens = some parts)
    (areRead : parts.mapM (ofOperand? (ofTokens? depth)) = some clauses) :
    ofTokens? (depth + 1) tokens = chain and clauses := by
  have conjunction : ofConjunction? (ofTokens? depth) tokens = chain and clauses := by
    simp only [ofConjunction?, isSplit, areRead, Option.bind_eq_bind, Option.bind_some]
  simp only [ofTokens?, isWhole, List.mapM_cons, List.mapM_nil, conjunction, Option.bind_eq_bind,
    Option.bind_some]
  cases chain and clauses <;> rfl

/-- A row that is divided at `OR` only. -/
theorem ofTokens?_of_or {α : Type} {list : List α} {read : α → List Token} {clause : α → Clause}
    (isSplit : split .or 0 tokens = some (list.map read))
    (areWhole : ∀ part ∈ list, split .and 0 (read part) = some [read part])
    (areRead : ∀ part ∈ list, ofOperand? (ofTokens? depth) (read part) = some (clause part)) :
    ofTokens? (depth + 1) tokens = chain or (list.map clause) := by
  have alternatives : (list.map read).mapM (ofConjunction? (ofTokens? depth)) =
      some (list.map clause) := by
    rw [mapM_eq_some_iff, List.forall₂_map_left_iff, List.forall₂_map_right_iff, List.forall₂_same]
    intro part member
    simp [ofConjunction?, areWhole part member, areRead part member, chain]
  simp only [ofTokens?, isSplit, alternatives, Option.bind_eq_bind, Option.bind_some]

theorem conjuncts_foldl_and (first : Clause) (clauses : List Clause) :
    (clauses.foldl and first).conjuncts = first.conjuncts ++ clauses.flatMap conjuncts := by
  induction clauses generalizing first with
  | nil => exact (List.append_nil _).symm
  | cons second rest ih =>
    rw [List.foldl_cons, ih, conjuncts, List.flatMap_cons, List.append_assoc]

/-- Together clauses ask for what they ask for one by one. -/
theorem map_conjuncts_chain (someClauses : clauses ≠ []) :
    (chain and clauses).map conjuncts = some (clauses.flatMap conjuncts) := by
  obtain ⟨first, rest, rfl⟩ := List.exists_cons_of_ne_nil someClauses
  rw [chain, Option.map_some, conjuncts_foldl_and, List.flatMap_cons]

end Clause

end ComicCatalogue
