import Mathlib.Data.List.Infix
import ComicCatalogue.Selection.Fragment

/-!
# Values and parentheses in fragments

Fragments that have a question mark for each of their values keep them when they are joined: with
the values in the places of the question marks, the joined text is the joined texts of the parts.
And where no parenthesis of a part reaches out of it and no part has an `OR` of its own, the parts
of a conjunction hold together as they did alone.
-/

namespace ComicCatalogue

namespace Fragment

/-- A text with values in the places of its question marks, in order. -/
def fill : List Char → List Argument → List (Char ⊕ Argument)
  | [], _ => []
  | c :: text, [] => .inl c :: fill text []
  | c :: text, value :: values =>
    if c = '?' then .inr value :: fill text values else .inl c :: fill text (value :: values)

/-- The condition with its values in place. -/
def filled (fragment : Fragment) : List (Char ⊕ Argument) :=
  fill fragment.condition.toList fragment.arguments

/-- The condition has a question mark for each value. -/
def IsMatched (fragment : Fragment) : Prop :=
  fragment.condition.toList.count '?' = fragment.arguments.length

instance (fragment : Fragment) : Decidable fragment.IsMatched :=
  inferInstanceAs (Decidable (_ = _))

theorem fill_of_notMem {text : List Char} (plain : '?' ∉ text) (values : List Argument) :
    fill text values = text.map .inl := by
  induction text with
  | nil => rfl
  | cons c rest ih =>
    have other : c ≠ '?' := fun same => plain (same ▸ List.mem_cons_self)
    have rest := ih fun member => plain (List.mem_cons_of_mem c member)
    cases values with
    | nil => simpa [fill] using ih fun member => plain (List.mem_cons_of_mem c member)
    | cons value values => rw [fill, if_neg other, rest, List.map_cons]

/-- A text that uses up its values leaves the others to the text behind it. -/
theorem fill_append {text : List Char} {values : List Argument}
    (matched : text.count '?' = values.length) (other : List Char) (more : List Argument) :
    fill (text ++ other) (values ++ more) = fill text values ++ fill other more := by
  induction text generalizing values with
  | nil =>
    have none : values = [] := List.length_eq_zero_iff.mp matched.symm
    rw [none]
    rfl
  | cons c rest ih =>
    by_cases mark : c = '?'
    · subst mark
      rw [List.count_cons_self] at matched
      obtain ⟨value, values, rfl⟩ := List.exists_cons_of_length_eq_add_one matched.symm
      have rest : fill (rest ++ other) (values ++ more) = fill rest values ++ fill other more :=
        ih (Nat.succ.inj matched)
      simp only [List.cons_append, fill, if_true, rest]
    · rw [List.count_cons_of_ne mark] at matched
      have rest := ih matched
      cases values with
      | nil =>
        rw [List.nil_append] at rest ⊢
        cases more <;> simp [fill, mark, rest]
      | cons value values =>
        simp only [List.cons_append] at rest ⊢
        rw [fill, if_neg mark, rest, fill, if_neg mark, List.cons_append]

/-- Two fragments with a word between them. -/
def beside (word : String) (first second : Fragment) : Fragment where
  condition := first.condition ++ word ++ second.condition
  arguments := first.arguments ++ second.arguments

theorem joined_singleton (word : String) (fragment : Fragment) :
    joined word [fragment] = fragment := by
  have condition : (joined word [fragment]).condition = fragment.condition := by
    rw [← String.toList_inj, joined, String.toList_intercalate]
    exact List.intercalate_singleton
  have arguments : (joined word [fragment]).arguments = fragment.arguments :=
    List.flatMap_singleton ..
  calc joined word [fragment]
      _ = ⟨(joined word [fragment]).condition, (joined word [fragment]).arguments⟩ := rfl
      _ = fragment := by rw [condition, arguments]

theorem joined_cons_cons (word : String) (first second : Fragment) (rest : List Fragment) :
    joined word (first :: second :: rest) = beside word first (joined word (second :: rest)) := by
  have condition : (joined word (first :: second :: rest)).condition =
      first.condition ++ word ++ (joined word (second :: rest)).condition := by
    simp only [← String.toList_inj, joined, String.toList_append, String.toList_intercalate,
      List.map_cons, List.intercalate_cons_cons]
  rw [beside, ← condition]
  rfl

section

variable {word : String} (plain : '?' ∉ word.toList)
include plain

theorem IsMatched.beside {first second : Fragment} (isMatched : first.IsMatched)
    (isMatchedSecond : second.IsMatched) :
    (first.beside word second).IsMatched ∧
      (first.beside word second).filled =
        first.filled ++ word.toList.map .inl ++ second.filled := by
  have none : word.toList.count '?' = 0 := List.count_eq_zero.mpr plain
  have matched : (first.condition ++ word).toList.count '?' = first.arguments.length := by
    rw [String.toList_append, List.count_append, none]
    exact isMatched
  constructor
  · rw [IsMatched, Fragment.beside, String.toList_append, List.count_append, matched,
      isMatchedSecond, List.length_append]
  · rw [filled, Fragment.beside, String.toList_append, fill_append matched, String.toList_append]
    have front := fill_append isMatched word.toList []
    rw [List.append_nil, fill_of_notMem plain] at front
    rw [front]
    rfl

/-- Joining keeps a question mark for each value, and puts each value in the place that it has in
its own fragment. -/
theorem IsMatched.joined {fragments : List Fragment}
    (areMatched : ∀ fragment ∈ fragments, fragment.IsMatched) :
    (Fragment.joined word fragments).IsMatched ∧
      (Fragment.joined word fragments).filled =
        (word.toList.map .inl).intercalate (fragments.map filled) := by
  induction fragments with
  | nil => exact ⟨rfl, rfl⟩
  | cons first rest ih =>
    obtain ⟨isMatched, areMatchedRest⟩ := List.forall_mem_cons.mp areMatched
    cases rest with
    | nil =>
      rw [joined_singleton, List.map_singleton, List.intercalate_singleton]
      exact ⟨isMatched, rfl⟩
    | cons second rest =>
      obtain ⟨isMatchedRest, sameRest⟩ := ih areMatchedRest
      obtain ⟨isMatchedAll, same⟩ := isMatched.beside plain isMatchedRest
      rw [joined_cons_cons, List.map_cons, List.map_cons, List.intercalate_cons_cons, same,
        sameRest, List.map_cons]
      exact ⟨isMatchedAll, rfl⟩

end

/-- The first of several fragments has another one behind it, so they are put in parentheses. -/
theorem anyOf_cons_cons (first second : Fragment) (rest : List Fragment) :
    anyOf (first :: second :: rest) =
      { joined " OR " (first :: second :: rest) with
        condition := "(" ++ (joined " OR " (first :: second :: rest)).condition ++ ")" } := rfl

/-- Text with values in parentheses. -/
def enclosed (text : List (Char ⊕ Argument)) : List (Char ⊕ Argument) :=
  .inl '(' :: text ++ [.inl ')']

theorem IsMatched.enclosed {fragment : Fragment} (isMatched : fragment.IsMatched) :
    IsMatched { fragment with condition := "(" ++ fragment.condition ++ ")" } ∧
      filled { fragment with condition := "(" ++ fragment.condition ++ ")" } =
        Fragment.enclosed fragment.filled := by
  have text : ("(" ++ fragment.condition ++ ")").toList =
      ['('] ++ (fragment.condition.toList ++ [')']) := by
    simp [String.toList_append]
  constructor
  · rw [IsMatched, text, List.count_append, List.count_append]
    simpa [IsMatched] using isMatched
  · have behind := fill_append isMatched [')'] []
    rw [List.append_nil] at behind
    have front : fill (['('] ++ (fragment.condition.toList ++ [')'])) ([] ++ fragment.arguments) =
        fill ['('] [] ++ fill (fragment.condition.toList ++ [')']) fragment.arguments :=
      fill_append rfl _ _
    rw [List.nil_append, behind] at front
    rw [filled, text, front]
    rfl

/-- One of several fragments has a question mark for each value if all of them do, and each value is
in the place that it has in its own fragment. -/
theorem IsMatched.anyOf {fragments : List Fragment}
    (areMatched : ∀ fragment ∈ fragments, fragment.IsMatched) :
    (Fragment.anyOf fragments).IsMatched ∧
      (Fragment.anyOf fragments).filled =
        match fragments.map filled with
        | [only] => only
        | texts => Fragment.enclosed ((" OR ".toList.map .inl).intercalate texts) := by
  have plain : '?' ∉ " OR ".toList := by decide
  obtain ⟨isMatched, same⟩ := IsMatched.joined plain areMatched
  obtain ⟨isMatchedAll, sameAll⟩ := isMatched.enclosed
  rw [same] at sameAll
  match fragments with
  | [] => exact ⟨isMatchedAll, sameAll⟩
  | [only] => exact ⟨List.forall_mem_singleton.mp areMatched, rfl⟩
  | first :: second :: rest =>
    rw [anyOf_cons_cons]
    exact ⟨isMatchedAll, sameAll⟩

/-- How many parentheses are open behind a character, if so many are open in front of it; none where
it closes one that is not open. -/
def nest (depth : Nat) (c : Char) : Option Nat :=
  if c = '(' then some (depth + 1)
  else if c = ')' then
    if depth = 0 then none else some (depth - 1)
  else some depth

/-- How many parentheses are open behind a text, if so many are open in front of it. -/
def nesting (depth : Nat) (text : List Char) : Option Nat :=
  text.foldlM nest depth

/-- In a text the parentheses balance, and every `OR` stands inside of some. -/
structure IsGrouped (text : List Char) : Prop where
  balanced : nesting 0 text = some 0
  orsInside : ∀ before after, text = before ++ " OR ".toList ++ after →
    ∃ depth, nesting 0 before = some (depth + 1)

/-- A text that can stand in a conjunction: none of its letters and those of the word between two
conditions make up another `OR`. -/
structure IsOperand (text : List Char) : Prop extends IsGrouped text where
  first : text.head? ≠ some 'O'
  last : text.getLast? ≠ some 'R'

theorem nesting_append (depth : Nat) (text other : List Char) :
    nesting depth (text ++ other) = (nesting depth text).bind (nesting · other) :=
  List.foldlM_append ..

theorem nest_add {depth behind : Nat} {c : Char} (nested : nest depth c = some behind)
    (more : Nat) : nest (depth + more) c = some (behind + more) := by
  unfold nest at nested ⊢
  split at nested
  · cases nested
    rw [if_pos ‹_›, Nat.add_right_comm]
  · rw [if_neg ‹_›]
    split at nested
    · split at nested
      · cases nested
      · cases nested
        rw [if_pos ‹_›, if_neg (by omega), Nat.sub_add_comm (by omega)]
    · cases nested
      rw [if_neg ‹_›]

/-- Parentheses that are open in front of a text do not matter within it. -/
theorem nesting_add {depth behind : Nat} {text : List Char}
    (nested : nesting depth text = some behind) (more : Nat) :
    nesting (depth + more) text = some (behind + more) := by
  induction text generalizing depth with
  | nil =>
    cases nested
    rfl
  | cons c rest ih =>
    obtain ⟨next, first, nested⟩ := Option.bind_eq_some_iff.mp nested
    exact Option.bind_eq_some_iff.mpr ⟨next + more, nest_add first more, ih nested⟩

/-- Where the parentheses of a text balance, no beginning of it closes one of those in front. -/
theorem exists_nesting_of_prefix {before text : List Char} (balanced : nesting 0 text = some 0)
    (front : before <+: text) (more : Nat) :
    ∃ depth, nesting more before = some (depth + more) := by
  obtain ⟨rest, rfl⟩ := front
  rw [nesting_append] at balanced
  obtain ⟨depth, nested, _⟩ := Option.bind_eq_some_iff.mp balanced
  refine ⟨depth, ?_⟩
  have deeper := nesting_add nested more
  rwa [Nat.zero_add] at deeper

/-- No question mark and no parenthesis is in a text. -/
def IsPlain (text : List Char) : Prop :=
  ∀ c ∈ text, c ≠ '?' ∧ c ≠ '(' ∧ c ≠ ')'

instance (text : List Char) : Decidable (IsPlain text) :=
  List.decidableBAll (fun c => c ≠ '?' ∧ c ≠ '(' ∧ c ≠ ')') text

theorem IsPlain.append {text other : List Char} (isPlain : IsPlain text)
    (isPlainOther : IsPlain other) : IsPlain (text ++ other) :=
  List.forall_mem_append.mpr ⟨isPlain, isPlainOther⟩

theorem IsPlain.nesting {text : List Char} (isPlain : IsPlain text) (depth : Nat) :
    nesting depth text = some depth := by
  induction text with
  | nil => rfl
  | cons c rest ih =>
    obtain ⟨⟨_, notOpening, notClosing⟩, isPlainRest⟩ := List.forall_mem_cons.mp isPlain
    refine Option.bind_eq_some_iff.mpr ⟨depth, ?_, ih isPlainRest⟩
    rw [nest, if_neg notOpening, if_neg notClosing]

theorem IsPlain.count {text : List Char} (isPlain : IsPlain text) : text.count '?' = 0 :=
  List.count_eq_zero.mpr fun member => (isPlain _ member).1 rfl

theorem nesting_beside {word : String} {first second : Fragment}
    (between : nesting 0 word.toList = some 0)
    (balanced : nesting 0 first.condition.toList = some 0) :
    nesting 0 (first.beside word second).condition.toList = nesting 0 second.condition.toList := by
  simp [beside, String.toList_append, nesting_append, balanced, between]

theorem nesting_joined {word : String} (between : nesting 0 word.toList = some 0)
    {fragments : List Fragment}
    (balanced : ∀ fragment ∈ fragments, nesting 0 fragment.condition.toList = some 0) :
    nesting 0 (joined word fragments).condition.toList = some 0 := by
  induction fragments with
  | nil => rfl
  | cons first rest ih =>
    obtain ⟨balancedFirst, balancedRest⟩ := List.forall_mem_cons.mp balanced
    cases rest with
    | nil => rwa [joined_singleton]
    | cons second rest =>
      rw [joined_cons_cons, nesting_beside between balancedFirst]
      exact ih balancedRest

theorem isGrouped_of_orless {text : List Char} (balanced : nesting 0 text = some 0)
    (orless : ¬" OR ".toList <:+: text) : IsGrouped text where
  balanced := balanced
  orsInside before after same := absurd ⟨before, after, same.symm⟩ orless

/-- Behind a head without an `OR` of its own, what balances is grouped by parentheses around it,
whichever words it holds. -/
theorem isOperand_enclosed {head text : List Char} (balancedHead : nesting 0 head = some 0)
    (orless : ¬" OR ".toList <:+: head) (first : head.head? ≠ some 'O')
    (balanced : nesting 0 text = some 0) : IsOperand (head ++ ('(' :: (text ++ [')']))) where
  balanced := by
    have inner : nesting 1 text = some 1 := nesting_add balanced 1
    have opened : nesting 0 ('(' :: (text ++ [')'])) = nesting 1 (text ++ [')']) := rfl
    rw [nesting_append, balancedHead, Option.bind_some, opened, nesting_append, inner]
    rfl
  orsInside before after same := by
    rw [List.append_assoc] at same
    rcases List.append_eq_append_iff.mp same with ⟨inside, behind, ahead⟩ | ⟨inside, whole, behind⟩
    · cases inside with
      | nil => cases ahead
      | cons c inside =>
        obtain ⟨rfl, rest⟩ := List.cons.inj ahead
        -- Behind the beginning there is more than the last parenthesis.
        have longer := congrArg List.length rest
        simp at longer
        have front : inside <+: text :=
          List.prefix_of_prefix_length_le ⟨_, rest.symm⟩ (List.prefix_append text [')']) (by omega)
        obtain ⟨depth, nested⟩ := exists_nesting_of_prefix balanced front 1
        refine ⟨depth, ?_⟩
        rw [behind, nesting_append, balancedHead]
        exact nested
    · rcases List.append_eq_append_iff.mp behind with ⟨more, rfl, _⟩ | ⟨more, word, ahead⟩
      · exact absurd ⟨before, more, by rw [whole, List.append_assoc]⟩ orless
      · cases more with
        | nil => exact absurd ⟨before, [], by rw [whole, word]; simp⟩ orless
        | cons c more =>
          obtain ⟨rfl, _⟩ := List.cons.inj ahead
          have member : '(' ∈ " OR ".toList := by simp [word]
          exact absurd member (by decide)
  first := by
    cases head with
    | nil => simp
    | cons c rest => simpa using first
  last := by
    rw [← List.cons_append, ← List.append_assoc, List.getLast?_concat]
    decide

/-- An `OR` that does not lie within the first operand ends in the blank behind it. -/
theorem or_append_eq_append_and {inside after second : List Char}
    (same : " OR ".toList ++ after = inside ++ (" AND ".toList ++ second)) :
    (∃ more, inside = " OR ".toList ++ more) ∨ inside = " OR".toList := by
  match inside with
  | [] => simp at same
  | [a] => simp at same
  | [a, b] => simp at same
  | [a, b, c] =>
    simp at same
    obtain ⟨rfl, rfl, rfl, _⟩ := same
    exact .inr rfl
  | a :: b :: c :: d :: more =>
    simp at same
    obtain ⟨rfl, rfl, rfl, rfl, _⟩ := same
    exact .inl ⟨more, rfl⟩

/-- An `OR` that does not lie within the second operand begins with the blank in front of it. -/
theorem and_append_eq_append_or {inside after second : List Char}
    (same : " AND ".toList ++ second = inside ++ (" OR ".toList ++ after)) :
    (∃ more, inside = " AND ".toList ++ more ∧ second = more ++ " OR ".toList ++ after) ∨
      second = "OR ".toList ++ after := by
  match inside with
  | [] => simp at same
  | [a] => simp at same
  | [a, b] => simp at same
  | [a, b, c] => simp at same
  | [a, b, c, d] =>
    simp at same
    exact .inr same.2.2.2.2
  | a :: b :: c :: d :: e :: more =>
    simp at same
    obtain ⟨rfl, rfl, rfl, rfl, rfl, rest⟩ := same
    exact .inl ⟨more, rfl, by simpa using rest⟩

/-- A conjunction of operands is an operand. -/
theorem IsOperand.and {first second : List Char} (isOperand : IsOperand first)
    (isOperandSecond : IsOperand second) : IsOperand (first ++ " AND ".toList ++ second) where
  balanced := by
    rw [nesting_append, nesting_append, isOperand.balanced]
    exact isOperandSecond.balanced
  orsInside before after same := by
    rw [List.append_assoc, List.append_assoc] at same
    rcases List.append_eq_append_iff.mp same with ⟨inside, behind, ahead⟩ | ⟨inside, whole, behind⟩
    · rcases and_append_eq_append_or ahead with ⟨more, rfl, same⟩ | same
      · rw [behind, nesting_append, isOperand.balanced]
        exact isOperandSecond.orsInside more after same
      · exact absurd (by rw [same]; rfl) isOperandSecond.first
    · rcases or_append_eq_append_and behind with ⟨more, rfl⟩ | rfl
      · exact isOperand.orsInside before more (by rw [whole, List.append_assoc])
      · exact absurd (by rw [whole]; simp) isOperand.last
  first := by
    have notFirst := isOperand.first
    cases first with
    | nil => simp
    | cons c rest => simpa using notFirst
  last := by
    have notLast := isOperandSecond.last
    rw [List.getLast?_append]
    cases same : second.getLast? with
    | none => simp
    | some c => rwa [same] at notLast

/-- A conjunction of any number of operands is an operand. -/
theorem isOperand_allOf {fragments : List Fragment}
    (areOperands : ∀ fragment ∈ fragments, IsOperand fragment.condition.toList) :
    IsOperand (allOf fragments).condition.toList := by
  rw [allOf]
  induction fragments with
  | nil => exact ⟨isGrouped_of_orless rfl (by decide), by decide, by decide⟩
  | cons first rest ih =>
    obtain ⟨isOperand, areOperandsRest⟩ := List.forall_mem_cons.mp areOperands
    cases rest with
    | nil => rwa [joined_singleton]
    | cons second rest =>
      rw [joined_cons_cons, beside, String.toList_append, String.toList_append]
      exact isOperand.and (ih areOperandsRest)

/-- One of several operands is an operand. -/
theorem isOperand_anyOf {fragments : List Fragment}
    (areOperands : ∀ fragment ∈ fragments, IsOperand fragment.condition.toList) :
    IsOperand (anyOf fragments).condition.toList := by
  have balanced : nesting 0 (joined " OR " fragments).condition.toList = some 0 :=
    nesting_joined rfl fun fragment member => (areOperands fragment member).balanced
  have enclosed :
      IsOperand ([] ++ ('(' :: ((joined " OR " fragments).condition.toList ++ [')']))) :=
    isOperand_enclosed rfl (by decide) (by decide) balanced
  match fragments with
  | [] => exact enclosed
  | [only] => exact areOperands only List.mem_cons_self
  | first :: second :: rest =>
    rw [anyOf_cons_cons]
    simpa [String.toList_append] using enclosed

end Fragment

end ComicCatalogue
