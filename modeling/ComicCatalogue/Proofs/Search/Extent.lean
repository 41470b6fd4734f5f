import ComicCatalogue.Proofs.Search.Line

/-!
# How far a directive reaches

A reader takes something off the front of a text and leaves the rest of it. A value is a token, a
closed phrase, or what is left of a phrase that is never closed, and `readValue_cases` says which;
`exists_of_readDirective?` says what is read of a directive and in which order. A line is read by
`itemsFrom_induction`: one character or one directive at a time.
-/

namespace ComicCatalogue.Search

open Unicode (isWhitespace)

variable {text rest : List Char}

/-- Whether a text begins like a directive. -/
def BeginsDirective (text : List Char) : Prop :=
  ∃ field, ∃ heading : Heading field, heading.text <+: text

theorem BeginsDirective.append (begins : BeginsDirective text) (rest : List Char) :
    BeginsDirective (text ++ rest) := by
  obtain ⟨field, heading, inFront⟩ := begins
  exact ⟨field, heading, inFront.trans (List.prefix_append text rest)⟩

/-- A heading does not reach over white space. -/
theorem BeginsDirective.of_append (begins : BeginsDirective (text ++ rest))
    (broken : IsBreak rest) : BeginsDirective text := by
  obtain ⟨field, heading, inFront⟩ := begins
  exact ⟨field, heading, heading.isPrefix_of_append broken inFront⟩

theorem not_beginsDirective_of_isBreak (broken : IsBreak text) : ¬BeginsDirective text := by
  intro begins
  rw [← List.nil_append text] at begins
  obtain ⟨field, heading, inFront⟩ := begins.of_append broken
  exact heading.text_ne_nil (List.prefix_nil.mp inFront)

/-- A directive, well formed or not, is read wherever a text begins like one, and nowhere else. -/
theorem isSome_readDirective?_iff : (readDirective? text).isSome ↔ BeginsDirective text := by
  constructor
  · intro some
    cases found : readHead? text with
    | none => simp [readDirective?, found] at some
    | some read =>
      obtain ⟨heading, same, -⟩ := Heading.exists_of_readHead? found
      exact ⟨_, heading, same ▸ List.prefix_append _ _⟩
  · rintro ⟨field, heading, behind, rfl⟩
    simp [readDirective?, heading.readHead?_text]

theorem readDirective?_eq_none_iff : readDirective? text = none ↔ ¬BeginsDirective text := by
  rw [← isSome_readDirective?_iff, Option.not_isSome_iff_eq_none]

/-! ### Values -/

theorem readValue_of_bare (unquoted : '"' ∉ text.head?) :
    readValue text = (text.takeWhile isTokenChar, text.dropWhile isTokenChar) := by
  unfold readValue
  split
  · exact absurd rfl unquoted
  · rfl

theorem readValue_of_closed {phrase : List Char} (closed : '"' ∉ phrase) (rest : List Char) :
    readValue ('"' :: (phrase ++ '"' :: rest)) = (phrase, rest) := by
  have inside : ∀ c ∈ phrase, (c != '"') = true := fun c member =>
    bne_iff_ne.mpr (ne_of_mem_of_not_mem member closed)
  have ends : ∀ c ∈ ('"' :: rest).head?, (c != '"') = false := by simp
  simp only [readValue, takeWhile_append ends inside, dropWhile_append ends inside]

theorem readValue_of_open {quoted : List Char} (unclosed : '"' ∉ quoted) :
    readValue ('"' :: quoted) =
      (quoted.takeWhile (!isWhitespace ·), quoted.dropWhile (!isWhitespace ·)) := by
  have inside : ∀ c ∈ quoted, (c != '"') = true := fun c member =>
    bne_iff_ne.mpr (ne_of_mem_of_not_mem member unclosed)
  simp only [readValue, List.dropWhile_eq_nil_iff.mpr inside]

/-- The value in front of a text is a token, a phrase, or the beginning of a phrase without end. -/
theorem readValue_cases (text : List Char) :
    '"' ∉ text.head? ∨
      (∃ phrase rest, '"' ∉ phrase ∧ text = '"' :: (phrase ++ '"' :: rest)) ∨
      ∃ quoted, '"' ∉ quoted ∧ text = '"' :: quoted := by
  by_cases quote : '"' ∈ text.head?
  · obtain ⟨quoted, rfl⟩ := List.head?_eq_some_iff.mp quote
    right
    by_cases closed : '"' ∈ quoted
    · obtain ⟨phrase, rest, rfl, before⟩ := List.eq_append_cons_of_mem closed
      exact .inl ⟨phrase, rest, before, rfl⟩
    · exact .inr ⟨quoted, closed, rfl⟩
  · exact .inl quote

/-- A value is a part of the text, and behind it the text goes on. -/
theorem isInfix_of_readValue {value : List Char} (read : readValue text = (value, rest)) :
    value <:+: text ∧ rest <:+ text := by
  rcases readValue_cases text with
    unquoted | ⟨phrase, behind, closed, rfl⟩ | ⟨quoted, unclosed, rfl⟩
  · rw [readValue_of_bare unquoted] at read
    cases read
    exact ⟨(List.takeWhile_prefix _).isInfix, List.dropWhile_suffix _⟩
  · rw [readValue_of_closed closed] at read
    cases read
    exact ⟨⟨['"'], '"' :: rest, by simp⟩, ⟨'"' :: (value ++ ['"']), by simp⟩⟩
  · rw [readValue_of_open unclosed] at read
    cases read
    exact ⟨(List.takeWhile_prefix _).isInfix.trans (List.suffix_cons _ _).isInfix,
      (List.dropWhile_suffix _).trans (List.suffix_cons _ _)⟩

/-- Values are read one by one, until no comma follows. -/
@[elab_as_elim]
theorem readValues_induction {motive : List Char → Prop}
    (comma : ∀ text value rest, readValue text = (value, ',' :: rest) → motive rest → motive text)
    (last : ∀ text value rest, readValue text = (value, rest) → ',' ∉ rest.head? → motive text)
    (text : List Char) : motive text := by
  induction text using readValues.induct with
  | case1 text rest same shorter values behind read ih =>
    exact comma text _ rest (Prod.ext rfl same) ih
  | case2 text noComma =>
    refine last text _ _ rfl fun first => ?_
    obtain ⟨rest, same⟩ := List.head?_eq_some_iff.mp first
    exact noComma rest same

theorem readValues_suffix (text : List Char) : (readValues text).2 <:+ text := by
  induction text using readValues_induction with
  | comma text value rest read ih =>
    rw [readValues_of_comma read]
    exact ih.trans ((List.suffix_cons _ _).trans (isInfix_of_readValue read).2)
  | last text value rest read ends =>
    rw [readValues_of_no_comma read ends]
    exact (isInfix_of_readValue read).2

/-! ### Directives -/

theorem Head.readComparison_suffix (head : Head) (text : List Char) :
    (head.readComparison text).2 <:+ text := by
  unfold Head.readComparison Search.readComparison
  split
  · split
    · exact ⟨['<', '='], rfl⟩
    · exact ⟨['>', '='], rfl⟩
    · exact ⟨['<'], rfl⟩
    · exact ⟨['>'], rfl⟩
    · exact List.suffix_refl text
  · exact List.suffix_refl text

/-- What is read as a directive begins with a heading, and values follow. -/
theorem exists_of_readDirective? {content : Option Directive}
    (read : readDirective? text = some (content, rest)) :
    ∃ field, ∃ heading : Heading field, ∃ behind, text = heading.text ++ behind ∧
      content = heading.head.directive? (heading.head.readComparison behind).1
        (readValues (heading.head.readComparison behind).2).1 ∧
      rest = (readValues (heading.head.readComparison behind).2).2 := by
  obtain ⟨field, heading, behind, rfl⟩ := isSome_readDirective?_iff.mp (read ▸ Option.isSome_some)
  rw [heading.readDirective?_text] at read
  simp only [Option.some.injEq, Prod.mk.injEq] at read
  exact ⟨field, heading, behind, rfl, read.1.symm, read.2.symm⟩

/-- A directive is taken off the front of a text, its heading first. -/
theorem exists_source_of_readDirective? {content : Option Directive}
    (read : readDirective? text = some (content, rest)) :
    ∃ source, text = source ++ rest ∧ BeginsDirective source := by
  obtain ⟨field, heading, behind, rfl, -, rfl⟩ := exists_of_readDirective? read
  obtain ⟨taken, same⟩ :=
    (readValues_suffix _).trans (heading.head.readComparison_suffix behind)
  refine ⟨heading.text ++ taken, ?_, field, heading, List.prefix_append _ _⟩
  rw [List.append_assoc, same]

/-! ### Lines -/

/-- A line is read character by character, except where a directive is read as a whole. -/
@[elab_as_elim]
theorem itemsFrom_induction {motive : Bool → List Char → Prop}
    (nil : ∀ atBoundary, motive atBoundary [])
    (directive : ∀ source content rest,
      readDirective? (source ++ rest) = some (content, rest) → BeginsDirective source →
        motive false rest → motive true (source ++ rest))
    (plain : ∀ (atBoundary : Bool) c rest, (atBoundary → ¬BeginsDirective (c :: rest)) →
      motive (isWhitespace c) rest → motive atBoundary (c :: rest))
    (atBoundary : Bool) (text : List Char) : motive atBoundary text := by
  induction atBoundary, text using itemsFrom.induct with
  | case1 atBoundary => exact nil atBoundary
  | case2 atBoundary c rest content behind found shorter ih =>
    cases atBoundary with
    | false => cases found
    | true =>
      rw [dif_pos rfl] at found
      obtain ⟨source, same, begins⟩ := exists_source_of_readDirective? found
      rw [same] at found ⊢
      exact directive source content behind found begins ih
  | case3 atBoundary c rest none ih =>
    refine plain atBoundary c rest (fun start => ?_) ih
    rw [dif_pos start] at none
    exact readDirective?_eq_none_iff.mp none

end ComicCatalogue.Search
