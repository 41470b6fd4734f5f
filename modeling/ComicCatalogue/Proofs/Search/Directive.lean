import ComicCatalogue.Proofs.Search.Values

/-!
# Reading directives

A written directive is read as what it says where white space or the end of the line follows, and
nothing is read as a directive from a word that does not begin like one.
-/

namespace ComicCatalogue.Search

open Unicode (isWhitespace)

theorem readComparison_append {comparison : Comparison} {rest : List Char}
    (other : ∀ c ∈ rest.head?, c ∉ ['<', '>', '=']) :
    readComparison (comparisonText comparison ++ rest) = (comparison, rest) := by
  cases rest with
  | nil => cases comparison <;> rfl
  | cons c rest =>
    have : ¬c = '<' ∧ ¬c = '>' ∧ ¬c = '=' := by simpa using other c rfl
    cases comparison <;> simp [comparisonText, readComparison, this]

namespace Heading

theorem directive?_taxonomy {which : Taxonomy} (heading : Heading (.taxonomy which))
    {comparison : Comparison} {values : List String} (some : values ≠ []) :
    heading.head.directive? comparison values =
      Option.some (.taxonomy which ⟨heading.mode, heading.star⟩ values) := by
  obtain ⟨hyphen, _, _, sign, _⟩ := heading
  obtain ⟨value, more, rfl⟩ := List.exists_cons_of_ne_nil some
  cases hyphen <;> cases sign <;> rfl

theorem directive?_title (heading : Heading .title) {comparison : Comparison}
    {values : List String} (some : values ≠ []) :
    heading.head.directive? comparison values = Option.some (.title heading.star values) := by
  obtain ⟨value, more, rfl⟩ := List.exists_cons_of_ne_nil some
  rfl

theorem directive?_pages (heading : Heading .pages) (comparison : Comparison) (count : Count) :
    heading.head.directive? comparison [String.ofList count.text] =
      some (.pages comparison count.number) := by
  have positive : 0 < count.number := count.positive
  simp [Head.directive?, head, count.readCount?_text, positive]

theorem isWhitespace_of_isAlpha {c : Char} (alpha : c.isAlpha) : isWhitespace c = false := by
  have code : 65 ≤ c.toNat ∧ c.toNat ≤ 90 ∨ 97 ≤ c.toNat ∧ c.toNat ≤ 122 := by
    rcases Bool.or_eq_true_iff.mp alpha with upper | lower
    · exact .inl (of_decide_eq_true upper)
    · obtain ⟨first, last⟩ := Bool.and_eq_true_iff.mp lower
      exact .inr ⟨of_decide_eq_true first, of_decide_eq_true last⟩
  simp only [isWhitespace, Unicode.whitespaceRanges, List.any_cons, List.any_nil,
    Bool.or_eq_false_iff, decide_eq_false_iff_not, not_and, and_true]
  omega

theorem isWhitespace_of_mem_text {field : Field} (heading : Heading field) :
    ∀ c ∈ heading.text, isWhitespace c = false := by
  have modifiers : ∀ (sign : Sign) (star : Bool),
      (sign.text ++ ((if star then ['*'] else []) ++ [':'])).any isWhitespace = false := by
    intro sign star
    cases sign <;> cases star <;> decide
  intro c member
  have split := heading.text_append []
  rw [List.append_nil, List.append_nil] at split
  rw [split, List.mem_append, List.mem_append] at member
  rcases member with hyphen | name | behind
  · have same : c = '-' := by
      cases there : heading.hyphen <;> simp_all
    rw [same]
    decide
  · exact isWhitespace_of_isAlpha (heading.isAlpha_of_mem_name c name)
  · exact Bool.of_not_eq_true
      (List.any_eq_false.mp (modifiers heading.sign heading.star) c behind)

theorem text_ne_nil {field : Field} (heading : Heading field) : heading.text ≠ [] := by
  simp [text]

/-- A heading does not reach over white space. -/
theorem isPrefix_of_append {field : Field} (heading : Heading field) {text rest : List Char}
    (broken : IsBreak rest) (inFront : heading.text <+: text ++ rest) : heading.text <+: text := by
  rcases List.prefix_or_prefix_of_prefix inFront (List.prefix_append text rest) with
    within | ⟨more, grown⟩
  · exact within
  · cases more with
    | nil => exact ⟨[], by simpa using grown.symm⟩
    | cons c more =>
      obtain ⟨behind, same⟩ := inFront
      rw [← grown, List.append_assoc] at same
      have blank := broken c (by simp [← List.append_cancel_left same])
      have solid := heading.isWhitespace_of_mem_text c (by simp [← grown])
      simp [blank] at solid

end Heading

/-- The comparison in front of the values of a directive. Only pages have one. -/
def Head.readComparison (head : Head) (text : List Char) : Comparison × List Char :=
  if head.field = .pages then Search.readComparison text else (.equal, text)

theorem Heading.readComparison_of_ne {field : Field} (heading : Heading field)
    (noComparison : field ≠ .pages) (text : List Char) :
    heading.head.readComparison text = (.equal, text) :=
  if_neg noComparison

/-- A directive is a heading, a comparison and values. -/
theorem Heading.readDirective?_text {field : Field} (heading : Heading field)
    (text : List Char) :
    readDirective? (heading.text ++ text) =
      some (heading.head.directive? (heading.head.readComparison text).1
          (readValues (heading.head.readComparison text).2).1,
        (readValues (heading.head.readComparison text).2).2) := by
  simp only [readDirective?, heading.readHead?_text, Head.readComparison]

namespace Written

/-- A written directive is read as what it says. -/
theorem readDirective?_text (written : Written) {rest : List Char} (broken : IsBreak rest) :
    readDirective? (written.text ++ rest) = some (some written.directive, rest) := by
  cases written with
  | taxonomy which heading values some =>
    have read := Value.readValues_texts (Value.ne_nil_of_contents some) broken
    have compared := heading.readComparison_of_ne (by simp) (Value.texts values ++ rest)
    rw [text, List.append_assoc, heading.readDirective?_text, compared]
    simp only
    rw [read, heading.directive?_taxonomy some, directive]
  | title heading values some =>
    have read := Value.readValues_texts (Value.ne_nil_of_contents some) broken
    have compared := heading.readComparison_of_ne (by simp) (Value.texts values ++ rest)
    rw [text, List.append_assoc, heading.readDirective?_text, compared]
    simp only
    rw [read, heading.directive?_title some, directive]
  | pages heading comparison values count only =>
    have some : values ≠ [] := Value.ne_nil_of_contents (by simp [only])
    have read := Value.readValues_texts some broken
    have compared : heading.head.readComparison
        (comparisonText comparison ++ (Value.texts values ++ rest)) =
          (comparison, Value.texts values ++ rest) := by
      have signs : ∀ c ∈ ['<', '>', '='],
          isWhitespace c = false ∧ c.isDigit = false ∧ c ≠ '"' ∧ c ≠ ',' ∧ c ≠ '+' := by
        rw [List.forall_mem_cons, List.forall_mem_cons, List.forall_mem_singleton]
        decide
      refine (if_pos rfl).trans (readComparison_append ?_)
      intro c first sign
      obtain ⟨notBlank, notDigit, notQuote, notComma, notPlus⟩ := signs c sign
      rcases Value.of_mem_head?_texts some broken first with quote | comma | blank | content
      · exact notQuote quote
      · exact notComma comma
      · simp [blank] at notBlank
      · obtain ⟨content, member, inside⟩ := content
        rw [only, List.mem_singleton] at member
        rw [member, String.toList_ofList] at inside
        rcases count.of_mem_text inside with plus | digit
        · exact notPlus plus
        · simp [digit] at notDigit
    rw [text, List.append_assoc, List.append_assoc, heading.readDirective?_text, compared]
    simp only
    rw [read, only, heading.directive?_pages, directive]

end Written

/-- No directive is read from a word that does not begin with a heading, nor where no word is. -/
theorem readDirective?_eq_none (text : List Char) {rest : List Char} (broken : IsBreak rest)
    (plain : ∀ field (heading : Heading field), ¬heading.text <+: text) :
    readDirective? (text ++ rest) = none := by
  have noHead : readHead? (text ++ rest) = none := by
    cases found : readHead? (text ++ rest) with
    | none => rfl
    | some read =>
      obtain ⟨head, behind⟩ := read
      obtain ⟨heading, same, -⟩ := Heading.exists_of_readHead? found
      have inLine : heading.text <+: text ++ rest := ⟨behind, same.symm⟩
      exact absurd (heading.isPrefix_of_append broken inLine) (plain _ heading)
  rw [readDirective?, noHead]

end ComicCatalogue.Search
