import ComicCatalogue.Proofs.Search.Cut

/-!
# Lines of plain words

A line is structured if a directive is read from it, be it a malformed one. The first word that
begins like a directive is read as one, whatever becomes of the words behind it, so a line is
structured exactly if one of its words begins like a directive. All other lines are read as their
words, and so is the line of these words with single spaces between them.
-/

namespace ComicCatalogue.Search

open Unicode (isWhitespace words joinWords)

theorem opensBehind_true_iff {text : List Char} :
    opensBehind true text ↔ ∀ c ∈ text.getLast?, isWhitespace c := by
  cases same : text.getLast? <;> simp [opensBehind, same]

theorem isBreak_dropWhile (text : List Char) : IsBreak (text.dropWhile (!isWhitespace ·)) := by
  intro c first
  have ends := List.head?_dropWhile_not (!isWhitespace ·) text
  rw [Option.mem_def.mp first] at ends
  simpa using ends

/-- A text leaves no place for a directive if none of its words begins like one. -/
theorem isFree_iff_words {text : List Char} :
    IsFree true text [] ↔ ∀ word ∈ words text, ¬BeginsDirective word := by
  constructor
  · intro free word isWord begins
    obtain ⟨some, unbroken, before, after, rfl, opens, broken⟩ := Unicode.mem_words_iff.mp isWord
    refine free before (word ++ after) (by simp) (by simp [some])
      (opensBehind_true_iff.mpr opens) ?_
    rw [List.append_nil]
    exact begins.append after
  · intro plain before after same some opens begins
    -- The word that the directive begins in ends at the next white space.
    have split : after.takeWhile (!isWhitespace ·) ++ after.dropWhile (!isWhitespace ·) = after :=
      List.takeWhile_append_dropWhile
    have broken := isBreak_dropWhile after
    rw [List.append_nil, ← split] at begins
    have beginsWord := begins.of_append broken
    refine plain (after.takeWhile (!isWhitespace ·)) (Unicode.mem_words_iff.mpr ⟨?_, ?_, ?_⟩)
      beginsWord
    · intro empty
      rw [empty] at beginsWord
      exact not_beginsDirective_of_isBreak (by rintro c ⟨⟩) beginsWord
    · intro c inside
      simpa using List.mem_takeWhile_imp inside
    · refine ⟨before, _, ?_, opensBehind_true_iff.mp opens, broken⟩
      rw [List.append_assoc, split, same]

namespace Reading

variable {line : String}

/-- A line is structured unless it is one text without directives. -/
theorem isStructured_eq_false_iff :
    (ofLine line).isStructured = false ↔ IsFree true line.toList [] := by
  obtain ⟨cut, divides⟩ := Cut.exists_divides line
  rw [← Bool.not_eq_true, divides.isStructured_iff, not_not]
  constructor
  · intro none
    obtain ⟨lead, spans⟩ := cut
    obtain rfl : spans = [] := none
    obtain ⟨whole, isCut⟩ := divides
    cases isCut with
    | last free =>
      rw [Cut.text, Span.texts, List.flatMap_nil, List.append_nil] at whole
      exact whole ▸ free
  · intro free
    have alsoDivides : Cut.Divides ⟨line.toList, []⟩ line := ⟨List.append_nil _, .last free⟩
    rw [← divides.unique alsoDivides]

theorem isStructured_eq_false_iff_words :
    (ofLine line).isStructured = false ↔ ∀ word ∈ words line.toList, ¬BeginsDirective word :=
  isStructured_eq_false_iff.trans isFree_iff_words

/-- A line without directives is read as its words. -/
theorem ofLine_of_isFree (free : IsFree true line.toList []) :
    ofLine line = ⟨[], 0, String.ofList (joinWords (words line.toList))⟩ := by
  have read := itemsFrom_of_isFree free
  rw [itemsFrom_nil, List.append_nil, List.append_nil] at read
  rw [ofLine, items, read, filterMap_content?_plain, countP_isMalformed_plain, map_leftOver_plain]

/-- A line is structured if one of its words begins like a directive. If none does, what is left of
the line is its words with single spaces between them, and nothing changes when that is read. -/
theorem isStructured_iff_exists_word (line : String) :
    ((ofLine line).isStructured ↔ ∃ word ∈ words line.toList, BeginsDirective word) ∧
      ((ofLine line).isStructured = false →
        (ofLine line).remainder = String.ofList (joinWords (words line.toList)) ∧
          (ofLine (ofLine line).remainder).remainder = (ofLine line).remainder ∧
          (ofLine (ofLine line).remainder).isStructured = false) := by
  constructor
  · rw [← not_iff_not, Bool.not_eq_true, isStructured_eq_false_iff_words]
    push Not
    rfl
  · intro plain
    have read := ofLine_of_isFree (isStructured_eq_false_iff.mp plain)
    have sameWords : words (ofLine line).remainder.toList = words line.toList := by
      rw [read, String.toList_ofList, Unicode.words_joinWords]
    have again : IsFree true (ofLine line).remainder.toList [] := by
      rw [isFree_iff_words, sameWords]
      exact isStructured_eq_false_iff_words.mp plain
    refine ⟨by rw [read], ?_, isStructured_eq_false_iff.mpr again⟩
    rw [ofLine_of_isFree again, sameWords, read]

/-- Fields that there are not begin no directive. -/
theorem isStructured_iff_exists_word_unknown :
    (ofLine "author:foo  tags:bar").isStructured = false ∧
      (ofLine "author:foo  tags:bar").remainder = "author:foo tags:bar" ∧
      (ofLine "author:foo tags:bar").isStructured = false := by
  have plain : (ofLine "author:foo  tags:bar").isStructured = false := by decide +kernel
  have words : String.ofList (joinWords (words "author:foo  tags:bar".toList)) =
      "author:foo tags:bar" := by decide +kernel
  obtain ⟨left, -, again⟩ := (isStructured_iff_exists_word "author:foo  tags:bar").2 plain
  rw [left, words] at again
  exact ⟨plain, left.trans words, again⟩

end Reading

end ComicCatalogue.Search
