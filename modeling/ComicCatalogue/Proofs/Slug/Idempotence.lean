import ComicCatalogue.Proofs.Slug.Edges
import ComicCatalogue.Proofs.Slug.Plain
import ComicCatalogue.Proofs.Unicode.Tables

/-!
# Slugs are their own slugs

The words of a slug are plain: the lower case of a letter or digit that is neither a mark nor
decomposes is again such a letter or digit. So folding a slug once more changes nothing.
-/

namespace ComicCatalogue.Slug

open Unicode

/-- A code point of a letter or digit that does not decompose and is no mark. -/
def isSimple (n : Nat) : Bool :=
  Decomposition.ofCodePoint n == [n] && Alphanumeric.table.contains n && !Mark.table.contains n

/-- Whether the letters of a run that are simple have simple ones in lower case. -/
def keepsSimple : Nat × Nat × Nat × Nat → Bool
  | (first, last, step, target) =>
    (List.range (last - first + 1)).all fun offset =>
      offset % step != 0 || isSimple (target + offset) || !isSimple (first + offset)

/-- The letters and digits among the characters that do not decompose. -/
def wholeLetterBits : Nat := alphanumericBits &&& Decomposition.wholeBits

theorem isSimple_of_testBit {n : Nat} (inside : wholeLetterBits.testBit n)
    (unmarked : markBits.testBit n = false) : isSimple n := by
  rw [wholeLetterBits, Nat.testBit_and, Bool.and_eq_true] at inside
  obtain ⟨letter, stays⟩ := inside
  have whole := (Decomposition.isWhole_iff.mp (Decomposition.isWhole_of_testBit stays)).2
  simp [isSimple, whole, contains_alphanumeric_eq_testBit, letter, contains_mark_eq_testBit,
    unmarked]

/-- Whether the letters of a run that are simple have lower case in the sets of simple letters. -/
def keepsWholeLetters : Nat × Nat × Nat × Nat → Bool
  | (first, last, step, target) =>
    (List.range (last - first + 1)).all fun offset =>
      offset % step != 0 ||
        (wholeLetterBits.testBit (target + offset) && !markBits.testBit (target + offset)) ||
        !isSimple (first + offset)

theorem keepsWholeLetters_runs : LowercaseTable.runs.all keepsWholeLetters = true := by
  decide +kernel

theorem keepsSimple_runs : LowercaseTable.runs.all keepsSimple = true := by
  rw [List.all_eq_true]
  rintro ⟨first, last, step, target⟩ isRun
  have kept := List.all_eq_true.mp keepsWholeLetters_runs _ isRun
  refine List.all_eq_true.mpr fun offset onRun => ?_
  have here := List.all_eq_true.mp kept offset onRun
  simp only [Bool.or_eq_true, Bool.and_eq_true, Bool.not_eq_true'] at here ⊢
  rcases here with (offStep | ⟨letter, unmarked⟩) | other
  · exact .inl (.inl offStep)
  · exact .inl (.inr (isSimple_of_testBit letter unmarked))
  · exact .inr other

theorem isSimple_lowercaseCodePoint {n : Nat} (simple : isSimple n) :
    isSimple (lowercaseCodePoint n) := by
  by_cases same : lowercaseCodePoint n = n
  · exact same.symm ▸ simple
  · obtain ⟨first, last, step, target, isRun, onRun, onStep, place, moved⟩ :=
      exists_run_of_lowercaseCodePoint_ne same
    have kept := List.all_eq_true.mp (List.all_eq_true.mp keepsSimple_runs _ isRun) _ onRun
    rw [onStep, bne_self_eq_false, Bool.false_or, ← place, simple, Bool.not_true,
      Bool.or_false] at kept
    exact moved ▸ kept

/-- Symbols and punctuation are no letters, and the capital letter with a dot decomposes. -/
theorem not_isSimple_facts :
    (∀ reading ∈ symbolReadings, isAlphanumeric reading.1 = false) ∧
      (isAlphanumeric ',' = false ∧ isAlphanumeric '"' = false) ∧ isSimple 0x130 = false := by
  decide +kernel

theorem not_isAlphanumeric_symbols :
    ∀ reading ∈ symbolReadings, isAlphanumeric reading.1 = false :=
  not_isSimple_facts.1

/-- No letter or digit is read as something else. -/
theorem readSymbol_of_isAlphanumeric {c : Char} (letter : isAlphanumeric c) :
    readSymbol c = [c] := by
  have none : symbolReadings.lookup c = none := by
    rw [List.lookup_eq_none_iff]
    intro reading member
    rw [bne_iff_ne]
    rintro rfl
    rw [not_isAlphanumeric_symbols reading member] at letter
    cases letter
  rw [readSymbol, none, Option.getD_none]

theorem isPlain_of_isSimple {c : Char} (simple : isSimple c.toNat) (lower : lowercaseChar c = [c]) :
    IsPlain c := by
  simp only [isSimple, Bool.and_eq_true, Bool.not_eq_true', beq_iff_eq] at simple
  obtain ⟨⟨whole, letter⟩, unmarked⟩ := simple
  refine ⟨letter, unmarked, lower, readSymbol_of_isAlphanumeric letter, ?_⟩
  rw [decomposeChar, whole, List.map_singleton, Char.ofNat_toNat]

/-- The lower case of a simple letter is plain. -/
theorem isPlain_of_mem_lowercaseChar {c d : Char} (simple : isSimple c.toNat)
    (member : d ∈ lowercaseChar c) : IsPlain d := by
  have lower := lowercaseChar_of_mem_lowercaseChar member
  refine isPlain_of_isSimple ?_ lower
  rcases mem_lowercaseChar member with ⟨dotted, -⟩ | ⟨-, value⟩
  · rw [dotted, not_isSimple_facts.2.2] at simple
    cases simple
  · exact value ▸ isSimple_lowercaseCodePoint simple

theorem isPlain_of_mem_wordsOf {text word : List Char} {c : Char} (isWord : word ∈ wordsOf text)
    (inside : c ∈ word) : IsPlain c := by
  obtain ⟨run, isRun, rfl⟩ := List.mem_map.mp isWord
  obtain ⟨letter, inRun, lower⟩ := List.mem_flatMap.mp inside
  obtain ⟨decomposed, unmarked⟩ := List.mem_filter.mp (mem_of_mem_runs isRun inRun)
  have isLetter : isAlphanumeric letter := of_mem_runs isRun inRun
  have whole := ofCodePoint_of_mem_decompose decomposed
  rw [isAlphanumeric] at isLetter
  rw [isMark] at unmarked
  refine isPlain_of_mem_lowercaseChar ?_ lower
  rw [isSimple, whole, beq_self_eq_true, isLetter, unmarked]
  rfl

/-- The words of a slug are plain. -/
theorem forall_mem_wordsOf (text : List Char) :
    ∀ word ∈ wordsOf text, word ≠ [] ∧ ∀ c ∈ word, IsPlain c :=
  fun _ isWord => ⟨ne_nil_of_mem_wordsOf isWord, fun _ => isPlain_of_mem_wordsOf isWord⟩

theorem mem_ofChars {text : List Char} {c : Char} (member : c ∈ ofChars text) :
    c = '-' ∨ IsPlain c := by
  rcases mem_intercalate member with hyphen | ⟨word, isWord, inside⟩
  · exact .inl (List.mem_singleton.mp hyphen)
  · exact .inr (isPlain_of_mem_wordsOf isWord inside)

/-- White space is no plain character, since no letter or digit comes out of it. -/
theorem IsPlain.isWhitespace_eq_false {c : Char} (isPlain : IsPlain c) :
    isWhitespace c = false := by
  by_contra blank
  have facts := not_isAlphanumeric_whitespace c.toNat
    (mem_whitespaceCodePoints (eq_true_of_ne_false blank))
  rw [Char.ofNat_toNat, isPlain.unread, decompose, List.flatMap_singleton, isPlain.whole,
    List.all_cons, isPlain.letter] at facts
  cases facts

theorem not_isAlphanumeric_comma_quote :
    isAlphanumeric ',' = false ∧ isAlphanumeric '"' = false :=
  not_isSimple_facts.2.1

theorem IsPlain.ne_of_not_isAlphanumeric {c d : Char} (isPlain : IsPlain c)
    (fails : isAlphanumeric d = false) : c ≠ d := by
  rintro rfl
  rw [isPlain.letter] at fails
  cases fails

theorem ofChars_ofChars (text : List Char) : ofChars (ofChars text) = ofChars text := by
  rw [ofChars_eq text, ofChars_intercalate (forall_mem_wordsOf text)]

/-- The words of a slug are its runs of letters and digits. -/
theorem runs_ofChars (text : List Char) : runs isAlphanumeric (ofChars text) = wordsOf text := by
  refine runs_intercalate not_isAlphanumeric_hyphen fun word isWord => ?_
  obtain ⟨some, arePlain⟩ := forall_mem_wordsOf text word isWord
  exact ⟨some, fun c inside => (arePlain c inside).letter⟩

/-- The slug of a slug is the slug itself. -/
theorem ofText_ofText (text : String) : ofText (ofText text) = ofText text := by
  rw [ofText, ofText, String.toList_ofList, ofChars_ofChars]

end ComicCatalogue.Slug
