import Mathlib.Data.List.DropRight
import ComicCatalogue.Proofs.Unicode.Context
import ComicCatalogue.Unicode.Words

/-!
# White space at the edges

White space is neither cased nor skipped when the surroundings of a letter are read, so it keeps the
words on its two sides apart. Trimming takes white space off the two ends of a text, once and for
all, and does not change the lower case of the rest. A trimmed text is trimmed in lower case too.
-/

namespace ComicCatalogue.Unicode

variable {text : List Char} {c : Char}

/-- The code points of white space. -/
def whitespaceCodePoints : List Nat :=
  whitespaceRanges.flatMap fun (first, last) => List.range' first (last + 1 - first)

theorem mem_whitespaceCodePoints (blank : isWhitespace c) : c.toNat ∈ whitespaceCodePoints := by
  obtain ⟨⟨first, last⟩, range, inside⟩ := List.any_eq_true.mp blank
  simp only [decide_eq_true_eq] at inside
  refine List.mem_flatMap.mpr ⟨(first, last), range, ?_⟩
  rw [List.mem_range'_1]
  omega

/-- White space is its own lower case and no part of a word, and no run of the table of lower case
letters leads to it. -/
theorem whitespace_facts : ∀ n ∈ whitespaceCodePoints,
    CaseIgnorable.table.contains n = false ∧ Cased.table.contains n = false ∧
      (lowercaseCodePoint n = n ∧ n ≠ 0x130) ∧
        LowercaseTable.runs.all fun (first, last, _, target) =>
          decide (n < target ∨ target + (last - first) < n) := by
  decide +kernel

theorem isCaseIgnorable_of_isWhitespace (blank : isWhitespace c) : isCaseIgnorable c = false :=
  (whitespace_facts _ (mem_whitespaceCodePoints blank)).1

theorem isCased_of_isWhitespace (blank : isWhitespace c) : isCased c = false :=
  (whitespace_facts _ (mem_whitespaceCodePoints blank)).2.1

theorem lowercaseChar_of_isWhitespace (blank : isWhitespace c) : lowercaseChar c = [c] := by
  obtain ⟨same, other⟩ := (whitespace_facts _ (mem_whitespaceCodePoints blank)).2.2.1
  rw [lowercaseChar, if_neg other, same, Char.ofNat_toNat]

theorem lowercaseAfter_of_blank {afterCased : Bool} (blank : ∀ c ∈ text, isWhitespace c) :
    lowercaseAfter afterCased text = text :=
  lowercaseAfter_eq_self (fun c member => lowercaseChar_of_isWhitespace (blank c member)) afterCased

/-- Behind white space a text is read as at the beginning. -/
theorem endsCased_of_blank (blank : ∀ c ∈ text, isWhitespace c) : endsCased text = false := by
  induction text using List.reverseRecOn with
  | nil => rfl
  | append_singleton rest c =>
    have last := blank c (List.mem_append_right _ List.mem_cons_self)
    rw [endsCased_concat, isCaseIgnorable_of_isWhitespace last, if_neg Bool.false_ne_true,
      isCased_of_isWhitespace last]

/-- In front of white space a text is read as at the end. -/
theorem startsCased_append_of_blank {back : List Char} (blank : ∀ c ∈ back, isWhitespace c) :
    startsCased (text ++ back) = startsCased text := by
  refine startsCased_append_of_eq_false ?_ text
  cases back with
  | nil => rfl
  | cons c back =>
    have first := blank c List.mem_cons_self
    simp [startsCased, isCaseIgnorable_of_isWhitespace first, isCased_of_isWhitespace first]

theorem sigmasAgree_of_blank {back : List Char} (blank : ∀ c ∈ back, isWhitespace c) :
    SigmasAgree text [] back [] [] := by
  intro left right _
  rw [endsWord, endsWord, List.append_nil, startsCased_append_of_blank blank]

/-- White space around a text leaves its lower case as it is. -/
theorem lowercase_append_of_blank {front back : List Char} (blank : ∀ c ∈ front, isWhitespace c)
    (blankBehind : ∀ c ∈ back, isWhitespace c) :
    lowercase (front ++ text ++ back) = front ++ lowercase text ++ back := by
  have behindFront (rest : List Char) : lowercase (front ++ rest) = front ++ lowercase rest := by
    have agree : SigmasAgree front [] rest [] [] := fun left right same =>
      absurd (blank capitalSigma (by simp [same])) (by decide)
    have split := lowercaseAfter_append_of_sigmasAgree agree
    rw [List.nil_append, endsCased_of_blank blank] at split
    exact split.trans (congrArg (· ++ lowercase rest) (lowercaseAfter_of_blank blank))
  have agree : SigmasAgree text [] back [] [] := sigmasAgree_of_blank blankBehind
  have split := lowercaseAfter_append_of_sigmasAgree agree
  rw [lowercaseAfter_of_blank blankBehind] at split
  rw [List.append_assoc, behindFront, List.append_assoc]
  exact congrArg (front ++ ·) split

theorem trim_eq_rdropWhile (text : List Char) :
    trim text = (text.dropWhile isWhitespace).rdropWhile isWhitespace := rfl

/-- A text is its trimmed self between white space. -/
theorem exists_append_trim (text : List Char) :
    ∃ front back, (∀ c ∈ front, isWhitespace c) ∧ (∀ c ∈ back, isWhitespace c) ∧
      text = front ++ trim text ++ back := by
  refine ⟨text.takeWhile isWhitespace, (text.dropWhile isWhitespace).rtakeWhile isWhitespace,
    fun c => List.mem_takeWhile_imp, fun c => List.mem_rtakeWhile_imp, ?_⟩
  rw [List.append_assoc, trim_eq_rdropWhile, List.rdropWhile_append_rtakeWhile,
    List.takeWhile_append_dropWhile]

theorem trim_trim (text : List Char) : trim (trim text) = trim text := by
  have front : (trim text).dropWhile isWhitespace = trim text := by
    cases trimmed : trim text with
    | nil => rfl
    | cons c rest =>
      -- The first character is that of the text behind its leading white space.
      obtain ⟨more, same⟩ := List.rdropWhile_prefix isWhitespace (text.dropWhile isWhitespace)
      rw [← trim_eq_rdropWhile, trimmed, List.cons_append] at same
      have notBlank :=
        List.head_dropWhile_not isWhitespace (same ▸ List.cons_ne_nil c (rest ++ more))
      simp only [← same, List.head_cons] at notBlank
      rw [List.dropWhile_cons_of_neg (by simpa using notBlank)]
  rw [trim_eq_rdropWhile (trim text), front, trim_eq_rdropWhile text, List.rdropWhile_idempotent]

/-- Trimming leaves a text as it is if no white space is at its ends. -/
theorem trim_eq_self_iff : trim text = text ↔
    (∀ c ∈ text.head?, isWhitespace c = false) ∧ ∀ c ∈ text.getLast?, isWhitespace c = false := by
  have front : text.dropWhile isWhitespace = text ↔ ∀ c ∈ text.head?, isWhitespace c = false := by
    cases text with
    | nil => simp
    | cons c rest => simp [List.dropWhile_eq_self_iff]
  have back : text.rdropWhile isWhitespace = text ↔
      ∀ c ∈ text.getLast?, isWhitespace c = false := by
    rw [List.rdropWhile_eq_self_iff]
    cases text with
    | nil => simp
    | cons c rest => simp [List.getLast?_eq_some_getLast (List.cons_ne_nil c rest)]
  rw [← front, ← back, trim_eq_rdropWhile]
  constructor
  · intro same
    have first : text.dropWhile isWhitespace = text := by
      refine (List.dropWhile_suffix isWhitespace).eq_of_length_le ?_
      calc text.length = ((text.dropWhile isWhitespace).rdropWhile isWhitespace).length := by
            rw [same]
        _ ≤ (text.dropWhile isWhitespace).length :=
            (List.rdropWhile_prefix isWhitespace _).length_le
    rw [first] at same
    exact ⟨first, same⟩
  · rintro ⟨first, last⟩
    rw [first, last]

theorem isWhitespace_of_mem_lowercaseChar {d : Char} (ink : isWhitespace c = false)
    (member : d ∈ lowercaseChar c) : isWhitespace d = false := by
  rcases mem_lowercaseChar member with ⟨-, rfl | rfl⟩ | ⟨-, value⟩
  · decide
  · decide
  · by_cases same : lowercaseCodePoint c.toNat = c.toNat
    · have unchanged : d = c := Char.toNat_inj.mp (value.trans same)
      exact unchanged ▸ ink
    · obtain ⟨first, last, step, target, isRun, onRun, -, -, moved⟩ :=
        exists_run_of_lowercaseCodePoint_ne same
      by_contra blank
      have facts := whitespace_facts _ (mem_whitespaceCodePoints (eq_true_of_ne_false blank))
      have outside := List.all_eq_true.mp facts.2.2.2 _ isRun
      rw [List.mem_range] at onRun
      simp only [decide_eq_true_eq] at outside
      omega

theorem isWhitespace_of_mem_lowercaseBetween {front back : List Char} {d : Char}
    (ink : isWhitespace c = false) (member : d ∈ lowercaseBetween front c back) :
    isWhitespace d = false := by
  unfold lowercaseBetween at member
  split at member
  · split at member <;> rw [List.mem_singleton] at member <;> subst member <;> decide
  · exact isWhitespace_of_mem_lowercaseChar ink member

theorem lowercaseBetween_ne_nil (front : List Char) (c : Char) (back : List Char) :
    lowercaseBetween front c back ≠ [] := by
  unfold lowercaseBetween
  split
  · split <;> exact List.cons_ne_nil _ _
  · exact lowercaseChar_ne_nil c

/-- A trimmed text is trimmed in lower case. -/
theorem trim_lowercase (trimmed : trim text = text) : trim (lowercase text) = lowercase text := by
  rw [trim_eq_self_iff] at trimmed ⊢
  obtain ⟨opens, closes⟩ := trimmed
  constructor
  · cases text with
    | nil => simp [lowercase, lowercaseAfter]
    | cons c rest =>
      intro d first
      have split : lowercase (c :: rest) = _ := lowercaseAfter_endsCased_cons [] c rest
      rw [split, List.head?_append_of_ne_nil _ (lowercaseBetween_ne_nil [] c rest)] at first
      exact isWhitespace_of_mem_lowercaseBetween (opens c rfl) (List.mem_of_head? first)
  · rcases List.eq_nil_or_concat text with rfl | ⟨front, c, rfl⟩
    · simp [lowercase, lowercaseAfter]
    · intro d last
      rw [List.concat_eq_append] at closes last
      obtain ⟨lower, split⟩ := exists_lowercaseAfter_append [] front [c]
      rw [lowercaseAfter_endsCased_cons, List.nil_append] at split
      have whole : lowercase (front ++ [c]) = lower ++ lowercaseBetween front c [] :=
        split.trans (congrArg (lower ++ ·) (List.append_nil _))
      rw [whole, List.getLast?_append_of_ne_nil _ (lowercaseBetween_ne_nil front c [])] at last
      exact isWhitespace_of_mem_lowercaseBetween (closes c (by simp)) (List.mem_of_getLast? last)

end ComicCatalogue.Unicode
