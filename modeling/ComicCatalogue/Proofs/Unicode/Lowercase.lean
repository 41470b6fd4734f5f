import ComicCatalogue.Proofs.Unicode.Bits
import ComicCatalogue.Text

/-!
# Lower case is final

Whatever comes out of a lower-casing is its own lower case, the two small sigmas included. So a text
in lower case stays as it is, and no letter A to Z occurs in it.
-/

namespace ComicCatalogue.Unicode

/-- A code point that the table may map to: it is a character of its own lower case, and none of
those that other parts of the catalogue read in a special way. -/
def isLowercaseImage (n : Nat) : Bool :=
  lowercaseCodePoint n = n ∧ n.isValidChar ∧ 0x61 ≤ n ∧ n ≠ 0x130 ∧ n ≠ 0xFFFE ∧ n ≠ 0xFFFF

/-- Whether every letter of a run is mapped to such a code point. -/
def hasLowercaseImages : Nat × Nat × Nat × Nat → Bool
  | (first, last, step, target) =>
    (List.range (last - first + 1)).all fun offset =>
      offset % step != 0 || isLowercaseImage (target + offset)

theorem toNat_ofNat_of_isValidChar {n : Nat} (valid : n.isValidChar) :
    (Char.ofNat n).toNat = n := by
  rw [Char.ofNat, dif_pos valid]
  rfl

/-- A code point with another lower case lies on a run of the table. -/
theorem exists_run_of_lowercaseCodePoint_ne {n : Nat} (moved : lowercaseCodePoint n ≠ n) :
    ∃ first last step target, (first, last, step, target) ∈ LowercaseTable.runs ∧
      n - first ∈ List.range (last - first + 1) ∧ (n - first) % step = 0 ∧
        n = first + (n - first) ∧ lowercaseCodePoint n = target + (n - first) := by
  unfold lowercaseCodePoint at moved ⊢
  cases found : LowercaseTable.table.find? n with
  | none => simp [found] at moved
  | some entry =>
    obtain ⟨first, step, target⟩ := entry
    simp only [found] at moved ⊢
    split at moved
    · rename_i onStep
      rw [LowercaseTable.table] at found
      obtain ⟨last, member, low, high⟩ := RangeMap.mem_of_find?_ofSorted found
      refine ⟨first, last, step, target, member, ?_, onStep, by omega, if_pos onStep⟩
      rw [List.mem_range]
      omega
    · exact absurd rfl moved

/-- The letters of a run. -/
def lettersOf : Nat × Nat × Nat × Nat → List Nat
  | (first, last, step, _) =>
    ((List.range (last - first + 1)).filter (· % step == 0)).map (first + ·)

/-- What the letters of a run are mapped to. -/
def imagesOf : Nat × Nat × Nat × Nat → List Nat
  | (first, last, step, target) =>
    ((List.range (last - first + 1)).filter (· % step == 0)).map (target + ·)

/-- The letters that have another lower case. -/
def capitalBits : Nat :=
  unionBits (fun run => bitsOf (lettersOf run)) LowercaseTable.runs

theorem lowercaseCodePoint_of_testBit {n : Nat} (outside : capitalBits.testBit n = false) :
    lowercaseCodePoint n = n := by
  by_contra moved
  obtain ⟨first, last, step, target, isRun, onRun, onStep, place, -⟩ :=
    exists_run_of_lowercaseCodePoint_ne moved
  have isLetter : n ∈ lettersOf (first, last, step, target) := by
    refine List.mem_map.mpr ⟨n - first, List.mem_filter.mpr ⟨onRun, ?_⟩, place.symm⟩
    rw [onStep, beq_self_eq_true]
  have inside : capitalBits.testBit n :=
    testBit_unionBits_iff.mpr ⟨_, isRun, testBit_bitsOf_iff.mpr isLetter⟩
  rw [outside] at inside
  cases inside

/-- Code points of characters behind the digits, less some that are read in a special way. -/
def smallBits : Nat :=
  bits [(0x61, 0x12F), (0x131, 0xD7FF), (0xE000, 0xFFFD), (0x10000, 0x10FFFF)]

theorem isLowercaseImage_of_testBit {n : Nat} (small : smallBits.testBit n)
    (outside : capitalBits.testBit n = false) : isLowercaseImage n := by
  rw [smallBits, testBit_bits_iff] at small
  obtain ⟨range, isRange, low, high⟩ := small
  simp only [isLowercaseImage, decide_eq_true_eq, Nat.isValidChar]
  refine ⟨lowercaseCodePoint_of_testBit outside, ?_⟩
  simp only [List.mem_cons, List.not_mem_nil, or_false] at isRange
  rcases isRange with rfl | rfl | rfl | rfl <;> simp only at low high <;> omega

/-- What the table maps to, and the lower case of the two letters that are treated apart. -/
def loweredBits : Nat :=
  bitsOf [0x69, 0x307, 0x3C3, 0x3C2] |||
    unionBits (fun run => bitsOf (imagesOf run)) LowercaseTable.runs

theorem loweredBits_facts :
    (loweredBits &&& smallBits = loweredBits ∧ loweredBits &&& capitalBits = 0) ∧
      ∀ n ∈ capitalSigma.toNat :: List.range 91, 65 ≤ n → lowercaseCodePoint n ≠ n := by
  decide +kernel

/-- Each of the letters A to Z has another lower case, and so has the capital sigma. -/
theorem lowercaseCodePoint_ne_self_of_capital :
    ∀ n ∈ capitalSigma.toNat :: List.range 91, 65 ≤ n → lowercaseCodePoint n ≠ n :=
  loweredBits_facts.2

theorem isLowercaseImage_of_loweredBits {n : Nat} (lowered : loweredBits.testBit n) :
    isLowercaseImage n :=
  isLowercaseImage_of_testBit (testBit_of_land_eq loweredBits_facts.1.1 lowered)
    (testBit_of_land_eq_zero loweredBits_facts.1.2 lowered)

theorem hasLowercaseImages_runs : LowercaseTable.runs.all hasLowercaseImages = true := by
  rw [List.all_eq_true]
  rintro ⟨first, last, step, target⟩ isRun
  refine List.all_eq_true.mpr fun offset onRun => ?_
  by_cases onStep : offset % step = 0
  · have isImage : target + offset ∈ imagesOf (first, last, step, target) :=
      List.mem_map_of_mem (List.mem_filter.mpr ⟨onRun, by simp [onStep]⟩)
    have lowered : loweredBits.testBit (target + offset) := by
      rw [loweredBits, Nat.testBit_or, Bool.or_eq_true, testBit_unionBits_iff]
      exact .inr ⟨_, isRun, testBit_bitsOf_iff.mpr isImage⟩
    rw [isLowercaseImage_of_loweredBits lowered, Bool.or_true]
  · rw [bne_iff_ne.mpr onStep, Bool.true_or]

/-- The lower case of the two letters that are treated apart is its own lower case. -/
theorem lowercaseChar_special : ∀ n ∈ [0x69, 0x307, 0x3C3, 0x3C2],
    lowercaseChar (Char.ofNat n) = [Char.ofNat n] := by
  intro n special
  have lowered : loweredBits.testBit n := by
    rw [loweredBits, Nat.testBit_or, Bool.or_eq_true]
    exact .inl (testBit_bitsOf_iff.mpr special)
  have image := isLowercaseImage_of_loweredBits lowered
  simp only [isLowercaseImage, decide_eq_true_eq] at image
  obtain ⟨fixed, valid, _, notDotted, _⟩ := image
  rw [lowercaseChar, toNat_ofNat_of_isValidChar valid, if_neg notDotted, fixed]

theorem lowercaseCodePoint_cases (n : Nat) :
    lowercaseCodePoint n = n ∨ isLowercaseImage (lowercaseCodePoint n) = true := by
  by_cases same : lowercaseCodePoint n = n
  · exact .inl same
  · obtain ⟨first, last, step, target, isRun, onRun, onStep, _, moved⟩ :=
      exists_run_of_lowercaseCodePoint_ne same
    have image := List.all_eq_true.mp (List.all_eq_true.mp hasLowercaseImages_runs _ isRun) _ onRun
    rw [onStep, bne_self_eq_false, Bool.false_or] at image
    exact .inr (moved ▸ image)

theorem isValidChar_lowercaseCodePoint (c : Char) :
    (lowercaseCodePoint c.toNat).isValidChar := by
  rcases lowercaseCodePoint_cases c.toNat with same | image
  · rw [same]
    exact c.valid
  · simp only [isLowercaseImage, decide_eq_true_eq] at image
    exact image.2.1

/-- Only the capital I with a dot has a lower case that is not looked up. -/
theorem mem_lowercaseChar {c d : Char} (member : d ∈ lowercaseChar c) :
    c.toNat = 0x130 ∧ (d = Char.ofNat 0x69 ∨ d = Char.ofNat 0x307) ∨
      c.toNat ≠ 0x130 ∧ d.toNat = lowercaseCodePoint c.toNat := by
  rw [lowercaseChar] at member
  split at member
  · rename_i dotted
    exact .inl ⟨dotted, by simpa using member⟩
  · rename_i notDotted
    rw [List.mem_singleton] at member
    rw [member, toNat_ofNat_of_isValidChar (isValidChar_lowercaseCodePoint c)]
    exact .inr ⟨notDotted, rfl⟩

/-- The lower case of a text is made of those of its characters and of sigmas. -/
theorem mem_lowercaseAfter {afterCased : Bool} {text : List Char} {d : Char}
    (member : d ∈ lowercaseAfter afterCased text) :
    (d = smallSigma ∨ d = finalSigma) ∨ ∃ c ∈ text, d ∈ lowercaseChar c := by
  induction text generalizing afterCased with
  | nil => cases member
  | cons c rest ih =>
    rw [lowercaseAfter, List.mem_append] at member
    rcases member with first | later
    · split at first
      · left
        split at first
        · exact .inr (List.mem_singleton.mp first)
        · exact .inl (List.mem_singleton.mp first)
      · exact .inr ⟨c, List.mem_cons_self, first⟩
    · refine (ih later).imp_right ?_
      rintro ⟨e, inRest, lower⟩
      exact ⟨e, List.mem_cons_of_mem c inRest, lower⟩

/-- A character that comes out of a lower-casing is its own lower case. -/
theorem lowercaseChar_of_mem_lowercaseChar {c d : Char} (member : d ∈ lowercaseChar c) :
    lowercaseChar d = [d] := by
  rcases mem_lowercaseChar member with ⟨-, rfl | rfl⟩ | ⟨notDotted, value⟩
  · exact lowercaseChar_special _ (by decide)
  · exact lowercaseChar_special _ (by decide)
  · have fixed : d.toNat ≠ 0x130 ∧ lowercaseCodePoint d.toNat = d.toNat := by
      rw [value]
      rcases lowercaseCodePoint_cases c.toNat with same | image
      · rw [same]
        exact ⟨notDotted, same⟩
      · simp only [isLowercaseImage, decide_eq_true_eq] at image
        exact ⟨image.2.2.2.1, image.1⟩
    rw [lowercaseChar, if_neg fixed.1, fixed.2, Char.ofNat_toNat]

theorem lowercaseChar_of_mem_lowercaseAfter {afterCased : Bool} {text : List Char} {d : Char}
    (member : d ∈ lowercaseAfter afterCased text) : lowercaseChar d = [d] := by
  rcases mem_lowercaseAfter member with (rfl | rfl) | ⟨c, _, lower⟩
  · exact lowercaseChar_special _ (by decide)
  · exact lowercaseChar_special _ (by decide)
  · exact lowercaseChar_of_mem_lowercaseChar lower

theorem lowercaseCodePoint_of_fixed {c : Char} (fixed : lowercaseChar c = [c])
    (notDotted : c.toNat ≠ 0x130) : lowercaseCodePoint c.toNat = c.toNat := by
  rw [lowercaseChar, if_neg notDotted, List.singleton_inj] at fixed
  have same := congrArg Char.toNat fixed
  rwa [toNat_ofNat_of_isValidChar (isValidChar_lowercaseCodePoint c)] at same

/-- A text of characters that are their own lower case stays as it is, whatever stands before
it. -/
theorem lowercaseAfter_eq_self {text : List Char}
    (fixed : ∀ c ∈ text, lowercaseChar c = [c]) (afterCased : Bool) :
    lowercaseAfter afterCased text = text := by
  induction text generalizing afterCased with
  | nil => rfl
  | cons c rest ih =>
    have alone : lowercaseChar c = [c] := fixed c List.mem_cons_self
    have small : c ≠ capitalSigma := by
      rintro rfl
      exact lowercaseCodePoint_ne_self_of_capital _ List.mem_cons_self (by decide)
        (lowercaseCodePoint_of_fixed alone (by decide))
    rw [lowercaseAfter, if_neg small, alone,
      ih fun d member => fixed d (List.mem_cons_of_mem c member)]
    rfl

theorem lowercase_lowercase (text : List Char) : lowercase (lowercase text) = lowercase text :=
  lowercaseAfter_eq_self (fun _ => lowercaseChar_of_mem_lowercaseAfter) false

/-- A character that is its own lower case is none of the letters A to Z. -/
theorem toLower_eq_self_of_lowercaseChar {c : Char} (fixed : lowercaseChar c = [c]) :
    c.toLower = c := by
  delta Char.toLower
  split
  · rename_i capital
    have low : 65 ≤ c.toNat := UInt32.le_iff_toNat_le.mp capital.1
    have high : c.toNat ≤ 90 := UInt32.le_iff_toNat_le.mp capital.2
    have isCapital : c.toNat ∈ capitalSigma.toNat :: List.range 91 := by
      rw [List.mem_cons, List.mem_range]
      omega
    exact absurd (lowercaseCodePoint_of_fixed fixed (by omega))
      (lowercaseCodePoint_ne_self_of_capital c.toNat isCapital low)
  · rfl

theorem toLower_of_mem_lowercase {text : List Char} {c : Char} (member : c ∈ lowercase text) :
    c.toLower = c :=
  toLower_eq_self_of_lowercaseChar (lowercaseChar_of_mem_lowercaseAfter member)

end ComicCatalogue.Unicode
