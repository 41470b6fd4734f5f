import ComicCatalogue.Proofs.Unicode.Bits
import ComicCatalogue.Proofs.Unicode.Lowercase
import ComicCatalogue.Unicode.Decomposition

/-!
# Decompositions are full

What a character decomposes into is not decomposed any further. So a text that has been decomposed
stays as it is.
-/

namespace ComicCatalogue.Unicode

namespace Decomposition

/-- A code point that does not decompose. -/
def isWhole (n : Nat) : Bool :=
  n.isValidChar && ofCodePoint n == [n]

theorem isWhole_iff {n : Nat} : isWhole n ↔ n.isValidChar ∧ ofCodePoint n = [n] := by
  simp [isWhole]

/-- A code point that is no Hangul syllable is its own decomposition, or the table lists it. -/
theorem ofCodePoint_cases {n : Nat} (notHangul : ¬(0xAC00 ≤ n ∧ n ≤ 0xD7A3)) :
    ofCodePoint n = [n] ∨
      ∃ first last image part, (first, last, image) ∈ entries ∧ first ≤ n ∧ n ≤ last ∧
        image.at? (n - first) = some part ∧ ofCodePoint n = part := by
  rw [ofCodePoint, if_neg notHangul]
  cases found : table.find? n with
  | none => exact .inl rfl
  | some entry =>
    obtain ⟨first, image⟩ := entry
    cases listed : image.at? (n - first) with
    | none => exact .inl (congrArg (·.getD [n]) listed)
    | some part =>
      rw [table] at found
      obtain ⟨last, isEntry, low, high⟩ := RangeMap.mem_of_find?_ofSorted found
      exact .inr ⟨first, last, image, part, isEntry, low, high, listed,
        congrArg (·.getD [n]) listed⟩

/-- The Hangul syllables and the code points of the table. -/
def movedBits : Nat :=
  bits ((0xAC00, 0xD7A3) :: entries.map fun (first, last, _) => (first, last))

theorem ofCodePoint_of_testBit {n : Nat} (outside : movedBits.testBit n = false) :
    ofCodePoint n = [n] := by
  have noRange : ¬∃ range ∈ (0xAC00, 0xD7A3) :: entries.map fun (first, last, _) => (first, last),
      range.1 ≤ n ∧ n ≤ range.2 := by
    rw [← testBit_bits_iff, ← movedBits, outside]
    exact Bool.false_ne_true
  rw [List.exists_mem_cons_iff, not_or] at noRange
  rcases ofCodePoint_cases noRange.1 with same | ⟨first, last, image, _, isEntry, low, high, _⟩
  · exact same
  · exact absurd ⟨(first, last), List.mem_map_of_mem isEntry, low, high⟩ noRange.2

/-- The characters that are neither. -/
def wholeBits : Nat :=
  bits [(0, 0xD7FF), (0xE000, 0x10FFFF)] &&& (movedBits ^^^ bits [(0, 0x10FFFF)])

theorem isWhole_of_testBit {n : Nat} (inside : wholeBits.testBit n) : isWhole n := by
  rw [wholeBits, Nat.testBit_and, Nat.testBit_xor, Bool.and_eq_true, testBit_bits_iff] at inside
  obtain ⟨⟨range, isRange, low, high⟩, other⟩ := inside
  have valid : n.isValidChar := by
    simp only [List.mem_cons, List.not_mem_nil, or_false] at isRange
    rcases isRange with rfl | rfl
    · exact .inl (by omega)
    · exact .inr (by omega)
  have bounded : (bits [(0, 0x10FFFF)]).testBit n := by
    rw [testBit_bits_iff]
    refine ⟨_, List.mem_singleton_self _, Nat.zero_le n, ?_⟩
    rcases valid with below | above <;> omega
  rw [bounded, Bool.xor_true, Bool.not_eq_true'] at other
  exact isWhole_iff.mpr ⟨valid, ofCodePoint_of_testBit other⟩

/-- Whether nothing in the image of a range decomposes. -/
def hasWholeImage : Entry → Bool
  | (first, last, .run target) =>
    (List.range (last - first + 1)).all fun offset => isWhole (target + offset)
  | (_, _, .list parts) => parts.all (·.all isWhole)

/-- The code points in the image of a range. -/
def imageBits : Entry → Nat
  | (first, last, .run target) => bits [(target, target + (last - first))]
  | (_, _, .list parts) => bitsOf parts.flatten

theorem hasWholeImage_of_land_eq {entry : Entry}
    (part : imageBits entry &&& wholeBits = imageBits entry) : hasWholeImage entry := by
  obtain ⟨first, last, image⟩ := entry
  cases image with
  | run target =>
    refine List.all_eq_true.mpr fun offset onRun => isWhole_of_testBit (testBit_of_land_eq part ?_)
    rw [List.mem_range] at onRun
    refine testBit_bits_iff.mpr ⟨_, List.mem_singleton_self _, ?_, ?_⟩ <;> simp only <;> omega
  | list parts =>
    refine List.all_eq_true.mpr fun codePoints isPart => List.all_eq_true.mpr fun n member =>
      isWhole_of_testBit (testBit_of_land_eq part ?_)
    exact testBit_bitsOf_iff.mpr (List.mem_flatten_of_mem isPart member)

/-- Neither what the table leads to nor the jamo that syllables are made of decompose. -/
theorem images_land_wholeBits :
    (entries.all fun entry => imageBits entry &&& wholeBits == imageBits entry) = true ∧
      bits [(0x1100, 0x11FF)] &&& wholeBits = bits [(0x1100, 0x11FF)] := by
  decide +kernel

theorem hasWholeImage_entries : entries.all hasWholeImage = true := by
  rw [List.all_eq_true]
  intro entry isEntry
  have part := List.all_eq_true.mp images_land_wholeBits.1 entry isEntry
  exact hasWholeImage_of_land_eq (beq_iff_eq.mp part)

theorem isWhole_of_mem_at? {first last n : Nat} {image : Image}
    (whole : hasWholeImage (first, last, image)) (low : first ≤ n) (high : n ≤ last)
    {part : List Nat} (found : image.at? (n - first) = some part) : ∀ m ∈ part, isWhole m := by
  cases image with
  | run target =>
    simp only [Image.at?, Option.some.injEq] at found
    subst found
    rw [List.forall_mem_singleton]
    exact List.all_eq_true.mp whole (n - first) (by rw [List.mem_range]; omega)
  | list parts =>
    exact List.all_eq_true.mp (List.all_eq_true.mp whole part (List.mem_of_getElem? found))

theorem bounds_of_mem_jamo {place n : Nat} (inBlock : place < 11172) (member : n ∈ jamo place) :
    0x1100 ≤ n ∧ n ≤ 0x11FF := by
  simp only [jamo] at member
  split at member <;> simp only [List.mem_cons, List.not_mem_nil, or_false] at member <;> omega

theorem isWhole_of_mem_jamo {place : Nat} (inBlock : place < 11172) :
    ∀ n ∈ jamo place, isWhole n := by
  intro n member
  obtain ⟨low, high⟩ := bounds_of_mem_jamo inBlock member
  have isJamo : (bits [(0x1100, 0x11FF)]).testBit n :=
    testBit_bits_iff.mpr ⟨_, List.mem_singleton_self _, low, high⟩
  exact isWhole_of_testBit (testBit_of_land_eq images_land_wholeBits.2 isJamo)

/-- No part of the decomposition of a code point decomposes. -/
theorem isWhole_of_mem_ofCodePoint {n : Nat} (valid : n.isValidChar) :
    ∀ m ∈ ofCodePoint n, isWhole m := by
  by_cases hangul : 0xAC00 ≤ n ∧ n ≤ 0xD7A3
  · rw [ofCodePoint, if_pos hangul]
    exact isWhole_of_mem_jamo (by omega)
  · rcases ofCodePoint_cases hangul with same | ⟨first, last, image, part, isEntry, low, high,
      listed, same⟩
    · rw [same, List.forall_mem_singleton, isWhole, same]
      simpa using valid
    · have whole := List.all_eq_true.mp hasWholeImage_entries _ isEntry
      rw [same]
      exact isWhole_of_mem_at? whole low high listed

end Decomposition

/-- No part of the decomposition of a character decomposes. -/
theorem isWhole_of_mem_decomposeChar {c d : Char} (member : d ∈ decomposeChar c) :
    Decomposition.isWhole d.toNat := by
  obtain ⟨n, part, rfl⟩ := List.mem_map.mp member
  have whole := Decomposition.isWhole_of_mem_ofCodePoint c.valid n part
  rwa [toNat_ofNat_of_isValidChar (Decomposition.isWhole_iff.mp whole).1]

theorem ofCodePoint_of_mem_decompose {text : List Char} {c : Char} (member : c ∈ decompose text) :
    Decomposition.ofCodePoint c.toNat = [c.toNat] := by
  obtain ⟨d, _, inside⟩ := List.mem_flatMap.mp member
  exact (Decomposition.isWhole_iff.mp (isWhole_of_mem_decomposeChar inside)).2

end ComicCatalogue.Unicode
