import Mathlib.Data.Nat.Bitwise
import ComicCatalogue.Proofs.Unicode.RangeMap

/-!
# Sets of code points as numbers

Ranges of code points stand for the number that has a one at the place of each of them. Whether a
set holds a code point and whether it is part of another is then a matter of arithmetic, where a
search tree takes many steps. So facts on every entry of a table can be settled by evaluation.
-/

namespace ComicCatalogue.Unicode

variable {α : Type} {ranges : List (Nat × Nat)} {codePoints : List Nat} {set other n : Nat}

/-- The union of the sets of several things. -/
def unionBits (setOf : α → Nat) : List α → Nat
  | [] => 0
  | a :: rest => setOf a ||| unionBits setOf rest

/-- The code points of some ranges. -/
def bits (ranges : List (Nat × Nat)) : Nat :=
  unionBits (fun range => (2 ^ (range.2 + 1 - range.1) - 1) <<< range.1) ranges

/-- Some code points. -/
def bitsOf (codePoints : List Nat) : Nat :=
  unionBits (2 ^ ·) codePoints

theorem testBit_unionBits_iff {setOf : α → Nat} {parts : List α} :
    (unionBits setOf parts).testBit n ↔ ∃ part ∈ parts, (setOf part).testBit n := by
  induction parts with
  | nil => simp [unionBits]
  | cons part rest ih =>
    rw [unionBits, Nat.testBit_or, Bool.or_eq_true, ih, List.exists_mem_cons_iff]

theorem testBit_bits_iff :
    (bits ranges).testBit n ↔ ∃ range ∈ ranges, range.1 ≤ n ∧ n ≤ range.2 := by
  rw [bits, testBit_unionBits_iff]
  refine exists_congr fun ⟨first, last⟩ => and_congr_right fun _ => ?_
  rw [Nat.testBit_shiftLeft, Nat.testBit_two_pow_sub_one, Bool.and_eq_true, decide_eq_true_eq,
    decide_eq_true_eq]
  omega

theorem testBit_bitsOf_iff : (bitsOf codePoints).testBit n ↔ n ∈ codePoints := by
  simp only [bitsOf, testBit_unionBits_iff, Nat.testBit_two_pow, decide_eq_true_eq]
  exact exists_eq_right

/-- Looking up a code point in a table of ascending ranges is looking up its bit. -/
theorem contains_eq_testBit (ascending : RangeMap.AreAscending ranges) :
    (RangeMap.ofRanges ranges).contains n = (bits ranges).testBit n := by
  rw [Bool.eq_iff_iff, RangeMap.contains_ofRanges_iff ascending, testBit_bits_iff]

/-- A set whose common part with another is itself is part of the other. -/
theorem testBit_of_land_eq (part : set &&& other = set) (inside : set.testBit n) :
    other.testBit n := by
  rw [← part, Nat.testBit_and, Bool.and_eq_true] at inside
  exact inside.2

/-- Sets that have no common part have no common member. -/
theorem testBit_of_land_eq_zero (apart : set &&& other = 0) (inside : set.testBit n) :
    other.testBit n = false := by
  have neither := congrArg (·.testBit n) apart
  simpa [inside] using neither

theorem testBit_of_mem (apart : bitsOf codePoints &&& other = 0) :
    ∀ m ∈ codePoints, other.testBit m = false :=
  fun _ member => testBit_of_land_eq_zero apart (testBit_bitsOf_iff.mpr member)

/-- A set that has no common part with a range has no member there. -/
theorem testBit_of_land_range_eq_zero {first last : Nat} (apart : set &&& bits [(first, last)] = 0)
    (low : first ≤ n) (high : n ≤ last) : set.testBit n = false := by
  have inRange : (bits [(first, last)]).testBit n :=
    testBit_bits_iff.mpr ⟨_, List.mem_singleton_self _, low, high⟩
  rw [Nat.land_comm] at apart
  exact testBit_of_land_eq_zero apart inRange

end ComicCatalogue.Unicode
