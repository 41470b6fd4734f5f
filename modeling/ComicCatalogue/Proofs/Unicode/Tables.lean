import ComicCatalogue.Proofs.Unicode.Decomposition
import ComicCatalogue.Unicode.Accent
import ComicCatalogue.Unicode.Canonical

/-!
# The tables as sets

What the tables say of a code point, read off the sets that hold their ranges.
-/

namespace ComicCatalogue.Unicode

variable {n : Nat}

def alphanumericBits : Nat := bits Alphanumeric.ranges

def markBits : Nat := bits Mark.ranges

def casedBits : Nat := bits Cased.ranges

def caseIgnorableBits : Nat := bits CaseIgnorable.ranges

def accentBits : Nat := bits Accent.ranges

def canonicalBits : Nat := bits Canonical.ranges

theorem ranges_areAscending :
    RangeMap.AreAscending Mark.ranges ∧ RangeMap.AreAscending Cased.ranges ∧
      RangeMap.AreAscending CaseIgnorable.ranges ∧ RangeMap.AreAscending Accent.ranges ∧
      RangeMap.AreAscending Canonical.ranges ∧ RangeMap.AreAscending Alphanumeric.ranges := by
  decide +kernel

theorem contains_alphanumeric_eq_testBit (n : Nat) :
    Alphanumeric.table.contains n = alphanumericBits.testBit n :=
  contains_eq_testBit ranges_areAscending.2.2.2.2.2

theorem contains_mark_eq_testBit (n : Nat) : Mark.table.contains n = markBits.testBit n :=
  contains_eq_testBit ranges_areAscending.1

theorem isMark_eq_testBit (c : Char) : isMark c = markBits.testBit c.toNat :=
  contains_mark_eq_testBit c.toNat

theorem isCased_eq_testBit (c : Char) : isCased c = casedBits.testBit c.toNat :=
  contains_eq_testBit ranges_areAscending.2.1

theorem isCaseIgnorable_eq_testBit (c : Char) :
    isCaseIgnorable c = caseIgnorableBits.testBit c.toNat :=
  contains_eq_testBit ranges_areAscending.2.2.1

theorem isAccent_eq_testBit (c : Char) : isAccent c = accentBits.testBit c.toNat :=
  contains_eq_testBit ranges_areAscending.2.2.2.1

theorem contains_canonical_eq_testBit (n : Nat) :
    Canonical.table.contains n = canonicalBits.testBit n :=
  contains_eq_testBit ranges_areAscending.2.2.2.2.1

namespace Decomposition

/-- Whether the code points of a set that an entry lists pass a check with their decompositions. -/
def passes (set : Nat) (check : Nat → List Nat → Bool) : Entry → Bool
  | (first, last, image) =>
    set &&& bits [(first, last)] == 0 ||
      (List.range (last - first + 1)).all fun offset =>
        !set.testBit (first + offset) || (image.at? offset).all (check (first + offset))

theorem check_of_passes {set : Nat} {check : Nat → List Nat → Bool}
    (passed : entries.all (passes set check)) (inside : set.testBit n)
    (notHangul : ¬(0xAC00 ≤ n ∧ n ≤ 0xD7A3)) (moved : ofCodePoint n ≠ [n]) :
    check n (ofCodePoint n) := by
  obtain ⟨first, last, image, part, isEntry, low, high, listed, same⟩ :=
    (ofCodePoint_cases notHangul).resolve_left moved
  have inEntry : (set &&& bits [(first, last)] == 0) = false := by
    rw [beq_eq_false_iff_ne]
    intro apart
    rw [testBit_of_land_range_eq_zero apart low high] at inside
    cases inside
  have entry := List.all_eq_true.mp passed _ isEntry
  rw [passes, inEntry, Bool.false_or] at entry
  have here := List.all_eq_true.mp entry (n - first) (by rw [List.mem_range]; omega)
  have place : first + (n - first) = n := by omega
  rw [place, inside, listed, Bool.not_true, Bool.false_or, Option.all_some] at here
  rwa [same]

end Decomposition

end ComicCatalogue.Unicode
