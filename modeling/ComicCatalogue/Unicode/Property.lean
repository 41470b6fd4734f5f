import ComicCatalogue.Unicode.Alphanumeric
import ComicCatalogue.Unicode.Mark
import ComicCatalogue.Unicode.Cased
import ComicCatalogue.Unicode.CaseIgnorable
import ComicCatalogue.Unicode.Unprintable

/-!
# Character properties

The character classes of the Unicode Standard that text is judged by, as predicates on `Char`.
-/

namespace ComicCatalogue.Unicode

/-- A letter, a letter-like symbol or a number of any script. -/
def isAlphanumeric (c : Char) : Bool :=
  Alphanumeric.table.contains c.toNat

/-- A mark: an accent, a vowel sign or an enclosing sign that belongs to the letter before it. -/
def isMark (c : Char) : Bool :=
  Mark.table.contains c.toNat

/-- A character that has case. -/
def isCased (c : Char) : Bool :=
  Cased.table.contains c.toNat

/-- A character that is skipped when the surroundings of a cased letter are read. -/
def isCaseIgnorable (c : Char) : Bool :=
  CaseIgnorable.table.contains c.toNat

/-- A character that quoted text writes by its number. -/
def isUnprintable (c : Char) : Bool :=
  Unprintable.table.contains c.toNat

/-- The code points with the property `White_Space`, as ascending ranges. -/
def whitespaceRanges : List (Nat × Nat) := [
  (0x0009, 0x000D), (0x0020, 0x0020), (0x0085, 0x0085), (0x00A0, 0x00A0), (0x1680, 0x1680),
  (0x2000, 0x200A), (0x2028, 0x2029), (0x202F, 0x202F), (0x205F, 0x205F), (0x3000, 0x3000)]

/-- White space: blanks, line breaks and separators of any width. -/
def isWhitespace (c : Char) : Bool :=
  whitespaceRanges.any fun (first, last) => first ≤ c.toNat ∧ c.toNat ≤ last

end ComicCatalogue.Unicode
