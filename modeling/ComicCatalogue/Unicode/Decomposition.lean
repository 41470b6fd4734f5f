import ComicCatalogue.Unicode.Decomposition.Latin
import ComicCatalogue.Unicode.Decomposition.Symbols
import ComicCatalogue.Unicode.Decomposition.EastAsian
import ComicCatalogue.Unicode.Decomposition.Presentation
import ComicCatalogue.Unicode.Decomposition.Supplementary

/-!
# Compatibility decomposition

`decompose` replaces every character by its full compatibility decomposition: accented letters by
letter and marks, ligatures, widths and circled forms by the plain letters they stand for, Hangul
syllables by their jamo. It leaves the marks of a letter in the order in which they come out; the
canonical order is another arrangement of the same marks, so whoever drops the marks afterwards
need not arrange them.
-/

namespace ComicCatalogue.Unicode

namespace Decomposition

/-- Every entry, ascending. Hangul syllables are computed instead of listed. -/
def entries : List Entry :=
  Latin.entries ++ Symbols.entries ++ EastAsian.entries ++ Presentation.entries ++
    Supplementary.entries

/-- The entries as a search tree. -/
def table : RangeMap Image := .ofSorted entries

/-- The jamo of a Hangul syllable given by its place in the block of syllables: a leading
consonant, a vowel, and a trailing consonant unless the syllable is open. -/
def jamo (place : Nat) : List Nat :=
  let leading := 0x1100 + place / (21 * 28)
  let vowel := 0x1161 + place % (21 * 28) / 28
  let trailing := place % 28
  if trailing = 0 then [leading, vowel] else [leading, vowel, 0x11A7 + trailing]

/-- The full compatibility decomposition of a code point. -/
def ofCodePoint (n : Nat) : List Nat :=
  if 0xAC00 ≤ n ∧ n ≤ 0xD7A3 then jamo (n - 0xAC00)
  else
    match table.find? n with
    | none => [n]
    | some (first, image) => (image.at? (n - first)).getD [n]

end Decomposition

/-- The full compatibility decomposition of a character. -/
def decomposeChar (c : Char) : List Char :=
  (Decomposition.ofCodePoint c.toNat).map Char.ofNat

/-- The full compatibility decomposition of a text, marks not rearranged. -/
def decompose (text : List Char) : List Char :=
  text.flatMap decomposeChar

end ComicCatalogue.Unicode
