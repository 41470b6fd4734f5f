import ComicCatalogue.Unicode.Decomposition

/-!
# Canonical decomposition

A compatibility decomposition is a canonical one where the parts look as the whole does: an accented
letter is its letter and its accents, but a ligature or a circled letter is no plain text. The table
of decompositions does not tell which is which, but the canonical ones stand together.
-/

namespace ComicCatalogue.Unicode

namespace Canonical

/-- Ranges in which every decomposition is a canonical one, or goes on from one. -/
def ranges : List (Nat × Nat) := [
  (0x00C0, 0x0130), (0x0134, 0x013E), (0x0143, 0x0148), (0x014C, 0x017E), (0x01A0, 0x01B0),
  (0x01CD, 0x01F0), (0x01F4, 0x0233), (0x0340, 0x0374), (0x037E, 0x037E), (0x0385, 0x03CE),
  (0x03D3, 0x03D4), (0x0400, 0x04F9), (0x0622, 0x0626), (0x06C0, 0x0DDE), (0x0F43, 0x0F76),
  (0x0F78, 0x0F78), (0x0F81, 0x1026), (0x1B06, 0x1B43), (0x1E00, 0x1E99), (0x1E9B, 0x1FBC),
  (0x1FBE, 0x1FBE), (0x1FC1, 0x1FFD), (0x2000, 0x2001), (0x2126, 0x2126), (0x212A, 0x212B),
  (0x219A, 0x2226), (0x2241, 0x232A), (0x2ADC, 0x2ADC), (0x304C, 0x3094), (0x309E, 0x309E),
  (0x30AC, 0x30FE), (0xAC00, 0xD7A3), (0xF900, 0xFAD9), (0xFB1D, 0xFB1F), (0xFB2A, 0xFB4E),
  (0x105C9, 0x105E4), (0x1109A, 0x16D6A), (0x1D15E, 0x1D1C0), (0x2F800, 0x2FA1D)]

/-- The ranges as a search tree. -/
def table : RangeMap Unit := .ofRanges ranges

/-- The canonical decompositions that end where the compatibility decomposition goes on. -/
def shorter : List (Nat × List Nat) := [
  (0x0385, [0x00A8, 0x0301]), (0x03D3, [0x03D2, 0x0301]), (0x03D4, [0x03D2, 0x0308]),
  (0x1E9B, [0x017F, 0x0307]), (0x1FC1, [0x00A8, 0x0342]), (0x1FCD, [0x1FBF, 0x0300]),
  (0x1FCE, [0x1FBF, 0x0301]), (0x1FCF, [0x1FBF, 0x0342]), (0x1FDD, [0x1FFE, 0x0300]),
  (0x1FDE, [0x1FFE, 0x0301]), (0x1FDF, [0x1FFE, 0x0342]), (0x1FED, [0x00A8, 0x0300]),
  (0x1FEE, [0x00A8, 0x0301]), (0x1FFD, [0x00B4]), (0x2000, [0x2002]), (0x2001, [0x2003])]

/-- The full canonical decomposition of a code point. -/
def ofCodePoint (n : Nat) : List Nat :=
  if table.contains n then (shorter.lookup n).getD (Decomposition.ofCodePoint n) else [n]

end Canonical

/-- The full canonical decomposition of a character. -/
def canonicalChar (c : Char) : List Char :=
  (Canonical.ofCodePoint c.toNat).map Char.ofNat

end ComicCatalogue.Unicode
