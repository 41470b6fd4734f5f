import ComicCatalogue.Unicode.RangeMap

/-!
# Entries of the decomposition tables

An entry gives the decompositions of a range of consecutive code points: either each is a single
code point at a constant distance, or they are listed one by one.
-/

namespace ComicCatalogue.Unicode.Decomposition

/-- What the code points of a range decompose into. -/
inductive Image where
  /-- Single code points that follow one another from `target` on. -/
  | run (target : Nat)
  /-- The decomposition of each code point of the range in turn. -/
  | list (parts : List (List Nat))

/-- A range of code points and what they decompose into. -/
abbrev Entry := Nat × Nat × Image

/-- The code points `first` to `last` stand for those from `target` on. -/
def shifted (first last target : Nat) : Entry :=
  (first, last, .run target)

/-- The code points from `first` on decompose into the listed parts. -/
def listed (first : Nat) (parts : List (List Nat)) : Entry :=
  (first, first + parts.length - 1, .list parts)

/-- The decomposition of the code point that lies `offset` after the first of its range. -/
def Image.at? : Image → Nat → Option (List Nat)
  | run target, offset => some [target + offset]
  | list parts, offset => parts[offset]?

end ComicCatalogue.Unicode.Decomposition
