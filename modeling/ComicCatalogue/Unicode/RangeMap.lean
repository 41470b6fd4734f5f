/-!
# Tables over code points

A `RangeMap` holds a value for each of finitely many disjoint ranges of code points, as a search
tree. Tables are written as ascending lists of ranges, and `ofSorted` arranges such a list as a
balanced tree.
-/

namespace ComicCatalogue.Unicode

/-- Values on disjoint ranges `first` to `last` of code points, ordered from left to right. -/
inductive RangeMap (α : Type) where
  | leaf
  | node (left : RangeMap α) (first last : Nat) (value : α) (right : RangeMap α)

namespace RangeMap

variable {α : Type}

/-- The range that holds `n`: its first member and its value. -/
def find? (n : Nat) : RangeMap α → Option (Nat × α)
  | leaf => none
  | node left first last value right =>
    if n < first then left.find? n
    else if last < n then right.find? n
    else some (first, value)

/-- Whether some range holds `n`. -/
def contains (n : Nat) (table : RangeMap α) : Bool :=
  (table.find? n).isSome

/-- A tree of at most the given depth from the front of an ascending list, and the entries left. -/
def build : Nat → List (Nat × Nat × α) → RangeMap α × List (Nat × Nat × α)
  | 0, entries => (leaf, entries)
  | depth + 1, entries =>
    match build depth entries with
    | (left, []) => (left, [])
    | (left, (first, last, value) :: rest) =>
      let (right, rest) := build depth rest
      (node left first last value right, rest)

/-- The tree of an ascending list. Its depth leaves room for every entry. -/
def ofSorted (entries : List (Nat × Nat × α)) : RangeMap α :=
  (build (entries.length.log2 + 1) entries).1

/-- The tree of an ascending list of ranges that carry no value. -/
def ofRanges (ranges : List (Nat × Nat)) : RangeMap Unit :=
  ofSorted (ranges.map fun (first, last) => (first, last, ()))

end RangeMap

end ComicCatalogue.Unicode
