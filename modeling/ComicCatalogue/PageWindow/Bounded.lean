import ComicCatalogue.PageWindow

/-!
# Windows in bounded numbers

Page numbers have 32 bits, and rows are counted with 64. The window is worked out in such numbers:
a sum or a difference of page numbers that does not fit ends the work without a window.
-/

namespace ComicCatalogue.PageWindow

/-- The sum of two page numbers, if it fits. -/
def add? (a b : UInt32) : Option UInt32 :=
  if a.toNat + b.toNat < UInt32.size then some (a + b) else none

/-- The difference of two page numbers, unless it is below zero. -/
def sub? (a b : UInt32) : Option UInt32 :=
  if b ≤ a then some (a - b) else none

/-- The first and the last number of the window around a page. Without pages the last number comes
before the first one. -/
def ends? (current totalPages : UInt32) : Option (UInt32 × UInt32) :=
  if totalPages = 0 then some (1, 0)
  else if totalPages ≤ .ofNat width then some (1, totalPages)
  else if current ≤ .ofNat before then some (1, .ofNat width)
  else do
    if totalPages ≤ (← add? current (.ofNat behind)) then
      return (← add? (← sub? totalPages (.ofNat width)) 1, totalPages)
    else
      return (← sub? current (.ofNat before), ← add? current (.ofNat behind))

/-- The numbers from the first to the last one. -/
def numbers (first last : UInt32) : List Nat :=
  List.range' first.toNat (last.toNat + 1 - first.toNat)

/-- The window around a page. A page outside of the listing is moved to the nearest end. -/
def around? (current totalPages : UInt32) : Option PageWindow := do
  let current := min (max current 1) (max totalPages 1)
  let (first, last) ← ends? current totalPages
  return {
    current := current.toNat
    totalPages := totalPages.toNat
    pages := numbers first last }

/-- The quotient of two numbers of 64 bits, rounded up. -/
def divideUp (a b : UInt64) : UInt64 :=
  if 0 < a % b then a / b + 1 else a / b

/-- The number of pages that so many rows take, or the largest page number if there are more. No
rows are less than zero, and without a page size everything is on one page. -/
def countPages (total : Int64) (pageSize : UInt32) : UInt32 :=
  let rows := if total < 0 then 0 else total.toUInt64
  let pages := if pageSize = 0 then 1 else divideUp rows pageSize.toUInt64
  if pages ≤ .ofNat maxPages then pages.toUInt32 else .ofNat maxPages

/-- The window around a page of a listing of so many rows. -/
def ofTotal? (current : UInt32) (total : Int64) (pageSize : UInt32) : Option PageWindow :=
  around? current (countPages total pageSize)

end ComicCatalogue.PageWindow
