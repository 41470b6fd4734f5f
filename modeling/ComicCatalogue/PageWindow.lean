import ComicCatalogue.Json.Decode

/-!
# Windows of page numbers

A listing that takes several pages shows a window of at most ten page numbers around the current
one.
-/

namespace ComicCatalogue

/-- The current page, the number of pages, and the page numbers that are shown. -/
structure PageWindow where
  current : Nat
  totalPages : Nat
  pages : List Nat
  deriving DecidableEq, Repr

namespace PageWindow

/-- The largest number of page numbers that are shown. -/
def width : Nat := 10

/-- The number of page numbers shown before the current one, away from the ends. -/
def before : Nat := 5

/-- The number of page numbers shown behind the current one, away from the ends. -/
def behind : Nat := 4

/-- The largest number of pages that is counted. -/
def maxPages : Nat := 0xFFFFFFFF

/-- The first number of the window. Near an end the window touches that end. -/
def first (current totalPages : Nat) : Nat :=
  if totalPages ≤ width ∨ current ≤ before then 1
  else if totalPages ≤ current + behind then totalPages - width + 1
  else current - before

/-- The page that is shown for a page number: one outside of the listing is moved to the nearest
end. -/
def shown (current totalPages : Nat) : Nat :=
  min (max current 1) (max totalPages 1)

/-- The window around a page. If too few numbers are left above the page, no page numbers are
shown. -/
def around (current totalPages : Nat) : PageWindow where
  current := shown current totalPages
  totalPages := totalPages
  pages :=
    if shown current totalPages + behind ≤ maxPages then
      List.range' (first (shown current totalPages) totalPages) (min totalPages width)
    else []

/-- The number of pages that so many rows take. Without a page size everything is on one page. -/
def pageCount (total : Int) (pageSize : Nat) : Nat :=
  if pageSize = 0 then 1 else min ((total.toNat + pageSize - 1) / pageSize) maxPages

/-- The window around a page of a listing of so many rows. -/
def ofTotal (current : Nat) (total : Int) (pageSize : Nat) : PageWindow :=
  around current (pageCount total pageSize)

/-- The number of rows in front of a page, as a number of 64 bits with a sign. -/
def offset (size page : Nat) : Int :=
  (size * ((page : Int) - 1)).bmod UInt64.size

/-- The window as an object. -/
def toJson (window : PageWindow) : Json :=
  .obj [
    ("current", .int window.current),
    ("total_pages", .int window.totalPages),
    ("pages", .arr (window.pages.map fun (page : Nat) => .int page))]

/-- Reads a window. -/
def ofJson : Json.Decoder PageWindow := fun value => do
  let fields ← Json.fields ["current", "total_pages", "pages"] value
  return {
    current := ← fields.required "current" .nat32
    totalPages := ← fields.required "total_pages" .nat32
    pages := ← fields.required "pages" (.list .nat32) }

end PageWindow

end ComicCatalogue
