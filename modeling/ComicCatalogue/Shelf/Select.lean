import ComicCatalogue.Selection.Depth
import ComicCatalogue.Shelf.Relations

/-!
# Asking the shelf

What the conditions of a selection mean on a shelf, and how selections, look-ups and listings are
answered. A pattern that is too long cannot be matched with any text, so a selection fails if one is
met while it is carried out. Conditions that look at labels are tested last. Relations cannot be
looked up for too many archives, so a selection that asks for them fails then, too.
-/

namespace ComicCatalogue

namespace SlugTest

/-- Whether a slug passes the test. -/
def passes (slug : String) : SlugTest → Bool
  | equals expected => slug == expected
  | contains part => Like.accepts none (Like.within part.toList) slug.toList

/-- Whether the test matches a pattern that is too long. -/
def isOverlong : SlugTest → Bool
  | equals _ => false
  | contains part => Like.maxPatternBytes < Like.patternBytes (Like.within part.toList)

end SlugTest

namespace Condition

/-- Whether an archive on a shelf satisfies the condition. -/
def holds (shelf : Shelf) (volume : Volume) : Condition → Bool
  | path part =>
    Like.accepts (some '\\') (Like.within (pathPattern part).toList) volume.foldedPath.toList
  | title test => test.passes volume.slug
  | linked taxonomy test => (shelf.labelsOf taxonomy volume).any fun label => test.passes label.slug
  | linkedAny taxonomy tests =>
    tests.any fun test => (shelf.labelsOf taxonomy volume).any fun label => test.passes label.slug
  | unlinked taxonomy test =>
    !(shelf.labelsOf taxonomy volume).any fun label => test.passes label.slug
  | pages bound => bound.comparison.holds volume.pages bound.count
  | visible => volume.isVisible

/-- Whether testing a label condition on an archive matches a pattern that is too long. -/
def labelTestFails (shelf : Shelf) (volume : Volume) (taxonomy : Taxonomy) (test : SlugTest) :
    Bool :=
  test.isOverlong && !(shelf.labelsOf taxonomy volume).isEmpty

/-- Whether testing one label condition after the other, up to the first that holds, matches a
pattern that is too long. -/
def anyTestFails (shelf : Shelf) (volume : Volume) (taxonomy : Taxonomy) : List SlugTest → Bool
  | [] => false
  | test :: rest =>
    labelTestFails shelf volume taxonomy test ||
      (!holds shelf volume (linked taxonomy test) && anyTestFails shelf volume taxonomy rest)

/-- Whether testing the condition on an archive matches a pattern that is too long. -/
def fails (shelf : Shelf) (volume : Volume) : Condition → Bool
  | path part =>
    Like.maxPatternBytes < Like.patternBytes (Like.within (pathPattern part).toList)
  | title test => test.isOverlong
  | linked taxonomy test => labelTestFails shelf volume taxonomy test
  | linkedAny taxonomy tests => anyTestFails shelf volume taxonomy tests
  | unlinked taxonomy test => labelTestFails shelf volume taxonomy test
  | pages _ => false
  | visible => false

/-- When a condition is tested: archives are found by their slug first, and labels are looked at
last. -/
def stage : Condition → Nat
  | title (.equals _) => 0
  | linked _ _ => 2
  | linkedAny _ _ => 2
  | unlinked _ _ => 2
  | _ => 1

/-- Conditions in the order in which they are tested. -/
def tested (conditions : List Condition) : List Condition :=
  conditions.filter (·.stage = 0) ++ conditions.filter (·.stage = 1) ++
    conditions.filter (·.stage = 2)

/-- Whether testing conditions in turn, up to the first that does not hold, matches a pattern that
is too long. -/
def someFails (shelf : Shelf) (volume : Volume) : List Condition → Bool
  | [] => false
  | condition :: rest =>
    condition.fails shelf volume ||
      (condition.holds shelf volume && someFails shelf volume rest)

end Condition

/-- What archives are compared by. Nothing comes before numbers, and numbers before texts. -/
inductive SortKey where
  | nothing
  | number (value : Int)
  | text (value : String)
  deriving DecidableEq, Repr

/-- Whether a sort key comes before another. -/
def SortKey.before : SortKey → SortKey → Bool
  | nothing, nothing => false
  | nothing, _ => true
  | number _, nothing => false
  | number a, number b => a < b
  | number _, text _ => true
  | text a, text b => a < b
  | text _, _ => false

namespace Volume

/-- What an archive is compared by in the order of a sort field. -/
def sortKey (volume : Volume) : SortField → SortKey
  | .id => .number volume.id
  | .createdAt => .number volume.createdAt
  | .updatedAt => .number volume.updatedAt
  | .publishedAt => volume.publishedAt.elim .nothing fun moment => .number moment
  | .title => .text volume.title
  | .pages => .number volume.pages

/-- Whether an archive comes before another in ascending order. Archives that agree in the sort
field are ordered by number. -/
def before (field : SortField) (a b : Volume) : Bool :=
  (a.sortKey field).before (b.sortKey field) ||
    (a.sortKey field == b.sortKey field && a.id < b.id)

/-- Whether an archive may stand in front of another in a list of the given order. -/
def mayPrecede (field : SortField) (order : SortOrder) (a b : Volume) : Bool :=
  match order with
  | .ascending => !b.before field a
  | .descending => !a.before field b

end Volume

/-- The text of a moment. -/
def momentText (moment : Nat) : String :=
  "T" ++ toString moment

/-- A part of a list: so many members, or all, behind the first few. -/
def excerpt {α : Type} (limit : Option Nat) (offset : Nat) (members : List α) : List α :=
  match limit with
  | none => members.drop offset
  | some limit => (members.drop offset).take limit

namespace Shelf

/-- The entries of an archive in a taxonomy, by name. -/
def relation (shelf : Shelf) (volume : Volume) (taxonomy : Taxonomy) : List Entry :=
  ((shelf.labelsOf taxonomy volume).mergeSort Label.mayPrecede).map Label.entry

/-- An archive with some of its relations. -/
def archiveOf (shelf : Shelf) (preloads : List Taxonomy) (volume : Volume) : Archive where
  id := volume.id
  title := volume.title
  slug := volume.slug
  path := volume.path
  pages := volume.pages
  size := volume.size
  createdAt := momentText volume.createdAt
  updatedAt := momentText volume.updatedAt
  publishedAt := volume.publishedAt.map momentText
  relations := .ofFn fun taxonomy =>
    if taxonomy ∈ preloads then shelf.relation volume taxonomy else []

/-- The archives that satisfy all conditions, in the order in which they came. -/
def matching (conditions : List Condition) (shelf : Shelf) : List Volume :=
  shelf.volumes.filter fun volume => conditions.all (·.holds shelf volume)

/-- The archives that satisfy the conditions of a selection, in its order. -/
def ordered (selection : Selection) (shelf : Shelf) : List Volume :=
  (shelf.matching selection.conditions).mergeSort
    (Volume.mayPrecede selection.sort selection.order)

/-- Why the database refuses to look for the archives that satisfy all conditions, if it does. -/
def searchFault? (conditions : List Condition) (shelf : Shelf) : Option DatabaseFault :=
  if Condition.areTooDeep conditions then some .conditionsTooDeep
  else if shelf.volumes.any (Condition.someFails shelf · (Condition.tested conditions)) then
    some .patternTooComplex
  else none

/-- The archives of a selection, without relations. -/
def rows (selection : Selection) (shelf : Shelf) : List Volume :=
  excerpt selection.limit selection.offset (shelf.ordered selection)

/-- Why the database refuses a selection, if it does: archives are counted first, then they are
looked for, and then their relations are looked up. -/
def fault? (selection : Selection) (shelf : Shelf) : Option DatabaseFault :=
  ((shelf.searchFault? selection.counted).or (shelf.searchFault? selection.conditions)).or
    (lookupFault? selection.preloads (shelf.rows selection).length)

/-- Carries out a selection. -/
def select (selection : Selection) (shelf : Shelf) : Except ShelfError ArchivePage :=
  match shelf.fault? selection with
  | some fault => .error (.database fault)
  | none =>
    .ok {
      archives := (shelf.rows selection).map (shelf.archiveOf selection.preloads)
      total := (shelf.matching selection.counted).length }

/-- The visible archive of a number, with some of its relations. -/
def archive? (id : Int) (preloads : List Taxonomy) (shelf : Shelf) : Option Archive :=
  (shelf.volumes.find? fun volume => volume.id = id ∧ volume.isVisible).map
    (shelf.archiveOf preloads)

/-- The number of visible archives with a label. -/
def visibleCount (shelf : Shelf) (taxonomy : Taxonomy) (label : Label) : Nat :=
  shelf.volumes.countP fun volume =>
    volume.isVisible && (shelf.labellings.get taxonomy).links.contains (volume.id, label.id)

/-- A part of the entries of a taxonomy, by name, each with the number of its visible archives. -/
def entries (taxonomy : Taxonomy) (limit : Option Nat) (offset : Nat) (shelf : Shelf) :
    EntryPage :=
  let labels := (shelf.labellings.get taxonomy).labels
  { entries := (excerpt limit offset (labels.mergeSort Label.mayPrecede)).map fun label =>
      { id := label.id
        name := label.name
        slug := label.slug
        count := some (shelf.visibleCount taxonomy label) }
    total := labels.length }

/-- The shelf as a source. -/
def source (shelf : Shelf) : Source where
  select selection := (shelf.select selection).mapError ShelfError.toCatalogueError
  archive id relations := .ok (shelf.archive? id relations)
  entries taxonomy limit offset := .ok (shelf.entries taxonomy limit offset)

end Shelf

end ComicCatalogue
