import Std.Data.HashMap
import ComicCatalogue.Shelf.Basic
import ComicCatalogue.Source

/-!
# Loading relations

Archives are first read without their relations. For each relation that is asked for, one look-up
then lists the links of all these archives by the names of the labels. The entries are gathered by
archive, and each archive takes those that were gathered for it.

A look-up leaves out one value for each archive, and the database takes only so many of them.
-/

namespace ComicCatalogue

/-- A label as an entry of an archive. -/
def Label.entry (label : Label) : Entry where
  id := label.id
  name := label.name
  slug := label.slug

/-- Whether a label may stand in front of another in a list by name. -/
def Label.mayPrecede (a b : Label) : Bool :=
  a.name < b.name || (a.name == b.name && a.id ≤ b.id)

/-- The links of some archives: the number of an archive, and a label that it has. -/
def Labelling.joined (volumes : List Int) (labelling : Labelling) : List (Int × Label) :=
  (labelling.links.filter (·.1 ∈ volumes)).flatMap fun link =>
    (labelling.labels.filter (·.id = link.2)).map fun label => (link.1, label)

/-- What a look-up gives: the links of some archives, by the names of the labels. -/
def Labelling.lines (volumes : List Int) (labelling : Labelling) : List (Int × Label) :=
  (labelling.joined volumes).mergeSort fun a b => a.2.mayPrecede b.2

/-- An archive with other entries in one of its relations. -/
def Archive.withRelation (taxonomy : Taxonomy) (entries : List Entry) (archive : Archive) :
    Archive :=
  { archive with relations := archive.relations.modify taxonomy fun _ => entries }

namespace Taxonomy

/-- The beginning of a look-up of links, up to the numbers of the archives. -/
def lookupHead (taxonomy : Taxonomy) : String :=
  let table := taxonomy.name
  let links := taxonomy.linkTable
  "SELECT " ++ links ++ ".archive_id, " ++ table ++ ".id, " ++ table ++ ".name, " ++ table ++
    ".slug\n             FROM " ++ links ++ " JOIN " ++ table ++ " ON " ++ table ++ ".id = " ++
    links ++ "." ++ taxonomy.linkColumn ++ "\n             WHERE " ++ links ++ ".archive_id IN ("

/-- The look-up of the links of so many archives. -/
def lookup (taxonomy : Taxonomy) (count : Nat) : String :=
  taxonomy.lookupHead ++ ", ".intercalate (List.replicate count "?") ++
    ")\n             ORDER BY " ++ taxonomy.name ++ ".name, " ++ taxonomy.name ++ ".id"

end Taxonomy

namespace Shelf

/-- The largest number of archives whose links are looked up at once. -/
def maxLookedUp : Nat := 32766

/-- Why the database refuses to look up relations of so many archives, if it does. The first of the
relations is looked up first. -/
def lookupFault? (relations : List Taxonomy) (count : Nat) : Option DatabaseFault :=
  match relations with
  | [] => none
  | taxonomy :: _ =>
    if count ≤ maxLookedUp then none
    else
      let position := taxonomy.lookupHead.utf8ByteSize + maxLookedUp * "?, ".utf8ByteSize
      some (.tooManyValues (taxonomy.lookup count) position)

/-- The entries of a look-up, gathered by the number of their archive. -/
def gather (lines : List (Int × Label)) : Std.HashMap Int (List Entry) :=
  lines.foldl
    (fun groups line => groups.insert line.1 (groups.getD line.1 [] ++ [line.2.entry])) ∅

/-- Every archive takes what was gathered for it. -/
def handOut (taxonomy : Taxonomy) : List Archive → Std.HashMap Int (List Entry) → List Archive
  | [], _ => []
  | archive :: rest, groups =>
    archive.withRelation taxonomy (groups.getD archive.id []) ::
      handOut taxonomy rest (groups.erase archive.id)

/-- Loads relations of some archives. -/
def load (relations : List Taxonomy) (archives : List Archive) (shelf : Shelf) :
    Except ShelfError (List Archive) :=
  match lookupFault? relations archives.length with
  | some fault => .error (.database fault)
  | none =>
    let ids := archives.map (·.id)
    .ok (relations.foldl (fun archives taxonomy =>
      handOut taxonomy archives (gather ((shelf.labellings.get taxonomy).lines ids))) archives)

end Shelf

end ComicCatalogue
