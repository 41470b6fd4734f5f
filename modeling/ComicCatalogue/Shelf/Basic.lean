import ComicCatalogue.Error
import ComicCatalogue.Slug
import ComicCatalogue.Taxonomy

/-!
# The shelf

The shelf keeps the archives, the entries of the taxonomies, and the links between them. Archives
are told apart by their path and entries by their slug; both are numbered in the order in which they
came. Archives and entries are never thrown away: an archive can be unpublished, and it can be
withdrawn for good.

Every change is made at a moment, which is a number; later moments have larger numbers.
-/

namespace ComicCatalogue

/-- An archive on the shelf. -/
structure Volume where
  id : Int
  title : String
  /-- The slug of the title. -/
  slug : String
  path : String
  /-- The path in lower case. -/
  foldedPath : String
  pages : Int
  size : Int
  createdAt : Nat
  updatedAt : Nat
  publishedAt : Option Nat
  withdrawn : Bool
  deriving DecidableEq, Repr

/-- Whether the archive is published and not withdrawn. -/
def Volume.isVisible (volume : Volume) : Bool :=
  volume.publishedAt.isSome && !volume.withdrawn

/-- An entry of a taxonomy on the shelf. -/
structure Label where
  id : Int
  /-- The name under which the entry came first. -/
  name : String
  slug : String
  deriving DecidableEq, Repr

/-- An archive to be put on the shelf. -/
structure NewArchive where
  title : String
  path : String
  pages : Int := 0
  size : Int := 0
  published : Bool := true
  /-- The names of the entries that the archive is linked with. -/
  names : PerTaxonomy (List String) := .const []
  deriving DecidableEq, Repr

/-- The labels of one taxonomy, and which archives have them. -/
structure Labelling where
  labels : List Label := []
  /-- The numbers of an archive and of a label that it has. -/
  links : List (Int × Int) := []
  deriving DecidableEq, Repr

/-- The archives, entries and links. -/
structure Shelf where
  volumes : List Volume := []
  labellings : PerTaxonomy Labelling := .const {}
  deriving DecidableEq, Repr

/-- The number that follows all given numbers. -/
def nextId (ids : List Int) : Int :=
  ids.foldl max 0 + 1

namespace Labelling

/-- The number of the label with a slug, which is made if there is none yet. -/
def label (name slug : String) (labelling : Labelling) : Int × Labelling :=
  match labelling.labels.find? (·.slug = slug) with
  | some label => (label.id, labelling)
  | none =>
    let id := nextId (labelling.labels.map (·.id))
    (id, { labelling with labels := labelling.labels ++ [⟨id, Text.trim name, slug⟩] })

/-- Takes every label off an archive. -/
def clear (volume : Int) (labelling : Labelling) : Labelling :=
  { labelling with links := labelling.links.filter (·.1 ≠ volume) }

/-- Puts the label of a name on an archive. A name without letters and digits is no label. -/
def attach (volume : Int) (labelling : Labelling) (name : String) : Labelling :=
  let slug := Slug.ofText name
  if slug.isEmpty then labelling
  else
    let (id, labelling) := labelling.label name slug
    if (volume, id) ∈ labelling.links then labelling
    else { labelling with links := labelling.links ++ [(volume, id)] }

/-- Replaces the labels of an archive by those of the given names. -/
def relabel (volume : Int) (names : List String) (labelling : Labelling) : Labelling :=
  names.foldl (attach volume) (labelling.clear volume)

/-- The labels of an archive. -/
def labelsOf (volume : Int) (labelling : Labelling) : List Label :=
  labelling.labels.filter fun label => (volume, label.id) ∈ labelling.links

end Labelling

namespace Shelf

/-- The archive at a path. -/
def atPath? (path : String) (shelf : Shelf) : Option Volume :=
  shelf.volumes.find? (·.path = path)

/-- The number of the archive at a path; if there is none yet, the next number. -/
def idAt (path : String) (shelf : Shelf) : Int :=
  match shelf.atPath? path with
  | some volume => volume.id
  | none => nextId (shelf.volumes.map (·.id))

/-- An archive as it comes to the shelf at a moment. -/
def volumeOf (now : Nat) (id : Int) (new : NewArchive) : Volume where
  id := id
  title := new.title
  slug := Slug.ofText new.title
  path := new.path
  foldedPath := Text.lowercase new.path
  pages := new.pages
  size := new.size
  createdAt := now
  updatedAt := now
  publishedAt := if new.published then some now else none
  withdrawn := false

/-- The archives after one has been put on the shelf. An archive at the same path is updated; it
keeps its number and the moment of its creation, and it stays withdrawn if it is. -/
def putVolume (now : Nat) (new : NewArchive) (shelf : Shelf) : List Volume :=
  match shelf.atPath? new.path with
  | some _ =>
    shelf.volumes.map fun volume =>
      if volume.path = new.path then
        { volumeOf now volume.id new with
          createdAt := volume.createdAt
          withdrawn := volume.withdrawn }
      else volume
  | none => shelf.volumes ++ [volumeOf now (shelf.idAt new.path) new]

/-- Puts an archive on the shelf, and gives its number. Its labels are replaced by those of the
names that come with it. A blank path is refused. -/
def put (now : Nat) (new : NewArchive) (shelf : Shelf) : Except ShelfError (Int × Shelf) :=
  if (Text.trim new.path).isEmpty then
    .error (.invalidInput "archive path must not be empty")
  else
    let id := shelf.idAt new.path
    .ok (id, {
      volumes := shelf.putVolume now new
      labellings := .ofFn fun taxonomy =>
        (shelf.labellings.get taxonomy).relabel id (new.names.get taxonomy) })

/-- Changes the archive of a number, and says whether there is one. -/
def change (id : Int) (f : Volume → Volume) (shelf : Shelf) : Bool × Shelf :=
  (shelf.volumes.any (·.id = id),
    { shelf with
      volumes := shelf.volumes.map fun volume => if volume.id = id then f volume else volume })

/-- Publishes or unpublishes an archive. -/
def publish (now : Nat) (id : Int) (published : Bool) (shelf : Shelf) : Bool × Shelf :=
  shelf.change id fun volume =>
    { volume with
      publishedAt := if published then some now else none
      updatedAt := now }

/-- Withdraws an archive. -/
def withdraw (now : Nat) (id : Int) (shelf : Shelf) : Bool × Shelf :=
  shelf.change id fun volume => { volume with withdrawn := true, updatedAt := now }

/-- The labels of an archive in a taxonomy. -/
def labelsOf (shelf : Shelf) (taxonomy : Taxonomy) (volume : Volume) : List Label :=
  (shelf.labellings.get taxonomy).labelsOf volume.id

end Shelf

end ComicCatalogue
