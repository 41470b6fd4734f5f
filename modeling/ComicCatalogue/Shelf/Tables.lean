import ComicCatalogue.Clause.Meaning
import ComicCatalogue.Shelf.Select

/-!
# The tables of the shelf

The shelf as the database keeps it: a table of archives, and for each taxonomy a table of labels and
one that links archives with them. A fragment is asked of each archive.
-/

namespace ComicCatalogue

/-- The row of an archive. -/
def Volume.row (volume : Volume) : Row :=
  [("id", .integer volume.id), ("title", .text volume.title), ("slug", .text volume.slug),
    ("path", .text volume.path), ("path_folded", .text volume.foldedPath),
    ("pages", .integer volume.pages), ("size", .integer volume.size),
    ("created_at", .text (momentText volume.createdAt)),
    ("updated_at", .text (momentText volume.updatedAt)),
    ("published_at", volume.publishedAt.elim .null fun moment => .text (momentText moment)),
    ("expunged", .integer (if volume.withdrawn then 1 else 0))]

/-- The row of a label. -/
def Label.row (label : Label) : Row :=
  [("id", .integer label.id), ("name", .text label.name), ("slug", .text label.slug)]

/-- The row of a link between an archive and a label. -/
def Taxonomy.linkRow (taxonomy : Taxonomy) (link : Int × Int) : Row :=
  [("archive_id", .integer link.1), (taxonomy.linkColumn, .integer link.2)]

namespace Shelf

/-- The tables of the shelf. -/
def tables (shelf : Shelf) : Tables :=
  ("archive", shelf.volumes.map Volume.row) :: Taxonomy.all.flatMap fun taxonomy =>
    let labelling := shelf.labellings.get taxonomy
    [(taxonomy.name, labelling.labels.map Label.row),
      (taxonomy.linkTable, labelling.links.map taxonomy.linkRow)]

/-- The archives for which the answer is yes. -/
def foundBy? (clause : Clause) (shelf : Shelf) : Option (List Volume) := do
  let answers ← shelf.volumes.mapM fun volume =>
    clause.truth? shelf.tables [("archive", volume.row)]
  return (shelf.volumes.zip answers).filterMap fun (volume, answer) =>
    if answer = .yes then some volume else none

/-- The archives that the database finds by a fragment. -/
def found? (fragment : Fragment) (shelf : Shelf) : Option (List Volume) := do
  shelf.foundBy? (← fragment.clause?)

end Shelf

end ComicCatalogue
