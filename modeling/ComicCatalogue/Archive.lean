import ComicCatalogue.Json.Decode
import ComicCatalogue.Taxonomy

/-!
# Archives and entries

The records that answers are made of: archives with the entries that they are linked with, and the
entries of a taxonomy.
-/

namespace ComicCatalogue

/-- An artist, circle, magazine, parody or tag. -/
structure Entry where
  id : Int
  name : String
  slug : String
  /-- The number of visible archives linked with the entry, given in listings only. -/
  count : Option Int := none
  deriving DecidableEq, Repr

namespace Entry

/-- The entry as an object. -/
def toJson (entry : Entry) : Json :=
  .obj ([("id", .int entry.id), ("name", .str entry.name), ("slug", .str entry.slug)] ++
    Json.field? "count" (entry.count.map .int))

/-- Reads an entry. -/
def ofJson : Json.Decoder Entry := fun value => do
  let fields ← Json.fields ["id", "name", "slug", "count"] value
  return {
    id := ← fields.required "id" .int64
    name := ← fields.required "name" .text
    slug := ← fields.required "slug" .text
    count := ← fields.nullable "count" .int64 }

end Entry

/-- A comic archive, with the relations that were asked for. -/
structure Archive where
  id : Int
  title : String
  slug : String
  path : String
  pages : Int
  size : Int
  createdAt : String
  updatedAt : String
  publishedAt : Option String := none
  /-- The entries that the archive is linked with, in each relation that was asked for. -/
  relations : PerTaxonomy (List Entry) := .const []
  deriving DecidableEq, Repr

namespace Archive

/-- The relations that are not empty, as fields under the plural names. -/
def relationFields (relations : PerTaxonomy (List Entry)) : List (String × Json) :=
  Taxonomy.all.flatMap fun taxonomy =>
    Json.listField taxonomy.plural Entry.toJson (relations.get taxonomy)

/-- The archive as an object. -/
def toJson (archive : Archive) : Json :=
  .obj ([
    ("id", .int archive.id),
    ("title", .str archive.title),
    ("slug", .str archive.slug),
    ("path", .str archive.path),
    ("pages", .int archive.pages),
    ("size", .int archive.size),
    ("created_at", .str archive.createdAt),
    ("updated_at", .str archive.updatedAt)] ++
    Json.field? "published_at" (archive.publishedAt.map .str) ++
    relationFields archive.relations)

/-- The names of the fields of an archive. -/
def fieldNames : List String :=
  ["id", "title", "slug", "path", "pages", "size", "created_at", "updated_at", "published_at"] ++
    Taxonomy.all.map Taxonomy.plural

/-- Reads an archive. -/
def ofJson : Json.Decoder Archive := fun value => do
  let fields ← Json.fields fieldNames value
  return {
    id := ← fields.required "id" .int64
    title := ← fields.required "title" .text
    slug := ← fields.required "slug" .text
    path := ← fields.required "path" .text
    pages := ← fields.required "pages" .int64
    size := ← fields.required "size" .int64
    createdAt := ← fields.required "created_at" .text
    updatedAt := ← fields.required "updated_at" .text
    publishedAt := ← fields.nullable "published_at" .text
    relations := {
      artists := ← fields.list "artists" Entry.ofJson
      circles := ← fields.list "circles" Entry.ofJson
      magazines := ← fields.list "magazines" Entry.ofJson
      parodies := ← fields.list "parodies" Entry.ofJson
      tags := ← fields.list "tags" Entry.ofJson } }

/-- The archive without its relations. -/
def withoutRelations (archive : Archive) : Archive :=
  { archive with relations := .const [] }

end Archive

end ComicCatalogue
