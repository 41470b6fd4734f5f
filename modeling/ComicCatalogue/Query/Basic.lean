import ComicCatalogue.Json.Decode
import ComicCatalogue.Json.Printer
import ComicCatalogue.Search.Directive
import ComicCatalogue.Sha256

/-!
# Queries

A query is a settled request for archives: which ones, in which order, and which part of them. Two
requests that ask for the same have equal queries, and equal queries have equal texts; the hash of
the text is the key under which the answer is kept.
-/

namespace ComicCatalogue

/-- The constraints on the entries of one taxonomy, by slug. A list of values constrains nothing if
it is empty. -/
structure TaxonomyFilter where
  /-- One of these slugs has to be the slug of an entry. -/
  anyOf : List String := []
  /-- Each of these has to be the slug of an entry. -/
  allOf : List String := []
  /-- One of these has to be part of the slug of an entry. -/
  anyContaining : List String := []
  /-- Each of these has to be part of the slug of an entry. -/
  allContaining : List String := []
  /-- None of these may be the slug of an entry. -/
  noneOf : List String := []
  /-- None of these may be part of the slug of an entry. -/
  noneContaining : List String := []
  deriving DecidableEq, Repr

namespace TaxonomyFilter

/-- The values of a kind of constraint. -/
def get (filter : TaxonomyFilter) : Slot → List String
  | ⟨.anyOf, false⟩ => filter.anyOf
  | ⟨.allOf, false⟩ => filter.allOf
  | ⟨.anyOf, true⟩ => filter.anyContaining
  | ⟨.allOf, true⟩ => filter.allContaining
  | ⟨.noneOf, false⟩ => filter.noneOf
  | ⟨.noneOf, true⟩ => filter.noneContaining

/-- Adds values to a kind of constraint. -/
def add (slot : Slot) (values : List String) (filter : TaxonomyFilter) : TaxonomyFilter :=
  match slot with
  | ⟨.anyOf, false⟩ => { filter with anyOf := filter.anyOf ++ values }
  | ⟨.allOf, false⟩ => { filter with allOf := filter.allOf ++ values }
  | ⟨.anyOf, true⟩ => { filter with anyContaining := filter.anyContaining ++ values }
  | ⟨.allOf, true⟩ => { filter with allContaining := filter.allContaining ++ values }
  | ⟨.noneOf, false⟩ => { filter with noneOf := filter.noneOf ++ values }
  | ⟨.noneOf, true⟩ => { filter with noneContaining := filter.noneContaining ++ values }

/-- Whether nothing is constrained. -/
def isEmpty (filter : TaxonomyFilter) : Bool :=
  filter.anyOf.isEmpty && filter.allOf.isEmpty && filter.anyContaining.isEmpty &&
    filter.allContaining.isEmpty && filter.noneOf.isEmpty && filter.noneContaining.isEmpty

theorem get_add (slot other : Slot) (values : List String) (filter : TaxonomyFilter) :
    (filter.add slot values).get other =
      if other = slot then filter.get other ++ values else filter.get other := by
  obtain ⟨mode, wildcard⟩ := slot
  obtain ⟨mode', wildcard'⟩ := other
  cases mode <;> cases wildcard <;> cases mode' <;> cases wildcard' <;> rfl

/-- The filter as an object, without the kinds that constrain nothing. -/
def toJson (filter : TaxonomyFilter) : Json :=
  .obj <|
    Json.listField "match" .str filter.anyOf ++
    Json.listField "matchAnd" .str filter.allOf ++
    Json.listField "wildcard" .str filter.anyContaining ++
    Json.listField "wildcardAnd" .str filter.allContaining ++
    Json.listField "excludedMatch" .str filter.noneOf ++
    Json.listField "excludedWildcard" .str filter.noneContaining

/-- The names of the kinds of constraint. -/
def fieldNames : List String :=
  ["match", "matchAnd", "wildcard", "wildcardAnd", "excludedMatch", "excludedWildcard"]

/-- Reads a filter. -/
def ofJson : Json.Decoder TaxonomyFilter := fun value => do
  let fields ← Json.fields fieldNames value
  return {
    anyOf := ← fields.list "match" .text
    allOf := ← fields.list "matchAnd" .text
    anyContaining := ← fields.list "wildcard" .text
    allContaining := ← fields.list "wildcardAnd" .text
    noneOf := ← fields.list "excludedMatch" .text
    noneContaining := ← fields.list "excludedWildcard" .text }

end TaxonomyFilter

/-- A constraint on the slug of the title. -/
inductive TitleFilter where
  | equals (slug : String)
  | contains (slug : String)
  deriving DecidableEq, Repr

/-- The constraint as an object of one field. -/
def TitleFilter.toJson : TitleFilter → Json
  | equals slug => .obj [("match", .str slug)]
  | contains slug => .obj [("wildcard", .str slug)]

/-- A constraint on the number of pages. -/
structure PageBound where
  comparison : Comparison
  count : Nat
  deriving DecidableEq, Repr

/-- The constraint as an object. -/
def PageBound.toJson (bound : PageBound) : Json :=
  .obj [("op", .str bound.comparison.word), ("value", .int bound.count)]

/-- What archives are ordered by. -/
inductive SortField where
  | id
  | createdAt
  | updatedAt
  | publishedAt
  | title
  | pages
  deriving DecidableEq, Repr

namespace SortField

/-- Every sort field. -/
def all : List SortField :=
  [id, createdAt, updatedAt, publishedAt, title, pages]

/-- The name of a sort field. The column of the archive table goes by the same name. -/
def name : SortField → String
  | id => "id"
  | createdAt => "created_at"
  | updatedAt => "updated_at"
  | publishedAt => "published_at"
  | title => "title"
  | pages => "pages"

/-- The sort field of that name, in any case and with white space around; otherwise the time of
creation. -/
def ofName (name : String) : SortField :=
  (all.find? fun field => Text.equalIgnoringCase field.name (Text.trim name)).getD createdAt

end SortField

/-- The direction in which archives are ordered. -/
inductive SortOrder where
  | ascending
  | descending
  deriving DecidableEq, Repr

namespace SortOrder

/-- The name of a direction. -/
def name : SortOrder → String
  | ascending => "asc"
  | descending => "desc"

/-- The keyword for a direction. -/
def keyword : SortOrder → String
  | ascending => "ASC"
  | descending => "DESC"

/-- Ascending if asked for by name, in any case and with white space around; otherwise
descending. -/
def ofName (name : String) : SortOrder :=
  if Text.equalIgnoringCase (Text.trim name) "asc" then ascending else descending

end SortOrder

/-- A settled request for archives. -/
structure Query where
  /-- A lower-case text that has to be part of the path. -/
  path : Option String
  title : Option TitleFilter
  filters : PerTaxonomy TaxonomyFilter
  pages : Option PageBound
  sort : SortField
  order : SortOrder
  /-- The largest number of archives; zero stands for all. -/
  limit : Nat
  /-- The number of archives to leave out at the beginning. -/
  offset : Nat
  /-- Whether limit and offset were set aside. -/
  unbounded : Bool
  /-- The relations to give with each archive. -/
  preloads : List Taxonomy
  deriving DecidableEq, Repr

namespace Query

/-- The filters of the taxonomies that are constrained, as fields under the plural names. -/
def filterFields (filters : PerTaxonomy TaxonomyFilter) : List (String × Json) :=
  Taxonomy.all.flatMap fun taxonomy =>
    let filter := filters.get taxonomy
    if filter.isEmpty then [] else [(taxonomy.plural, filter.toJson)]

/-- The query as an object, without the constraints that it does not have. -/
def toJson (query : Query) : Json :=
  .obj <|
    Json.field? "path" (query.path.map .str) ++
    Json.field? "title" (query.title.map TitleFilter.toJson) ++
    filterFields query.filters ++
    Json.field? "pages" (query.pages.map PageBound.toJson) ++
    [("sort", .str query.sort.name),
     ("order", .str query.order.name),
     ("limit", .int query.limit),
     ("offset", .int query.offset),
     ("unbounded", .bool query.unbounded),
     ("preloads", .arr (query.preloads.map fun taxonomy => .str taxonomy.name))]

/-- The text of a query. -/
def canonicalText (query : Query) : String :=
  query.toJson.compact

/-- The key of a query. -/
def key (query : Query) : String :=
  Sha256.hexDigest query.canonicalText

/-- Whether the query asks for less than all archives. -/
def hasFilters (query : Query) : Bool :=
  query.path.isSome || query.title.isSome || query.pages.isSome ||
    Taxonomy.all.any fun taxonomy => !(query.filters.get taxonomy).isEmpty

end Query

/-- The key of a JSON value: the hash of its text. -/
def Json.key (value : Json) : String :=
  Sha256.hexDigest value.compact

end ComicCatalogue
