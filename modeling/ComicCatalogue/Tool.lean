import ComicCatalogue.Catalogue
import ComicCatalogue.Json.Printer

/-!
# Tools

The catalogue offers its services as named tools. A tool is called with a JSON object of arguments
and answers with the text of a JSON value.
-/

namespace ComicCatalogue

/-- A service of the catalogue that can be called by name. -/
inductive Tool where
  | archiveGet
  | archiveSearch
  | cachePurge
  | cacheStats
  | taxonomyList
  deriving DecidableEq, Repr

namespace Tool

/-- Every tool, ascending by name. -/
def all : List Tool :=
  [archiveGet, archiveSearch, cachePurge, cacheStats, taxonomyList]

/-- The name of a tool. -/
def name : Tool → String
  | archiveGet => "archive_get"
  | archiveSearch => "archive_search"
  | cachePurge => "cache_purge"
  | cacheStats => "cache_stats"
  | taxonomyList => "taxonomy_list"

/-- What a tool does, in a sentence or two. -/
def description : Tool → String
  | archiveGet =>
    "Get one published archive by id, optionally preloading artists, circles, magazines, " ++
      "parodies or tags."
  | archiveSearch =>
    "Search archives. Accepts directives like `artist:name`, `-tag:x`, `tag&:a,b`, " ++
      "`title*:zero`, `pages:>100`; plain text is matched against artists, circles, parodies, " ++
      "tags and finally the archive path."
  | cachePurge =>
    "Purge a result cache (archives, archive, taxonomies, or `*` for all), whole or one " ++
      "namespace. Call after the catalog changes."
  | cacheStats => "Report size, hits, misses and hit rate of every result cache."
  | taxonomyList =>
    "List artists, circles, magazines, parodies or tags, one page at a time, with archive counts."

/-- The tool of that name. -/
def ofName? (name : String) : Option Tool :=
  all.find? (·.name = name)

/-- The arguments of a call, under their names. -/
abbrev Arguments := Json.Fields

/-- What a call gives: a JSON value, or the reason why it fails. -/
abbrev Result := Except CallError Json

/-- An argument that has to be given. -/
def require {α : Type} (name : String) (value : Option α) : Except DecodeError α :=
  value.elim (.error (.missingField name)) .ok

/-- The number of an archive and the names of relations. Arguments are read in the order of their
names, and only then it matters which are missing. -/
def archiveArguments (arguments : Arguments) : Except DecodeError (Int × List String) := do
  let id ← arguments.optional "id" .int64
  let preload ← arguments.list "preload" .text
  return (← require "id" id, preload)

/-- The search that the arguments ask for. -/
def searchArguments (arguments : Arguments) : Except DecodeError SearchRequest := do
  let order ← arguments.nullable "order" .text
  let page ← arguments.nullable "page" .nat32
  let preload ← arguments.list "preload" .text
  let query ← arguments.withDefault "query" .text ""
  let sort ← arguments.nullable "sort" .text
  return {
    line := query
    page := page.getD 1
    sort := sort.getD ""
    order := order.getD ""
    preloads := preload }

/-- The name of a cache and a namespace. -/
def purgeArguments (arguments : Arguments) : Except DecodeError (String × Option String) := do
  let cache ← arguments.optional "cache" .text
  let space ← arguments.nullable "namespace" .text
  return (← require "cache" cache, space)

/-- The name of a taxonomy and the number of a page. -/
def listArguments (arguments : Arguments) : Except DecodeError (String × Nat) := do
  let page ← arguments.nullable "page" .nat32
  let taxonomy ← arguments.required "taxonomy" .text
  return (taxonomy, page.getD 1)

/-- A step of the catalogue that comes to nothing if the arguments cannot be read. -/
def withArguments {α : Type} (read : Except DecodeError α)
    (step : α → Service Catalogue Result) : Service Catalogue Result :=
  match read with
  | .error error => return .error (.ofDecodeError error)
  | .ok arguments => step arguments

/-- Gives one archive. -/
def getArchive (id : Int) (preload : List String) : Service Catalogue Result := do
  let lookup ← Catalogue.archive id preload
  match lookup.archive, lookup.error with
  | _, some error => return .error (.ofCatalogueError error)
  | some archive, none => return .ok archive.toJson
  | none, none => return .error (.ofCatalogueError (.archiveNotFound id))

/-- Purges a cache. Names are trimmed, and a blank namespace is refused. -/
def purgeCache (cache : String) (space : Option String) : Service Catalogue Result := do
  let space := space.map Text.trim
  if space = some "" then
    return .error (.ofCatalogueError (.invalidInput "namespace must not be empty"))
  Service.update fun catalogue =>
    match catalogue.purge (Text.trim cache) space with
    | .error error => (.error (.ofCatalogueError error), catalogue)
    | .ok (count, catalogue) => (.ok (.obj [("purged", .int count)]), catalogue)

/-- Tells how the caches have been used. -/
def showStats : Service Catalogue Result := do
  let stats := (← Service.state).stats (← read).now
  return .ok (.obj [("caches", .obj (stats.map fun (name, stats) => (name, stats.toJson)))])

/-- The taxonomy of a name, singular or plural. -/
def taxonomyOf? (name : String) : Option Taxonomy :=
  (Taxonomy.ofName? name).orElse fun _ => Taxonomy.ofRelation? name

/-- Lists a page of the entries of a taxonomy. -/
def listEntries (name : String) (page : Nat) : Service Catalogue Result := do
  let name := Text.trim name
  match taxonomyOf? name with
  | none => return .error (.ofCatalogueError (.invalidInput ("unknown taxonomy: " ++ name)))
  | some taxonomy =>
    let page := max page 1
    let size := (← Service.state).taxonomyPageSize
    let listing ← Catalogue.entries taxonomy size (PageWindow.offset size page)
    match listing.error with
    | some error => return .error (.ofCatalogueError error)
    | none =>
      let window := PageWindow.ofTotal page listing.total size
      return .ok (.obj ([("taxonomy", .str taxonomy.name)] ++ listing.jsonFields ++
        [("pagination", window.toJson)]))

/-- Calls a tool with arguments. -/
def apply (tool : Tool) (arguments : Arguments) : Service Catalogue Result :=
  match tool with
  | archiveGet =>
    withArguments (archiveArguments arguments) fun (id, preload) => getArchive id preload
  | archiveSearch =>
    withArguments (searchArguments arguments) fun request =>
      return .ok (← Catalogue.search request).toJson
  | cachePurge =>
    withArguments (purgeArguments arguments) fun (cache, space) => purgeCache cache space
  | cacheStats => showStats
  | taxonomyList =>
    withArguments (listArguments arguments) fun (name, page) => listEntries name page

/-- Calls the tool of a name with the fields of an object as arguments, and gives the text of its
answer. -/
def call (name : String) (arguments : List (String × Json)) :
    Service Catalogue (Except CallError String) := do
  match ofName? name with
  | none => return .error ⟨CallError.invalidParams, "tool not found"⟩
  | some tool =>
    let result ← tool.apply (Ascending.ofPairs arguments)
    return result.map Json.pretty

/-- The name under which the tools are offered. -/
def serverName : String := "catalog-mcp"

/-- The version of the tools. -/
def serverVersion : String := "0.1.0"

end Tool

end ComicCatalogue
