import ComicCatalogue.Cache.Registry
import ComicCatalogue.PageWindow
import ComicCatalogue.PlainText
import ComicCatalogue.Settings.Basic

/-!
# The catalogue

The catalogue answers searches, look-ups of single archives and listings of entries, with the help
of a source. It keeps every answer of the source for a while, failures and empty answers included,
under a key that tells different requests apart; its three caches can be purged by name.
-/

namespace ComicCatalogue

/-- The archives that a query asks for, or the reason why there are none. -/
structure ArchiveListing where
  archives : List Archive := []
  /-- The number of archives that satisfy the query. -/
  total : Int := 0
  error : Option CatalogueError := none
  deriving DecidableEq, Repr

namespace ArchiveListing

/-- The listing that an answer of the source gives. A failure lists nothing. -/
def ofAnswer : Except CatalogueError ArchivePage → ArchiveListing
  | .ok page => { archives := page.archives, total := page.total }
  | .error error => { error := some error }

/-- The fields of a listing. -/
def jsonFields (listing : ArchiveListing) : List (String × Json) :=
  [("items", .arr (listing.archives.map Archive.toJson)), ("total", .int listing.total)] ++
    Json.field? "error" (listing.error.map CatalogueError.toJson)

end ArchiveListing

/-- An archive, or the reason why there is none. -/
structure ArchiveLookup where
  archive : Option Archive := none
  error : Option CatalogueError := none
  deriving DecidableEq, Repr

namespace ArchiveLookup

/-- The result of looking an archive up that an answer of the source gives. -/
def ofAnswer (id : Int) : Except CatalogueError (Option Archive) → ArchiveLookup
  | .ok (some archive) => { archive := some archive }
  | .ok none => { error := some (.archiveNotFound id) }
  | .error error => { error := some error }

/-- The result as an object. -/
def toJson (lookup : ArchiveLookup) : Json :=
  .obj (Json.field? "archive" (lookup.archive.map Archive.toJson) ++
    Json.field? "error" (lookup.error.map CatalogueError.toJson))

end ArchiveLookup

/-- A search. -/
structure SearchRequest where
  line : String
  page : Nat := 1
  sort : String := ""
  order : String := ""
  /-- The names of the relations to give with each archive. -/
  preloads : List String := []
  deriving DecidableEq, Repr

/-- The answer to a search. -/
structure SearchAnswer where
  listing : ArchiveListing
  /-- The key of the query. -/
  key : String
  window : PageWindow
  query : Query
  deriving DecidableEq, Repr

/-- The answer as an object. -/
def SearchAnswer.toJson (answer : SearchAnswer) : Json :=
  .obj (answer.listing.jsonFields ++ [
    ("cache_key", .str answer.key),
    ("pagination", answer.window.toJson),
    ("query", answer.query.toJson)])

/-- The catalogue. -/
structure Catalogue where
  /-- The number of archives on a page. -/
  pageSize : Nat
  /-- The number of entries on a page. -/
  taxonomyPageSize : Nat
  directory : Directory
  archives : Cache ArchiveListing
  lookups : Cache ArchiveLookup

namespace Catalogue

/-- The caches of a catalogue. -/
inductive CacheName where
  | archives
  | archive
  | taxonomies
  deriving DecidableEq, Repr

/-- The name of a cache. -/
def CacheName.text : CacheName → String
  | archives => "archives"
  | archive => "archive"
  | taxonomies => "taxonomies"

/-- The name that stands for every cache. -/
def everyCache : String := "*"

/-- The namespace of archive listings. -/
def listingSpace : String := "archives"

/-- The caches by name. -/
def registry : Cache.Registry CacheName :=
  [CacheName.archives, .archive, .taxonomies].foldl
    (fun registry cache => registry.register cache.text cache) {}

/-- Where the catalogue has a cache. -/
def handle : CacheName → Cache.Handle Catalogue
  | .archives => .ofPart archives fun cache catalogue => { catalogue with archives := cache }
  | .archive => .ofPart lookups fun cache catalogue => { catalogue with lookups := cache }
  | .taxonomies =>
    .ofPart (·.directory.listings) fun cache catalogue =>
      { catalogue with directory := { catalogue.directory with listings := cache } }

/-- The number of ticks in a second. -/
def ticksPerSecond : Nat := 1000000000

/-- The empty cache of a name with given settings. -/
def emptyCache {α : Type} (name : CacheName) (settings : CacheSettings) : Cache α :=
  .empty name.text settings.capacity (settings.seconds * ticksPerSecond)

/-- A new catalogue. -/
def ofSettings (settings : Settings) : Catalogue where
  pageSize := settings.pageSize
  taxonomyPageSize := settings.taxonomyPageSize
  directory := { listings := emptyCache .taxonomies settings.caches.taxonomies }
  archives := emptyCache .archives settings.caches.archives
  lookups := emptyCache .archive settings.caches.archive

/-- A step of the directory. -/
def inDirectory {α : Type} (step : Service Directory α) : Service Catalogue α :=
  Service.part directory (fun directory catalogue => { catalogue with directory := directory })
    step

/-- What a search line asks for. Plain text counts only in a line without directives. -/
def parse (line : String) : Service Catalogue Draft := do
  let reading := Search.Reading.ofLine line
  if reading.isStructured then
    return Draft.addDirectives {} reading.directives
  else
    return (← inDirectory (Directory.understand line {})).2

/-- Settles a draft. -/
def settle (draft : Draft) : Service Catalogue Query :=
  Service.update fun catalogue =>
    let directory := catalogue.directory
    let (query, memo) := draft.settle.run directory.memo
    (query, { catalogue with directory := { directory with memo := memo } })

/-- The listing of a query, and the key that it is kept under. -/
def list (query : Query) : Service Catalogue (String × ArchiveListing) := do
  let key : Cache.Key := ⟨listingSpace, query.key⟩
  let now := (← read).now
  let found ← Service.update fun catalogue =>
    let (found, archives) := catalogue.archives.get now key
    (found, { catalogue with archives := archives })
  match found with
  | some listing => return (key.key, listing)
  | none =>
    let listing := ArchiveListing.ofAnswer (← Service.select (.ofQuery query))
    Service.update fun catalogue =>
      ((), { catalogue with archives := catalogue.archives.set now key listing none })
    return (key.key, listing)

/-- The draft of a search whose line asks for the given draft. -/
def pageDraft (request : SearchRequest) (page pageSize : Nat) (draft : Draft) : Draft :=
  { draft with
    sort := request.sort
    order := request.order
    limit := pageSize
    offset := PageWindow.offset pageSize page
    preloads := draft.preloads ++ request.preloads }

/-- Answers a search. Page zero is the first page. -/
def search (request : SearchRequest) : Service Catalogue SearchAnswer := do
  let page := max request.page 1
  let draft ← parse request.line
  let pageSize := (← Service.state).pageSize
  let query ← settle (pageDraft request page pageSize draft)
  let (key, listing) ← list query
  return {
    listing := listing
    key := key
    window := .ofTotal page listing.total pageSize
    query := query }

/-- The key of an archive with some relations. -/
def lookupKey (id : Int) (relations : List Taxonomy) : Cache.Key where
  space := toString id
  key := Json.key (.arr (relations.map fun taxonomy => .str taxonomy.name))

/-- Looks an archive up, with the relations of these names. -/
def archive (id : Int) (preloads : List String) : Service Catalogue ArchiveLookup := do
  let relations := Draft.settlePreloads preloads
  let key := lookupKey id relations
  let now := (← read).now
  let found ← Service.update fun catalogue =>
    let (found, lookups) := catalogue.lookups.get now key
    (found, { catalogue with lookups := lookups })
  match found with
  | some lookup => return lookup
  | none =>
    let lookup := ArchiveLookup.ofAnswer id (← Service.archive id relations)
    Service.update fun catalogue =>
      ((), { catalogue with lookups := catalogue.lookups.set now key lookup none })
    return lookup

/-- Lists entries. -/
def entries (taxonomy : Taxonomy) (limit offset : Int) : Service Catalogue EntryListing :=
  inDirectory (Directory.list taxonomy limit offset)

/-- Purges a cache, or every cache: a namespace of it, or all of it. Verdicts on names rest on
listings of entries, so they are forgotten along with those. -/
def purge (cache : String) (space : Option String) (catalogue : Catalogue) :
    Except CatalogueError (Nat × Catalogue) := do
  let (count, catalogue) ←
    if cache = everyCache then pure (registry.purgeAll handle space catalogue)
    else registry.purge handle cache space catalogue
  if cache = everyCache ∨ cache = CacheName.taxonomies.text then
    return (count, { catalogue with directory := catalogue.directory.forget.2 })
  else
    return (count, catalogue)

/-- How the cache of each name has been used. -/
def stats (now : Nat) (catalogue : Catalogue) : List (String × Cache.Stats) :=
  registry.stats handle now catalogue

/-- The catalogue in one line. -/
def text (catalogue : Catalogue) : String :=
  "Catalog \x7b page_size: " ++ toString catalogue.pageSize ++ ", registry: " ++ registry.text ++
    ", taxonomies: " ++ catalogue.directory.text ++ " \x7d"

end Catalogue

end ComicCatalogue
