import ComicCatalogue.Proofs.Catalogue.Schemes

/-!
# Sessions

In a session the catalogue answers one request after the other. Each request comes at its moment,
and the source may be another one every time. The record of a request tells the answer and what the
source was asked for it.

`Source.answer` is what a catalogue would answer that keeps nothing and asks the source every time.
-/

namespace ComicCatalogue

namespace Catalogue

/-- What the catalogue can be asked to do. -/
inductive Request where
  | search (request : SearchRequest)
  | parse (line : String)
  | list (query : Query)
  | archive (id : Int) (preloads : List String)
  | entries (taxonomy : Taxonomy) (limit offset : Int)
  | purge (cache : String) (space : Option String)
  deriving DecidableEq, Repr

/-- What the catalogue answers. -/
inductive Answer where
  | page (answer : SearchAnswer)
  | draft (draft : Draft)
  | listing (key : String) (listing : ArchiveListing)
  | lookup (lookup : ArchiveLookup)
  | entries (listing : EntryListing)
  | purged (count : Except CatalogueError Nat)

/-- The answer without the number of entries that a purge removed. -/
def Answer.withoutCount : Answer → Answer
  | purged count => purged (count.map fun _ => 0)
  | other => other

/-- Answers a request. A purge that fails changes nothing. -/
def answer : Request → Service Catalogue Answer
  | .search request => Answer.page <$> search request
  | .parse line => Answer.draft <$> parse line
  | .list query => (fun (key, listing) => Answer.listing key listing) <$> list query
  | .archive id preloads => Answer.lookup <$> archive id preloads
  | .entries taxonomy limit offset => Answer.entries <$> entries taxonomy limit offset
  | .purge cache space =>
    Service.update fun catalogue =>
      match catalogue.purge cache space with
      | .ok (count, after) => (.purged (.ok count), after)
      | .error error => (.purged (.error error), catalogue)

/-- A request, its moment, and the source that there is at this moment. -/
structure Event where
  source : Source
  now : Nat
  request : Request

/-- An event with the answer and the inquiries that were made for it. -/
structure Record extends Event where
  answer : Answer
  inquiries : List Inquiry

/-- What the answer to an event is given with. -/
def Event.context (event : Event) : Context :=
  ⟨event.source, event.now⟩

/-- Answers an event: the record of it, and the catalogue afterwards. -/
def step (catalogue : Catalogue) (event : Event) : Record × Catalogue :=
  let (answer, after, inquiries) := (answer event.request).run event.source event.now catalogue
  ({ event with answer := answer, inquiries := inquiries }, after)

/-- The records of events in turn. -/
def session (catalogue : Catalogue) : List Event → List Record
  | [] => []
  | event :: rest => (catalogue.step event).1 :: (catalogue.step event).2.session rest

/-- The texts whose hashes are needed to read a line: those of a look-up among all entries, if the
line is plain text. -/
def lineTexts (line : String) : List String :=
  if (Search.Reading.ofLine line).isStructured then [] else [(EntryRequest.all .tag).text]

/-- The texts whose hashes are needed to answer a request. -/
def Record.texts (record : Record) : List String :=
  match record.request, record.answer with
  | .search request, .page answer => lineTexts request.line ++ [answer.query.canonicalText]
  | .parse line, _ => lineTexts line
  | .list query, _ => [query.canonicalText]
  | .archive id preloads, _ => [(LookupRequest.ofNames id preloads).text]
  | .entries taxonomy limit offset, _ => [(EntryRequest.ofNumbers taxonomy limit offset).text]
  | _, _ => []

/-- Two of the texts, those of all entries and of an archive without relations. -/
theorem noCollision_all_none :
    NoCollision [(EntryRequest.all .tag).text, (LookupRequest.ofNames 0 []).text] :=
  noCollision_pair (by decide +kernel)

end Catalogue

/-- The cache in which the answer to an inquiry is kept. -/
def Inquiry.cache : Inquiry → Catalogue.CacheName
  | select _ => .archives
  | archive _ _ => .archive
  | entries _ _ _ => .taxonomies

/-- The namespace under which the answer to an inquiry is kept. -/
def Inquiry.space : Inquiry → String
  | select _ => Catalogue.listingSpace
  | archive id _ => toString id
  | entries taxonomy _ _ => taxonomy.plural

namespace Catalogue

/-- A cache is meant by its name, and by the one for every cache. -/
def CacheName.IsMeant (name : CacheName) (text : String) : Prop :=
  text = everyCache ∨ text = name.text

instance (name : CacheName) (text : String) : Decidable (name.IsMeant text) :=
  inferInstanceAs (Decidable (_ ∨ _))

/-- A request purges the answer to an inquiry: it is a purge of the cache of the answer, and of the
namespace of the answer or of every one. -/
def Request.Purges (inquiry : Inquiry) : Request → Prop
  | purge cache space =>
    inquiry.cache.IsMeant cache ∧ (space = none ∨ space = some inquiry.space)
  | _ => False

end Catalogue

/-- For how many ticks a cache keeps an answer. -/
def Settings.lifetime (settings : Settings) : Catalogue.CacheName → Nat
  | .archives => settings.caches.archives.seconds * Catalogue.ticksPerSecond
  | .archive => settings.caches.archive.seconds * Catalogue.ticksPerSecond
  | .taxonomies => settings.caches.taxonomies.seconds * Catalogue.ticksPerSecond

/-- What a plain text is understood as that is not a name, and what it adds to a draft: its tags, or
else a part of the path. -/
def Understanding.ofTags (text : String) (draft : Draft) (tags : List String) :
    Understanding × Draft :=
  if tags.isEmpty then (.path, { draft with path := some text })
  else (.tags tags.length, tags.foldl (fun draft tag => draft.addEntry .tag tag) draft)

namespace Source

variable (source : Source)

/-- Whether a text is the name of an entry of the source. A listing that fails has no entries. -/
def knows (taxonomy : Taxonomy) (text : String) : Bool :=
  let slug := Slug.ofText text
  !slug.isEmpty &&
    (EntryListing.ofAnswer (source.entries taxonomy none 0)).entries.any (·.slug == slug)

/-- The words of a text that are tags, if it has more than one word. -/
def tags (text : String) : List String :=
  if 1 < (Text.words text).length then (Text.words text).filter (source.knows .tag) else []

/-- What a plain text asks for, on top of a draft. -/
def understand (text : String) (draft : Draft) : Understanding × Draft :=
  let text := Text.trim text
  if text.isEmpty then (.nothing, draft)
  else
    match Directory.lookedUp.find? (source.knows · text) with
    | some taxonomy => (.entry taxonomy, draft.addEntry taxonomy text)
    | none => Understanding.ofTags text draft (source.tags text)

/-- What a search line asks for. -/
def parse (line : String) : Draft :=
  let reading := Search.Reading.ofLine line
  if reading.isStructured then Draft.addDirectives {} reading.directives
  else (source.understand line {}).2

/-- The answer to a search. -/
def search (pageSize : Nat) (request : SearchRequest) : SearchAnswer :=
  let page := max request.page 1
  let query := (Catalogue.pageDraft request page pageSize (source.parse request.line)).settled
  let listing := ArchiveListing.ofAnswer (source.select (.ofQuery query))
  { listing := listing
    key := query.key
    window := .ofTotal page listing.total pageSize
    query := query }

/-- The answer to a request, without the number of entries that a purge removes. -/
def answer (settings : Settings) : Catalogue.Request → Catalogue.Answer
  | .search request => .page (source.search settings.pageSize request)
  | .parse line => .draft (source.parse line)
  | .list query => .listing query.key (.ofAnswer (source.select (.ofQuery query)))
  | .archive id preloads =>
    .lookup (.ofAnswer id (source.archive id (Draft.settlePreloads preloads)))
  | .entries taxonomy limit offset =>
    let limit := min limit.toNat Directory.maxLimit
    .entries (.ofAnswer
      (source.entries taxonomy (if limit = 0 then none else some limit) offset.toNat))
  | .purge cache _ =>
    .purged (if cache = Catalogue.everyCache ∨ cache ∈ Catalogue.registry.names then .ok 0
      else .error (.unknownCache cache))

end Source

end ComicCatalogue
