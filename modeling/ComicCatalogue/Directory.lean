import ComicCatalogue.Cache.Basic
import ComicCatalogue.Slug
import ComicCatalogue.Source

/-!
# The directory of entries

The directory lists the entries of the taxonomies, keeping each listing for a while, and tells
whether a name is known. Verdicts on names are kept until they are forgotten all at once; a verdict
that could not be reached because the listing failed is not kept.
-/

namespace ComicCatalogue

/-- A part of the entries of a taxonomy, or the reason why there is none. -/
structure EntryListing where
  entries : List Entry := []
  total : Int := 0
  error : Option CatalogueError := none
  deriving DecidableEq, Repr

namespace EntryListing

/-- The listing that an answer of the source gives. A failure lists nothing. -/
def ofAnswer : Except CatalogueError EntryPage → EntryListing
  | .ok page => { entries := page.entries, total := page.total }
  | .error error => { error := some error }

/-- The fields of a listing. -/
def jsonFields (listing : EntryListing) : List (String × Json) :=
  [("items", .arr (listing.entries.map Entry.toJson)), ("total", .int listing.total)] ++
    Json.field? "error" (listing.error.map CatalogueError.toJson)

end EntryListing

/-- The directory of entries. -/
structure Directory where
  listings : Cache EntryListing
  /-- Whether the slug is that of an entry of the taxonomy, as far as it is known. -/
  verdicts : List ((Taxonomy × String) × Bool) := []
  memo : Slug.Memo := {}

namespace Directory

/-- The largest limit of a listing. -/
def maxLimit : Nat := 0xFFFFFFFF

/-- The key of a listing. -/
def key (taxonomy : Taxonomy) (limit offset : Nat) : Cache.Key where
  space := taxonomy.plural
  key := Json.key (.obj [("limit", .int limit), ("offset", .int offset)])

/-- Lists entries. A limit of zero or less stands for all, and an offset below zero for none. -/
def list (taxonomy : Taxonomy) (limit offset : Int) : Service Directory EntryListing := do
  let limit := min limit.toNat maxLimit
  let offset := offset.toNat
  let key := key taxonomy limit offset
  let now := (← read).now
  let found ← Service.update fun directory =>
    let (found, listings) := directory.listings.get now key
    (found, { directory with listings := listings })
  match found with
  | some listing => return listing
  | none =>
    let answer ← Service.entries taxonomy (if limit = 0 then none else some limit) offset
    let listing := EntryListing.ofAnswer answer
    Service.update fun directory =>
      ((), { directory with listings := directory.listings.set now key listing none })
    return listing

/-- The slug of a text. -/
def slug (text : String) : Service Directory String :=
  Service.update fun directory =>
    let (slug, memo) := (Slug.Memo.slug text).run directory.memo
    (slug, { directory with memo := memo })

/-- Whether a text is the name of an entry, up to the spelling. -/
def knows (taxonomy : Taxonomy) (text : String) : Service Directory Bool := do
  let slug ← slug text
  if slug.isEmpty then
    return false
  match (← Service.state).verdicts.lookup (taxonomy, slug) with
  | some verdict => return verdict
  | none =>
    let listing ← list taxonomy 0 0
    if listing.error.isSome then
      return false
    let verdict := listing.entries.any (·.slug == slug)
    Service.update fun directory =>
      ((), { directory with verdicts := ((taxonomy, slug), verdict) :: directory.verdicts })
    return verdict

/-- Forgets every verdict, and says how many there were. -/
def forget (directory : Directory) : Nat × Directory :=
  (directory.verdicts.length, { directory with verdicts := [] })

/-- The directory in one line. -/
def text (directory : Directory) : String :=
  "TaxonomyIndex \x7b listings: " ++ Text.quoted directory.listings.name ++ ", memoized: " ++
    toString directory.verdicts.length ++ " \x7d"

end Directory

end ComicCatalogue
