import Std.Data.String.ToInt
import ComicCatalogue.Catalogue
import ComicCatalogue.Proofs.Cache.Fetch
import ComicCatalogue.Proofs.Query.Text

/-!
# How the catalogue keeps answers

The catalogue keeps listings of archives by query, archives by number and relations, and listings of
entries by taxonomy and window. Each of its look-ups fetches an answer by one of these schemes.
-/

namespace ComicCatalogue

/-- A part of the entries of a taxonomy: so many, or all if the limit is zero, behind the first
few. -/
structure EntryRequest where
  taxonomy : Taxonomy
  limit : Nat
  offset : Nat
  deriving DecidableEq, Repr

namespace EntryRequest

/-- The part that is meant by numbers of any size. -/
def ofNumbers (taxonomy : Taxonomy) (limit offset : Int) : EntryRequest :=
  ⟨taxonomy, min limit.toNat Directory.maxLimit, offset.toNat⟩

/-- A limit of zero or less is none, and one that is too large is cut. -/
theorem most_ofNumbers (taxonomy : Taxonomy) (limit offset : Int) :
    (if (ofNumbers taxonomy limit offset).limit = 0 then none
      else some (ofNumbers taxonomy limit offset).limit) =
      if limit ≤ 0 then none else some (min limit.toNat Directory.maxLimit) := by
  have unlimited : min limit.toNat Directory.maxLimit = 0 ↔ limit ≤ 0 := by
    unfold Directory.maxLimit
    omega
  simp only [ofNumbers, unlimited]

/-- The numbers as a text. -/
def text (request : EntryRequest) : String :=
  (Json.obj [("limit", .int request.limit), ("offset", .int request.offset)]).compact

/-- All entries of a taxonomy. -/
def all (taxonomy : Taxonomy) : EntryRequest :=
  ⟨taxonomy, 0, 0⟩

end EntryRequest

/-- An archive with some of its relations. -/
structure LookupRequest where
  id : Int
  relations : List Taxonomy
  deriving DecidableEq, Repr

namespace LookupRequest

/-- The archive with the relations of these names. -/
def ofNames (id : Int) (preloads : List String) : LookupRequest :=
  ⟨id, Draft.settlePreloads preloads⟩

/-- The names of the relations as a text. -/
def text (request : LookupRequest) : String :=
  (Json.arr (request.relations.map fun taxonomy => .str taxonomy.name)).compact

end LookupRequest

namespace Scheme

/-- Listings of archives. -/
def listings : Scheme Query ArchiveListing where
  inquiry query := .select (.ofQuery query)
  answer query source := .ofAnswer (source.select (.ofQuery query))
  space _ := Catalogue.listingSpace
  text := Query.canonicalText
  separates _ _ _ sameText := Query.canonicalText_inj sameText

/-- Archives. -/
def lookups : Scheme LookupRequest ArchiveLookup where
  inquiry request := .archive request.id request.relations
  answer request source := .ofAnswer request.id (source.archive request.id request.relations)
  space request := toString request.id
  text := LookupRequest.text
  separates a b sameSpace sameText := by
    obtain ⟨id, relations⟩ := a
    obtain ⟨other, relationsOther⟩ := b
    have sameId : id = other := Int.repr_injective sameSpace
    have sameNames := Json.arr.inj (Json.compact_inj
      (Json.areWhole_map_str Taxonomy.name relations)
      (Json.areWhole_map_str Taxonomy.name relationsOther) sameText)
    have sameRelations := List.map_injective_iff.mpr
      (fun _ _ equal => Taxonomy.name_injective (Json.str.inj equal)) sameNames
    rw [sameId, sameRelations]

/-- Listings of entries. -/
def entries : Scheme EntryRequest EntryListing where
  inquiry request :=
    .entries request.taxonomy (if request.limit = 0 then none else some request.limit)
      request.offset
  answer request source :=
    .ofAnswer (source.entries request.taxonomy
      (if request.limit = 0 then none else some request.limit) request.offset)
  space request := request.taxonomy.plural
  text := EntryRequest.text
  separates a b sameSpace sameText := by
    obtain ⟨taxonomy, limit, offset⟩ := a
    obtain ⟨other, limitOther, offsetOther⟩ := b
    have sameTaxonomy : taxonomy = other := Taxonomy.plural_injective sameSpace
    have sameObject := Json.compact_inj (a := .obj [("limit", .int limit), ("offset", .int offset)])
      (b := .obj [("limit", .int limitOther), ("offset", .int offsetOther)])
      ⟨trivial, trivial, trivial⟩ ⟨trivial, trivial, trivial⟩ sameText
    simp only [Json.obj.injEq, List.cons.injEq, Prod.mk.injEq, Json.int.injEq, true_and,
      and_true] at sameObject
    rw [sameTaxonomy, Int.ofNat.inj sameObject.1, Int.ofNat.inj sameObject.2]

end Scheme

theorem Directory.isFetch_list (taxonomy : Taxonomy) (limit offset : Int) :
    Scheme.entries.IsFetch (.ofNumbers taxonomy limit offset) Directory.listings
      (fun listings directory => { directory with listings := listings }) (fun listing => listing)
      (Directory.list taxonomy limit offset) := by
  rintro context ⟨directory, inquiries⟩
  have key : Directory.key taxonomy (min limit.toNat Directory.maxLimit) offset.toNat =
      Scheme.entries.key (.ofNumbers taxonomy limit offset) := rfl
  unfold Scheme.fetch
  simp only [Directory.list, Service.bind_apply, Service.read_apply, Service.update_apply, key]
  match got : directory.listings.get context.now
      (Scheme.entries.key (.ofNumbers taxonomy limit offset)) with
  | (none, after) => rfl
  | (some value, after) =>
    simp only [List.append_nil]
    rfl

namespace Catalogue

theorem isFetch_list (query : Query) :
    Scheme.listings.IsFetch query Catalogue.archives
      (fun archives catalogue => { catalogue with archives := archives })
      (fun listing => (query.key, listing)) (list query) := by
  rintro context ⟨catalogue, inquiries⟩
  have key : ⟨listingSpace, query.key⟩ = Scheme.listings.key query := rfl
  unfold Scheme.fetch
  simp only [list, Service.bind_apply, Service.read_apply, Service.update_apply, key]
  match got : catalogue.archives.get context.now (Scheme.listings.key query) with
  | (none, after) => rfl
  | (some value, after) =>
    simp only [List.append_nil]
    rfl

theorem isFetch_archive (id : Int) (preloads : List String) :
    Scheme.lookups.IsFetch (.ofNames id preloads) Catalogue.lookups
      (fun lookups catalogue => { catalogue with lookups := lookups }) (fun lookup => lookup)
      (archive id preloads) := by
  rintro context ⟨catalogue, inquiries⟩
  have key : lookupKey id (Draft.settlePreloads preloads) =
      Scheme.lookups.key (.ofNames id preloads) := rfl
  unfold Scheme.fetch
  simp only [archive, Service.bind_apply, Service.read_apply, Service.update_apply, key]
  match got : catalogue.lookups.get context.now (Scheme.lookups.key (.ofNames id preloads)) with
  | (none, after) => rfl
  | (some value, after) =>
    simp only [List.append_nil]
    rfl

end Catalogue

end ComicCatalogue
