import ComicCatalogue.Proofs.Catalogue.Session
import ComicCatalogue.Proofs.Query.Canonical

/-!
# Every request has a slot of its own

The answer to a request is kept in one of the caches, under a namespace and the hash of a text. The
namespace and the text say everything that the answer depends on, so two requests of one kind with
the same namespace and the same text are the same request; and as long as no two of the texts have
the same hash, two requests share a slot only if they are the same.

A limit counts as a number of 32 bits and an offset as one that is not negative, and of the names of
relations only those count that are known, each once and in no particular order.
-/

namespace ComicCatalogue

namespace Catalogue

/-- A request whose answer is kept. -/
inductive KeptRequest where
  | list (query : Query)
  | archive (id : Int) (preloads : List String)
  | entries (taxonomy : Taxonomy) (limit offset : Int)
  deriving DecidableEq, Repr

namespace KeptRequest

/-- The cache in which the answer is kept, and the key under which it is kept there. -/
def slot : KeptRequest → CacheName × Cache.Key
  | list query => (.archives, ⟨listingSpace, query.key⟩)
  | archive id preloads => (.archive, lookupKey id (Draft.settlePreloads preloads))
  | entries taxonomy limit offset =>
    (.taxonomies, Directory.key taxonomy (min limit.toNat Directory.maxLimit) offset.toNat)

/-- The text whose hash is the local key. -/
def text : KeptRequest → String
  | list query => query.canonicalText
  | archive id preloads => (LookupRequest.ofNames id preloads).text
  | entries taxonomy limit offset => (EntryRequest.ofNumbers taxonomy limit offset).text

/-- Two requests ask for the same. -/
def IsSame : KeptRequest → KeptRequest → Prop
  | list query, list other => query = other
  | archive id preloads, archive other others =>
    id = other ∧ ∀ taxonomy : Taxonomy,
      (∃ name ∈ preloads, Text.equalIgnoringCase taxonomy.plural (Text.trim name)) ↔
        ∃ name ∈ others, Text.equalIgnoringCase taxonomy.plural (Text.trim name)
  | entries taxonomy limit offset, entries other limitOther offsetOther =>
    taxonomy = other ∧ max 0 (min limit 0xFFFFFFFF) = max 0 (min limitOther 0xFFFFFFFF) ∧
      max 0 offset = max 0 offsetOther
  | _, _ => False

/-- The request as one of all requests. -/
def request : KeptRequest → Request
  | list query => .list query
  | archive id preloads => .archive id preloads
  | entries taxonomy limit offset => .entries taxonomy limit offset

/-- What the source is asked for if the answer is not kept. -/
def inquiry : KeptRequest → Inquiry
  | list query => Scheme.listings.inquiry query
  | archive id preloads => Scheme.lookups.inquiry (.ofNames id preloads)
  | entries taxonomy limit offset => Scheme.entries.inquiry (.ofNumbers taxonomy limit offset)

/-- Whether something can be found in the slot of the request. -/
def isKept (now : Nat) (catalogue : Catalogue) (request : KeptRequest) : Bool :=
  match request.slot with
  | (.archives, key) => catalogue.archives.contains now key
  | (.archive, key) => catalogue.lookups.contains now key
  | (.taxonomies, key) => catalogue.directory.listings.contains now key

theorem key_slot (request : KeptRequest) :
    request.slot.2.key = Sha256.hexDigest request.text := by
  cases request <;> rfl

end KeptRequest

end Catalogue

/-- The source is asked only for what cannot be found. -/
theorem Scheme.made_fetch {ι α : Type} {scheme : Scheme ι α} {context : Context} {request : ι}
    {cache : Cache α} : (scheme.fetch context request cache).made =
      if cache.contains context.now (scheme.key request) then [] else [scheme.inquiry request] := by
  rw [← Cache.isSome_get, fetch]
  rcases cache.get context.now (scheme.key request) with ⟨_ | value, after⟩
  · rfl
  · rfl

/-- Names settle into the same relations if they name the same ones. -/
theorem Draft.settlePreloads_eq_iff {names others : List String} :
    settlePreloads names = settlePreloads others ↔ ∀ taxonomy : Taxonomy,
      (∃ name ∈ names, Text.equalIgnoringCase taxonomy.plural (Text.trim name)) ↔
        ∃ name ∈ others, Text.equalIgnoringCase taxonomy.plural (Text.trim name) := by
  simp only [← mem_settlePreloads_iff]
  constructor
  · intro same taxonomy
    rw [same]
  · intro same
    have ascending : ∀ names, (settlePreloads names).Pairwise (· < ·) := fun _ =>
      Ascending.pairwise_ofList _
    exact (ascending names).eq_of_mem_iff (ascending others) fun _ => same _

/-- Numbers of any size mean the same part if they are the same within the bounds. -/
theorem EntryRequest.ofNumbers_eq_iff {taxonomy other : Taxonomy}
    {limit limitOther offset offsetOther : Int} :
    ofNumbers taxonomy limit offset = ofNumbers other limitOther offsetOther ↔
      taxonomy = other ∧ max 0 (min limit 0xFFFFFFFF) = max 0 (min limitOther 0xFFFFFFFF) ∧
        max 0 offset = max 0 offsetOther := by
  simp only [ofNumbers, Directory.maxLimit, mk.injEq]
  refine and_congr_right fun _ => and_congr ?_ ?_
  · omega
  · omega

namespace Catalogue

namespace KeptRequest

/-- The slot of a request decides whether the source is asked. -/
theorem inquiries_answer (request : KeptRequest) (source : Source) (now : Nat)
    (catalogue : Catalogue) :
    ((answer request.request).run source now catalogue).2.2 =
      if request.isKept now catalogue then [] else [request.inquiry] := by
  cases request with
  | list query =>
    simp only [request, answer, Service.run, Service.map_apply]
    rw [isFetch_list query]
    exact Scheme.made_fetch
  | archive id preloads =>
    simp only [request, answer, Service.run, Service.map_apply]
    rw [isFetch_archive id preloads]
    exact Scheme.made_fetch
  | entries taxonomy limit offset =>
    simp only [request, answer, Service.run, Service.map_apply, Catalogue.entries, inDirectory,
      Service.part]
    rw [Directory.isFetch_list taxonomy limit offset]
    exact Scheme.made_fetch

/-- What a request keeps its answer under tells the request. -/
theorem isSame_of_text {a b : KeptRequest} (sameCache : a.slot.1 = b.slot.1)
    (sameSpace : a.slot.2.space = b.slot.2.space) (sameText : a.text = b.text) : a.IsSame b := by
  cases a with
  | list query =>
    cases b with
    | list other => exact Query.canonicalText_inj sameText
    | _ => cases sameCache
  | archive id preloads =>
    cases b with
    | archive other others =>
      have same := Scheme.lookups.separates (.ofNames id preloads) (.ofNames other others)
        sameSpace sameText
      simp only [LookupRequest.ofNames, LookupRequest.mk.injEq] at same
      exact ⟨same.1, Draft.settlePreloads_eq_iff.mp same.2⟩
    | _ => cases sameCache
  | entries taxonomy limit offset =>
    cases b with
    | entries other limitOther offsetOther =>
      have same := Scheme.entries.separates (.ofNumbers taxonomy limit offset)
        (.ofNumbers other limitOther offsetOther) sameSpace sameText
      exact EntryRequest.ofNumbers_eq_iff.mp same
    | _ => cases sameCache

/-- The same request has the same slot. -/
theorem slot_eq_of_isSame {a b : KeptRequest} (same : a.IsSame b) : a.slot = b.slot := by
  cases a with
  | list query =>
    cases b with
    | list other => rw [show query = other from same]
    | _ => cases same
  | archive id preloads =>
    cases b with
    | archive other others =>
      obtain ⟨sameId, sameRelations⟩ := same
      rw [slot, slot, sameId, Draft.settlePreloads_eq_iff.mpr sameRelations]
    | _ => cases same
  | entries taxonomy limit offset =>
    cases b with
    | entries other limitOther offsetOther =>
      have sameRequest := EntryRequest.ofNumbers_eq_iff.mpr same
      simp only [EntryRequest.ofNumbers, EntryRequest.mk.injEq] at sameRequest
      rw [slot, slot, sameRequest.1, sameRequest.2.1, sameRequest.2.2]
    | _ => cases same

/-- Whether the source is asked depends on the slot of a request only. A text belongs to one query,
and a namespace and a text to one request for an archive or for entries. As long as no two of the
texts have the same hash, requests share a slot if and only if they are the same. -/
theorem slot_eq_iff_isSame :
    (∀ (request : KeptRequest) (source : Source) (now : Nat) (catalogue : Catalogue),
      ((answer request.request).run source now catalogue).2.2 =
        if request.isKept now catalogue then [] else [request.inquiry]) ∧
      (∀ a b : Query, a.canonicalText = b.canonicalText → a = b) ∧
      (∀ a b : KeptRequest, a.slot.1 = b.slot.1 → a.slot.2.space = b.slot.2.space →
        a.text = b.text → a.IsSame b) ∧
      ∀ requests : List KeptRequest, NoCollision (requests.map text) →
        ∀ a ∈ requests, ∀ b ∈ requests, (a.slot = b.slot ↔ a.IsSame b) := by
  refine ⟨inquiries_answer, fun a b => Query.canonicalText_inj, fun a b => isSame_of_text, ?_⟩
  intro requests noCollision a member b memberOther
  constructor
  · intro same
    have sameHash : Sha256.hexDigest a.text = Sha256.hexDigest b.text := by
      rw [← key_slot, ← key_slot, same]
    have sameText := noCollision _ (List.mem_map_of_mem member) _
      (List.mem_map_of_mem memberOther) sameHash
    exact isSame_of_text (by rw [same]) (by rw [same]) sameText
  · exact slot_eq_of_isSame

/-- An archive with two relations, with the same ones in another spelling, and with one of them
only. -/
theorem slot_eq_iff_isSame_relations :
    let both := archive 7 ["tags", "artists"]
    let respelled := archive 7 [" ARTISTS ", "pages", "Tags"]
    let one := archive 7 ["tags"]
    NoCollision ([both, respelled, one].map text) ∧ both.slot = respelled.slot ∧
      both.slot ≠ one.slot := by
  intro both respelled one
  have noCollision : NoCollision ([both, respelled, one].map text) := by
    have same : respelled.text = both.text := by decide +kernel
    refine (noCollision_pair (a := both.text) (b := one.text) (by decide +kernel)).mono ?_
    simp [same]
  have separates := slot_eq_iff_isSame.2.2.2 [both, respelled, one] noCollision
  refine ⟨noCollision, ?_, fun shared => ?_⟩
  · refine (separates both (by simp) respelled (by simp)).mpr ⟨rfl, fun taxonomy => ?_⟩
    cases taxonomy <;> decide +kernel
  · obtain ⟨_, same⟩ := (separates both (by simp) one (by simp)).mp shared
    have artists := (same .artist).mp ⟨"artists", by simp, by decide +kernel⟩
    revert artists
    decide +kernel

end KeptRequest

end Catalogue

end ComicCatalogue
