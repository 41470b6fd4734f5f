import ComicCatalogue.Proofs.Catalogue.Session
import ComicCatalogue.Proofs.Slug.Memo

/-!
# What the directory tells

A directory is backed if its listings, its verdicts and its memo rest on what sources answered.
Every step of the directory keeps it backed. As long as there was only one source, the steps tell
what this source says.
-/

namespace ComicCatalogue.Directory

/-- Whether a slug is that of an entry of the source. -/
def verdict (source : Source) (taxonomy : Taxonomy) (slug : String) : Bool :=
  (EntryListing.ofAnswer (source.entries taxonomy none 0)).entries.any (·.slug == slug)

/-- Listings, verdicts and the memo rest on what sources answered. -/
structure Backed (texts : List String) (lifetime : Nat) (asked : Askings) (directory : Directory) :
    Prop where
  lifetime : directory.listings.lifetime = lifetime
  listings : Scheme.entries.Backs texts asked directory.listings
  verdicts : ∀ known ∈ directory.verdicts, ∃ source moment,
    asked (Scheme.entries.inquiry (.all known.1.1)) source moment ∧
      known.2 = verdict source known.1.1 known.1.2
  memo : directory.memo.Sound

variable {texts : List String} {lifetime : Nat} {asked : Askings} {context : Context}

theorem Backed.mono {others : Askings} {directory : Directory}
    (backed : Backed texts lifetime asked directory)
    (more : ∀ inquiry source moment, asked inquiry source moment → others inquiry source moment) :
    Backed texts lifetime others directory where
  lifetime := backed.lifetime
  listings := backed.listings.mono more
  verdicts known member := by
    obtain ⟨source, moment, wasAsked, same⟩ := backed.verdicts known member
    exact ⟨source, moment, more _ _ _ wasAsked, same⟩
  memo := backed.memo

theorem tells_slug (text : String) :
    Service.Tells (Backed texts lifetime) asked context (slug text) (Slug.ofText text) := by
  refine Service.Ensures.update fun asked directory backed => ?_
  obtain ⟨same, sound⟩ := Slug.Memo.yields_slug text directory.memo backed.memo
  exact ⟨⟨backed.lifetime, backed.listings, backed.verdicts, sound⟩, fun _ _ => same⟩

/-- The verdict on a slug by a listing of all entries, which is kept unless the listing failed. -/
def judge (taxonomy : Taxonomy) (slug : String) (listing : EntryListing) :
    Service Directory Bool := do
  if listing.error.isSome then
    return false
  let verdict := listing.entries.any (·.slug == slug)
  Service.update fun directory =>
    ((), { directory with verdicts := ((taxonomy, slug), verdict) :: directory.verdicts })
  return verdict

/-- Whether a slug is that of an entry. -/
def knowsSlug (taxonomy : Taxonomy) (slug : String) : Service Directory Bool := do
  if slug.isEmpty then
    return false
  match (← Service.state).verdicts.lookup (taxonomy, slug) with
  | some verdict => return verdict
  | none => list taxonomy 0 0 >>= judge taxonomy slug

theorem knows_eq_bind (taxonomy : Taxonomy) (text : String) :
    knows taxonomy text = slug text >>= knowsSlug taxonomy := rfl

/-- A listing that failed has no entries. -/
theorem entries_eq_nil_of_error {answer : Except CatalogueError EntryPage}
    (failed : (EntryListing.ofAnswer answer).error.isSome) :
    (EntryListing.ofAnswer answer).entries = [] := by
  cases answer with
  | ok page => cases failed
  | error error => rfl

/-- A verdict by a listing that a source gave keeps the directory backed, and it is that of the
source. -/
theorem backed_judge {taxonomy : Taxonomy} (slug : String) {source : Source} {moment : Nat}
    {traced : Traced Directory}
    (backed : Backed texts lifetime (asked.during context traced.inquiries) traced.state)
    (wasAsked : asked.during context traced.inquiries (Scheme.entries.inquiry (.all taxonomy))
      source moment) :
    let judged := judge taxonomy slug (.ofAnswer (source.entries taxonomy none 0)) context traced
    Backed texts lifetime (asked.during context judged.2.inquiries) judged.2.state ∧
      judged.2.inquiries = traced.inquiries ∧ judged.1 = verdict source taxonomy slug := by
  by_cases failed : (EntryListing.ofAnswer (source.entries taxonomy none 0)).error.isSome
  · rw [judge, if_pos failed]
    refine ⟨backed, rfl, ?_⟩
    rw [verdict, entries_eq_nil_of_error failed]
    rfl
  · rw [judge, if_neg failed]
    refine ⟨⟨backed.lifetime, backed.listings, fun known member => ?_, backed.memo⟩, rfl, rfl⟩
    rcases List.mem_cons.mp member with rfl | old
    · exact ⟨source, moment, wasAsked, rfl⟩
    · exact backed.verdicts known old

section

variable (noCollision : NoCollision texts)
include noCollision

/-- Listing entries keeps the directory backed, and the listing is recent. -/
theorem ensures_list (taxonomy : Taxonomy) (limit offset : Int)
    (known : (EntryRequest.ofNumbers taxonomy limit offset).text ∈ texts) :
    Service.Ensures (Backed texts lifetime) asked context (list taxonomy limit offset)
      fun inquiries listing => Scheme.entries.IsRecent asked context inquiries lifetime
        (.ofNumbers taxonomy limit offset) listing :=
  ((isFetch_list taxonomy limit offset).ensures noCollision known
    (fun _ _ backed => ⟨backed.listings, backed.lifetime⟩)
    fun _ _ backed _ _ more listings lifetime =>
      { backed.mono more with listings := listings, lifetime := lifetime }).mono
    fun _ _ ⟨_, same, recent⟩ => same ▸ recent

variable (known : (EntryRequest.all .tag).text ∈ texts)
include known

/-- A listing of all entries gives the verdict. -/
theorem tells_all (taxonomy : Taxonomy) (slug : String) :
    Service.Tells (Backed texts lifetime) asked context (list taxonomy 0 0 >>= judge taxonomy slug)
      (verdict context.source taxonomy slug) := by
  intro traced backed
  obtain ⟨listed, grows, recent⟩ := ensures_list noCollision taxonomy 0 0 known traced backed
  rw [Service.bind_apply]
  generalize list taxonomy 0 0 context traced = result at listed grows recent ⊢
  obtain ⟨listing, after⟩ := result
  -- The verdict rests on the source that the listing is from, which may be an earlier one.
  rcases recent with ⟨made, rfl⟩ | ⟨source, moment, before, rfl, _⟩
  · obtain ⟨judged, silent, same⟩ := backed_judge slug listed (.inr ⟨made, rfl, rfl⟩)
    exact ⟨judged, silent ▸ grows, fun _ => same⟩
  · obtain ⟨judged, silent, same⟩ := backed_judge slug listed (.inl before)
    refine ⟨judged, silent ▸ grows, fun only => ?_⟩
    obtain rfl := only _ _ _ before
    exact same

theorem tells_knowsSlug (taxonomy : Taxonomy) (slug : String) :
    Service.Tells (Backed texts lifetime) asked context (knowsSlug taxonomy slug)
      (!slug.isEmpty && verdict context.source taxonomy slug) := by
  intro traced backed
  by_cases empty : slug.isEmpty
  · rw [knowsSlug, if_pos empty]
    exact ⟨backed, List.Subset.refl _, fun _ => by simp [empty]⟩
  · rw [knowsSlug, if_neg empty, Service.bind_apply, Service.state_apply]
    simp only [Bool.not_eq_true] at empty
    rw [empty, Bool.not_false, Bool.true_and]
    cases isKnown : traced.state.verdicts.lookup (taxonomy, slug) with
    | some told =>
      refine ⟨backed, List.Subset.refl _, fun only => ?_⟩
      obtain ⟨before, after, split, _⟩ := List.lookup_eq_some_iff.mp isKnown
      obtain ⟨source, moment, wasAsked, same⟩ :=
        backed.verdicts ((taxonomy, slug), told) (by simp [split])
      obtain rfl := only.during _ _ _ _ wasAsked
      exact same
    | none => exact tells_all noCollision known taxonomy slug traced backed

theorem tells_knows (taxonomy : Taxonomy) (text : String) :
    Service.Tells (Backed texts lifetime) asked context (knows taxonomy text)
      (context.source.knows taxonomy text) := by
  rw [knows_eq_bind]
  refine (tells_slug text).bind (tells_knowsSlug noCollision known taxonomy) ?_
  rw [Source.knows, verdict]

/-- The first taxonomy that knows a text. -/
theorem tells_firstKnowing (text : String) (taxonomies : List Taxonomy) :
    Service.Tells (Backed texts lifetime) asked context (firstKnowing text taxonomies)
      (taxonomies.find? (context.source.knows · text)) := by
  induction taxonomies with
  | nil => exact Service.Tells.pure none
  | cons taxonomy rest ih =>
    rw [firstKnowing]
    refine (tells_knows noCollision known taxonomy text).bind
      (f := fun isKnown => if isKnown then some taxonomy
        else rest.find? (context.source.knows · text)) (fun isKnown => ?_) ?_
    · cases isKnown with
      | true => exact Service.Tells.pure (some taxonomy)
      | false => exact ih
    · rw [List.find?_cons]
      split <;> simp_all

/-- The words that are tags. -/
theorem tells_knownTags (words : List String) :
    Service.Tells (Backed texts lifetime) asked context (knownTags words)
      (words.filter (context.source.knows .tag)) := by
  induction words with
  | nil => exact Service.Tells.pure []
  | cons word rest ih =>
    rw [knownTags, List.filter_cons]
    refine (tells_knows noCollision known .tag word).bind
      (f := fun isKnown => if isKnown then word :: rest.filter (context.source.knows .tag)
        else rest.filter (context.source.knows .tag)) (fun isKnown => ?_) rfl
    exact ih.bind (fun tags => .pure (if isKnown then word :: tags else tags)) rfl

theorem tells_understand (text : String) (draft : Draft) :
    Service.Tells (Backed texts lifetime) asked context (understand text draft)
      (context.source.understand text draft) := by
  unfold understand Source.understand
  simp only
  generalize Text.trim text = text
  have ofTags (tags : List String) : Service.Tells (Backed texts lifetime) asked context
      (if tags.isEmpty then pure (Understanding.path, { draft with path := some text })
        else pure (Understanding.tags tags.length,
          tags.foldl (fun draft tag => draft.addEntry .tag tag) draft))
      (Understanding.ofTags text draft tags) := by
    rw [Understanding.ofTags]
    split
    · exact Service.Tells.pure _
    · exact Service.Tells.pure _
  split
  · exact Service.Tells.pure _
  · refine (tells_firstKnowing noCollision known text lookedUp).bind
      (f := fun first => first.elim (Understanding.ofTags text draft (context.source.tags text))
        fun taxonomy => (.entry taxonomy, draft.addEntry taxonomy text)) (fun first => ?_) ?_
    · cases first with
      | some taxonomy => exact Service.Tells.pure _
      | none =>
        rw [Option.elim_none, Source.tags]
        dsimp only
        -- What follows the words stands in both branches.
        split
        · exact (tells_knownTags noCollision known _).bind ofTags rfl
        · exact (Service.Tells.pure []).bind ofTags rfl
    · cases lookedUp.find? (context.source.knows · text) with
      | some taxonomy => rfl
      | none => rfl

end

end ComicCatalogue.Directory
