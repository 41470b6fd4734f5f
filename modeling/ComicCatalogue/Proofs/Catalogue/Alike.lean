import ComicCatalogue.Proofs.Cache.Alike
import ComicCatalogue.Proofs.Catalogue.Directory
import ComicCatalogue.Proofs.Catalogue.Purge
import ComicCatalogue.Proofs.Query.Settled

/-!
# Catalogues that cannot be told apart

Two catalogues of one kind are alike if they keep the same answers and verdicts. They may have
counted differently how often something was found, and they may remember different slugs, as long
as the slugs are right. No request tells two such catalogues apart, and they stay alike.
-/

namespace ComicCatalogue

namespace Cache.Alike

variable {α : Type} {start a b : Cache α}

theorem left (alike : Alike start a b) (name : Catalogue.CacheName) (text : String)
    (space : Option String) : Alike start (name.left text space a) (name.left text space b) := by
  unfold Catalogue.CacheName.left
  split
  · exact (alike.purge space).2
  · exact alike

theorem removed (alike : Alike start a b) (name : Catalogue.CacheName) (text : String)
    (space : Option String) : name.removed text space a = name.removed text space b := by
  rw [Catalogue.CacheName.removed, Catalogue.CacheName.removed, (alike.purge space).1]

end Cache.Alike

namespace Directory

/-- Two directories that were both like a given one when they were new and differ at most in the
counts of their caches and in their memos. -/
structure Alike (start : Cache EntryListing) (a b : Directory) : Prop where
  listings : Cache.Alike start a.listings b.listings
  verdicts : a.verdicts = b.verdicts
  memo : a.memo.Sound
  memoOther : b.memo.Sound

variable {start : Cache EntryListing}

theorem agrees_slug (text : String) : Service.Agrees (Alike start) (slug text) := by
  refine Service.Agrees.update fun a b alike => ?_
  obtain ⟨same, sound⟩ := Slug.Memo.yields_slug text a.memo alike.memo
  obtain ⟨sameOther, soundOther⟩ := Slug.Memo.yields_slug text b.memo alike.memoOther
  exact ⟨same.trans sameOther.symm, { alike with memo := sound, memoOther := soundOther }⟩

theorem agrees_list (taxonomy : Taxonomy) (limit offset : Int) :
    Service.Agrees (Alike start) (list taxonomy limit offset) :=
  (isFetch_list taxonomy limit offset).agrees (fun _ _ alike => alike.listings)
    fun _ _ alike _ _ listings => { alike with listings := listings }

theorem agrees_judge (taxonomy : Taxonomy) (slug : String) (listing : EntryListing) :
    Service.Agrees (Alike start) (judge taxonomy slug listing) := by
  refine .ite (.pure false)
    (Service.Agrees.bind (.update fun a b alike => ⟨rfl, ?_⟩) fun _ => .pure _)
  exact { alike with verdicts := congrArg (_ :: ·) alike.verdicts }

theorem agrees_knowsSlug (taxonomy : Taxonomy) (slug : String) :
    Service.Agrees (Alike start) (knowsSlug taxonomy slug) := by
  refine .ite (.pure false) (Service.Agrees.observe (fun a b alike => ?_) fun directory => ?_)
  · rw [alike.verdicts]
  · cases directory.verdicts.lookup (taxonomy, slug) with
    | some verdict => exact .pure verdict
    | none => exact (agrees_list taxonomy 0 0).bind (agrees_judge taxonomy slug)

theorem agrees_knows (taxonomy : Taxonomy) (text : String) :
    Service.Agrees (Alike start) (knows taxonomy text) := by
  rw [knows_eq_bind]
  exact (agrees_slug text).bind (agrees_knowsSlug taxonomy)

theorem agrees_firstKnowing (text : String) (taxonomies : List Taxonomy) :
    Service.Agrees (Alike start) (firstKnowing text taxonomies) := by
  induction taxonomies with
  | nil => exact .pure none
  | cons taxonomy rest ih =>
    refine (agrees_knows taxonomy text).bind fun isKnown => ?_
    cases isKnown with
    | true => exact .pure (some taxonomy)
    | false => exact ih

theorem agrees_knownTags (words : List String) :
    Service.Agrees (Alike start) (knownTags words) := by
  induction words with
  | nil => exact .pure []
  | cons word rest ih =>
    exact (agrees_knows .tag word).bind fun isKnown => ih.bind fun tags => .pure _

theorem agrees_understand (text : String) (draft : Draft) :
    Service.Agrees (Alike start) (understand text draft) := by
  refine .ite (.pure _) ((agrees_firstKnowing _ lookedUp).bind fun first => ?_)
  cases first with
  | some taxonomy => exact .pure _
  | none =>
    -- What follows the words stands in both branches.
    exact .ite ((agrees_knownTags _).bind fun tags => .ite (.pure _) (.pure _))
      ((Service.Agrees.pure []).bind fun tags => .ite (.pure _) (.pure _))

end Directory

namespace Catalogue

variable {settings : Settings}

/-- Two catalogues that were both new with the settings and differ at most in the counts of their
caches and in their memos. -/
structure Alike (settings : Settings) (a b : Catalogue) : Prop where
  pageSize : a.pageSize = settings.pageSize
  pageSizeOther : b.pageSize = settings.pageSize
  taxonomyPageSize : a.taxonomyPageSize = settings.taxonomyPageSize
  taxonomyPageSizeOther : b.taxonomyPageSize = settings.taxonomyPageSize
  directory : Directory.Alike (emptyCache .taxonomies settings.caches.taxonomies) a.directory
    b.directory
  archives : Cache.Alike (emptyCache .archives settings.caches.archives) a.archives b.archives
  lookups : Cache.Alike (emptyCache .archive settings.caches.archive) a.lookups b.lookups

theorem alike_ofSettings (settings : Settings) :
    Alike settings (ofSettings settings) (ofSettings settings) where
  pageSize := rfl
  pageSizeOther := rfl
  taxonomyPageSize := rfl
  taxonomyPageSizeOther := rfl
  directory := ⟨⟨rfl, rfl⟩, rfl, Slug.Memo.sound_empty, Slug.Memo.sound_empty⟩
  archives := ⟨rfl, rfl⟩
  lookups := ⟨rfl, rfl⟩

theorem agrees_inDirectory {α : Type} {step : Service Directory α}
    (agrees : Service.Agrees
      (Directory.Alike (emptyCache .taxonomies settings.caches.taxonomies)) step) :
    Service.Agrees (Alike settings) (inDirectory step) :=
  agrees.part (fun _ _ alike => alike.directory)
    fun _ _ alike _ _ directory => { alike with directory := directory }

theorem agrees_parse (line : String) : Service.Agrees (Alike settings) (parse line) :=
  .ite (.pure _) ((agrees_inDirectory (Directory.agrees_understand line {})).bind fun _ => .pure _)

theorem agrees_settle (draft : Draft) : Service.Agrees (Alike settings) (settle draft) := by
  refine Service.Agrees.update fun a b alike => ?_
  obtain ⟨same, sound⟩ := Draft.yields_settle draft _ alike.directory.memo
  obtain ⟨sameOther, soundOther⟩ := Draft.yields_settle draft _ alike.directory.memoOther
  refine ⟨same.trans sameOther.symm, { alike with directory := ?_ }⟩
  exact { alike.directory with memo := sound, memoOther := soundOther }

theorem agrees_list (query : Query) : Service.Agrees (Alike settings) (list query) :=
  (isFetch_list query).agrees (fun _ _ alike => alike.archives)
    fun _ _ alike _ _ archives => { alike with archives := archives }

theorem agrees_archive (id : Int) (preloads : List String) :
    Service.Agrees (Alike settings) (archive id preloads) :=
  (isFetch_archive id preloads).agrees (fun _ _ alike => alike.lookups)
    fun _ _ alike _ _ lookups => { alike with lookups := lookups }

theorem agrees_search (request : SearchRequest) :
    Service.Agrees (Alike settings) (search request) := by
  refine (agrees_parse request.line).bind fun draft => ?_
  refine Service.Agrees.observe (fun a b alike => ?_) fun catalogue => ?_
  · rw [alike.pageSize, alike.pageSizeOther]
  · exact (agrees_settle _).bind fun query => (agrees_list query).bind fun listed => .pure _

/-- What a purge leaves of catalogues that are alike is alike. -/
theorem Alike.left {a b : Catalogue} (alike : Alike settings a b) (text : String)
    (space : Option String) : Alike settings (a.left text space) (b.left text space) where
  pageSize := alike.pageSize
  pageSizeOther := alike.pageSizeOther
  taxonomyPageSize := alike.taxonomyPageSize
  taxonomyPageSizeOther := alike.taxonomyPageSizeOther
  directory := { alike.directory with
    listings := alike.directory.listings.left _ text space
    verdicts := by
      unfold Catalogue.left
      simp only [alike.directory.verdicts] }
  archives := alike.archives.left _ text space
  lookups := alike.lookups.left _ text space

theorem Alike.removed {a b : Catalogue} (alike : Alike settings a b) (text : String)
    (space : Option String) : a.removed text space = b.removed text space := by
  unfold Catalogue.removed
  rw [alike.lookups.removed, alike.archives.removed, alike.directory.listings.removed]

/-- No request tells catalogues that are alike apart. -/
theorem agrees_answer (request : Request) : Service.Agrees (Alike settings) (answer request) := by
  cases request with
  | search request => exact (agrees_search request).map _
  | parse line => exact (agrees_parse line).map _
  | list query => exact (agrees_list query).map _
  | archive id preloads => exact (agrees_archive id preloads).map _
  | entries taxonomy limit offset =>
    exact (agrees_inDirectory (Directory.agrees_list taxonomy limit offset)).map _
  | purge text space =>
    refine Service.Agrees.update fun a b alike => ?_
    by_cases isKnown : text = everyCache ∨ text ∈ registry.names
    · rw [purge_of_known space a isKnown, purge_of_known space b isKnown, alike.removed]
      exact ⟨rfl, alike.left text space⟩
    · rw [purge_of_unknown space a isKnown, purge_of_unknown space b isKnown]
      exact ⟨rfl, alike⟩

/-- The step of an event is recorded alike, and the catalogues stay alike. -/
theorem Alike.step {a b : Catalogue} (alike : Alike settings a b) (event : Event) :
    (a.step event).1 = (b.step event).1 ∧ Alike settings (a.step event).2 (b.step event).2 := by
  obtain ⟨sameAnswer, after⟩ :=
    agrees_answer event.request event.context ⟨a, []⟩ ⟨b, []⟩ ⟨alike, rfl⟩
  have recorded (catalogue : Catalogue) : (catalogue.step event).1 = { event with
      answer := (answer event.request event.context ⟨catalogue, []⟩).1
      inquiries := (answer event.request event.context ⟨catalogue, []⟩).2.inquiries } := rfl
  rw [recorded, recorded, sameAnswer, after.inquiries]
  exact ⟨rfl, after.state⟩

end Catalogue

end ComicCatalogue
