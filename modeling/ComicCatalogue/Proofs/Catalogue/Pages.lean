import ComicCatalogue.Proofs.Catalogue.Transparency
import ComicCatalogue.Proofs.PageWindow
import ComicCatalogue.Proofs.Shelf.Order
import ComicCatalogue.Proofs.Shelf.Selected

/-!
# The pages of a search

The pages of a search ask for parts of one list: their queries differ in the offset only. So where
one page is listed every page is, and where one is refused every page is.
-/

namespace ComicCatalogue

open PageWindow (IsPage)

theorem Settings.pageSize_of_check {settings : Settings} (accepted : settings.check = .ok ()) :
    1 ≤ settings.pageSize ∧ settings.pageSize ≤ 100 := by
  unfold check at accepted
  by_cases outside : settings.pageSize = 0 ∨ maxPageSize < settings.pageSize
  · rw [if_pos outside] at accepted
    cases accepted
  · rw [maxPageSize] at outside
    omega

namespace Draft

theorem unbounded_addEntries (draft : Draft) (tags : List String) :
    (tags.foldl (fun draft tag => draft.addEntry .tag tag) draft).unbounded = draft.unbounded := by
  induction tags generalizing draft with
  | nil => rfl
  | cons tag rest ih => exact ih (draft.addEntry .tag tag)

end Draft

namespace Source

variable (source : Source)

theorem unbounded_understand (text : String) (draft : Draft) :
    (source.understand text draft).2.unbounded = draft.unbounded := by
  unfold understand
  simp only
  split
  · rfl
  · split
    · rfl
    · rw [Understanding.ofTags]
      split
      · rfl
      · exact Draft.unbounded_addEntries draft _

/-- No line asks for everything at once. -/
theorem unbounded_parse (line : String) : (source.parse line).unbounded = false := by
  unfold parse
  simp only
  split
  · exact (Draft.addDirectives_frame {} _).1
  · exact source.unbounded_understand line {}

end Source

/-- The selection of another part of the same archives. -/
def Selection.part (selection : Selection) (limit : Option Nat) (offset : Nat) : Selection :=
  { selection with limit := limit, offset := offset }

namespace Shelf

variable {shelf : Shelf} {selection : Selection}

theorem select_source (selection : Selection) :
    shelf.source.select selection = (shelf.select selection).mapError ShelfError.toCatalogueError :=
  rfl

/-- Another part of the archives comes from the same list, or is refused for the same reason, where
no part is too large for look-ups. -/
theorem select_part {limit other : Nat} (counted : selection.counted = selection.conditions)
    (limited : selection.limit = some other) (few : other ≤ maxLookedUp)
    (small : limit ≤ maxLookedUp) (offset : Nat) :
    shelf.select (selection.part (some limit) offset) = (shelf.select selection).map fun _ => {
      archives := (excerpt (some limit) offset (shelf.ordered selection)).map
        (shelf.archiveOf selection.preloads)
      total := (shelf.ordered selection).length } := by
  have total : (shelf.ordered selection).length = (shelf.matching selection.counted).length := by
    rw [counted, ordered, List.length_mergeSort]
  have same : shelf.fault? (selection.part (some limit) offset) = shelf.fault? selection := by
    rw [fault?_of_limited counted limited few]
    exact @fault?_of_limited _ (selection.part (some limit) offset) limit counted rfl small
  rcases shelf.select_cases selection with ⟨accepted, done⟩ | ⟨fault, refused, failed⟩
  · rw [select_of_faultless (same.trans accepted), done, total]
    rfl
  · rw [select_of_fault (same.trans refused), failed]
    rfl

end Shelf

namespace Catalogue

/-- A search with another page number. -/
def onPage (request : SearchRequest) (page : Nat) : SearchRequest :=
  { request with page := page }

/-- A session with the source has this answer to the search. -/
def IsAnswer (settings : Settings) (source : Source) (request : SearchRequest)
    (answer : SearchAnswer) : Prop :=
  ∃ events : List Event, (∀ event ∈ events, event.source = source) ∧
    NoCollision (((ofSettings settings).session events).flatMap Record.texts) ∧
    ∃ record ∈ (ofSettings settings).session events,
      record.request = .search request ∧ record.answer = .page answer

/-- The archives that a search asks for, in its order. -/
structure IsResult (shelf : Shelf) (request : SearchRequest) (query : Query)
    (rows : List Volume) : Prop where
  /-- They are the visible archives that the query asks for. -/
  mem_iff : ∀ volume, volume ∈ rows ↔ volume ∈ shelf.volumes ∧ query.Selects shelf volume
  nodup : rows.Nodup
  /-- The archives of the shelf can stand in one order only, as the search asks for it. -/
  strict : IsStrictTotalOrder { volume // volume ∈ shelf.volumes } fun a b =>
    a.val.Precedes (.ofName request.sort) (.ofName request.order) b.val
  /-- The ones that are asked for stand in this order. -/
  pairwise : rows.Pairwise (Volume.Precedes (.ofName request.sort) (.ofName request.order))

/-- The archives of a listing, as the pages of a search show them. -/
structure Shows (shelf : Shelf) (request : SearchRequest) (pageSize : Nat)
    (answer : Nat → SearchAnswer) (rows : List Volume) : Prop where
  /-- The visible archives that the search asks for are listed, and no others. -/
  mem_iff : ∀ volume,
    volume ∈ rows ↔ volume ∈ shelf.volumes ∧ (answer 1).query.Selects shelf volume
  nodup : rows.Nodup
  /-- The archives of the shelf can stand in one order only, as the search asks for it. -/
  strict : IsStrictTotalOrder { volume // volume ∈ shelf.volumes } fun a b =>
    a.val.Precedes (.ofName request.sort) (.ofName request.order) b.val
  /-- The listed ones stand in this order. -/
  pairwise : rows.Pairwise (Volume.Precedes (.ofName request.sort) (.ofName request.order))
  /-- Every page gives the number of all. -/
  total : ∀ page, IsPage page → (answer page).listing.total = rows.length
  succeeds : ∀ page, IsPage page → (answer page).listing.error = none
  /-- The pages that there are show them in turn, as far as page numbers reach. -/
  pages : ∀ page, IsPage page →
    (List.range' 1 (answer page).window.totalPages).flatMap (answer · |>.listing.archives) =
      (rows.take (pageSize * PageWindow.maxPages)).map
        (shelf.archiveOf (answer 1).query.preloads)
  /-- Behind the last page there are none. -/
  behind : ∀ page, IsPage page → (answer page).window.totalPages < page →
    (answer page).listing.archives = []

/-- Every page of a search is refused: its conditions are too deep for the database, or one of its
patterns is too long. -/
def IsRefused (answer : Nat → SearchAnswer) (error : ShelfError) : Prop :=
  (Condition.areTooDeep (Condition.ofQuery (answer 1).query) ∧
      error = .database .conditionsTooDeep ∨
    Condition.HasOverlong ((Condition.ofQuery (answer 1).query).flatMap Condition.patterns) ∧
      error = .database .patternTooComplex) ∧
  ∀ page, IsPage page → (answer page).listing = { error := some error.toCatalogueError }

theorem map_request_session (catalogue : Catalogue) (events : List Event) :
    (catalogue.session events).map (·.request) = events.map (·.request) := by
  induction events generalizing catalogue with
  | nil => rfl
  | cons event rest ih =>
    rw [session, List.map_cons, List.map_cons, ih]
    rfl

/-- A search in a session is answered as by a catalogue that keeps nothing. -/
theorem IsAnswer.eq_search {settings : Settings} {source : Source} {request : SearchRequest}
    {answer : SearchAnswer} (given : IsAnswer settings source request answer) :
    answer = source.search settings.pageSize request := by
  obtain ⟨events, fixed, noCollision, record, member, asked, gave⟩ := given
  have same := (backed_ofSettings fun _ other _ => other = source).answers_session noCollision
    (fun _ _ _ => id) fixed (List.Subset.refl _)
  have requests := congrArg (List.map (source.answer settings))
    (map_request_session (ofSettings settings) events)
  rw [List.map_map, List.map_map] at requests
  have answered := List.map_inj_left.mp (same.trans requests.symm) record member
  rw [gave, Function.comp_apply, asked] at answered
  exact Answer.page.inj answered

/-- A search with directives is answered in a session of its own. -/
theorem isAnswer_search {settings : Settings} {source : Source} {request : SearchRequest}
    (structured : (Search.Reading.ofLine request.line).isStructured) :
    IsAnswer settings source request (source.search settings.pageSize request) := by
  have stepped := step_search source 0 request (ofSettings settings)
  generalize search request ⟨source, 0⟩ ⟨ofSettings settings, []⟩ = answered at stepped
  have given : IsAnswer settings source request answered.1 := by
    refine ⟨[⟨source, 0, .search request⟩], by simp, ?_, _, List.mem_cons_self, ?_, ?_⟩
    · intro a memberA b memberB _
      rw [session, stepped] at memberA memberB
      simp [session, Record.texts, lineTexts, structured] at memberA memberB
      rw [memberA, memberB]
    · rw [stepped]
    · rw [stepped]
  rw [← given.eq_search]
  exact given

/-- The query of a page. -/
def pageQuery (source : Source) (request : SearchRequest) (pageSize page : Nat) : Query :=
  (pageDraft request (max page 1) pageSize (source.parse request.line)).settled

section

variable {source : Source} {request : SearchRequest} {page other pageSize : Nat}

theorem limit_pageQuery (positive : 1 ≤ pageSize) (small : pageSize ≤ 100) (source : Source)
    (request : SearchRequest) (page : Nat) :
    (Selection.ofQuery (pageQuery source request pageSize page)).limit = some pageSize := by
  have bounded := source.unbounded_parse request.line
  have limit : (min (pageSize : Int) Draft.maxLimit).toNat = pageSize := by
    unfold Draft.maxLimit
    omega
  simp only [Selection.ofQuery, pageQuery, Draft.settled, pageDraft, bounded, limit,
    Bool.false_eq_true, if_false]
  exact if_neg (Nat.pos_iff_ne_zero.mp positive)

/-- The pages of a search differ in the offset only. -/
theorem pageQuery_eq (small : pageSize ≤ 100) (isPage : IsPage page) :
    pageQuery source request pageSize page =
      { pageQuery source request pageSize other with
        limit := pageSize
        offset := pageSize * (page - 1) } := by
  have bounded := source.unbounded_parse request.line
  have limit : (min (pageSize : Int) Draft.maxLimit).toNat = pageSize := by
    unfold Draft.maxLimit
    omega
  have offset : (PageWindow.offset pageSize (max page 1)).toNat = pageSize * (page - 1) := by
    rw [PageWindow.offset_max (PageWindow.mul_lt_of_isPage small isPage), Int.toNat_natCast]
  simp only [pageQuery, Draft.settled, pageDraft, bounded, limit, offset]
  rfl

theorem sort_pageQuery (source : Source) (request : SearchRequest) (pageSize page : Nat) :
    (Selection.ofQuery (pageQuery source request pageSize page)).sort = .ofName request.sort := by
  simp only [Selection.ofQuery, pageQuery, Draft.settled_sort, pageDraft]

theorem order_pageQuery (source : Source) (request : SearchRequest) (pageSize page : Nat) :
    (Selection.ofQuery (pageQuery source request pageSize page)).order = .ofName request.order := by
  simp only [Selection.ofQuery, pageQuery, Draft.settled_order, pageDraft]

theorem selection_pageQuery (positive : 1 ≤ pageSize) (small : pageSize ≤ 100)
    (isPage : IsPage page) (other : Nat) :
    Selection.ofQuery (pageQuery source request pageSize page) =
      (Selection.ofQuery (pageQuery source request pageSize other)).part (some pageSize)
        (pageSize * (page - 1)) := by
  have some : (if pageSize = 0 then none else some pageSize) = some pageSize :=
    if_neg (Nat.pos_iff_ne_zero.mp positive)
  have same : pageQuery source request pageSize page =
      { pageQuery source request pageSize other with
        limit := pageSize, offset := pageSize * (page - 1) } := pageQuery_eq small isPage
  rw [same]
  generalize pageQuery source request pageSize other = query
  simp only [Selection.ofQuery, some]
  rfl

theorem query_search (source : Source) (request : SearchRequest) (pageSize page : Nat) :
    (source.search pageSize (onPage request page)).query =
      pageQuery source request pageSize page :=
  rfl

theorem totalPages_search (source : Source) (request : SearchRequest) (pageSize page : Nat) :
    (source.search pageSize (onPage request page)).window.totalPages =
      PageWindow.pageCount (source.search pageSize (onPage request page)).listing.total
        pageSize :=
  rfl

/-- A page lists what is selected from its place. -/
theorem listing_search (positive : 1 ≤ pageSize) (small : pageSize ≤ 100) (isPage : IsPage page)
    (other : Nat) :
    (source.search pageSize (onPage request page)).listing =
      .ofAnswer (source.select ((Selection.ofQuery (pageQuery source request pageSize other)).part
        (some pageSize) (pageSize * (page - 1)))) := by
  rw [← selection_pageQuery positive small isPage other]
  rfl

/-- The rows of a page are what its query selects, in the order of the search. -/
theorem isResult_pageQuery {shelf : Shelf} (sound : shelf.Sound) (request : SearchRequest)
    (pageSize page : Nat) :
    IsResult shelf request (pageQuery shelf.source request pageSize page)
      (shelf.ordered (.ofQuery (pageQuery shelf.source request pageSize page))) where
  mem_iff _ := Shelf.mem_ordered_iff sound (Query.isFolded_settled _)
  nodup := Shelf.nodup_ordered sound _
  strict := Shelf.isStrictTotalOrder_precedes sound.idsNodup _ _
  pairwise := by
    have ordered := Shelf.pairwise_ordered sound.idsNodup
      (.ofQuery (pageQuery shelf.source request pageSize page))
    rwa [sort_pageQuery, order_pageQuery] at ordered

/-- If one page is listed, every page lists the part of its rows from its own place. -/
theorem listing_onPage_of_select {shelf : Shelf} (positive : 1 ≤ pageSize) (small : pageSize ≤ 100)
    {first : ArchivePage}
    (done : shelf.select (.ofQuery (pageQuery shelf.source request pageSize page)) = .ok first)
    {other : Nat} (isPage : IsPage other) :
    (shelf.source.search pageSize (onPage request other)).listing = {
      archives := (excerpt (some pageSize) (pageSize * (other - 1))
        (shelf.ordered (.ofQuery (pageQuery shelf.source request pageSize page)))).map
          (shelf.archiveOf (pageQuery shelf.source request pageSize page).preloads)
      total :=
        (shelf.ordered (.ofQuery (pageQuery shelf.source request pageSize page))).length } := by
  have few : pageSize ≤ Shelf.maxLookedUp := small.trans (by decide)
  rw [listing_search positive small isPage page, Shelf.select_source,
    Shelf.select_part rfl (limit_pageQuery positive small _ _ _) few few, done]
  rfl

end

section

variable {shelf : Shelf} {request : SearchRequest} {pageSize : Nat} {answer : Nat → SearchAnswer}
  (positive : 1 ≤ pageSize) (small : pageSize ≤ 100)
  (searched : ∀ page, IsPage page →
    answer page = shelf.source.search pageSize (onPage request page))
include positive small searched

/-- If the first page is listed, every page is, and the pages show the archives in order. -/
theorem shows_of_select (sound : shelf.Sound) {first : ArchivePage}
    (done : shelf.select (.ofQuery (pageQuery shelf.source request pageSize 1)) = .ok first) :
    Shows shelf request pageSize answer
      (shelf.ordered (.ofQuery (pageQuery shelf.source request pageSize 1))) := by
  have query : (answer 1).query = pageQuery shelf.source request pageSize 1 := by
    rw [searched 1 PageWindow.isPage_one, query_search]
  have isResult := isResult_pageQuery sound request pageSize 1
  have listing : ∀ page, IsPage page → (answer page).listing = {
      archives := (excerpt (some pageSize) (pageSize * (page - 1))
        (shelf.ordered (.ofQuery (pageQuery shelf.source request pageSize 1)))).map
          (shelf.archiveOf (pageQuery shelf.source request pageSize 1).preloads)
      total := (shelf.ordered (.ofQuery (pageQuery shelf.source request pageSize 1))).length } := by
    intro page isPage
    rw [searched page isPage, listing_onPage_of_select positive small done isPage]
  generalize shelf.ordered (.ofQuery (pageQuery shelf.source request pageSize 1)) = rows at *
  rw [← query] at isResult listing
  have totalPages : ∀ page, IsPage page →
      (answer page).window.totalPages = PageWindow.pageCount rows.length pageSize := by
    intro page isPage
    have counted := totalPages_search shelf.source request pageSize page
    rwa [← searched page isPage, listing page isPage] at counted
  refine ⟨isResult.mem_iff, isResult.nodup, isResult.strict, isResult.pairwise, ?_, ?_, ?_, ?_⟩
  · intro page isPage
    rw [listing page isPage]
  · intro page isPage
    rw [listing page isPage]
  · intro page isPage
    have counted := PageWindow.pageCount_le_maxPages positive rows.length
    rw [totalPages page isPage, ← PageWindow.flatMap_pages positive, List.map_flatMap]
    refine List.flatMap_congr fun shown member => ?_
    rw [List.mem_range'_1] at member
    rw [listing shown (by unfold IsPage; omega)]
  · intro page isPage behind
    rw [totalPages page isPage] at behind
    rw [listing page isPage, PageWindow.excerpt_of_pageCount_lt positive rows isPage behind]
    rfl

/-- If the first page is refused, every page is. -/
theorem isRefused_of_select {error : ShelfError}
    (failed : shelf.select (.ofQuery (pageQuery shelf.source request pageSize 1)) = .error error) :
    IsRefused answer error := by
  have few : pageSize ≤ Shelf.maxLookedUp := small.trans (by decide)
  have limited := limit_pageQuery positive small shelf.source request 1
  constructor
  · rw [searched 1 PageWindow.isPage_one, query_search]
    exact Shelf.refusal_of_limited rfl limited few failed
  · intro page isPage
    rw [searched page isPage, listing_search positive small isPage 1, Shelf.select_source,
      Shelf.select_part rfl limited few few, failed]
    rfl

end

end Catalogue

end ComicCatalogue
