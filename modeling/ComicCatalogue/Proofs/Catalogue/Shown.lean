import ComicCatalogue.Proofs.Catalogue.Limits

/-!
# The page that is shown

The answer to a search names the page it shows. The archives are cut out by the number that was
asked for, while the number in the answer is moved to the nearest page that there is. So the two
agree for the pages that there are, and behind the last one no archives are shown.
-/

namespace ComicCatalogue

namespace PageWindow

/-- As many pages as are counted do not fit in front of the end of a list with members. -/
theorem mul_pageCount_lt {count size : Nat} (positive : 0 < size) (filled : 0 < count) :
    size * (pageCount count size - 1) < count := by
  rw [pageCount, if_neg positive.ne', Int.toNat_natCast]
  have counted : min ((count + size - 1) / size) maxPages - 1 ≤ (count + size - 1) / size - 1 :=
    Nat.sub_le_sub_right (Nat.min_le_left _ _) 1
  have fits : size * ((count + size - 1) / size) ≤ count + size - 1 := Nat.mul_div_le _ _
  calc size * (min ((count + size - 1) / size) maxPages - 1)
      ≤ size * ((count + size - 1) / size - 1) := Nat.mul_le_mul_left size counted
    _ = size * ((count + size - 1) / size) - size := Nat.mul_sub_one _ _
    _ < count := by omega

/-- The last page that is counted shows something, unless there is nothing to show. -/
theorem excerpt_pageCount_ne_nil {α : Type} {size : Nat} (positive : 0 < size) {members : List α}
    (filled : members ≠ []) :
    excerpt (some size) (size * (max (pageCount members.length size) 1 - 1)) members ≠ [] := by
  have before := mul_pageCount_lt positive (List.length_pos_of_ne_nil filled)
  have last : max (pageCount members.length size) 1 - 1 = pageCount members.length size - 1 := by
    omega
  rw [last]
  intro empty
  rcases List.take_eq_nil_iff.mp empty with none | short
  · exact positive.ne' none
  · rw [List.drop_eq_nil_iff] at short
    omega

end PageWindow

namespace Catalogue

open PageWindow (IsPage)

/-- The archives on a page of a list, from the first one behind the pages before. -/
def archivesOn (shelf : Shelf) (preloads : List Taxonomy) (pageSize page : Nat)
    (rows : List Volume) : List Archive :=
  (excerpt (some pageSize) (pageSize * (page - 1)) rows).map (shelf.archiveOf preloads)

/-- An answer shows the page of the list that it reports, wherever there is such a page. -/
structure ShowsPage (shelf : Shelf) (request : SearchRequest) (pageSize : Nat)
    (answer : SearchAnswer) (rows : List Volume) : Prop where
  succeeded : answer.listing.error = none
  total : answer.listing.total = rows.length
  totalPages : answer.window.totalPages = PageWindow.pageCount rows.length pageSize
  /-- A page that there is, or the first one, is reported as it was asked for. -/
  current_of_le : request.page ≤ max answer.window.totalPages 1 →
    answer.window.current = max request.page 1
  /-- Then the archives on the page that is reported are shown, and otherwise they are not, unless
  there are none. -/
  archives_iff : answer.listing.archives =
      archivesOn shelf answer.query.preloads pageSize answer.window.current rows ↔
    request.page ≤ max answer.window.totalPages 1 ∨ rows = []
  /-- Behind the last page nothing is shown, and the last page is reported. -/
  behind : max answer.window.totalPages 1 < request.page →
    answer.listing.archives = [] ∧ answer.window.current = max answer.window.totalPages 1

/-- An answer says that the database refused the search: its conditions are too deep, or one of its
patterns is too long. -/
structure IsRefusal (answer : SearchAnswer) (error : ShelfError) : Prop where
  reason :
    Condition.areTooDeep (Condition.ofQuery answer.query) ∧
        error = .database .conditionsTooDeep ∨
      Condition.HasOverlong ((Condition.ofQuery answer.query).flatMap Condition.patterns) ∧
        error = .database .patternTooComplex
  listing : answer.listing = { error := some error.toCatalogueError }

section

variable {shelf : Shelf} {request : SearchRequest} {pageSize : Nat}

theorem length_archivesOn (preloads : List Taxonomy) (page : Nat) (rows : List Volume) :
    (archivesOn shelf preloads pageSize page rows).length =
      min pageSize (rows.length - pageSize * (page - 1)) := by
  rw [archivesOn, List.length_map, excerpt, List.length_take, List.length_drop]

theorem query_search_self (source : Source) (request : SearchRequest) (pageSize : Nat) :
    (source.search pageSize request).query = pageQuery source request pageSize request.page :=
  rfl

/-- What a search lists is what its query selects. -/
theorem listing_search_self (source : Source) (request : SearchRequest) (pageSize : Nat) :
    (source.search pageSize request).listing =
      .ofAnswer (source.select (.ofQuery (source.search pageSize request).query)) :=
  rfl

/-- The rows of a search are what its query selects, in its order. -/
theorem isResult_ordered (sound : shelf.Sound) (request : SearchRequest) (pageSize : Nat) :
    IsResult shelf request (shelf.source.search pageSize request).query
      (shelf.ordered (.ofQuery (shelf.source.search pageSize request).query)) := by
  rw [query_search_self]
  exact isResult_pageQuery sound request pageSize request.page

/-- A search that is carried out lists the rows on the page that was asked for. -/
theorem listing_of_select (positive : 1 ≤ pageSize) (small : pageSize ≤ 100)
    (isPage : IsPage request.page) {first : ArchivePage}
    (done : shelf.select (.ofQuery (shelf.source.search pageSize request).query) = .ok first) :
    (shelf.source.search pageSize request).listing = {
      archives := archivesOn shelf (shelf.source.search pageSize request).query.preloads pageSize
        request.page (shelf.ordered (.ofQuery (shelf.source.search pageSize request).query))
      total :=
        (shelf.ordered (.ofQuery (shelf.source.search pageSize request).query)).length } :=
  listing_onPage_of_select positive small done isPage

/-- A search that is carried out shows the page that it reports, if there is one. -/
theorem showsPage_of_select (positive : 1 ≤ pageSize) (small : pageSize ≤ 100)
    (isPage : IsPage request.page) {first : ArchivePage}
    (done : shelf.select (.ofQuery (shelf.source.search pageSize request).query) = .ok first) :
    ShowsPage shelf request pageSize (shelf.source.search pageSize request)
      (shelf.ordered (.ofQuery (shelf.source.search pageSize request).query)) := by
  have listing := listing_of_select positive small isPage done
  have window : (shelf.source.search pageSize request).window = .ofTotal (max request.page 1)
      (shelf.source.search pageSize request).listing.total pageSize := rfl
  generalize shelf.ordered (.ofQuery (shelf.source.search pageSize request).query) = rows at *
  generalize shelf.source.search pageSize request = answer at *
  rw [listing] at window
  have totalPages : answer.window.totalPages = PageWindow.pageCount rows.length pageSize := by
    rw [window]
    rfl
  have current : answer.window.current =
      min (max request.page 1) (max answer.window.totalPages 1) := by
    rw [totalPages, window]
    change PageWindow.shown (max request.page 1) (PageWindow.pageCount rows.length pageSize) = _
    rw [PageWindow.shown, max_assoc, max_self]
  have archives : answer.listing.archives =
      archivesOn shelf answer.query.preloads pageSize request.page rows := by
    rw [listing]
  have behind : max answer.window.totalPages 1 < request.page → answer.listing.archives = [] := by
    intro behind
    rw [totalPages] at behind
    rw [archives, archivesOn, PageWindow.excerpt_of_pageCount_lt positive rows isPage (by omega)]
    rfl
  refine ⟨?_, ?_, totalPages, ?_, ⟨?_, ?_⟩, ?_⟩
  · rw [listing]
  · rw [listing]
  · intro within
    rw [current]
    omega
  · -- Behind the last page nothing is shown, but on the last page there is something.
    intro same
    by_contra neither
    rw [not_or, not_le] at neither
    obtain ⟨outside, filled⟩ := neither
    have last : answer.window.current = max (PageWindow.pageCount rows.length pageSize) 1 := by
      rw [current, totalPages] at *
      omega
    rw [behind outside, last] at same
    exact PageWindow.excerpt_pageCount_ne_nil positive filled (List.map_eq_nil_iff.mp same.symm)
  · rintro (within | rfl)
    · have start : answer.window.current - 1 = request.page - 1 := by
        rw [current]
        omega
      rw [archives, archivesOn, archivesOn, start]
    · rw [archives, archivesOn, archivesOn, excerpt, excerpt, List.drop_nil, List.drop_nil]
  · intro outside
    refine ⟨behind outside, ?_⟩
    rw [current]
    omega

/-- A search that is not carried out says why the database refused it. -/
theorem isRefusal_of_select (positive : 1 ≤ pageSize) (small : pageSize ≤ 100) {error : ShelfError}
    (failed : shelf.select (.ofQuery (shelf.source.search pageSize request).query) =
      .error error) :
    IsRefusal (shelf.source.search pageSize request) error := by
  have listed := listing_search_self shelf.source request pageSize
  have limited := limit_pageQuery positive small shelf.source request request.page
  rw [← query_search_self] at limited
  generalize shelf.source.search pageSize request = answer at *
  constructor
  · exact Shelf.refusal_of_limited rfl limited (small.trans (by decide)) failed
  · rw [listed, Shelf.select_source, failed]
    rfl

end

/-- Whatever a session was asked before, a search in it shows the page that it reports, if there is
such a page: the archives on it in the order of all that the search asks for. Behind the last page
nothing is shown, although the last page is reported. Nothing but the bounds of the database keeps
a search from being carried out. -/
theorem search_shown {settings : Settings} (accepted : settings.check = .ok ())
    (changes : List ShelfChange) (request : SearchRequest) (isPage : IsPage request.page)
    {answer : SearchAnswer}
    (answered : IsAnswer settings (Shelf.ofChanges changes).source request answer) :
    (∃ rows, IsResult (Shelf.ofChanges changes) request answer.query rows ∧
        ShowsPage (Shelf.ofChanges changes) request settings.pageSize answer rows) ∨
      ∃ error, IsRefusal answer error := by
  obtain ⟨positive, small⟩ := Settings.pageSize_of_check accepted
  rw [answered.eq_search]
  cases done : (Shelf.ofChanges changes).select
      (.ofQuery ((Shelf.ofChanges changes).source.search settings.pageSize request).query) with
  | ok first =>
    exact .inl ⟨_, isResult_ordered (Shelf.sound_ofChanges changes) request settings.pageSize,
      showsPage_of_select positive small isPage done⟩
  | error error => exact .inr ⟨error, isRefusal_of_select positive small done⟩

/-- One of two archives is alone on the second page. -/
theorem search_shown_second :
    let settings : Settings := { pageSize := 1 }
    let changes : List ShelfChange := [.put 1 { title := "One", path := "/a", pages := 20 },
      .put 2 { title := "Two", path := "/b", pages := 30 }]
    let source := (Shelf.ofChanges changes).source
    let request : SearchRequest :=
      { line := "pages:>0", sort := "title", order := "asc", page := 2 }
    let answer := source.search 1 request
    settings.check = .ok () ∧ IsPage request.page ∧ IsAnswer settings source request answer ∧
      answer.window.current = 2 ∧
      ∃ rows, IsResult (Shelf.ofChanges changes) request answer.query rows ∧ rows.length = 2 ∧
        answer.listing.archives =
          archivesOn (Shelf.ofChanges changes) answer.query.preloads 1 2 rows ∧
        answer.listing.archives.length = 1 := by
  intro settings changes source request answer
  have accepted : settings.check = .ok () := rfl
  have isPage : IsPage request.page := by
    unfold IsPage
    decide
  have answered : IsAnswer settings source request answer := isAnswer_search (by decide +kernel)
  have current : answer.window.current = 2 := by decide +kernel
  have total : answer.listing.total = 2 := by decide +kernel
  have totalPages : answer.window.totalPages = 2 := by decide +kernel
  refine ⟨accepted, isPage, answered, current, ?_⟩
  rcases search_shown accepted changes request isPage answered with
    ⟨rows, isResult, shown⟩ | ⟨error, refused⟩
  · have length : rows.length = 2 := Int.ofNat.inj (shown.total.symm.trans total)
    have within : request.page ≤ max answer.window.totalPages 1 := by
      rw [totalPages]
      decide
    have archives := shown.archives_iff.mpr (.inl within)
    rw [current] at archives
    refine ⟨rows, isResult, length, archives, ?_⟩
    rw [archives, length_archivesOn, length]
    rfl
  · rw [refused.listing] at total
    cases total

/-- Behind the only page the last page is reported, but not shown. -/
theorem archives_ne_emptySearch {answer : SearchAnswer}
    (searched : answer = (fullShelf 1).source.search 1 (onPage emptySearch 2)) :
    ∃ rows, IsResult (fullShelf 1) (onPage emptySearch 2) answer.query rows ∧
      answer.window.current = 1 ∧
      answer.listing.archives ≠
        archivesOn (fullShelf 1) answer.query.preloads 1 answer.window.current rows := by
  have sound : (fullShelf 1).Sound := Shelf.sound_ofChanges _
  have isResult := isResult_ordered sound (onPage emptySearch 2) 1
  have current : answer.window.current = 1 := by
    rw [searched]
    decide +kernel
  have total : answer.listing.total = 1 := by
    rw [searched]
    decide +kernel
  refine ⟨_, searched ▸ isResult, current, ?_⟩
  cases done : (fullShelf 1).select
      (.ofQuery ((fullShelf 1).source.search 1 (onPage emptySearch 2)).query) with
  | ok first =>
    have isPage : IsPage (onPage emptySearch 2).page := by
      unfold IsPage
      decide
    have shown := showsPage_of_select le_rfl (by decide) isPage done
    rw [← searched] at shown
    have length := Int.ofNat.inj (shown.total.symm.trans total)
    intro same
    rcases shown.archives_iff.mp same with within | none
    · rw [shown.totalPages, length] at within
      exact absurd within (by decide)
    · rw [none] at length
      cases length
  | error error =>
    have refused := isRefusal_of_select le_rfl (by decide) done
    rw [← searched] at refused
    rw [refused.listing] at total
    cases total

/-- Where the database refuses a search, the first page is reported, but not shown. -/
theorem archives_ne_wordSearch {answer : SearchAnswer}
    (searched : answer = (wordShelf 49999).source.search 25 (onPage (wordSearch 49999) 1)) :
    ∃ rows, IsResult (wordShelf 49999) (onPage (wordSearch 49999) 1) answer.query rows ∧
      answer.window.current = 1 ∧
      answer.listing.archives ≠
        archivesOn (wordShelf 49999) answer.query.preloads 25 answer.window.current rows := by
  have sound : (wordShelf 49999).Sound := Shelf.sound_ofChanges _
  have isResult := isResult_ordered sound (onPage (wordSearch 49999) 1) 25
  have listing := listing_wordSearch le_rfl PageWindow.isPage_one
  have window : ((wordShelf 49999).source.search 25 (onPage (wordSearch 49999) 1)).window =
      .ofTotal 1 ((wordShelf 49999).source.search 25 (onPage (wordSearch 49999) 1)).listing.total
        25 := rfl
  obtain ⟨volume, isIn, selects⟩ := @selects_wordSearch 49999 (by decide)
  rw [← query_search] at selects
  generalize (wordShelf 49999).source.search 25 (onPage (wordSearch 49999) 1) = given at *
  subst searched
  have current : answer.window.current = 1 := by
    rw [window, listing]
    rfl
  refine ⟨_, isResult, current, ?_⟩
  have member := (isResult.mem_iff volume).mpr ⟨isIn, selects⟩
  intro same
  have length := congrArg List.length same
  rw [length_archivesOn, listing, current] at length
  have positive := List.length_pos_of_mem member
  simp only [List.length_nil] at length
  omega

/-- Two searches that report a page and do not show it: behind the only page, and where the
database refuses the part of a title. -/
theorem search_shown_nothing :
    (let shelf := fullShelf 1
      let request := onPage emptySearch 2
      let answer := shelf.source.search 1 request
      ({ pageSize := 1 } : Settings).check = .ok () ∧ IsPage request.page ∧
      IsAnswer { pageSize := 1 } shelf.source request answer ∧
      ∃ rows, IsResult shelf request answer.query rows ∧ answer.window.current = 1 ∧
        answer.listing.archives ≠
          archivesOn shelf answer.query.preloads 1 answer.window.current rows) ∧
    (let shelf := wordShelf 49999
      let request := onPage (wordSearch 49999) 1
      let answer := shelf.source.search 25 request
      ({} : Settings).check = .ok () ∧ IsPage request.page ∧
      IsAnswer {} shelf.source request answer ∧
      ∃ rows, IsResult shelf request answer.query rows ∧ answer.window.current = 1 ∧
        answer.listing.archives ≠
          archivesOn shelf answer.query.preloads 25 answer.window.current rows) := by
  refine ⟨⟨rfl, ?_, isAnswer_search isStructured_emptySearch, archives_ne_emptySearch rfl⟩,
    rfl, PageWindow.isPage_one, isAnswer_search (isStructured_wordSearch (by decide)),
    archives_ne_wordSearch rfl⟩
  unfold IsPage
  decide

end Catalogue

end ComicCatalogue
