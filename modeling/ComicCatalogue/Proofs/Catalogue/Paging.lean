import ComicCatalogue.Proofs.Catalogue.Limits

/-!
# Paging

The pages of a search show the archives that it asks for, one after the other, in one order: none
is left out and none is repeated.
-/

namespace ComicCatalogue.Catalogue

open PageWindow (IsPage)

/-- Whatever a session was asked before, the pages of a search in it show the archives that the
search asks for, each of them once, in one order. Each page asks for as many archives as the
settings say, from a place that fits in 63 bits. Nothing but the bounds of the database keeps a
search from being carried out, and then every page says so. -/
theorem search_pages {settings : Settings} (accepted : settings.check = .ok ())
    (changes : List ShelfChange) (request : SearchRequest) {answer : Nat → SearchAnswer}
    (answered : ∀ page, IsPage page →
      IsAnswer settings (Shelf.ofChanges changes).source (onPage request page) (answer page)) :
    (∀ page, IsPage page →
      (answer page).query = { (answer 1).query with
        limit := settings.pageSize, offset := settings.pageSize * (page - 1) } ∧
      settings.pageSize * (page - 1) < 2 ^ 63) ∧
    ((∃ rows, Shows (Shelf.ofChanges changes) request settings.pageSize answer rows) ∨
      ∃ error, IsRefused answer error) := by
  obtain ⟨positive, small⟩ := Settings.pageSize_of_check accepted
  have searched : ∀ page, IsPage page → answer page =
      (Shelf.ofChanges changes).source.search settings.pageSize (onPage request page) :=
    fun page isPage => (answered page isPage).eq_search
  constructor
  · intro page isPage
    constructor
    · rw [searched page isPage, searched 1 PageWindow.isPage_one, query_search, query_search]
      exact pageQuery_eq small isPage
    · exact PageWindow.mul_lt_of_isPage small isPage
  · cases done : (Shelf.ofChanges changes).select (.ofQuery
        (pageQuery (Shelf.ofChanges changes).source request settings.pageSize 1)) with
    | ok first =>
      exact .inl ⟨_, shows_of_select positive small searched (Shelf.sound_ofChanges changes) done⟩
    | error error => exact .inr ⟨error, isRefused_of_select positive small searched done⟩

/-- The two archives of a shelf, on a page each. -/
theorem search_pages_two :
    let settings : Settings := { pageSize := 1 }
    let changes : List ShelfChange := [.put 1 { title := "One", path := "/a", pages := 20 },
      .put 2 { title := "Two", path := "/b", pages := 30 }]
    let source := (Shelf.ofChanges changes).source
    let request : SearchRequest := { line := "pages:>0", sort := "title", order := "asc" }
    let answer := fun page => source.search 1 (onPage request page)
    settings.check = .ok () ∧
      (∀ page, IsPage page → IsAnswer settings source (onPage request page) (answer page)) ∧
      ∃ rows, Shows (Shelf.ofChanges changes) request 1 answer rows ∧ rows.length = 2 := by
  intro settings changes source request answer
  have accepted : settings.check = .ok () := rfl
  have structured : (Search.Reading.ofLine request.line).isStructured := by decide +kernel
  have answered : ∀ page, IsPage page →
      IsAnswer settings source (onPage request page) (answer page) :=
    fun page _ => isAnswer_search structured
  have total : (answer 1).listing.total = 2 := by decide +kernel
  refine ⟨accepted, answered, ?_⟩
  obtain ⟨_, ⟨rows, shown⟩ | ⟨error, refused⟩⟩ := search_pages accepted changes request answered
  · have same := (shown.total 1 PageWindow.isPage_one).symm.trans total
    exact ⟨rows, shown, Int.ofNat.inj same⟩
  · rw [refused.2 1 PageWindow.isPage_one] at total
    cases total

/-- Two searches with archives that no page shows: the part of a title is so long that the database
refuses it, and the archives are so many that their pages cannot be counted. -/
theorem search_pages_short :
    (let shelf := wordShelf 49999
      let answer := fun page => shelf.source.search 25 (onPage (wordSearch 49999) page)
      ({} : Settings).check = .ok () ∧
      (∀ page, IsAnswer {} shelf.source (onPage (wordSearch 49999) page) (answer page)) ∧
      (∃ volume ∈ shelf.volumes, (answer 1).query.Selects shelf volume) ∧
      ∀ page, IsPage page →
        (answer page).window.totalPages = 0 ∧ (answer page).listing.archives = []) ∧
    (let shelf := fullShelf (2 ^ 32)
      let answer := fun page => shelf.source.search 1 (onPage emptySearch page)
      ({ pageSize := 1 } : Settings).check = .ok () ∧
      (∀ page, IsAnswer { pageSize := 1 } shelf.source (onPage emptySearch page) (answer page)) ∧
      shelf.volumes.length = 2 ^ 32 ∧
      (∀ volume ∈ shelf.volumes, (answer 1).query.Selects shelf volume) ∧
      ∀ page, IsPage page →
        ((List.range' 1 (answer page).window.totalPages).flatMap
          (answer · |>.listing.archives)).length = 2 ^ 32 - 1) := by
  refine ⟨⟨rfl, fun page => ?_, ?_, fun page isPage => ?_⟩,
    rfl, fun page => ?_, length_fullShelf _, fun volume member => ?_, fun page isPage => ?_⟩
  · exact isAnswer_search (isStructured_wordSearch (by decide))
  · simp only [query_search]
    exact selects_wordSearch (by decide)
  · have listing := listing_wordSearch le_rfl isPage
    rw [totalPages_search, listing]
    exact ⟨rfl, rfl⟩
  · exact isAnswer_search isStructured_emptySearch
  · simp only [query_search]
    exact selects_emptySearch member
  · obtain ⟨rows, length, shown⟩ := shows_emptySearch (2 ^ 32)
    rw [shown.pages page isPage, List.length_map, List.length_take, length]
    rfl

end ComicCatalogue.Catalogue
