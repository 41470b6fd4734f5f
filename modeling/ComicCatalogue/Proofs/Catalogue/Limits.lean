import ComicCatalogue.Proofs.Catalogue.Pages
import ComicCatalogue.Proofs.Search.Line
import ComicCatalogue.Proofs.Slug.Plain

/-!
# Searches at the limits

A part of a title can be so long that the database refuses to search for it, and archives can be so
many that the number of their pages does not fit in 32 bits.
-/

namespace ComicCatalogue

/-- Unless a field is named, archives are listed by the time of their creation. -/
theorem SortField.ofName_empty : SortField.ofName "" = .createdAt := by
  decide +kernel

theorem SortOrder.ofName_empty : SortOrder.ofName "" = .descending := by
  decide +kernel

namespace Catalogue

/-- A word of one letter, so many times. -/
def wordOf (count : Nat) : List Char :=
  List.replicate count 'a'

section

variable {count : Nat}

theorem wordOf_ne_nil (positive : 0 < count) : wordOf count ≠ [] := by
  simpa [wordOf] using positive.ne'

theorem isPlain_of_mem_wordOf : ∀ c ∈ wordOf count, Slug.IsPlain c := by
  intro c member
  rw [List.eq_of_mem_replicate member]
  exact Slug.isPlain_a

theorem isToken_of_mem_wordOf :
    ∀ c ∈ wordOf count, Unicode.isWhitespace c = false ∧ c ≠ ',' ∧ c ≠ '"' := by
  intro c member
  rw [List.eq_of_mem_replicate member]
  decide

theorem ofText_wordOf (positive : 0 < count) :
    Slug.ofText (String.ofList (wordOf count)) = String.ofList (wordOf count) :=
  Slug.ofText_of_isPlain (wordOf_ne_nil positive) isPlain_of_mem_wordOf

/-- The line that asks for titles with such a word in them. -/
def wordLine (positive : 0 < count) : Search.Line where
  lead := none
  spaced := []
  last := some (.directive (.title ⟨false, "title".toList, rfl, .missing, true⟩
    [.bare (wordOf count)
      (fun c member => (isToken_of_mem_wordOf c member).imp_right And.left)
      (fun first => (isToken_of_mem_wordOf '"' (List.mem_of_mem_head? first)).2.2 rfl)]
    (by
      rw [Search.Value.contents_cons, Search.Value.content, Search.kept_of_unbroken
        (wordOf_ne_nil positive) fun c member => (isToken_of_mem_wordOf c member).1]
      simp)))

/-- The search for titles with such a word in them. -/
def wordSearch (count : Nat) : SearchRequest :=
  { line := String.ofList ("title*:".toList ++ wordOf count) }

theorem text_wordLine (positive : 0 < count) :
    (wordLine positive).text = "title*:".toList ++ wordOf count := by
  simp [wordLine, Search.Line.text, Search.Part.text, Search.Written.text, Search.Heading.text,
    Search.Sign.text, Search.Value.texts, Search.Value.text]

theorem line_wordSearch (positive : 0 < count) :
    (wordSearch count).line = String.ofList (wordLine positive).text :=
  congrArg String.ofList (text_wordLine positive).symm

theorem directives_wordSearch (positive : 0 < count) :
    (Search.Reading.ofLine (wordSearch count).line).directives =
      [.title true [String.ofList (wordOf count)]] := by
  have word := Search.kept_of_unbroken (wordOf_ne_nil positive)
    fun c member => (isToken_of_mem_wordOf c member).1
  rw [line_wordSearch positive, Search.Reading.directives_text, wordLine]
  simp only [Search.Line.parts, Option.toList_some, List.map_nil, List.nil_append,
    List.filterMap_cons, List.filterMap_nil, Search.Part.directive?, Search.Written.directive,
    Search.Value.contents_cons, Search.Value.content, word]
  rfl

theorem isStructured_wordSearch (positive : 0 < count) :
    (Search.Reading.ofLine (wordSearch count).line).isStructured := by
  simp [Search.Reading.isStructured, directives_wordSearch positive]

theorem parse_wordSearch (source : Source) (positive : 0 < count) :
    source.parse (wordSearch count).line =
      { titleContains := some (String.ofList (wordOf count)) } := by
  simp only [Source.parse, isStructured_wordSearch positive, directives_wordSearch positive]
  simp [Draft.addDirectives, Draft.addDirective]

/-- The query of such a search has the word for its only constraint. -/
theorem pageQuery_wordSearch (source : Source) (positive : 0 < count) :
    pageQuery source (wordSearch count) 25 1 = {
      path := none
      title := some (.contains (String.ofList (wordOf count)))
      filters := .const {}
      pages := none
      sort := .createdAt
      order := .descending
      limit := 25
      offset := 0
      unbounded := false
      preloads := [] } := by
  have title : Draft.canonicalSlug? (some (String.ofList (wordOf count))) =
      some (String.ofList (wordOf count)) := by
    simp [Draft.canonicalSlug?, ofText_wordOf positive, wordOf_ne_nil positive]
  have sort : SortField.ofName (wordSearch count).sort = .createdAt := SortField.ofName_empty
  have order : SortOrder.ofName (wordSearch count).order = .descending := SortOrder.ofName_empty
  rw [pageQuery, parse_wordSearch source positive]
  simp only [Draft.settled, pageDraft, Draft.canonicalTitle, title, sort, order]
  rfl

/-- A shelf with one archive, whose title is such a word. -/
def wordShelf (count : Nat) : Shelf :=
  .ofChanges [.put 1 { title := String.ofList (wordOf count), path := "/a" }]

theorem volumes_wordShelf :
    (wordShelf count).volumes =
      [Shelf.volumeOf 1 1 { title := String.ofList (wordOf count), path := "/a" }] := by
  have named : (Text.trim "/a").isEmpty = false := by decide +kernel
  have put := Shelf.volumes_apply_put 1 { title := String.ofList (wordOf count), path := "/a" }
    named fun volume (member : volume ∈ ({} : Shelf).volumes) => absurd member List.not_mem_nil
  rw [wordShelf, Shelf.ofChanges, List.foldl_cons, List.foldl_nil, put]
  rfl

theorem accepts_const (taxonomy : Taxonomy) (slugs : List String) :
    ((PerTaxonomy.const ({} : TaxonomyFilter)).get taxonomy).Accepts slugs := by
  have empty : (PerTaxonomy.const ({} : TaxonomyFilter)).get taxonomy = {} := by
    cases taxonomy <;> rfl
  rw [empty]
  constructor <;> simp

/-- The archive is asked for. -/
theorem selects_wordSearch (positive : 0 < count) :
    ∃ volume ∈ (wordShelf count).volumes,
      (pageQuery (wordShelf count).source (wordSearch count) 25 1).Selects (wordShelf count)
        volume := by
  rw [volumes_wordShelf, pageQuery_wordSearch _ positive]
  refine ⟨_, List.mem_singleton_self _,
    ⟨?_, rfl, ?_, fun taxonomy => accepts_const taxonomy _, ?_⟩, ?_⟩
  · simp [Shelf.volumeOf]
  · rintro title ⟨⟩
    simp [TitleFilter.Accepts, Shelf.volumeOf, ofText_wordOf positive]
  · simp
  · simp

/-- The word is longer than patterns may be, so every page is refused. -/
theorem listing_wordSearch (long : 49999 ≤ count) {page : Nat} (isPage : PageWindow.IsPage page) :
    ((wordShelf count).source.search 25 (onPage (wordSearch count) page)).listing =
      { error := some (ShelfError.database .patternTooComplex).toCatalogueError } := by
  have overlong : SlugTest.isOverlong (.contains (String.ofList (wordOf count))) := by
    rw [SlugTest.isOverlong, decide_eq_true_eq, String.toList_ofList, wordOf,
      Like.patternBytes_within_replicate, Like.maxPatternBytes]
    omega
  have refused : (wordShelf count).select
      (.ofQuery (pageQuery (wordShelf count).source (wordSearch count) 25 1)) =
        .error (.database .patternTooComplex) := by
    rw [pageQuery_wordSearch _ (by omega)]
    refine Shelf.select_of_overlong rfl rfl rfl (fun volume => overlong) ?_
    rw [volumes_wordShelf]
    exact List.cons_ne_nil _ _
  have limited := limit_pageQuery (by decide : 1 ≤ 25) (by decide) (wordShelf count).source
    (wordSearch count) 1
  rw [listing_search (by decide) (by decide) isPage 1, Shelf.select_source,
    Shelf.select_part rfl limited (by decide) (by decide), refused]
  rfl

/-- A shelf with so many archives, none of which has pages. -/
def fullShelf (count : Nat) : Shelf :=
  .ofChanges ((List.range count).map fun index =>
    .put 0 { title := "", path := String.ofList (wordOf (index + 1)) })

theorem fullShelf_succ (count : Nat) :
    fullShelf (count + 1) = (fullShelf count).apply
      (.put 0 { title := "", path := String.ofList (wordOf (count + 1)) }) := by
  simp [fullShelf, Shelf.ofChanges, List.range_succ]

theorem volumes_fullShelf (count : Nat) :
    (fullShelf count).volumes.map (·.path) =
        (List.range count).map (fun index => String.ofList (wordOf (index + 1))) ∧
      ∀ volume ∈ (fullShelf count).volumes,
        volume.publishedAt ≠ none ∧ volume.withdrawn = false ∧ volume.pages = 0 := by
  induction count with
  | zero => exact ⟨rfl, fun volume member => absurd member List.not_mem_nil⟩
  | succ count ih =>
    obtain ⟨paths, shown⟩ := ih
    have named : (Text.trim (String.ofList (wordOf (count + 1)))).isEmpty = false := by
      rw [Text.trim, String.toList_ofList,
        Unicode.trim_of_unbroken fun c member => (isToken_of_mem_wordOf c member).1]
      simp [wordOf]
    have fresh : ∀ volume ∈ (fullShelf count).volumes,
        volume.path ≠ String.ofList (wordOf (count + 1)) := by
      intro volume member same
      have path := List.mem_map_of_mem (f := (·.path)) member
      rw [paths, same, List.mem_map] at path
      obtain ⟨index, below, equal⟩ := path
      have length := congrArg List.length (String.ofList_injective equal)
      rw [List.mem_range] at below
      simp [wordOf] at length
      omega
    have put := Shelf.volumes_apply_put 0
      { title := "", path := String.ofList (wordOf (count + 1)) } named fresh
    rw [fullShelf_succ, put, List.range_succ, List.map_append, List.map_append, paths,
      List.map_singleton, List.map_singleton]
    refine ⟨rfl, fun volume member => ?_⟩
    rcases List.mem_append.mp member with old | new
    · exact shown volume old
    · rw [List.mem_singleton.mp new]
      exact ⟨by simp [Shelf.volumeOf], rfl, rfl⟩

theorem length_fullShelf (count : Nat) : (fullShelf count).volumes.length = count := by
  have length := congrArg List.length (volumes_fullShelf count).1
  rwa [List.length_map, List.length_map, List.length_range] at length

/-- The search for archives without pages. -/
def emptySearch : SearchRequest :=
  { line := "pages:<1" }

theorem isStructured_emptySearch : (Search.Reading.ofLine emptySearch.line).isStructured := by
  decide +kernel

theorem pageQuery_emptySearch (source : Source) :
    pageQuery source emptySearch 1 1 = {
      path := none
      title := none
      filters := .const {}
      pages := some ⟨.less, 1⟩
      sort := .createdAt
      order := .descending
      limit := 1
      offset := 0
      unbounded := false
      preloads := [] } := by
  have directives : (Search.Reading.ofLine emptySearch.line).directives = [.pages .less 1] := by
    decide +kernel
  have parsed : source.parse emptySearch.line = { pages := [⟨.less, 1⟩] } := by
    simp [Source.parse, isStructured_emptySearch, directives, Draft.addDirectives,
      Draft.addDirective]
  have sort : SortField.ofName emptySearch.sort = .createdAt := SortField.ofName_empty
  have order : SortOrder.ofName emptySearch.order = .descending := SortOrder.ofName_empty
  rw [pageQuery, parsed]
  simp only [Draft.settled, pageDraft, sort, order]
  rfl

theorem selects_emptySearch {volume : Volume} (member : volume ∈ (fullShelf count).volumes) :
    (pageQuery (fullShelf count).source emptySearch 1 1).Selects (fullShelf count) volume := by
  obtain ⟨published, kept, pages⟩ := (volumes_fullShelf count).2 volume member
  rw [pageQuery_emptySearch]
  refine ⟨⟨published, kept, by simp, fun taxonomy => accepts_const taxonomy _, ?_⟩, by simp⟩
  rintro bound ⟨⟩
  simp [PageBound.Accepts, pages]

/-- The pages of one archive each show all archives of the shelf, as far as page numbers reach. -/
theorem shows_emptySearch (count : Nat) :
    ∃ rows, rows.length = count ∧ Shows (fullShelf count) emptySearch 1
      (fun page => (fullShelf count).source.search 1 (onPage emptySearch page)) rows := by
  have sound : (fullShelf count).Sound := Shelf.sound_ofChanges _
  cases done : (fullShelf count).select
      (.ofQuery (pageQuery (fullShelf count).source emptySearch 1 1)) with
  | ok first =>
    have shown : Shows (fullShelf count) emptySearch 1
        (fun page => (fullShelf count).source.search 1 (onPage emptySearch page)) _ :=
      shows_of_select le_rfl (by decide) (fun page _ => rfl) sound done
    have folded : (pageQuery (fullShelf count).source emptySearch 1 1).IsFolded :=
      Query.isFolded_settled _
    refine ⟨_, ?_, shown⟩
    have same : ((fullShelf count).ordered
        (.ofQuery (pageQuery (fullShelf count).source emptySearch 1 1))).Perm
          (fullShelf count).volumes := by
      rw [List.perm_ext_iff_of_nodup shown.nodup (List.Nodup.of_map _ sound.idsNodup)]
      intro volume
      rw [Shelf.mem_ordered_iff sound folded]
      exact ⟨And.left, fun member => ⟨member, selects_emptySearch member⟩⟩
    rw [same.length_eq, length_fullShelf]
  | error error =>
    rw [pageQuery_emptySearch] at done
    rcases (Shelf.gives_ordered _ rfl).refusal error done with ⟨deep, _⟩ | ⟨overlong, _⟩ |
      ⟨related, _⟩
    · exact absurd deep (by decide)
    · obtain ⟨pattern, member, _⟩ := overlong
      exact absurd member List.not_mem_nil
    · exact absurd rfl related

end

end Catalogue

end ComicCatalogue
