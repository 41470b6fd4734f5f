import ComicCatalogue.Proofs.Catalogue.Limits
import ComicCatalogue.Proofs.Catalogue.Paths
import ComicCatalogue.Proofs.Shelf.Tables

/-!
# What the database finds for a query

`Query.AsksFor` says in terms of slugs and paths which archives a query asks for. On a shelf that
came about by changes, the database finds these archives by the texts of a settled query and no
others, and a selection gives them, page by page, unless it is beyond the bounds of the database.
-/

namespace ComicCatalogue

/-- A query asks for an archive on a shelf: the path of the query, if it has one, is a part of the
path of the archive. -/
structure Query.AsksFor (query : Query) (shelf : Shelf) (volume : Volume) : Prop
    extends query.Fits shelf volume where
  path : ∀ part, query.path = some part → part.toList <:+: volume.foldedPath.toList

/-- If a query has a path, then in this path and in that of an archive every character counts as
itself. -/
def Query.IsFaithful (query : Query) (volume : Volume) : Prop :=
  ∀ part, query.path = some part →
    Like.IsFaithful part.toList ∧ Like.IsFaithful volume.foldedPath.toList

theorem Query.IsFaithful.selects_iff_asks {query : Query} {volume : Volume}
    (faithful : query.IsFaithful volume) (shelf : Shelf) :
    query.Selects shelf volume ↔ query.AsksFor shelf volume := by
  constructor
  · intro selects
    refine ⟨selects.toFits, fun part asked => ?_⟩
    obtain ⟨faithfulPart, faithfulPath⟩ := faithful part asked
    exact (Like.finds_iff_isInfix faithfulPart faithfulPath).mp (selects.path part asked)
  · intro asks
    refine ⟨asks.toFits, fun part asked => ?_⟩
    obtain ⟨faithfulPart, faithfulPath⟩ := faithful part asked
    exact (Like.finds_iff_isInfix faithfulPart faithfulPath).mpr (asks.path part asked)

namespace Shelf

/-! ### Long paths -/

section

open Catalogue (wordOf)

variable {count : Nat}

theorem trim_wordOf : Text.trim (String.ofList (wordOf count)) = String.ofList (wordOf count) := by
  rw [Text.trim, String.toList_ofList,
    Unicode.trim_of_unbroken fun c member => (Catalogue.isToken_of_mem_wordOf c member).1]

theorem lowercase_wordOf :
    Text.lowercase (String.ofList (wordOf count)) = String.ofList (wordOf count) := by
  rw [Text.lowercase, String.toList_ofList, Unicode.lowercase, Unicode.lowercaseAfter_eq_self]
  exact fun c member => (Catalogue.isPlain_of_mem_wordOf c member).lower

/-- Nothing in such a word has to be escaped. -/
theorem pathPattern_wordOf :
    Condition.pathPattern (String.ofList (wordOf count)) = String.ofList (wordOf count) := by
  rw [Condition.pathPattern, String.toList_ofList, Like.escape, Slug.flatMap_eq_self]
  intro c member
  rw [List.eq_of_mem_replicate member]
  decide

theorem settlePath_wordOf (positive : 0 < count) :
    Draft.settlePath (some (String.ofList (wordOf count))) =
      some (String.ofList (wordOf count)) := by
  have some : (Text.trim (String.ofList (wordOf count))).isEmpty = false := by
    rw [trim_wordOf]
    simpa using Catalogue.wordOf_ne_nil positive
  have settled := Draft.settlePath_trim some
  rwa [trim_wordOf, lowercase_wordOf] at settled

/-- A draft that asks for such a path. -/
def pathDraft (count : Nat) : Draft :=
  { path := some (String.ofList (wordOf count)) }

theorem settledAfter_path (seen : List String) (text : String) :
    Draft.settledAfter seen [.path text] = Draft.settled { path := some text } :=
  Draft.settledAfter_eq_settled seen [.path text]

theorem conditions_pathDraft (positive : 0 < count) :
    Condition.ofQuery (pathDraft count).settled =
      [.path (String.ofList (wordOf count)), .visible] := by
  rw [Draft.conditions_of_nameless rfl rfl rfl rfl, pathDraft, settlePath_wordOf positive]
  rfl

/-- A shelf with one archive, which is at such a path. -/
def pathShelf (count : Nat) : Shelf :=
  .ofChanges [.put 0 { title := "X", path := String.ofList (wordOf count) }]

theorem volumes_pathShelf (positive : 0 < count) :
    (pathShelf count).volumes =
      [volumeOf 0 1 { title := "X", path := String.ofList (wordOf count) }] := by
  have named : (Text.trim (String.ofList (wordOf count))).isEmpty = false := by
    rw [trim_wordOf]
    simpa using Catalogue.wordOf_ne_nil positive
  have put := volumes_apply_put 0 { title := "X", path := String.ofList (wordOf count) } named
    fun volume (member : volume ∈ ({} : Shelf).volumes) => absurd member List.not_mem_nil
  rw [pathShelf, ofChanges, List.foldl_cons, List.foldl_nil, put]
  rfl

theorem asks_pathDraft (positive : 0 < count) :
    ∃ volume ∈ (pathShelf count).volumes,
      (pathDraft count).settled.AsksFor (pathShelf count) volume := by
  obtain ⟨title, filters, pages⟩ : _ ∧ (pathDraft count).settled.filters = .const {} ∧ _ :=
    Draft.settled_of_nameless rfl rfl rfl rfl
  rw [volumes_pathShelf positive]
  refine ⟨_, List.mem_singleton_self _,
    ⟨Option.some_ne_none 0, rfl, ?_, fun taxonomy => ?_, ?_⟩, ?_⟩
  · exact fun _ asked => nomatch title.symm.trans asked
  · rw [filters]
    exact Catalogue.accepts_const taxonomy _
  · exact fun _ asked => nomatch pages.symm.trans asked
  · intro part asked
    rw [Draft.settled_path, pathDraft, settlePath_wordOf positive, Option.some.injEq] at asked
    rw [← asked, volumeOf, lowercase_wordOf]

theorem select_pathDraft (long : 49999 ≤ count) (limit : Option Nat) (offset : Nat) :
    (pathShelf count).select
        { Selection.ofQuery (pathDraft count).settled with limit := limit, offset := offset } =
      .error (.database .patternTooComplex) := by
  have positive : 0 < count := by omega
  refine select_of_overlong (conditions_pathDraft positive) rfl rfl (fun volume => ?_) ?_
  · rw [Condition.fails, pathPattern_wordOf, String.toList_ofList, decide_eq_true_eq, wordOf,
      Like.patternBytes_within_replicate, Like.maxPatternBytes]
    omega
  · rw [volumes_pathShelf positive]
    exact List.cons_ne_nil _ _

/-- If the word is long, the query for it is refused, though it asks for the archive. -/
theorem select_wordPath (long : 49999 ≤ count) :
    let path := String.ofList (wordOf count)
    let query := Draft.settledAfter [] [.path path]
    let shelf := ofChanges [.put 0 { title := "X", path := path }]
    (∃ volume ∈ shelf.volumes, query.AsksFor shelf volume) ∧
      shelf.select { Selection.ofQuery query with limit := none, offset := 0 } =
        .error (.database .patternTooComplex) := by
  intro path query shelf
  have settled : query = (pathDraft count).settled := settledAfter_path [] path
  rw [settled]
  exact ⟨asks_pathDraft (by omega), select_pathDraft long none 0⟩

end

/-! ### Selections -/

/-- On every shelf that came about by changes, and for every query that edits settle into, there are
archives such that

* they are the archives that the query asks for, each of them once, where the characters of paths
  count as themselves;
* the database finds them by the joined texts of the query, both of those for the archives and of
  those for their number;
* a selection gives a part of them in its order, and their number as the total. Without a limit and
  an offset these are all of them. Nothing but the bounds of the database keeps a selection from
  being carried out. -/
theorem select_settledAfter (edits : List Draft.Edit) (seen : List String)
    (changes : List ShelfChange) :
    let query := Draft.settledAfter seen edits
    let shelf := ofChanges changes
    let selection := Selection.ofQuery query
    ∃ rows : List Volume, rows.Nodup ∧
      (∀ volume, query.IsFaithful volume →
        (volume ∈ rows ↔ volume ∈ shelf.volumes ∧ query.AsksFor shelf volume)) ∧
      (∀ fragments ∈ [selection.fragments, selection.countedFragments],
        ∃ found, shelf.found? (Fragment.allOf fragments) = some found ∧ found.Perm rows) ∧
      ∀ limit offset, shelf.Gives { selection with limit := limit, offset := offset } rows := by
  intro query shelf selection
  have folded : query.IsFolded := Query.isFolded_settledAfter seen edits
  have sound : shelf.Sound := sound_ofChanges changes
  clear_value query shelf
  have perm : (shelf.matching selection.conditions).Perm (shelf.ordered selection) :=
    (List.mergeSort_perm _ _).symm
  obtain ⟨found, foundCounted⟩ := shelf.found?_ofQuery query
  refine ⟨shelf.ordered selection, nodup_ordered sound _, fun volume faithful => ?_, ?_,
    fun limit offset => gives_ordered shelf rfl⟩
  · rw [mem_ordered_iff sound folded, faithful.selects_iff_asks]
  · simp only [List.forall_mem_cons, List.not_mem_nil, false_imp_iff, implies_true, and_true]
    exact ⟨⟨_, found, perm⟩, _, foundCounted, perm⟩

/-- Of two archives the one with the tag and with the percent sign in its path is asked for, and it
is the only one. -/
theorem select_settledAfter_tagged :
    let query := Draft.settledAfter ["BIG"] [.entry .tag "Big", .path "A%"]
    let shelf := ofChanges [
      .put 1 {
        title := "One", path := "/a%", names := { PerTaxonomy.const [] with tags := ["big"] } },
      .put 2 { title := "Two", path := "/ab" }]
    ∃ rows : List Volume, rows.length = 1 ∧
      (∀ volume ∈ shelf.volumes, volume ∈ rows ↔ query.AsksFor shelf volume) ∧
      ∃ found, shelf.found? (Fragment.allOf (Selection.ofQuery query).fragments) = some found ∧
        found.Perm rows := by
  intro query shelf
  obtain ⟨rows, _, same, found, answered⟩ :=
    select_settledAfter [.entry .tag "Big", .path "A%"] ["BIG"] [
      .put 1 {
        title := "One", path := "/a%", names := { PerTaxonomy.const [] with tags := ["big"] } },
      .put 2 { title := "Two", path := "/ab" }]
  have one : rows.length = 1 := by
    refine (answered none 0).length_eq ?_
    decide +kernel
  have path : query.path = some "a%" := by decide +kernel
  have faithful : ∀ volume ∈ shelf.volumes, query.IsFaithful volume := by
    intro volume member part asked
    cases path.symm.trans asked
    have paths : Like.IsFaithful "a%".toList ∧
        ∀ volume ∈ shelf.volumes, Like.IsFaithful volume.foldedPath.toList := by
      decide +kernel
    exact paths.imp_right fun each => each volume member
  refine ⟨rows, one, fun volume member => ?_, (List.forall_mem_cons.mp found).1⟩
  rw [same volume (faithful volume member)]
  exact and_iff_right member

/-- The pattern for a path of 49999 letters is too long, so a selection by it is refused, though
there is an archive at this very path. -/
theorem select_long_path :
    let path := String.ofList (Catalogue.wordOf 49999)
    let query := Draft.settledAfter [] [.path path]
    let shelf := ofChanges [.put 0 { title := "X", path := path }]
    (∃ volume ∈ shelf.volumes, query.AsksFor shelf volume) ∧
      shelf.select { Selection.ofQuery query with limit := none, offset := 0 } =
        .error (.database .patternTooComplex) :=
  select_wordPath le_rfl

end Shelf

end ComicCatalogue
