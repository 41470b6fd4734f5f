import ComicCatalogue.Query.Basic
import ComicCatalogue.Search.Reading
import ComicCatalogue.Slug

/-!
# Drafts of queries

A draft collects what is asked for, as it is asked for. Settling a draft folds its texts into slugs
and puts them in order, so that requests which differ only in spelling, order or repetition settle
into the same query.
-/

namespace ComicCatalogue

/-- What has been asked for so far. -/
structure Draft where
  /-- The values asked for, by taxonomy and kind of constraint, in the order given. -/
  filters : PerTaxonomy TaxonomyFilter := .const {}
  /-- The title to equal, if asked for. -/
  titleEquals : Option String := none
  /-- The part of the title, if asked for. -/
  titleContains : Option String := none
  /-- The constraints on pages, the latest last. -/
  pages : List PageBound := []
  path : Option String := none
  sort : String := ""
  order : String := ""
  limit : Int := 25
  offset : Int := 0
  unbounded : Bool := false
  /-- The names of the relations asked for. -/
  preloads : List String := []

namespace Draft

/-- The largest limit that a query can have. -/
def maxLimit : Int := 100

/-- Adds a directive. Values of a title directive are taken as one title with commas. -/
def addDirective (draft : Draft) : Directive → Draft
  | .taxonomy taxonomy slot values =>
    { draft with filters := draft.filters.modify taxonomy (·.add slot values) }
  | .title true values => { draft with titleContains := some (",".intercalate values) }
  | .title false values => { draft with titleEquals := some (",".intercalate values) }
  | .pages comparison count => { draft with pages := draft.pages ++ [⟨comparison, count⟩] }

/-- Adds directives in turn. -/
def addDirectives (draft : Draft) (directives : List Directive) : Draft :=
  directives.foldl addDirective draft

/-- Asks for archives with an entry of that name. -/
def addEntry (taxonomy : Taxonomy) (text : String) (draft : Draft) : Draft :=
  { draft with filters := draft.filters.modify taxonomy (·.add ⟨.anyOf, false⟩ [text]) }

/-- One thing asked for. -/
inductive Edit where
  | directive (directive : Directive)
  | entry (taxonomy : Taxonomy) (text : String)
  | path (text : String)
  | sort (name : String)
  | order (name : String)
  | limit (limit : Int)
  | offset (offset : Int)
  | unbounded (unbounded : Bool)
  | preload (relation : String)
  deriving DecidableEq, Repr

/-- Adds one thing asked for. Of several paths, orders, limits and so on the latest counts. -/
def edit (draft : Draft) : Edit → Draft
  | .directive directive => draft.addDirective directive
  | .entry taxonomy text => draft.addEntry taxonomy text
  | .path text => { draft with path := some text }
  | .sort name => { draft with sort := name }
  | .order name => { draft with order := name }
  | .limit limit => { draft with limit := limit }
  | .offset offset => { draft with offset := offset }
  | .unbounded unbounded => { draft with unbounded := unbounded }
  | .preload relation => { draft with preloads := draft.preloads ++ [relation] }

/-- The draft of several things asked for in turn. -/
def ofEdits (edits : List Edit) : Draft :=
  edits.foldl edit {}

/-- The slug of a text, unless there is no text or its slug is empty. -/
def slug? (text : Option String) : StateM Slug.Memo (Option String) := do
  match text with
  | none => return none
  | some text =>
    let slug ← Slug.Memo.slug text
    return if slug.isEmpty then none else some slug

/-- The constraint on the title: equality goes before containment. -/
def settleTitle (draft : Draft) : StateM Slug.Memo (Option TitleFilter) := do
  match ← slug? draft.titleEquals with
  | some slug => return some (.equals slug)
  | none => return (← slug? draft.titleContains).map .contains

/-- The slugs of values, ascending and without the empty one. -/
def settleValues (values : List String) : StateM Slug.Memo (List String) := do
  return Ascending.ofList (← Slug.Memo.slugs values)

/-- The filter with its values settled. -/
def settleFilter (filter : TaxonomyFilter) : StateM Slug.Memo TaxonomyFilter := do
  return {
    anyOf := ← settleValues filter.anyOf
    allOf := ← settleValues filter.allOf
    anyContaining := ← settleValues filter.anyContaining
    allContaining := ← settleValues filter.allContaining
    noneOf := ← settleValues filter.noneOf
    noneContaining := ← settleValues filter.noneContaining }

/-- The constraint on pages: of the first comparison asked for in the order of comparisons, the
latest count. -/
def settlePages (bounds : List PageBound) : Option PageBound :=
  Comparison.all.findSome? fun comparison =>
    bounds.reverse.find? (·.comparison = comparison)

/-- The path in lower case, unless it is blank. -/
def settlePath (path : Option String) : Option String :=
  (path.map fun path => Text.lowercase (Text.trim path)).filter (!·.isEmpty)

/-- The known relations among the names, ascending. -/
def settlePreloads (names : List String) : List Taxonomy :=
  Ascending.ofList (names.filterMap Taxonomy.ofRelation?)

/-- The query that a draft settles into. -/
def settle (draft : Draft) : StateM Slug.Memo Query := do
  let title ← draft.settleTitle
  let filters : PerTaxonomy TaxonomyFilter := {
    artists := ← settleFilter draft.filters.artists
    circles := ← settleFilter draft.filters.circles
    magazines := ← settleFilter draft.filters.magazines
    parodies := ← settleFilter draft.filters.parodies
    tags := ← settleFilter draft.filters.tags }
  return {
    path := settlePath draft.path
    title := title
    filters := filters
    pages := settlePages draft.pages
    sort := .ofName draft.sort
    order := .ofName draft.order
    limit := if draft.unbounded then 0 else (min draft.limit maxLimit).toNat
    offset := if draft.unbounded then 0 else draft.offset.toNat
    unbounded := draft.unbounded
    preloads := settlePreloads draft.preloads }

end Draft

end ComicCatalogue
