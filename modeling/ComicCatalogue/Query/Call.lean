import ComicCatalogue.Query.Record

/-!
# Calls on drafts

A draft is made call by call. A call passes on whatever it is given: a record that no line of search
says, a name that nothing goes by, any number of 64 bits. `Query.contents` are the calls that ask
for what a query asks for.
-/

namespace ComicCatalogue

namespace Draft

/-- A call that changes a draft. -/
inductive Call where
  | record (record : Search.Record)
  | entry (taxonomy : Taxonomy) (text : String)
  | path (text : String)
  | sort (name : String)
  | order (name : String)
  | limit (limit : Int64)
  | offset (offset : Int64)
  | unbounded (unbounded : Bool)
  | preload (relation : String)
  deriving DecidableEq, Repr

/-- Makes a call. -/
def call (draft : Draft) : Call → Draft
  | .record record => draft.addRecord record
  | .entry taxonomy text => draft.addEntry taxonomy text
  | .path text => { draft with path := some text }
  | .sort name => { draft with sort := name }
  | .order name => { draft with order := name }
  | .limit limit => { draft with limit := limit.toInt }
  | .offset offset => { draft with offset := offset.toInt }
  | .unbounded unbounded => { draft with unbounded := unbounded }
  | .preload relation => { draft with preloads := draft.preloads ++ [relation] }

/-- The draft that several calls in turn make. -/
def ofCalls (calls : List Call) : Draft :=
  calls.foldl call {}

end Draft

/-- The kinds of constraint on a taxonomy. -/
def Slot.all : List Slot :=
  [⟨.anyOf, false⟩, ⟨.allOf, false⟩, ⟨.anyOf, true⟩, ⟨.allOf, true⟩, ⟨.noneOf, false⟩,
    ⟨.noneOf, true⟩]

/-- The constraint on the title as a directive. -/
def TitleFilter.directive : TitleFilter → Directive
  | equals slug => .title false [slug]
  | contains slug => .title true [slug]

/-- The constraint on the number of pages as a directive. -/
def PageBound.directive (bound : PageBound) : Directive :=
  .pages bound.comparison bound.count

/-- The kinds of constraint on a taxonomy that have values, as directives. -/
def TaxonomyFilter.directives (taxonomy : Taxonomy) (filter : TaxonomyFilter) : List Directive :=
  (Slot.all.filter fun slot => !(filter.get slot).isEmpty).map fun slot =>
    .taxonomy taxonomy slot (filter.get slot)

namespace Query

/-- The constraints of a query as directives. -/
def directives (query : Query) : List Directive :=
  (Taxonomy.all.flatMap fun taxonomy => (query.filters.get taxonomy).directives taxonomy) ++
    query.title.toList.map TitleFilter.directive ++ query.pages.toList.map PageBound.directive

/-- The calls that ask for what a query asks for, with the names of what has a name. -/
def contents (query : Query) : List Draft.Call :=
  query.directives.map (fun directive => .record directive.record) ++
    query.path.toList.map .path ++
    [.sort query.sort.name, .order query.order.name, .limit (.ofNat query.limit),
      .offset (.ofNat query.offset), .unbounded query.unbounded] ++
    query.preloads.map fun taxonomy => .preload taxonomy.plural

end Query

end ComicCatalogue
