import ComicCatalogue.Selection.Condition

/-!
# Selections

A selection is a query in the form in which a source of archives carries it out: conditions, an
order, and the part that is wanted. The number of all archives that satisfy the conditions is
always asked for along with the part, under conditions of its own.
-/

namespace ComicCatalogue

/-- A query made ready to be carried out. -/
structure Selection where
  conditions : List Condition
  /-- The conditions on the archives that are counted. -/
  counted : List Condition
  sort : SortField
  order : SortOrder
  /-- The largest number of archives, if there is a limit. -/
  limit : Option Nat
  /-- The number of archives to leave out at the beginning. -/
  offset : Nat
  /-- The relations to give with each archive. -/
  preloads : List Taxonomy
  deriving DecidableEq, Repr

namespace Selection

/-- The selection of a query. A limit of zero is none. -/
def ofQuery (query : Query) : Selection where
  conditions := Condition.ofQuery query
  counted := Condition.ofQuery query
  sort := query.sort
  order := query.order
  limit := if query.limit = 0 then none else some query.limit
  offset := query.offset
  preloads := query.preloads

/-- The conditions as the database reads them. -/
def fragments (selection : Selection) : List Fragment :=
  selection.conditions.map Condition.fragment

/-- The conditions on the archives that are counted, as the database reads them. -/
def countedFragments (selection : Selection) : List Fragment :=
  selection.counted.map Condition.fragment

/-- The order as the database reads it. Archives that agree are ordered by number in the same
direction. -/
def orderText (selection : Selection) : String :=
  let direction := selection.order.keyword
  match selection.sort with
  | .id => "archive.id " ++ direction
  | field => "archive." ++ field.name ++ " " ++ direction ++ ", archive.id " ++ direction

end Selection

end ComicCatalogue
