import ComicCatalogue.Ascending
import ComicCatalogue.Decimal.Basic

/-!
# JSON values

A JSON value keeps whole numbers apart from decimals, and the fields of an object in the order in
which they are written. `sorted` puts the fields of every object in ascending order.
-/

namespace ComicCatalogue

/-- A JSON value. -/
inductive Json where
  | null
  | bool (value : Bool)
  | int (value : Int)
  | float (value : Decimal)
  | str (value : String)
  | arr (items : List Json)
  | obj (fields : List (String × Json))
  deriving Repr

namespace Json

mutual

/-- The value with the fields of all its objects ascending by name. Of several fields of one name
the last is kept. -/
def sorted : Json → Json
  | arr items => arr (sortedItems items)
  | obj fields => obj (Ascending.ofPairs (sortedFields fields))
  | other => other

/-- The items of an array, each sorted within. -/
def sortedItems : List Json → List Json
  | [] => []
  | item :: items => sorted item :: sortedItems items

/-- The fields of an object in their order, each value sorted within. -/
def sortedFields : List (String × Json) → List (String × Json)
  | [] => []
  | (name, value) :: fields => (name, sorted value) :: sortedFields fields

end

/-- A text or null. -/
def ofText? (text : Option String) : Json :=
  text.elim null str

/-- A number or null. -/
def ofInt? (n : Option Int) : Json :=
  n.elim null int

/-- A field that is written only if it has a value. -/
def field? (name : String) (value : Option Json) : List (String × Json) :=
  value.elim [] fun value => [(name, value)]

/-- A list field that is written only if it has members. -/
def listField {α : Type} (name : String) (toJson : α → Json) (values : List α) :
    List (String × Json) :=
  if values.isEmpty then [] else [(name, arr (values.map toJson))]

end Json

end ComicCatalogue
