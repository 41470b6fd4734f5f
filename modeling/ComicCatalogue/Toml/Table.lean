import ComicCatalogue.Json.Basic

/-!
# Tables while they are read

A table comes about by its own header, by a header further down, or by a key with dots, and is open
to more entries accordingly: each table has one header and each key one value.
-/

namespace ComicCatalogue.Toml

/-- How a table came about. -/
inductive Origin where
  /-- By its header, or as a whole. -/
  | header
  /-- By the header of a table within it. -/
  | implied
  /-- By a key with dots. -/
  | dotted
  deriving DecidableEq, Repr

/-- What stands under a key. -/
inductive Item where
  /-- A value, to which nothing can be added. -/
  | leaf (value : Json)
  /-- A table. -/
  | table (origin : Origin) (entries : List (String × Item))
  /-- An array of tables, the last of which is open. -/
  | tables (elements : List (List (String × Item)))

/-- The entries of a table, in their order. -/
abbrev Entries := List (String × Item)

namespace Item

mutual

/-- What was read, as a JSON value. -/
def toJson : Item → Json
  | leaf value => value
  | table _ entries => .obj (fields entries)
  | tables elements => .arr (objects elements)

/-- The entries of a table as fields. -/
def fields : List (String × Item) → List (String × Json)
  | [] => []
  | (key, item) :: entries => (key, toJson item) :: fields entries

/-- The tables of an array as objects. -/
def objects : List (List (String × Item)) → List Json
  | [] => []
  | entries :: elements => .obj (fields entries) :: objects elements

end

end Item

namespace Entries

/-- Puts an item in the place of the one under its key, or at the end. -/
def set (key : String) (item : Item) : Entries → Entries
  | [] => [(key, item)]
  | (other, old) :: entries =>
    if other = key then (key, item) :: entries else (other, old) :: set key item entries

/-- A change of a table that may be refused. -/
abbrev Change := Origin → Entries → Option (Origin × Entries)

/-- Changes the table at a path below a table. A table on the way that is not there yet is made. A
key with dots does not lead into a table that has a header of its own. -/
def below (dotted : Bool) (change : Change) : List String → Change
  | [], origin, entries => change origin entries
  | key :: path, origin, entries => do
    let item ←
      match entries.lookup key with
      | none => do
        let (made, inner) ← below dotted change path (if dotted then .dotted else .implied) []
        some (Item.table made inner)
      | some (.leaf _) => none
      | some (.table made inner) =>
        if dotted ∧ made = .header then none
        else do
          let (made, inner) ← below dotted change path made inner
          some (Item.table made inner)
      | some (.tables elements) => do
        let (_, last) ← below dotted change path .header (← elements.getLast?)
        some (Item.tables (elements.dropLast ++ [last]))
    some (origin, set key item entries)

/-- Gives a key its value. The key must be new, and the table must have come about by the dots in
front of the key, if there are any. -/
def assign (path : List String) (key : String) (value : Json) : Change :=
  below true (fun origin entries =>
    if (origin = .dotted ↔ path.isEmpty) ∨ (entries.lookup key).isSome then none
    else some (origin, entries ++ [(key, .leaf value)])) path

/-- Gives a table its header. -/
def open? (path : List String) (key : String) : Change :=
  below false (fun origin entries =>
    match entries.lookup key with
    | none => some (origin, entries ++ [(key, .table .header [])])
    | some (.table .implied inner) => some (origin, set key (.table .header inner) entries)
    | some _ => none) path

/-- Adds a table to an array of tables. -/
def append? (path : List String) (key : String) : Change :=
  below false (fun origin entries =>
    match entries.lookup key with
    | none => some (origin, entries ++ [(key, .tables [[]])])
    | some (.tables elements) => some (origin, set key (.tables (elements ++ [[]])) entries)
    | some _ => none) path

end Entries

end ComicCatalogue.Toml
