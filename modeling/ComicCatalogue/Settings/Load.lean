import ComicCatalogue.Settings.Basic
import ComicCatalogue.Settings.Environment
import ComicCatalogue.Toml.Document

/-!
# Loading settings

Settings are layered: defaults at the bottom, then the settings file, then the environment. A layer
on top replaces what is below it field by field. Below the fields of the settings file itself, a
table may wrap a value: a field of a certain name holds the value that the whole table stands for.
-/

namespace ComicCatalogue

namespace Json

mutual

/-- A value with another one on top of it. Objects are joined field by field; any other value
replaces the one below. -/
def overlay : Json → Json → Json
  | obj below, obj above => obj (overlayFields below above)
  | _, above => above

/-- Fields with others on top of them. -/
def overlayFields (below : List (String × Json)) : List (String × Json) → List (String × Json)
  | [] => below
  | (name, value) :: above =>
    let value := (below.lookup name).elim value fun old => overlay old value
    overlayFields (Ascending.put name value below) above

end

/-- The field of a table that holds the value the table stands for. -/
def wrappedName : String := "___figment_value_value"

/-- The field of a table that would hold the number of a wrapped value. No value of a settings file
is accepted as one. -/
def numberName : String := "___figment_value_id"

/-- What a table with these fields stands for, if it is well-formed. -/
def ofTable? (fields : List (String × Json)) : Option Json :=
  if (fields.lookup numberName).isSome then none
  else some ((fields.lookup wrappedName).getD (obj fields))

mutual

/-- A value with all wrapped values in it taken out. -/
def unwrap? : Json → Option Json
  | arr items => (unwrapItems? items).map arr
  | obj fields => (unwrapFields? fields).bind ofTable?
  | value => some value

/-- Values with all wrapped values in them taken out. -/
def unwrapItems? : List Json → Option (List Json)
  | [] => some []
  | value :: rest => do
    let value ← unwrap? value
    let rest ← unwrapItems? rest
    some (value :: rest)

/-- Fields with all wrapped values in them taken out. -/
def unwrapFields? : List (String × Json) → Option (List (String × Json))
  | [] => some []
  | (name, value) :: rest => do
    let value ← unwrap? value
    let rest ← unwrapFields? rest
    some ((name, value) :: rest)

end

end Json

/-- Why settings cannot be loaded. -/
inductive LoadFault where
  /-- A layer is not well-formed, or a value is of the wrong kind. -/
  | unreadable
  /-- The settings make no sense. -/
  | invalid (fault : SettingsFault)
  deriving DecidableEq, Repr

namespace Settings

/-- The settings of the environment, where a variable is on top of those before it. -/
def ofEnvironment (environment : List (String × String)) : Json :=
  (Environment.layers environment).foldl (fun below above => below.overlay above.sorted) (.obj [])

/-- The settings of layers, from the bottom to the top, on top of the defaults. -/
def ofLayers (layers : List Json) : Except DecodeError Settings :=
  ofJson .ignored (layers.foldl (fun below above => below.overlay above.sorted)
    (toJson {}).sorted)

/-- Loads settings from the text of the settings file, if there is one, and the environment. -/
def load (file : Option String) (environment : List (String × String)) :
    Except LoadFault Settings := do
  let some fields := (Toml.parse? (file.getD "")).bind Json.unwrapFields? | throw .unreadable
  match ofLayers [.obj fields, ofEnvironment environment] with
  | .error _ => throw .unreadable
  | .ok settings =>
    match settings.check with
    | .error fault => throw (.invalid fault)
    | .ok () => return settings

end Settings

end ComicCatalogue
