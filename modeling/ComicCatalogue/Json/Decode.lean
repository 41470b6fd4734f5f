import ComicCatalogue.Json.Basic
import ComicCatalogue.Text.Quoted

/-!
# Records from JSON

Decoders turn JSON values into values of a given kind, or say why that is impossible. A record is
read from an object, by the names of its fields, or from an array, by their places; fields that it
does not know are ignored, and a field that it knows may stand there only once.
-/

namespace ComicCatalogue

/-- Why a JSON value cannot be read. -/
inductive DecodeError where
  /-- The value is of another kind than the expected one. -/
  | wrongType (found : Json) (expected : String)
  /-- The number is outside of the expected range. -/
  | outOfRange (found : Int) (expected : String)
  /-- A field that has no default is not there. -/
  | missingField (name : String)
  /-- A field of the record is there twice. -/
  | repeatedField (name : String)
  /-- An array has more items than the record has fields. -/
  | tooLong

namespace DecodeError

/-- What a value is called in messages. -/
def describe : Json → String
  | .null => "null"
  | .bool value => "boolean `" ++ toString value ++ "`"
  | .int value => "integer `" ++ toString value ++ "`"
  | .float value => "floating point `" ++ String.ofList value.text ++ "`"
  | .str value => "string " ++ Text.quoted value
  | .arr _ => "sequence"
  | .obj _ => "map"

/-- The message of an error. -/
def message : DecodeError → String
  | wrongType found expected => "invalid type: " ++ describe found ++ ", expected " ++ expected
  | outOfRange found expected =>
    "invalid value: integer `" ++ toString found ++ "`, expected " ++ expected
  | missingField name => "missing field `" ++ name ++ "`"
  | repeatedField name => "duplicate field `" ++ name ++ "`"
  | tooLong => "invalid length"

end DecodeError

namespace Json

/-- Reads values of one kind. -/
abbrev Decoder (α : Type) := Json → Except DecodeError α

namespace Decoder

/-- Reads a text. -/
def text : Decoder String
  | .str value => .ok value
  | other => .error (.wrongType other "a string")

/-- Reads a whole number from a range, which messages call by a name. -/
def whole (low high : Int) (name : String) : Decoder Int
  | .int n => if low ≤ n ∧ n ≤ high then .ok n else .error (.outOfRange n name)
  | other => .error (.wrongType other name)

/-- Reads a signed number of 64 bits. -/
def int64 : Decoder Int :=
  whole (-0x8000000000000000) 0x7FFFFFFFFFFFFFFF "i64"

/-- Reads an unsigned number of 32 bits. -/
def nat32 : Decoder Nat := fun value =>
  (whole 0 0xFFFFFFFF "u32" value).map Int.toNat

/-- Reads an unsigned number of 64 bits. -/
def nat64 : Decoder Nat := fun value =>
  (whole 0 0xFFFFFFFFFFFFFFFF "u64" value).map Int.toNat

/-- Reads an array of values of one kind. -/
def list {α : Type} (item : Decoder α) : Decoder (List α)
  | .arr items => items.mapM item
  | other => .error (.wrongType other "a sequence")

/-- Reads a value or null. -/
def nullable {α : Type} (value : Decoder α) : Decoder (Option α)
  | .null => .ok none
  | other => (value other).map some

end Decoder

/-- The fields of a record under their names. -/
abbrev Fields := List (String × Json)

/-- What becomes of an array with more items than the record that is read from it has fields. -/
inductive Surplus where
  /-- It is no such record. -/
  | refused
  /-- The items at the end are ignored. -/
  | ignored
  deriving DecidableEq, Repr

/-- The first of the given names that a field has for the second time, or that was seen before. -/
def repeated? (names seen : List String) : Fields → Option String
  | [] => none
  | (name, _) :: fields =>
    if name ∈ seen then some name
    else repeated? names (if name ∈ names then name :: seen else seen) fields

/-- The fields of a record with the given names. -/
def fieldsWith (surplus : Surplus) (names : List String) : Decoder Fields
  | .obj fields =>
    match repeated? names [] fields with
    | some name => .error (.repeatedField name)
    | none => .ok fields
  | .arr items =>
    if surplus = .refused ∧ names.length < items.length then .error .tooLong
    else .ok (names.zip items)
  | other => .error (.wrongType other "a record")

/-- The fields of a record with the given names, and no items more. -/
def fields (names : List String) : Decoder Fields :=
  fieldsWith .refused names

namespace Fields

variable {α : Type}

/-- Reads a field, if it is there. -/
def optional (name : String) (decoder : Decoder α) (fields : Fields) :
    Except DecodeError (Option α) :=
  match fields.lookup name with
  | none => .ok none
  | some value => (decoder value).map some

/-- Reads a field that has to be there. -/
def required (name : String) (decoder : Decoder α) (fields : Fields) : Except DecodeError α := do
  match ← fields.optional name decoder with
  | none => .error (.missingField name)
  | some value => .ok value

/-- Reads a field that stands for a given value if it is not there. -/
def withDefault (name : String) (decoder : Decoder α) (value : α) (fields : Fields) :
    Except DecodeError α := do
  return (← fields.optional name decoder).getD value

/-- Reads a field that may be missing or null. -/
def nullable (name : String) (decoder : Decoder α) (fields : Fields) :
    Except DecodeError (Option α) :=
  fields.withDefault name decoder.nullable none

/-- Reads a list field; a missing one is empty. -/
def list (name : String) (decoder : Decoder α) (fields : Fields) : Except DecodeError (List α) :=
  fields.withDefault name decoder.list []

end Fields

end Json

end ComicCatalogue
