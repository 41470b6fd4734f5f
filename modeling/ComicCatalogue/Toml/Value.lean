import ComicCatalogue.Toml.Number
import ComicCatalogue.Toml.Table
import ComicCatalogue.Toml.Text

/-!
# Values in TOML

A value is a text in quotes, a truth value, a number or time, an array, or an inline table. Values
are read as JSON values.
-/

namespace ComicCatalogue.Toml

/-- Whether a character may stand in a number or time, or in a truth value. -/
def isWordChar (c : Char) : Bool :=
  c.isAlphanum || c = '+' || c = '-' || c = '.' || c = '_' || c = ':'

/-- A truth value, number or time. A blank may stand between a date and a time. -/
def readWord : Reader Json := fun text =>
  let word := text.takeWhile isWordChar
  let rest := text.dropWhile isWordChar
  if word = "true".toList then some (.bool true, rest)
  else if word = "false".toList then some (.bool false, rest)
  else
    let long :=
      match rest with
      | ' ' :: behind => word ++ ' ' :: behind.takeWhile isWordChar
      | _ => word
    if word.length < long.length ∧ isMoment long then
      (number? long).map fun value => (value, text.drop long.length)
    else (number? word).map fun value => (value, rest)

/-- The values of an array, behind the opening bracket. Line breaks and comments may stand between
them, and a comma behind the last one. -/
def readItems (value : Reader Json) : Nat → Reader (List Json)
  | 0, _ => none
  | fuel + 1, text =>
    match skipLines text.length text with
    | ']' :: rest => some ([], rest)
    | start => do
      let (item, rest) ← value start
      match skipLines rest.length rest with
      | ',' :: rest => (readItems value fuel rest).map fun (items, rest) => (item :: items, rest)
      | ']' :: rest => some ([item], rest)
      | _ => none

/-- A key with its value. -/
def readEntry (value : Reader Json) : Reader (List String × Json) := fun text => do
  let (path, rest) ← readPath text
  match rest with
  | '=' :: rest =>
    let (item, rest) ← value (skipBlank rest)
    some ((path, item), rest)
  | _ => none

/-- The entries of an inline table, behind those that were read before. -/
def readEntries (value : Reader Json) : Nat → Entries → Reader Entries
  | 0, _, _ => none
  | fuel + 1, entries, text => do
    let ((path, item), rest) ← readEntry value text
    let (_, entries) ← Entries.assign path.dropLast (← path.getLast?) item .header entries
    match skipBlank rest with
    | ',' :: rest => readEntries value fuel entries rest
    | '\x7d' :: rest => some (entries, rest)
    | _ => none

/-- A value that holds values to the given depth at most. -/
def readValue : Nat → Reader Json
  | 0, text => readLeaf text
  | depth + 1, text =>
    match text with
    | '[' :: rest =>
      (readItems (readValue depth) (rest.length + 1) rest).map fun (items, rest) =>
        (.arr items, rest)
    | '\x7b' :: rest =>
      match skipBlank rest with
      | '\x7d' :: rest => some (.obj [], rest)
      | start =>
        (readEntries (readValue depth) (start.length + 1) [] start).map fun (entries, rest) =>
          (.obj (Item.fields entries), rest)
    | _ => readLeaf text
where
  /-- A value that holds no other values. -/
  readLeaf (text : List Char) : Option (Json × List Char) :=
    match text with
    | '"' :: _ => (readQuoted text).map fun (value, rest) => (.str value, rest)
    | '\'' :: _ => (readQuoted text).map fun (value, rest) => (.str value, rest)
    | _ => readWord text

/-- How deep values may hold values. -/
def maxDepth : Nat := 79

end ComicCatalogue.Toml
