import ComicCatalogue.Text
import ComicCatalogue.Toml.Number
import ComicCatalogue.Toml.Text

/-!
# Settings in the environment

A variable whose name starts with `CATALOG_` sets a field. The rest of its name is the path to the
field, with two underscores or a dot between the parts. Its value is a truth value, a number, a
text in quotes, a list in brackets or an object in braces; any other value is a text.
-/

namespace ComicCatalogue.Environment

open Toml (Reader)

/-- White space around values. -/
def isSpace (c : Char) : Bool :=
  c = ' ' || c = '\t' || c = '\n' || c = '\x0c' || c = '\r'

/-- The text from its first character on that is not white space. -/
def skipSpace (text : List Char) : List Char :=
  text.dropWhile isSpace

/-- Whether a character belongs to a plain word: it neither separates values nor encloses them. -/
def isPlain (c : Char) : Bool :=
  c != ',' && c != '[' && c != ']' && c != '\x7b' && c != '\x7d'

/-- A decimal with a point. Decimals beyond the range of binary fractions are null. -/
def decimal? (text : List Char) : Option Json := do
  let (negative, text) := Toml.skipSign text
  let (whole, text) := Json.takeDigits text
  let '.' :: text := text | none
  let (fraction, text) := Json.takeDigits text
  let (exponent, text) ← Json.readExponent text
  if (whole.isEmpty ∧ fraction.isEmpty) ∨ !text.isEmpty then none
  else
    let digits := Json.digitsValue (whole ++ fraction)
    some <| match Decimal.nearest? negative digits (exponent.getD 0 - fraction.length) with
      | some value => .float value
      | none => .null

/-- A whole number of 64 bits, with a sign or without. -/
def whole? (text : List Char) : Option Json :=
  let (negative, digits) := Toml.skipSign text
  let size := Json.digitsValue digits
  if digits.isEmpty ∨ !digits.all Char.isDigit then none
  else if negative then
    if size ≤ 0x8000000000000000 then some (.int (-(size : Int))) else none
  else if size < UInt64.size then some (.int size)
  else none

/-- The value of a plain word: a number, or else a text. -/
def ofWord (word : List Char) : Json :=
  ((decimal? word).orElse fun _ => whole? word).getD (.str (String.ofList word))

/-- The characters at the front of a text that fit into a number of bytes. -/
def fitting : Nat → List Char → List Char
  | _, [] => []
  | room, c :: rest => if c.utf8Size ≤ room then c :: fitting (room - c.utf8Size) rest else []

/-- A text behind its opening quote, and what stands behind the closing one. An escape is like one
of TOML; where the first one stands, the text before it is cut to as many bytes as it has
characters, so it stays whole only if it is ASCII. -/
def readQuoted : Reader String := fun text =>
  let isDirect (c : Char) : Bool := c != '"' && c != '\\'
  let direct := text.takeWhile isDirect
  (Toml.readBasic (text.length + 1) text).map fun (chars, rest) =>
    if (text.dropWhile isDirect).head? = some '\\' then
      (String.ofList (fitting direct.length direct ++ chars.drop direct.length), rest)
    else (String.ofList chars, rest)

/-- A word at the front of a text, and the rest. -/
def readWord : Reader Json := fun text =>
  match text with
  | 't' :: 'r' :: 'u' :: 'e' :: rest => some (.bool true, rest)
  | 'f' :: 'a' :: 'l' :: 's' :: 'e' :: rest => some (.bool false, rest)
  | '"' :: rest => (readQuoted rest).map fun (chars, rest) => (.str chars, rest)
  | '\'' :: c :: '\'' :: rest => some (.str (String.ofList [c]), rest)
  | '\'' :: _ => none
  | _ => some (ofWord (Unicode.trim (text.takeWhile isPlain)), text.dropWhile isPlain)

/-- The name of a field, a word or a text in quotes, and the rest. -/
def readName : Reader String := fun text =>
  match text with
  | '"' :: rest => readQuoted rest
  | _ =>
    match text.takeWhile Toml.isKeyChar with
    | [] => none
    | name => some (String.ofList name, text.dropWhile Toml.isKeyChar)

/-- A field of an object. -/
def readField (value : Reader Json) : Reader (String × Json) := fun text => do
  let (name, rest) ← readName (skipSpace text)
  let '=' :: rest := skipSpace rest | none
  let (value, rest) ← value (skipSpace rest)
  some ((name, value), skipSpace rest)

/-- The members of a list behind its opening bracket, with commas between them and perhaps one
behind the last. -/
def readMembers {α : Type} (close : Char) (member : Reader α) : Nat → Reader (List α)
  | 0, _ => none
  | fuel + 1, text =>
    if text.head? = some close then some ([], text.tail)
    else do
      let (value, rest) ← member text
      match rest with
      | ',' :: rest =>
        (readMembers close member fuel rest).map fun (values, rest) => (value :: values, rest)
      | c :: rest => if c = close then some ([value], rest) else none
      | [] => none

/-- A value that holds values to the given depth at most, with the white space around it. -/
def readValue : Nat → Reader Json
  | 0, _ => none
  | depth + 1, text => do
    let (value, rest) ←
      match skipSpace text with
      | '[' :: rest =>
        (readMembers ']' (readValue depth) (rest.length + 1) rest).map fun (items, rest) =>
          (Json.arr items, rest)
      | '\x7b' :: rest =>
        (readMembers '\x7d' (readField (readValue depth)) (rest.length + 1) rest).map
          fun (fields, rest) => (Json.obj fields, rest)
      | word => readWord word
    some (value, skipSpace rest)

/-- The value that a text stands for. A text that is not well-formed stands for itself. -/
def value (text : String) : Json :=
  match readValue (text.toList.length + 1) text.toList with
  | some (value, []) => value
  | _ => .str text

/-- The start of the names of variables that are settings. -/
def nameStart : String := "catalog_"

/-- The name of the variable, behind the start of all names, that says where the settings file
is. -/
def fileName : String := "config_file"

/-- The parts of a path, with two underscores or a dot between them. -/
def parts : List Char → List (List Char)
  | [] => [[]]
  | '_' :: '_' :: rest => [] :: parts rest
  | '.' :: rest => [] :: parts rest
  | c :: rest =>
    match parts rest with
    | [] => [[c]]
    | part :: others => (c :: part) :: others

/-- The path to the field that a variable sets, if it sets one. -/
def path? (name : String) : Option (List String) :=
  let chars := (Text.trim name).toList
  let start := chars.take nameStart.length
  let rest := String.ofList (chars.drop nameStart.length)
  if !Text.equalIgnoringCase (String.ofList start) nameStart ∨
      Text.equalIgnoringCase rest fileName then none
  else
    let path := parts (Text.trim (Text.lowercase rest)).toList
    if path.any List.isEmpty then none else some (path.map String.ofList)

/-- The settings of one variable. -/
def layer? (name text : String) : Option Json :=
  (path? name).map fun path =>
    path.foldr (fun part inner => .obj [(part, inner)]) (value text)

/-- The settings of each variable with its value, in the order of the names. -/
def layers (environment : List (String × String)) : List Json :=
  (Ascending.ofPairs environment).filterMap fun (name, text) => layer? name text

end ComicCatalogue.Environment
