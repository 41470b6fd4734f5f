import ComicCatalogue.Json.Reader

/-!
# The words of TOML

White space, comments, texts in quotes, and keys. A text stands on one line between `"` or `'`, or
on several lines between three of them; only between `"` does a backslash escape. A key is a bare
word or stands in quotes, and has dots between its parts.
-/

namespace ComicCatalogue.Toml

/-- Reads something off the front of a text. -/
abbrev Reader (α : Type) := List Char → Option (α × List Char)

/-- White space within a line. -/
def isBlank (c : Char) : Bool :=
  c = ' ' ∨ c = '\t'

/-- The text from its first character on that is not white space of the line. -/
def skipBlank (text : List Char) : List Char :=
  text.dropWhile isBlank

/-- Whether a character may stand in a comment or between quotes: no control but the tab. -/
def isPrintable (c : Char) : Bool :=
  c = '\t' ∨ (0x20 ≤ c.toNat ∧ c.toNat ≠ 0x7F)

/-- Takes a line break off the front of a text. -/
def skipNewline? : List Char → Option (List Char)
  | '\n' :: rest => some rest
  | '\r' :: '\n' :: rest => some rest
  | _ => none

/-- Takes a comment off the front of a text, if there is one: up to the end of the line. -/
def skipComment (text : List Char) : List Char :=
  match text with
  | '#' :: rest => rest.dropWhile isPrintable
  | _ => text

/-- Takes white space, comments and line breaks off the front of a text, as many lines as given at
most. -/
def skipLines : Nat → List Char → List Char
  | 0, text => text
  | fuel + 1, text =>
    let rest := skipComment (skipBlank text)
    match skipNewline? rest with
    | some rest => skipLines fuel rest
    | none => rest

/-- Takes what may stand behind a value off the front of a text, up to the end of the line. -/
def endLine? (text : List Char) : Option (List Char) :=
  let rest := skipComment (skipBlank text)
  if rest.isEmpty then some [] else skipNewline? rest

/-- The character of a code point, if there is one. -/
def scalar? (n : Nat) : Option Char :=
  if n < 0xD800 ∨ (0xE000 ≤ n ∧ n < 0x110000) then some (Char.ofNat n) else none

/-- The character that stands behind a backslash at the front of a text, and the rest. -/
def readEscape : List Char → Option (Char × List Char)
  | 'u' :: a :: b :: c :: d :: rest => do
    some (← scalar? (← Json.hexNumber? [a, b, c, d]), rest)
  | 'U' :: a :: b :: c :: d :: e :: f :: g :: h :: rest => do
    some (← scalar? (← Json.hexNumber? [a, b, c, d, e, f, g, h]), rest)
  | letter :: rest =>
    if letter = '/' then none
    else (Json.escapeLetter? letter).map fun n => (Char.ofNat n, rest)
  | [] => none

/-- What stands between quotes on one line, behind the opening quote, and the rest. -/
def readBasic : Nat → List Char → Option (List Char × List Char)
  | 0, _ => none
  | _, [] => none
  | _, '"' :: rest => some ([], rest)
  | fuel + 1, '\\' :: rest => do
    let (c, rest) ← readEscape rest
    let (chars, rest) ← readBasic fuel rest
    some (c :: chars, rest)
  | fuel + 1, c :: rest =>
    if isPrintable c then (readBasic fuel rest).map fun (chars, rest) => (c :: chars, rest)
    else none

/-- What stands between single quotes on one line, behind the opening quote, and the rest. -/
def readLiteral (text : List Char) : Option (List Char × List Char) :=
  let chars := text.takeWhile fun c => isPrintable c && c != '\''
  match text.dropWhile fun c => isPrintable c && c != '\'' with
  | '\'' :: rest => some (chars, rest)
  | _ => none

/-- Takes white space and line breaks off the front of a text. -/
def skipBreaks : List Char → List Char
  | '\r' :: '\n' :: rest => skipBreaks rest
  | c :: rest => if isBlank c || c = '\n' then skipBreaks rest else c :: rest
  | [] => []

/-- Takes what a backslash at the end of a line hides off the front of a text: the line break and
all white space and line breaks behind it. -/
def skipContinuation? (text : List Char) : Option (List Char) :=
  (skipNewline? (skipBlank text)).map skipBreaks

/-- The quotes that end a text over several lines: three of them, and before them up to two that
belong to the text. -/
def closing? (quote : Char) (text : List Char) : Option (List Char × List Char) :=
  let count := (text.takeWhile (· = quote)).length
  if 3 ≤ count ∧ count ≤ 5 then some (List.replicate (count - 3) quote, text.drop count)
  else none

/-- What stands between triple quotes, behind the opening ones, and the rest. -/
def readBasicLines : Nat → List Char → Option (List Char × List Char)
  | 0, _ => none
  | fuel + 1, text =>
    match closing? '"' text with
    | some result => some result
    | none =>
      match text with
      | [] => none
      | '\\' :: rest =>
        match skipContinuation? rest with
        | some rest => readBasicLines fuel rest
        | none => do
          let (c, rest) ← readEscape rest
          let (chars, rest) ← readBasicLines fuel rest
          some (c :: chars, rest)
      | '"' :: rest =>
        if (text.takeWhile (· = '"')).length < 3 then
          (readBasicLines fuel rest).map fun (chars, rest) => ('"' :: chars, rest)
        else none
      | c :: rest =>
        match skipNewline? text with
        | some rest => (readBasicLines fuel rest).map fun (chars, rest) => ('\n' :: chars, rest)
        | none =>
          if isPrintable c then
            (readBasicLines fuel rest).map fun (chars, rest) => (c :: chars, rest)
          else none

/-- What stands between triple single quotes, behind the opening ones, and the rest. -/
def readLiteralLines : Nat → List Char → Option (List Char × List Char)
  | 0, _ => none
  | fuel + 1, text =>
    match closing? '\'' text with
    | some result => some result
    | none =>
      match text with
      | [] => none
      | '\'' :: rest =>
        if (text.takeWhile (· = '\'')).length < 3 then
          (readLiteralLines fuel rest).map fun (chars, rest) => ('\'' :: chars, rest)
        else none
      | c :: rest =>
        match skipNewline? text with
        | some rest => (readLiteralLines fuel rest).map fun (chars, rest) => ('\n' :: chars, rest)
        | none =>
          if isPrintable c then
            (readLiteralLines fuel rest).map fun (chars, rest) => (c :: chars, rest)
          else none

/-- Takes a line break right behind opening triple quotes off the front of a text. -/
def skipFirstNewline (text : List Char) : List Char :=
  (skipNewline? text).getD text

/-- A text in quotes of any kind at the front of a text, and the rest. -/
def readQuoted (text : List Char) : Option (String × List Char) :=
  let fuel := text.length + 1
  let result :=
    match text with
    | '"' :: '"' :: '"' :: rest => readBasicLines fuel (skipFirstNewline rest)
    | '\'' :: '\'' :: '\'' :: rest => readLiteralLines fuel (skipFirstNewline rest)
    | '"' :: rest => readBasic fuel rest
    | '\'' :: rest => readLiteral rest
    | _ => none
  result.map fun (chars, rest) => (String.ofList chars, rest)

/-- Whether a character may stand in a key without quotes. -/
def isKeyChar (c : Char) : Bool :=
  c.isAlphanum || c = '_' || c = '-'

/-- A key at the front of a text, and the rest. A key in quotes stands on one line. -/
def readSimpleKey (text : List Char) : Option (String × List Char) :=
  match text with
  | '"' :: rest =>
    (readBasic (text.length + 1) rest).map fun (chars, rest) => (String.ofList chars, rest)
  | '\'' :: rest => (readLiteral rest).map fun (chars, rest) => (String.ofList chars, rest)
  | _ =>
    match text.takeWhile isKeyChar with
    | [] => none
    | key => some (String.ofList key, text.dropWhile isKeyChar)

/-- Keys with dots between them at the front of a text, and the rest without white space at its
front. -/
def readKey : Nat → List Char → Option (List String × List Char)
  | 0, _ => none
  | fuel + 1, text => do
    let (key, rest) ← readSimpleKey (skipBlank text)
    match skipBlank rest with
    | '.' :: rest => (readKey fuel rest).map fun (keys, rest) => (key :: keys, rest)
    | rest => some ([key], rest)

/-- The number of parts that a key may have. -/
def maxKeyParts : Nat := 79

/-- A key at the front of a text, as its parts, and the rest without white space at its front. -/
def readPath (text : List Char) : Option (List String × List Char) :=
  readKey maxKeyParts text

end ComicCatalogue.Toml
