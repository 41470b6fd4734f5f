import ComicCatalogue.Json.Basic

/-!
# Writing JSON

`compact` writes a value without any white space, `pretty` with a line for each item and each field
and an indentation of two spaces a level. Both write the fields of an object in the order in which
it holds them.
-/

namespace ComicCatalogue.Json

/-- The lower-case hexadecimal digit of a number below sixteen. -/
def hexDigit (n : Nat) : Char :=
  Nat.digitChar n

/-- A character inside quotes. The quote, the backslash and control characters are escaped; every
other character stands for itself. -/
def escapeChar (c : Char) : List Char :=
  if c = '"' then ['\\', '"']
  else if c = '\\' then ['\\', '\\']
  else if c = '\n' then ['\\', 'n']
  else if c = '\r' then ['\\', 'r']
  else if c = '\t' then ['\\', 't']
  else if c.toNat = 0x08 then ['\\', 'b']
  else if c.toNat = 0x0C then ['\\', 'f']
  else if c.toNat < 0x20 then
    ['\\', 'u', '0', '0', hexDigit (c.toNat / 16), hexDigit (c.toNat % 16)]
  else [c]

/-- A text in quotes. -/
def quote (text : String) : List Char :=
  ['"'] ++ text.toList.flatMap escapeChar ++ ['"']

/-- The digits of a whole number, with a sign if it is negative. -/
def wholeNumber (n : Int) : List Char :=
  (if n < 0 then ['-'] else []) ++ Nat.toDigits 10 n.natAbs

/-- A value that holds no other values. -/
def scalar : Json → List Char
  | null => "null".toList
  | bool true => "true".toList
  | bool false => "false".toList
  | int n => wholeNumber n
  | float d => d.text
  | str text => quote text
  | arr _ => []
  | obj _ => []

mutual

/-- The characters of a value, without white space. -/
def compactChars : Json → List Char
  | arr items => ['['] ++ compactItems items ++ [']']
  | obj fields => ['\x7b'] ++ compactFields fields ++ ['\x7d']
  | other => scalar other

/-- The items of an array with commas between them. -/
def compactItems : List Json → List Char
  | [] => []
  | [item] => compactChars item
  | item :: items => compactChars item ++ [','] ++ compactItems items

/-- The fields of an object with commas between them. -/
def compactFields : List (String × Json) → List Char
  | [] => []
  | [(name, value)] => quote name ++ [':'] ++ compactChars value
  | (name, value) :: fields =>
    quote name ++ [':'] ++ compactChars value ++ [','] ++ compactFields fields

end

/-- The text of a value, without white space. -/
def compact (value : Json) : String :=
  String.ofList value.compactChars

/-- A line break and the indentation of a level. -/
def newline (level : Nat) : List Char :=
  '\n' :: List.replicate (2 * level) ' '

mutual

/-- The characters of a value that starts at the given level, one item or field a line. -/
def prettyChars (level : Nat) : Json → List Char
  | arr [] => ['[', ']']
  | arr items => ['['] ++ prettyItems (level + 1) items ++ newline level ++ [']']
  | obj [] => ['\x7b', '\x7d']
  | obj fields => ['\x7b'] ++ prettyFields (level + 1) fields ++ newline level ++ ['\x7d']
  | other => scalar other

/-- The items of an array, each on a line of its own. -/
def prettyItems (level : Nat) : List Json → List Char
  | [] => []
  | [item] => newline level ++ prettyChars level item
  | item :: items => newline level ++ prettyChars level item ++ [','] ++ prettyItems level items

/-- The fields of an object, each on a line of its own. -/
def prettyFields (level : Nat) : List (String × Json) → List Char
  | [] => []
  | [(name, value)] => newline level ++ quote name ++ [':', ' '] ++ prettyChars level value
  | (name, value) :: fields =>
    newline level ++ quote name ++ [':', ' '] ++ prettyChars level value ++ [','] ++
      prettyFields level fields

end

/-- The text of a value, one item or field a line. -/
def pretty (value : Json) : String :=
  String.ofList (value.prettyChars 0)

end ComicCatalogue.Json
