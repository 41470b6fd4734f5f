import ComicCatalogue.Json.Printer
import ComicCatalogue.Decimal.Shortest

/-!
# Reading JSON

`parse?` reads a text that consists of one JSON value with white space around it. Numbers without
fraction and exponent are whole numbers as long as they fit in 64 bits, signed or unsigned. Every
other number is kept in binary: its first digits, as many as fit in 64 bits, are multiplied by a
power of ten or divided by one. Both the digits and the result are rounded, so the last bit of the
result may differ from that of the number itself.
-/

namespace ComicCatalogue.Json

/-- The white space between the parts of a value. -/
def isBlank (c : Char) : Bool :=
  c = ' ' ∨ c = '\t' ∨ c = '\n' ∨ c = '\r'

/-- The text from its first character on that is not white space. -/
def skipBlank (text : List Char) : List Char :=
  text.dropWhile isBlank

/-- The value of a hexadecimal digit in either case. -/
def hexValue? (c : Char) : Option Nat :=
  if '0' ≤ c ∧ c ≤ '9' then some (c.toNat - '0'.toNat)
  else if 'a' ≤ c ∧ c ≤ 'f' then some (c.toNat - 'a'.toNat + 10)
  else if 'A' ≤ c ∧ c ≤ 'F' then some (c.toNat - 'A'.toNat + 10)
  else none

/-- The number that hexadecimal digits stand for. -/
def hexNumber? (digits : List Char) : Option Nat :=
  digits.foldlM (fun n c => (hexValue? c).map (16 * n + ·)) 0

/-- The number that a letter behind a backslash stands for. -/
def escapeLetter? (c : Char) : Option Nat :=
  match c with
  | '"' => some 0x22
  | '\\' => some 0x5C
  | '/' => some 0x2F
  | 'b' => some 0x08
  | 'f' => some 0x0C
  | 'n' => some 0x0A
  | 'r' => some 0x0D
  | 't' => some 0x09
  | _ => none

/-- The numbers that stand between quotes, up to the closing quote, and the text behind it. A
character counts as its code point; an escape may also give half of a surrogate pair. -/
def readUnits : List Char → Option (List Nat × List Char)
  | [] => none
  | '"' :: rest => some ([], rest)
  | '\\' :: 'u' :: a :: b :: c :: d :: rest => do
    let unit ← hexNumber? [a, b, c, d]
    let (units, rest) ← readUnits rest
    some (unit :: units, rest)
  | '\\' :: letter :: rest => do
    let unit ← escapeLetter? letter
    let (units, rest) ← readUnits rest
    some (unit :: units, rest)
  | c :: rest =>
    if c.toNat < 0x20 ∨ c = '\\' then none
    else do
      let (units, rest) ← readUnits rest
      some (c.toNat :: units, rest)

/-- The characters of code points, where the two halves of a surrogate pair count as one and a
half on its own is no character. -/
def joinSurrogates : List Nat → Option (List Char)
  | [] => some []
  | high :: units =>
    if 0xD800 ≤ high ∧ high < 0xDC00 then
      match units with
      | low :: units =>
        if 0xDC00 ≤ low ∧ low < 0xE000 then
          (joinSurrogates units).map
            (Char.ofNat (0x10000 + (high - 0xD800) * 0x400 + (low - 0xDC00)) :: ·)
        else none
      | [] => none
    else if 0xDC00 ≤ high ∧ high < 0xE000 then none
    else (joinSurrogates units).map (Char.ofNat high :: ·)

/-- A text behind its opening quote, and what follows its closing quote. -/
def readText (text : List Char) : Option (String × List Char) := do
  let (units, rest) ← readUnits text
  let chars ← joinSurrogates units
  some (String.ofList chars, rest)

/-- The number that decimal digits stand for. -/
def digitsValue (digits : List Char) : Nat :=
  digits.foldl (fun n c => 10 * n + (c.toNat - '0'.toNat)) 0

/-- Splits off the digits at the front of a text. -/
def takeDigits (text : List Char) : List Char × List Char :=
  (text.takeWhile Char.isDigit, text.dropWhile Char.isDigit)

/-- A fraction behind a whole number, if there is one: its digits and the rest. -/
def readFraction (text : List Char) : Option (List Char × List Char) :=
  match text with
  | '.' :: rest =>
    match takeDigits rest with
    | ([], _) => none
    | (digits, rest) => some (digits, rest)
  | _ => some ([], text)

/-- An exponent behind a number, if there is one, and the rest. -/
def readExponent (text : List Char) : Option (Option Int × List Char) :=
  match text with
  | c :: rest =>
    if c = 'e' ∨ c = 'E' then
      let (negative, rest) :=
        match rest with
        | '-' :: rest => (true, rest)
        | '+' :: rest => (false, rest)
        | _ => (false, rest)
      match takeDigits rest with
      | ([], _) => none
      | (digits, rest) =>
        let size : Int := digitsValue digits
        some (some (if negative then -size else size), rest)
    else some (none, text)
  | [] => some (none, text)

/-- Appends digits to a number as long as it fits in 64 bits, and gives the digits left. -/
def fitDigits (n : Nat) : List Char → Nat × List Char
  | [] => (n, [])
  | c :: rest =>
    let more := 10 * n + (c.toNat - '0'.toNat)
    if more < UInt64.size then fitDigits more rest else (n, c :: rest)

/-- The decimal that `digits · 10 ^ exponent` is kept as, if it is in range. -/
def scaled? (negative : Bool) (digits : Nat) (exponent : Int) : Option Decimal :=
  let size := Binary.ofNat digits
  let result :=
    if 0 ≤ exponent then size.mulTens? exponent.toNat
    else some (size.divTens (-exponent).toNat)
  result.map (Decimal.ofBinary negative)

/-- A whole number in front of which there may be a minus. -/
def wholeOf? (negative : Bool) (digits : Nat) : Option Json :=
  if !negative then some (int digits)
  else if 0 < digits ∧ digits ≤ 0x8000000000000000 then some (int (-(digits : Int)))
  else (scaled? true digits 0).map float

/-- The number with the given digits before and behind the point and the given exponent. -/
def numberOf? (negative : Bool) (whole fraction : List Char) (exponent : Option Int) :
    Option Json :=
  let (digits, wholeLeft) := fitDigits 0 whole
  if wholeLeft.isEmpty ∧ fraction.isEmpty ∧ exponent.isNone then wholeOf? negative digits
  else
    let (digits, fractionLeft) := fitDigits digits fraction
    let places : Int := (fraction.length : Int) - fractionLeft.length
    (scaled? negative digits (exponent.getD 0 + wholeLeft.length - places)).map float

/-- A number at the front of a text, and the rest. -/
def readNumber (text : List Char) : Option (Json × List Char) := do
  let (negative, text) :=
    match text with
    | '-' :: rest => (true, rest)
    | _ => (false, text)
  let (whole, text) := takeDigits text
  if whole.isEmpty ∨ (whole.length ≠ 1 ∧ whole.head? = some '0') then none
  let (fraction, text) ← readFraction text
  let (exponent, text) ← readExponent text
  some (← numberOf? negative whole fraction exponent, text)

mutual

/-- A value at the front of a text, and the rest. The first argument bounds how deep the reading
may go. -/
def readValue : Nat → List Char → Option (Json × List Char)
  | 0, _ => none
  | fuel + 1, text =>
    match text with
    | '"' :: rest => (readText rest).map fun (text, rest) => (str text, rest)
    | '[' :: rest =>
      match skipBlank rest with
      | ']' :: rest => some (arr [], rest)
      | rest => (readItems fuel rest).map fun (items, rest) => (arr items, rest)
    | '\x7b' :: rest =>
      match skipBlank rest with
      | '\x7d' :: rest => some (obj [], rest)
      | rest => (readFields fuel rest).map fun (fields, rest) => (obj fields, rest)
    | 'n' :: 'u' :: 'l' :: 'l' :: rest => some (null, rest)
    | 't' :: 'r' :: 'u' :: 'e' :: rest => some (bool true, rest)
    | 'f' :: 'a' :: 'l' :: 's' :: 'e' :: rest => some (bool false, rest)
    | _ => readNumber text

/-- The items of an array from one item on, up to the closing bracket, and the rest. -/
def readItems : Nat → List Char → Option (List Json × List Char)
  | 0, _ => none
  | fuel + 1, text => do
    let (item, rest) ← readValue fuel text
    match skipBlank rest with
    | ']' :: rest => some ([item], rest)
    | ',' :: rest =>
      let (items, rest) ← readItems fuel (skipBlank rest)
      some (item :: items, rest)
    | _ => none

/-- The fields of an object from one field on, up to the closing brace, and the rest. -/
def readFields : Nat → List Char → Option (List (String × Json) × List Char)
  | 0, _ => none
  | fuel + 1, text => do
    let '"' :: rest := text | none
    let (name, rest) ← readText rest
    let ':' :: rest := skipBlank rest | none
    let (value, rest) ← readValue fuel (skipBlank rest)
    match skipBlank rest with
    | '\x7d' :: rest => some ([(name, value)], rest)
    | ',' :: rest =>
      let (fields, rest) ← readFields fuel (skipBlank rest)
      some ((name, value) :: fields, rest)
    | _ => none

end

/-- The value that a text consists of. Each part of a value takes at least one character, so the
length of the text bounds the depth of the reading. -/
def parse? (text : String) : Option Json := do
  let chars := skipBlank text.toList
  let (value, rest) ← readValue (2 * chars.length + 1) chars
  if (skipBlank rest).isEmpty then some value else none

/-- A value as it arrives when it is sent as text: written and read again. Only decimals can differ
from what was sent, and only in their last bit. -/
def resent (value : Json) : Json :=
  (parse? value.compact).getD value

end ComicCatalogue.Json
