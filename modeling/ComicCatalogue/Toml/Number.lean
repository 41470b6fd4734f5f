import ComicCatalogue.Json.Reader

/-!
# Numbers and times in TOML

What stands between two separators is a whole number in base ten, sixteen, eight or two, a decimal,
or a date or time. As JSON values, infinities and the like are null, and dates and times are objects
that hold their text.
-/

namespace ComicCatalogue.Toml

/-- The digits of a number without the underscores between them. An underscore stands between two
digits. -/
def digits? (isDigit : Char → Bool) : List Char → Option (List Char)
  | [] => none
  | [c] => if isDigit c then some [c] else none
  | c :: '_' :: rest => if isDigit c then (digits? isDigit rest).map (c :: ·) else none
  | c :: rest => if isDigit c then (digits? isDigit rest).map (c :: ·) else none

/-- Takes a sign off the front of a text, and says whether it is a minus. -/
def skipSign : List Char → Bool × List Char
  | '-' :: rest => (true, rest)
  | '+' :: rest => (false, rest)
  | text => (false, text)

/-- A whole number of 64 bits. -/
def int64? (n : Int) : Option Json :=
  if -0x8000000000000000 ≤ n ∧ n < 0x8000000000000000 then some (.int n) else none

/-- The value of digits in a base. -/
def valueIn (base : Nat) (digits : List Char) : Option Nat :=
  digits.foldlM (fun n c => (Json.hexValue? c).bind fun digit =>
    if digit < base then some (base * n + digit) else none) 0

/-- The digits of a number in base ten, which does not start with an idle zero. -/
def decimalDigits? (text : List Char) : Option (List Char) :=
  match digits? Char.isDigit text with
  | some ['0'] => some ['0']
  | some ('0' :: _) => none
  | other => other

/-- A whole number. -/
def whole? : List Char → Option Json
  | '0' :: 'x' :: rest => based 16 rest
  | '0' :: 'o' :: rest => based 8 rest
  | '0' :: 'b' :: rest => based 2 rest
  | text => do
    let (negative, rest) := skipSign text
    let size : Int := Json.digitsValue (← decimalDigits? rest)
    int64? (if negative then -size else size)
where
  /-- A whole number in a base, without a sign. -/
  based (base : Nat) (text : List Char) : Option Json := do
    let digits ← digits? (fun c => (Json.hexValue? c).any (· < base)) text
    let size : Int := ← valueIn base digits
    int64? size

/-- A decimal with a fraction, an exponent or both. A positive one may not be too large. -/
def decimal? (text : List Char) : Option Json := do
  let (negative, rest) := skipSign text
  if rest = ['i', 'n', 'f'] ∨ rest = ['n', 'a', 'n'] then
    some .null
  else
    let isPower (c : Char) : Bool := c = 'e' ∨ c = 'E'
    let mantissa := rest.takeWhile (!isPower ·)
    let power := rest.dropWhile (!isPower ·)
    let whole ← decimalDigits? (mantissa.takeWhile (· != '.'))
    let fraction ←
      match mantissa.dropWhile (· != '.') with
      | [] => some []
      | _ :: behind => digits? Char.isDigit behind
    let exponent : Int ←
      match power with
      | [] => some 0
      | _ :: behind =>
        let (below, behind) := skipSign behind
        (digits? Char.isDigit behind).map fun digits =>
          let size : Int := Json.digitsValue digits
          if below then -size else size
    if fraction.isEmpty ∧ power.isEmpty then none
    else
      match Decimal.nearest? negative (Json.digitsValue (whole ++ fraction))
          (exponent - fraction.length) with
      | some value => some (.float value)
      | none => if negative then some .null else none

/-- The number that exactly so many digits at the front of a text stand for, if it is in a range,
and the rest. -/
def fixedDigits (count low high : Nat) (text : List Char) : Option (Nat × List Char) :=
  let digits := text.take count
  let n := Json.digitsValue digits
  if digits.length = count ∧ digits.all Char.isDigit ∧ low ≤ n ∧ n ≤ high then
    some (n, text.drop count)
  else none

/-- Takes a character off the front of a text. -/
def expect (c : Char) : List Char → Option (List Char)
  | [] => none
  | d :: rest => if c = d then some rest else none

/-- The number of days of a month. -/
def daysOf (year month : Nat) : Nat :=
  if month = 2 then
    if year % 4 = 0 ∧ (year % 100 ≠ 0 ∨ year % 400 = 0) then 29 else 28
  else if month = 4 ∨ month = 6 ∨ month = 9 ∨ month = 11 then 30
  else 31

/-- Takes a date off the front of a text. -/
def skipDate (text : List Char) : Option (List Char) := do
  let (year, rest) ← fixedDigits 4 0 9999 text
  let (month, rest) ← fixedDigits 2 1 12 (← expect '-' rest)
  let (_, rest) ← fixedDigits 2 1 (daysOf year month) (← expect '-' rest)
  some rest

/-- Takes a time of day off the front of a text. -/
def skipTime (text : List Char) : Option (List Char) := do
  let (_, rest) ← fixedDigits 2 0 23 text
  let (_, rest) ← fixedDigits 2 0 59 (← expect ':' rest)
  let (_, rest) ← fixedDigits 2 0 60 (← expect ':' rest)
  match rest with
  | '.' :: behind =>
    let (digits, rest) := Json.takeDigits behind
    if digits.isEmpty then none else some rest
  | _ => some rest

/-- Whether a text is an offset from universal time, or none. -/
def isOffset (text : List Char) : Bool :=
  match text with
  | [] => true
  | ['Z'] => true
  | ['z'] => true
  | sign :: rest =>
    if sign = '+' ∨ sign = '-' then
      ((fixedDigits 2 0 23 rest).bind fun (_, rest) =>
        (expect ':' rest).bind fun rest =>
          (fixedDigits 2 0 59 rest).map fun (_, rest) => rest.isEmpty).getD false
    else false

/-- Whether a text is a date, a time, or both with an offset or without. -/
def isMoment (text : List Char) : Bool :=
  match skipDate text with
  | some [] => true
  | some (separator :: rest) =>
    (separator = 'T' ∨ separator = 't' ∨ separator = ' ') ∧ (skipTime rest).any isOffset
  | none => (skipTime text).any List.isEmpty

/-- What stands between two separators. -/
def number? (text : List Char) : Option Json :=
  if isMoment text then some (.obj [("moment", .str (String.ofList text))])
  else (whole? text).orElse fun _ => decimal? text

end ComicCatalogue.Toml
