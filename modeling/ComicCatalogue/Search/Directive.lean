import ComicCatalogue.Taxonomy

/-!
# Search directives

A directive is one constraint of a search line, such as `tag:color`, `-artist&*:doe` or
`pages:>=20`: an optional hyphen, a field, optional modifiers, a colon and values.

    ["-"] field ["&" | "|"] ["*"] ":" [comparison] value ("," value)*
    field      = artist | circle | magazine | parody | tag | title | pages
    comparison = "<" | "<=" | ">" | ">="            (of pages only)
    value      = '"' phrase '"' | token

`readDirective?` reads a directive at the front of a text. A text that begins with the head of a
directive, up to the colon, but goes on without a usable value is a malformed directive: its
characters are taken all the same.
-/

namespace ComicCatalogue

/-- How a count of pages is compared with the count of a directive. -/
inductive Comparison where
  | equal
  | greater
  | atLeast
  | less
  | atMost
  deriving DecidableEq, Repr

namespace Comparison

/-- Every comparison. Of several constraints on pages the first in this order counts. -/
def all : List Comparison :=
  [equal, greater, atLeast, less, atMost]

/-- The sign of a comparison. -/
def symbol : Comparison → String
  | equal => "="
  | greater => ">"
  | atLeast => ">="
  | less => "<"
  | atMost => "<="

/-- The word for a comparison. -/
def word : Comparison → String
  | equal => "eq"
  | greater => "gt"
  | atLeast => "gte"
  | less => "lt"
  | atMost => "lte"

/-- Whether a count satisfies the comparison with a bound. -/
def holds : Comparison → Int → Int → Bool
  | equal, count, bound => count == bound
  | greater, count, bound => bound < count
  | atLeast, count, bound => bound ≤ count
  | less, count, bound => count < bound
  | atMost, count, bound => count ≤ bound

end Comparison

/-- How the values of one taxonomy constraint combine. -/
inductive Mode where
  /-- One of the values is enough. -/
  | anyOf
  /-- Every value has to match. -/
  | allOf
  /-- No value may match. -/
  | noneOf
  deriving DecidableEq, Repr

/-- A kind of taxonomy constraint: how its values combine, and whether a value may be any part of a
slug instead of the whole. -/
structure Slot where
  mode : Mode
  wildcard : Bool
  deriving DecidableEq, Repr

/-- A constraint of a search line. -/
inductive Directive where
  /-- Constrains the entries of a taxonomy by the values, which are neither blank nor surrounded by
  white space. -/
  | taxonomy (taxonomy : Taxonomy) (slot : Slot) (values : List String)
  /-- Constrains the title by the values taken together. -/
  | title (wildcard : Bool) (values : List String)
  /-- Constrains the number of pages. -/
  | pages (comparison : Comparison) (count : Nat)
  deriving DecidableEq, Repr

namespace Search

open Unicode (isWhitespace)

/-- What a directive can constrain. -/
inductive Field where
  | taxonomy (taxonomy : Taxonomy)
  | title
  | pages
  deriving DecidableEq, Repr

/-- The field of that name, in any case. -/
def Field.ofName? (name : String) : Option Field :=
  if Text.equalIgnoringCase name "title" then some .title
  else if Text.equalIgnoringCase name "pages" then some .pages
  else (Taxonomy.ofName? name).map .taxonomy

/-- The head of a directive: everything before the colon. -/
structure Head where
  negated : Bool
  field : Field
  conjunctive : Bool
  wildcard : Bool
  deriving DecidableEq, Repr

/-- Takes a character off the front of a text, if the text begins with it. -/
def skipChar (c : Char) : List Char → Bool × List Char
  | [] => (false, [])
  | d :: rest => if d = c then (true, rest) else (false, d :: rest)

/-- Takes the sign that says how values combine off the front of a text. Only the ampersand asks
for every value. -/
def readCombinator : List Char → Bool × List Char
  | '&' :: rest => (true, rest)
  | '|' :: rest => (false, rest)
  | text => (false, text)

/-- The head of a directive at the front of a text, and the text behind its colon. -/
def readHead? (text : List Char) : Option (Head × List Char) :=
  let (negated, rest) := skipChar '-' text
  match Field.ofName? (String.ofList (rest.takeWhile Char.isAlpha)) with
  | none => none
  | some field =>
    let (conjunctive, rest) := readCombinator (rest.dropWhile Char.isAlpha)
    let (wildcard, rest) := skipChar '*' rest
    match rest with
    | ':' :: rest => some (⟨negated, field, conjunctive, wildcard⟩, rest)
    | _ => none

/-- The comparison at the front of a text; none means equality. -/
def readComparison : List Char → Comparison × List Char
  | '<' :: '=' :: rest => (.atMost, rest)
  | '>' :: '=' :: rest => (.atLeast, rest)
  | '<' :: rest => (.less, rest)
  | '>' :: rest => (.greater, rest)
  | text => (.equal, text)

/-- Whether a character belongs to a value without quotes. -/
def isTokenChar (c : Char) : Bool :=
  !isWhitespace c && c != ','

/-- The value at the front of a text, and the rest. A value in quotes runs to the closing quote,
and to the next white space if there is none. -/
def readValue (text : List Char) : List Char × List Char :=
  match text with
  | '"' :: quoted =>
    match quoted.dropWhile (· != '"') with
    | _ :: rest => (quoted.takeWhile (· != '"'), rest)
    | [] => (quoted.takeWhile (!isWhitespace ·), quoted.dropWhile (!isWhitespace ·))
  | _ => (text.takeWhile isTokenChar, text.dropWhile isTokenChar)

theorem length_dropWhile_le {α : Type} (p : α → Bool) (xs : List α) :
    (xs.dropWhile p).length ≤ xs.length :=
  (List.dropWhile_sublist p).length_le

theorem length_readValue_le (text : List Char) : (readValue text).2.length ≤ text.length := by
  unfold readValue
  split
  · rename_i quoted
    split
    · rename_i rest same
      have := length_dropWhile_le (· != '"') quoted
      rw [same] at this
      simp only [List.length_cons] at this ⊢
      omega
    · have := length_dropWhile_le (!isWhitespace ·) quoted
      simp only [List.length_cons]
      omega
  · exact length_dropWhile_le _ _

/-- The values at the front of a text, separated by commas, and the rest. Values are trimmed, and
blank ones are left out. -/
def readValues (text : List Char) : List String × List Char :=
  let value := Unicode.trim (readValue text).1
  let kept := if value.isEmpty then [] else [String.ofList value]
  match same : (readValue text).2 with
  | ',' :: rest =>
    have : rest.length < text.length := by
      have := length_readValue_le text
      rw [same] at this
      exact this
    let (values, rest) := readValues rest
    (kept ++ values, rest)
  | rest => (kept, rest)
termination_by text.length

/-- The count that a text writes in decimal digits, with a plus sign or without, if it fits in 32
bits. -/
def readCount? (text : String) : Option Nat :=
  let (_, digits) := skipChar '+' text.toList
  if digits.isEmpty ∨ !digits.all Char.isDigit then none
  else
    let count := digits.foldl (fun n c => 10 * n + (c.toNat - '0'.toNat)) 0
    if count < UInt32.size then some count else none

/-- The directive of a head and its values, if the values suit the head. A negated constraint
combines its values in one way only, and a count of pages is a single positive number. -/
def Head.directive? (head : Head) (comparison : Comparison) (values : List String) :
    Option Directive :=
  match head.field, values with
  | _, [] => none
  | .taxonomy taxonomy, values =>
    let mode := if head.negated then .noneOf else if head.conjunctive then .allOf else .anyOf
    some (.taxonomy taxonomy ⟨mode, head.wildcard⟩ values)
  | .title, values => some (.title head.wildcard values)
  | .pages, [value] =>
    match readCount? value with
    | some count => if 0 < count then some (.pages comparison count) else none
    | none => none
  | .pages, _ => none

/-- The directive at the front of a text, if the text begins with the head of one, and the text
behind it. A malformed directive has no content. -/
def readDirective? (text : List Char) : Option (Option Directive × List Char) :=
  match readHead? text with
  | none => none
  | some (head, rest) =>
    let (comparison, rest) :=
      if head.field = .pages then readComparison rest else (.equal, rest)
    let (values, rest) := readValues rest
    some (head.directive? comparison values, rest)

end Search

end ComicCatalogue
