import ComicCatalogue.Search.Reading

/-!
# Written search lines

The grammar of search lines as types: headings, values, directives and words as they are written,
each with its text and with what it means. What the grammar excludes cannot be built.

    line      = parts with white space between each two of them
    part      = word | directive
    directive = heading [comparison] value ("," value)*
    heading   = ["-"] field ["&" | "|"] ["*"] ":"
    value     = bare text | '"' phrase '"'

Values may be empty or blank, as long as one of them is not. Only a directive on pages has a
comparison, and a single number for its value.
-/

namespace ComicCatalogue

/-- Whether the values of a directive may be any part of what they constrain. -/
def Directive.isWildcard : Directive → Bool
  | .taxonomy _ slot _ => slot.wildcard
  | .title wildcard _ => wildcard
  | .pages _ _ => false

namespace Search

open Unicode (isWhitespace)

/-- The name of a field. -/
def Field.name : Field → String
  | .taxonomy which => which.name
  | .title => "title"
  | .pages => "pages"

/-- The sign that says how values combine. -/
inductive Sign where
  | missing
  | ampersand
  | bar
  deriving DecidableEq, Repr

/-- The sign as it is written. -/
def Sign.text : Sign → List Char
  | missing => []
  | ampersand => ['&']
  | bar => ['|']

/-- Everything before the values of a directive on a field, the colon included. -/
structure Heading (field : Field) where
  hyphen : Bool
  /-- The name of the field, in any case. -/
  name : List Char
  named : name.map Char.toLower = field.name.toList
  sign : Sign
  star : Bool

namespace Heading

variable {field : Field}

/-- The heading as it is written. -/
def text (heading : Heading field) : List Char :=
  (if heading.hyphen then ['-'] else []) ++ heading.name ++ heading.sign.text ++
    (if heading.star then ['*'] else []) ++ [':']

/-- How the values of a heading combine. A hyphen goes before a sign. -/
def mode (heading : Heading field) : Mode :=
  if heading.hyphen then .noneOf
  else
    match heading.sign with
    | .ampersand => .allOf
    | _ => .anyOf

end Heading

/-- A value as it is written. -/
inductive Value where
  /-- A text without white space and commas that does not start with a quote; it may be empty. -/
  | bare (text : List Char) (isToken : ∀ c ∈ text, isWhitespace c = false ∧ c ≠ ',')
    (unquoted : text.head? ≠ some '"')
  /-- A text without quotes. -/
  | phrase (text : List Char) (closed : '"' ∉ text)

namespace Value

/-- The value as it is written. -/
def text : Value → List Char
  | bare text _ _ => text
  | phrase text _ => ['"'] ++ text ++ ['"']

/-- The value without quotes. -/
def content : Value → List Char
  | bare text _ _ => text
  | phrase text _ => text

/-- Values as they are written. -/
def texts (values : List Value) : List Char :=
  [','].intercalate (values.map text)

/-- The values without white space at their ends, less the blank ones. -/
def contents (values : List Value) : List String :=
  ((values.map (Unicode.trim ·.content)).filter (· ≠ [])).map String.ofList

end Value

/-- A number of pages as it is written: a positive one of 32 bits, in decimal digits. -/
structure Count where
  plus : Bool
  digits : List Char
  nonempty : digits ≠ []
  areDigits : ∀ c ∈ digits, c.isDigit
  positive : 0 < Nat.ofDigitChars 10 digits 0
  fits : Nat.ofDigitChars 10 digits 0 < UInt32.size

namespace Count

/-- The number. -/
def number (count : Count) : Nat :=
  Nat.ofDigitChars 10 count.digits 0

/-- The number as it is written. -/
def text (count : Count) : List Char :=
  (if count.plus then ['+'] else []) ++ count.digits

end Count

/-- A comparison as it is written. Equality is not written. -/
def comparisonText : Comparison → List Char
  | .equal => []
  | .greater => ['>']
  | .atLeast => ['>', '=']
  | .less => ['<']
  | .atMost => ['<', '=']

/-- A directive as it is written. -/
inductive Written where
  | taxonomy (which : Taxonomy) (heading : Heading (.taxonomy which)) (values : List Value)
    (some : Value.contents values ≠ [])
  | title (heading : Heading .title) (values : List Value) (some : Value.contents values ≠ [])
  | pages (heading : Heading .pages) (comparison : Comparison) (values : List Value) (count : Count)
    (only : Value.contents values = [String.ofList count.text])

namespace Written

/-- The directive as it is written. -/
def text : Written → List Char
  | taxonomy _ heading values _ => heading.text ++ Value.texts values
  | title heading values _ => heading.text ++ Value.texts values
  | pages heading comparison values _ _ =>
    heading.text ++ comparisonText comparison ++ Value.texts values

/-- The star of the heading. -/
def star : Written → Bool
  | taxonomy _ heading _ _ => heading.star
  | title heading _ _ => heading.star
  | pages heading _ _ _ _ => heading.star

/-- What the directive says. -/
def directive : Written → Directive
  | .taxonomy which heading values _ =>
    .taxonomy which ⟨heading.mode, heading.star⟩ (Value.contents values)
  | .title heading values _ => .title heading.star (Value.contents values)
  | .pages _ comparison _ count _ => .pages comparison count.number

end Written

/-- A part of a search line as it is written. -/
inductive Part where
  /-- A word that does not begin like a directive. -/
  | word (text : List Char) (nonempty : text ≠ []) (unbroken : ∀ c ∈ text, isWhitespace c = false)
    (plain : ∀ field (heading : Heading field), ¬heading.text <+: text)
  | directive (written : Written)

namespace Part

/-- The part as it is written. -/
def text : Part → List Char
  | word text _ _ _ => text
  | directive written => written.text

/-- What a directive says. -/
def directive? : Part → Option Directive
  | word _ _ _ _ => none
  | directive written => some written.directive

/-- The star of a directive. -/
def star? : Part → Option Bool
  | word _ _ _ _ => none
  | directive written => some written.star

/-- The word. -/
def word? : Part → Option String
  | word text _ _ _ => some (String.ofList text)
  | directive _ => none

end Part

/-- Whether a part of a line can end where the text follows. -/
def IsBreak (rest : List Char) : Prop :=
  ∀ c ∈ rest.head?, isWhitespace c

/-- White space. -/
structure Gap where
  text : List Char
  nonempty : text ≠ []
  blank : ∀ c ∈ text, isWhitespace c

/-- A search line: parts with white space between each two of them, and perhaps around them. -/
structure Line where
  lead : Option Gap
  /-- The parts that white space follows. -/
  spaced : List (Part × Gap)
  /-- The part at the end of the line, if no white space is there. -/
  last : Option Part

namespace Line

/-- The line as it is written. -/
def text (line : Line) : List Char :=
  (line.lead.elim [] Gap.text) ++ line.spaced.flatMap (fun (part, gap) => part.text ++ gap.text) ++
    line.last.elim [] Part.text

/-- The parts in order. -/
def parts (line : Line) : List Part :=
  line.spaced.map (·.1) ++ line.last.toList

end Line

end Search

end ComicCatalogue
