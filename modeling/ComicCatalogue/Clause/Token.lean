import ComicCatalogue.Search.Directive
import ComicCatalogue.Selection.Fragment

/-!
# Tokens of conditions

The database reads the text of a condition as a row of tokens: words, signs, values that are written
out, and question marks. Values that are given along with the text take the places of the question
marks, one after the other. What a given value looks like does not matter for what the text is read
as.

Only the part of the language is read that conditions are written in: words of meaning are in upper
case, and a text that is written out has no quotation mark in it.
-/

namespace ComicCatalogue

/-- A word of meaning. -/
inductive Keyword where
  | and
  | or
  | not
  | exist
  | select
  /-- The word in front of the table that is looked at. -/
  | source
  | join
  /-- The word in front of what links two tables. -/
  | link
  /-- The word in front of what is asked of rows. -/
  | filter
  | like
  | escape
  | is
  | null
  deriving DecidableEq, Repr

namespace Keyword

/-- The words of meaning as they are written. -/
def table : List (String × Keyword) :=
  [("AND", and), ("OR", or), ("NOT", not), ("EXISTS", exist), ("SELECT", select),
    ("FROM", source), ("JOIN", join), ("ON", link), ("WHERE", filter), ("LIKE", like),
    ("ESCAPE", escape), ("IS", is), ("NULL", null)]

end Keyword

/-- A token of a condition. -/
inductive Token where
  | keyword (keyword : Keyword)
  /-- The name of a table or of a column. -/
  | name (text : String)
  | value (value : Argument)
  /-- The place of a value. -/
  | parameter
  | opening
  | closing
  | dot
  /-- The sign between two texts that make up one. -/
  | concat
  | comparison (comparison : Comparison)
  deriving DecidableEq, Repr

namespace Token

/-- A word as a token: a word of meaning, a number, or a name. -/
def ofWord (letters : List Char) : Token :=
  let word := String.ofList letters
  match Keyword.table.lookup word with
  | some meaning => .keyword meaning
  | none =>
    if letters.all Char.isDigit then .value (.integer (Nat.ofDigitChars 10 letters 0))
    else .name word

/-- What has been read of a token that may go on. -/
inductive Pending where
  | nothing
  | word (letters : List Char)
  /-- A text that is written out, and what has been read of it. -/
  | text (letters : List Char)
  | bar
  | less
  | greater
  deriving DecidableEq, Repr

/-- Whether a character can be part of a word. -/
def isWordChar (c : Char) : Bool :=
  c.isAlphanum || c = '_'

/-- Reads a character with which a token begins: the tokens that it completes, and the one that may
go on. -/
def begin (c : Char) : Option (List Token × Pending) :=
  if isWordChar c then some ([], .word [c])
  else match c with
    | ' ' => some ([], .nothing)
    | '?' => some ([parameter], .nothing)
    | '(' => some ([opening], .nothing)
    | ')' => some ([closing], .nothing)
    | '.' => some ([dot], .nothing)
    | '=' => some ([comparison .equal], .nothing)
    | '\'' => some ([], .text [])
    | '|' => some ([], .bar)
    | '<' => some ([], .less)
    | '>' => some ([], .greater)
    | _ => none

namespace Pending

/-- The tokens of what has been read, where nothing follows it. -/
def finish : Pending → Option (List Token)
  | nothing => some []
  | word letters => some [ofWord letters]
  | _ => none

/-- Reads one character more. -/
def step (c : Char) : Pending → Option (List Token × Pending)
  | nothing => begin c
  | word letters =>
    if isWordChar c then some ([], word (letters ++ [c]))
    else (begin c).map fun (tokens, pending) => (ofWord letters :: tokens, pending)
  | text letters =>
    if c = '\'' then some ([value (.text (String.ofList letters))], nothing)
    else some ([], text (letters ++ [c]))
  | bar => if c = '|' then some ([concat], nothing) else none
  | less =>
    if c = '=' then some ([comparison .atMost], nothing)
    else (begin c).map fun (tokens, pending) => (comparison .less :: tokens, pending)
  | greater =>
    if c = '=' then some ([comparison .atLeast], nothing)
    else (begin c).map fun (tokens, pending) => (comparison .greater :: tokens, pending)

/-- Reads the rest of a text. -/
def read (pending : Pending) : List Char → Option (List Token)
  | [] => pending.finish
  | c :: rest =>
    (pending.step c).bind fun (tokens, pending) => (pending.read rest).map (tokens ++ ·)

end Pending

/-- The tokens of a text. -/
def ofText? (text : String) : Option (List Token) :=
  Pending.nothing.read text.toList

/-- Tokens with values in the places that are left for them, as many as there are places. -/
def bind : List Token → List Argument → Option (List Token)
  | [], arguments => if arguments.isEmpty then some [] else none
  | token :: tokens, arguments =>
    if token = parameter then
      arguments.head?.bind fun argument =>
        (bind tokens arguments.tail).map (value argument :: ·)
    else (bind tokens arguments).map (token :: ·)

end Token

/-- The tokens of a fragment, with its values in place. -/
def Fragment.tokens? (fragment : Fragment) : Option (List Token) := do
  Token.bind (← Token.ofText? fragment.condition) fragment.arguments

end ComicCatalogue
