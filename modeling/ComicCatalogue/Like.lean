/-!
# Text patterns

Patterns as databases match texts with: `%` stands for any run of characters, `_` for any single
character, and every other character for itself, in either case if it is one of the letters A to Z.
An escape character makes the character behind it stand for itself. A null character ends a pattern
and a text alike, and the two noncharacters at the end of the basic plane count as the replacement
character.
-/

namespace ComicCatalogue.Like

/-- A part of a pattern. -/
inductive Token where
  /-- Any run of characters. -/
  | anyRun
  /-- Any single character. -/
  | anyChar
  /-- This character, in either case if it is one of the letters A to Z. -/
  | char (c : Char)
  deriving DecidableEq, Repr

/-- What a character counts as. -/
def replaced (c : Char) : Char :=
  if c.toNat = 0xFFFE ∨ c.toNat = 0xFFFF then Char.ofNat 0xFFFD else c

/-- The characters that count: those up to the first null character. -/
def visible (text : List Char) : List Char :=
  (text.takeWhile (·.toNat != 0)).map replaced

/-- The parts of a pattern. A pattern that ends in an escape character has none. -/
def tokens (escape : Option Char) : List Char → Option (List Token)
  | [] => some []
  | c :: rest =>
    if escape = some c then
      match rest with
      | [] => none
      | d :: rest => (tokens escape rest).map (.char d :: ·)
    else if c = '%' then (tokens escape rest).map (.anyRun :: ·)
    else if c = '_' then (tokens escape rest).map (.anyChar :: ·)
    else (tokens escape rest).map (.char c :: ·)

/-- Whether two characters differ at most in case, as far as the letters A to Z go. -/
def sameLetter (c d : Char) : Bool :=
  c.toLower == d.toLower

/-- What is left of a text behind each of its beginnings, the whole text first. -/
def suffixes : List Char → List (List Char)
  | [] => [[]]
  | c :: rest => (c :: rest) :: suffixes rest

/-- Whether a text consists of texts that the parts stand for. -/
def matchesTokens : List Token → List Char → Bool
  | [], text => text.isEmpty
  | .anyRun :: tokens, text => (suffixes text).any (matchesTokens tokens ·)
  | .anyChar :: _, [] => false
  | .anyChar :: tokens, _ :: text => matchesTokens tokens text
  | .char _ :: _, [] => false
  | .char c :: tokens, d :: text => sameLetter c d && matchesTokens tokens text

/-- Whether a text matches a pattern. -/
def accepts (escape : Option Char) (pattern text : List Char) : Bool :=
  match tokens escape (visible pattern) with
  | none => false
  | some tokens => matchesTokens tokens (visible text)

/-- A text as a pattern for itself, with a backslash as the escape character. -/
def escape (text : List Char) : List Char :=
  text.flatMap fun c => if c = '%' ∨ c = '_' ∨ c = '\\' then ['\\', c] else [c]

/-- The pattern for texts that have a part which matches the given pattern. -/
def within (pattern : List Char) : List Char :=
  ['%'] ++ pattern ++ ['%']

/-- The largest pattern, in bytes, that is matched at all. -/
def maxPatternBytes : Nat := 50000

/-- The number of bytes of a pattern. -/
def patternBytes (pattern : List Char) : Nat :=
  pattern.foldl (fun size c => size + c.utf8Size) 0

end ComicCatalogue.Like
