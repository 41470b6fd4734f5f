import ComicCatalogue.Text
import ComicCatalogue.Unicode.Decomposition

/-!
# Slugs

A slug is the identifier that display texts are compared by. Folding a text into its slug ignores
case, accents, widths and punctuation: "Zero Gravity", "ZERO  GRAVITY" and "zero_gravity" all have
the slug `zero-gravity`. A slug is a sequence of runs of letters and digits with one hyphen between
each two runs; a text without letters and digits has the empty slug.

`Slug.Memo` remembers the slugs of the texts that it was asked for.
-/

namespace ComicCatalogue.Slug

/-- What some symbols are read as. Hearts and the ampersand vanish, stars and the underscore
separate, and the female sign is spelled out. -/
def symbolReadings : List (Char × List Char) := [
  ('❤', []), ('♥', []), ('☆', ['-']), ('★', ['-']), ('&', []), ('♀', ['b', 'j', 'b']),
  ('_', ['-'])]

/-- What a character is read as. -/
def readSymbol (c : Char) : List Char :=
  (symbolReadings.lookup c).getD [c]

/-- A text in lower case, with symbols read out, letters decomposed and marks dropped. -/
def plain (text : List Char) : List Char :=
  (Unicode.decompose ((Unicode.lowercase text).flatMap readSymbol)).filter (!Unicode.isMark ·)

/-- The slug of a text, on characters: the runs of letters and digits of the plain text, in lower
case, joined by hyphens. -/
def ofChars (text : List Char) : List Char :=
  ['-'].intercalate
    ((Unicode.runs Unicode.isAlphanumeric (plain text)).map (·.flatMap Unicode.lowercaseChar))

/-- The slug of a text. -/
def ofText (text : String) : String :=
  String.ofList (ofChars text.toList)

/-- The slugs found so far, by the lower case of the text they belong to. -/
structure Memo where
  known : List (String × String) := []

namespace Memo

/-- The number of texts, told apart up to case, whose slug is remembered. -/
def size (memo : Memo) : Nat :=
  memo.known.length

/-- The slug of a text, remembered from now on. The empty text is not worth remembering. -/
def slug (text : String) : StateM Memo String := do
  if text.isEmpty then
    return ""
  let folded := Text.lowercase text
  match (← get).known.lookup folded with
  | some slug => return slug
  | none =>
    let slug := ofText folded
    modify fun memo => { memo with known := (folded, slug) :: memo.known }
    return slug

/-- The slugs of several texts in turn, without the empty ones. -/
def slugs (texts : List String) : StateM Memo (List String) := do
  let all ← texts.mapM slug
  return all.filter (!·.isEmpty)

end Memo

end ComicCatalogue.Slug
