import ComicCatalogue.Unicode.Property

/-!
# Runs, words and edges

A text falls into maximal runs of characters that satisfy a condition; the words of a text are its
runs of characters other than white space. `trim` removes the white space at the edges.
-/

namespace ComicCatalogue.Unicode

/-- The pieces of a text between each two characters that fail the condition; some may be
empty. -/
def pieces (keep : Char → Bool) : List Char → List (List Char)
  | [] => [[]]
  | c :: rest =>
    match pieces keep rest with
    | [] => [[c]]
    | piece :: more => if keep c then (c :: piece) :: more else [] :: piece :: more

/-- The maximal runs of characters that satisfy the condition. -/
def runs (keep : Char → Bool) (text : List Char) : List (List Char) :=
  (pieces keep text).filter (!·.isEmpty)

/-- The words of a text. -/
def words (text : List Char) : List (List Char) :=
  runs (!isWhitespace ·) text

/-- Words with a single space between each two of them. -/
def joinWords (words : List (List Char)) : List Char :=
  [' '].intercalate words

/-- A text without the white space at its two ends. -/
def trim (text : List Char) : List Char :=
  ((text.dropWhile isWhitespace).reverse.dropWhile isWhitespace).reverse

end ComicCatalogue.Unicode
