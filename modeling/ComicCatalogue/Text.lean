import ComicCatalogue.Unicode.Lowercase
import ComicCatalogue.Unicode.Words

/-!
# Text

The operations on strings that the catalogue is written with. Each is an operation on the list of
characters, so statements about them are statements about lists.
-/

namespace ComicCatalogue.Text

/-- A text without the white space at its two ends. -/
def trim (text : String) : String :=
  String.ofList (Unicode.trim text.toList)

/-- The lower case of a text. -/
def lowercase (text : String) : String :=
  String.ofList (Unicode.lowercase text.toList)

/-- The words of a text. -/
def words (text : String) : List String :=
  (Unicode.words text.toList).map String.ofList

/-- Whether two texts differ at most in the case of the letters A to Z. -/
def equalIgnoringCase (a b : String) : Bool :=
  a.toList.map Char.toLower == b.toList.map Char.toLower

end ComicCatalogue.Text
