import ComicCatalogue.Search.Directive

/-!
# Reading a search line

A directive can start at the beginning of a line and after white space. `items` takes a line apart
into the directives that start there and the characters between them; every character of the line
is in exactly one item, in order. `Reading.ofLine` collects the directives and the words left over.
-/

namespace ComicCatalogue.Search

open Unicode (isWhitespace)

theorem length_skipChar_le (c : Char) (text : List Char) :
    (skipChar c text).2.length ≤ text.length := by
  unfold skipChar
  split
  · exact Nat.le_refl _
  · split <;> simp

theorem length_readCombinator_le (text : List Char) :
    (readCombinator text).2.length ≤ text.length := by
  unfold readCombinator
  split <;> simp

theorem length_readHead?_lt {text rest : List Char} {head : Head}
    (found : readHead? text = some (head, rest)) : rest.length < text.length := by
  unfold readHead? at found
  simp only at found
  split at found
  · cases found
  · split at found
    · rename_i behind same
      simp only [Option.some.injEq, Prod.mk.injEq] at found
      obtain ⟨_, rfl⟩ := found
      have star := length_skipChar_le '*'
        (readCombinator ((skipChar '-' text).2.dropWhile Char.isAlpha)).2
      have sign := length_readCombinator_le ((skipChar '-' text).2.dropWhile Char.isAlpha)
      have name := length_dropWhile_le Char.isAlpha (skipChar '-' text).2
      have hyphen := length_skipChar_le '-' text
      rw [same, List.length_cons] at star
      omega
    · cases found

theorem length_readComparison_le (text : List Char) :
    (readComparison text).2.length ≤ text.length := by
  unfold readComparison
  split <;> simp <;> omega

theorem length_readValues_le (text : List Char) : (readValues text).2.length ≤ text.length := by
  induction text using readValues.induct with
  | case1 text rest same shorter ih =>
    rw [readValues]
    simp only
    split
    · rename_i other eq
      rw [same] at eq
      cases eq
      simp only
      omega
    · rename_i other eq
      exact absurd same (eq rest)
  | case2 text noComma =>
    rw [readValues]
    simp only
    exact length_readValue_le text

theorem length_readDirective?_lt {text rest : List Char} {content : Option Directive}
    (found : readDirective? text = some (content, rest)) : rest.length < text.length := by
  unfold readDirective? at found
  split at found
  · cases found
  · rename_i head behind same
    have shorter := length_readHead?_lt same
    simp only [Option.some.injEq, Prod.mk.injEq] at found
    obtain ⟨_, rfl⟩ := found
    refine Nat.lt_of_le_of_lt (length_readValues_le _) ?_
    split
    · exact Nat.lt_of_le_of_lt (length_readComparison_le behind) shorter
    · exact shorter

/-- A part of a search line. -/
inductive Item where
  /-- A character that belongs to no directive. -/
  | plain (c : Char)
  /-- The characters of a directive, and what it says unless it is malformed. -/
  | directive (source : List Char) (content : Option Directive)
  deriving DecidableEq, Repr

namespace Item

/-- The characters of the line that an item consists of. -/
def source : Item → List Char
  | plain c => [c]
  | directive source _ => source

/-- The directive of an item that is a well-formed one. -/
def content? : Item → Option Directive
  | plain _ => none
  | directive _ content => content

/-- Whether an item is a malformed directive. -/
def isMalformed : Item → Bool
  | directive _ none => true
  | _ => false

/-- What is left of an item when directives are taken out of the line: a directive separates. -/
def leftOver : Item → Char
  | plain c => c
  | directive _ _ => ' '

end Item

/-- The items of a text. The flag says whether a directive may start at its beginning. -/
def itemsFrom (atBoundary : Bool) (text : List Char) : List Item :=
  match text with
  | [] => []
  | c :: rest =>
    match found : if atBoundary then readDirective? (c :: rest) else none with
    | some (content, behind) =>
      have : behind.length ≤ rest.length := by
        split at found
        · exact Nat.le_of_lt_succ (length_readDirective?_lt found)
        · cases found
      .directive ((c :: rest).take ((c :: rest).length - behind.length)) content ::
        itemsFrom false behind
    | none => .plain c :: itemsFrom (isWhitespace c) rest
termination_by text.length

/-- The items of a line. -/
def items (line : String) : List Item :=
  itemsFrom true line.toList

/-- What a search line says. -/
structure Reading where
  /-- The well-formed directives, in order. -/
  directives : List Directive
  /-- The number of malformed directives. -/
  malformed : Nat
  /-- The words outside of directives, with single spaces between them. -/
  remainder : String
  deriving DecidableEq, Repr

namespace Reading

/-- Reads a search line. -/
def ofLine (line : String) : Reading :=
  let items := items line
  { directives := items.filterMap Item.content?
    malformed := items.countP Item.isMalformed
    remainder :=
      String.ofList (Unicode.joinWords (Unicode.words (items.map Item.leftOver))) }

/-- Whether the line contains anything that begins like a directive. -/
def isStructured (reading : Reading) : Bool :=
  !reading.directives.isEmpty || 0 < reading.malformed

end Reading

end ComicCatalogue.Search
