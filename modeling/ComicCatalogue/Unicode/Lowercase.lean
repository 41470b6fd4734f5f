import ComicCatalogue.Unicode.LowercaseTable
import ComicCatalogue.Unicode.Property

/-!
# Lower case

`lowercaseChar` is the lower case of a single character, which may be two characters long.
`lowercase` is the lower case of a text: there a capital sigma becomes the final sigma at the end
of a word, and otherwise every character is treated on its own.
-/

namespace ComicCatalogue.Unicode

/-- The lower case of a code point, if it is another single code point. -/
def lowercaseCodePoint (n : Nat) : Nat :=
  match LowercaseTable.table.find? n with
  | none => n
  | some (first, step, target) =>
    if (n - first) % step = 0 then target + (n - first) else n

/-- The lower case of a character on its own. The capital I with a dot keeps its dot as a mark. -/
def lowercaseChar (c : Char) : List Char :=
  if c.toNat = 0x130 then [Char.ofNat 0x69, Char.ofNat 0x307]
  else [Char.ofNat (lowercaseCodePoint c.toNat)]

/-- The capital sigma, whose lower case depends on its place in the word. -/
def capitalSigma : Char := Char.ofNat 0x3A3

/-- The lower-case sigma inside a word. -/
def smallSigma : Char := Char.ofNat 0x3C3

/-- The lower-case sigma at the end of a word. -/
def finalSigma : Char := Char.ofNat 0x3C2

/-- Whether the first character that is not case-ignorable is a cased one. -/
def startsCased (text : List Char) : Bool :=
  match text.dropWhile isCaseIgnorable with
  | [] => false
  | c :: _ => isCased c

/-- Lower case with a context: `afterCased` says whether the last character before the text that
is not case-ignorable is a cased one. -/
def lowercaseAfter (afterCased : Bool) : List Char → List Char
  | [] => []
  | c :: rest =>
    let lower :=
      if c = capitalSigma then
        if afterCased && !startsCased rest then [finalSigma] else [smallSigma]
      else lowercaseChar c
    lower ++ lowercaseAfter (if isCaseIgnorable c then afterCased else isCased c) rest

/-- The lower case of a text. -/
def lowercase (text : List Char) : List Char :=
  lowercaseAfter false text

end ComicCatalogue.Unicode
