import ComicCatalogue.Proofs.Unicode.Edges
import ComicCatalogue.Proofs.Unicode.Words
import ComicCatalogue.Slug

/-!
# Slugs and white space at the edges

White space is folded into what is no letter or digit, so a text and its trimmed self have the same
slug.
-/

namespace ComicCatalogue.Slug

open Unicode (isAlphanumeric isMark isWhitespace runs)

variable {text : List Char} {c : Char}

/-- A text in lower case with symbols read out, letters decomposed and marks dropped. -/
def decomposed (text : List Char) : List Char :=
  (Unicode.decompose (text.flatMap readSymbol)).filter (!isMark ·)

theorem decomposed_append (text other : List Char) :
    decomposed (text ++ other) = decomposed text ++ decomposed other := by
  simp only [decomposed, Unicode.decompose, List.flatMap_append, List.filter_append]

/-- No letter or digit comes out of white space. -/
theorem not_isAlphanumeric_whitespace : ∀ n ∈ Unicode.whitespaceCodePoints,
    (Unicode.decompose (readSymbol (Char.ofNat n))).all (!isAlphanumeric ·) := by
  decide +kernel

theorem not_isAlphanumeric_of_mem_decomposed (blank : ∀ c ∈ text, isWhitespace c)
    (member : c ∈ decomposed text) : isAlphanumeric c = false := by
  rw [decomposed, Unicode.decompose, List.flatMap_assoc] at member
  obtain ⟨space, inText, inside⟩ := List.mem_flatMap.mp (List.mem_of_mem_filter member)
  have facts := not_isAlphanumeric_whitespace space.toNat
    (Unicode.mem_whitespaceCodePoints (blank space inText))
  rw [Char.ofNat_toNat] at facts
  simpa using List.all_eq_true.mp facts c inside

theorem runs_plain_append_of_blank {front back : List Char} (blank : ∀ c ∈ front, isWhitespace c)
    (blankBehind : ∀ c ∈ back, isWhitespace c) :
    runs isAlphanumeric (plain (front ++ text ++ back)) = runs isAlphanumeric (plain text) := by
  have split : plain (front ++ text ++ back) =
      decomposed front ++ plain text ++ decomposed back := by
    rw [plain, Unicode.lowercase_append_of_blank blank blankBehind]
    exact (decomposed_append _ _).trans (congrArg (· ++ decomposed back) (decomposed_append _ _))
  rw [split,
    Unicode.runs_append_of_fails_right _ fun c => not_isAlphanumeric_of_mem_decomposed blankBehind,
    Unicode.runs_append_of_fails_left _ fun c => not_isAlphanumeric_of_mem_decomposed blank]

theorem ofChars_trim (text : List Char) : ofChars (Unicode.trim text) = ofChars text := by
  obtain ⟨front, back, blank, blankBehind, same⟩ := Unicode.exists_append_trim text
  have sameRuns := (congrArg (fun text => runs isAlphanumeric (plain text)) same).trans
    (runs_plain_append_of_blank blank blankBehind)
  rw [ofChars, ofChars, ← sameRuns]

/-- White space at the ends of a text does not change its slug. -/
theorem ofText_trim (text : String) : ofText (Text.trim text) = ofText text := by
  rw [ofText, Text.trim, String.toList_ofList, ofChars_trim, ofText]

end ComicCatalogue.Slug
