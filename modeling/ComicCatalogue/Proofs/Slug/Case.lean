import ComicCatalogue.Proofs.Slug.Idempotence
import ComicCatalogue.Proofs.Unicode.Sigmas

/-!
# Slugs and case

Texts that are equal in lower case character by character have slugs that differ by final sigmas
only. They have the same slug if and only if the capital sigmas that end a word have the same places
in both: a capital sigma at the end of a word is folded into a final sigma, and a small one there
stays as it is.
-/

namespace ComicCatalogue.Slug

open Unicode

variable {text other : List Char}

/-- The letters and digits of the slug that a character in lower case is folded into. -/
def foldedLetters (c : Char) : List Char :=
  ((decomposed [c]).filter isAlphanumeric).flatMap lowercaseChar

theorem isPlain_sigma : IsPlain smallSigma ∧ IsPlain finalSigma := by
  have facts : (isAlphanumeric smallSigma ∧ IsKept smallSigma) ∧
      isAlphanumeric finalSigma ∧ IsKept finalSigma := by
    decide +kernel
  exact ⟨isPlain_of_isKept facts.1.1 facts.1.2, isPlain_of_isKept facts.2.1 facts.2.2⟩

theorem decomposed_of_isPlain {c : Char} (isPlain : IsPlain c) : decomposed [c] = [c] := by
  rw [decomposed, List.flatMap_singleton, isPlain.unread, decompose, List.flatMap_singleton,
    isPlain.whole, List.filter_cons_of_pos (by simp [isPlain.unmarked]), List.filter_nil]

theorem foldedLetters_of_isPlain {c : Char} (isPlain : IsPlain c) : foldedLetters c = [c] := by
  rw [foldedLetters, decomposed_of_isPlain isPlain, List.filter_cons_of_pos isPlain.letter,
    List.filter_nil, List.flatMap_singleton, isPlain.lower]

/-- Each character is folded on its own once the text is in lower case. -/
theorem decomposed_eq_flatMap (text : List Char) :
    decomposed text = text.flatMap fun c => decomposed [c] := by
  induction text with
  | nil => rfl
  | cons c rest ih => rw [List.flatMap_cons, ← ih, ← decomposed_append, List.singleton_append]

/-! ### Slugs up to final sigmas -/

theorem isAlphanumeric_unfinal (c : Char) : isAlphanumeric (unfinal c) = isAlphanumeric c := by
  rw [unfinal]
  split
  · rename_i isFinal
    rw [isFinal, isPlain_sigma.1.letter, isPlain_sigma.2.letter]
  · rfl

theorem map_unfinal_plain (same : text.flatMap lowercaseChar = other.flatMap lowercaseChar) :
    (plain text).map unfinal = (plain other).map unfinal := by
  have steady : (decomposed [finalSigma]).map unfinal = (decomposed [smallSigma]).map unfinal := by
    rw [decomposed_of_isPlain isPlain_sigma.1, decomposed_of_isPlain isPlain_sigma.2,
      map_unfinal_sigma]
  have folded (text : List Char) : (plain text).map unfinal =
      ((lowercase text).map unfinal).flatMap fun c => (decomposed [c]).map unfinal := by
    have pieces : plain text = (lowercase text).flatMap fun c => decomposed [c] :=
      decomposed_eq_flatMap (lowercase text)
    rw [pieces]
    exact map_unfinal_flatMap (f := fun c => decomposed [c]) steady (lowercase text)
  rw [folded, folded, map_unfinal_lowercase, map_unfinal_lowercase, same]

theorem map_unfinal_wordsOf (text : List Char) : (wordsOf text).map (List.map unfinal) =
    (runs isAlphanumeric ((plain text).map unfinal)).map fun run =>
      run.flatMap fun c => (lowercaseChar c).map unfinal := by
  have steady :
      (lowercaseChar finalSigma).map unfinal = (lowercaseChar smallSigma).map unfinal := by
    rw [isPlain_sigma.1.lower, isPlain_sigma.2.lower, map_unfinal_sigma]
  rw [runs_map isAlphanumeric_unfinal, wordsOf, List.map_map, List.map_map]
  exact List.map_congr_left fun run _ => map_unfinal_flatMap steady run

/-- Of texts that are equal in lower case character by character, the slugs are the same but for
final sigmas. -/
theorem map_unfinal_ofChars (same : text.flatMap lowercaseChar = other.flatMap lowercaseChar) :
    (ofChars text).map unfinal = (ofChars other).map unfinal := by
  rw [ofChars_eq, ofChars_eq, map_intercalate, map_intercalate, map_unfinal_wordsOf,
    map_unfinal_wordsOf, map_unfinal_plain same]

/-! ### What a slug tells of the lower case -/

/-- The letters and digits of a slug are those that the characters of the lower case are folded
into. -/
theorem filter_ofChars (text : List Char) :
    (ofChars text).filter isAlphanumeric = (lowercase text).flatMap foldedLetters := by
  have pieces : (plain text).filter isAlphanumeric =
      (lowercase text).flatMap fun c => (decomposed [c]).filter isAlphanumeric := by
    rw [← List.filter_flatMap, ← decomposed_eq_flatMap]
    rfl
  calc (ofChars text).filter isAlphanumeric
      = (wordsOf text).flatten := by rw [← flatten_runs, runs_ofChars]
    _ = ((runs isAlphanumeric (plain text)).flatten).flatMap lowercaseChar := by
        rw [wordsOf, ← List.flatMap_def, ← List.flatMap_id, List.flatMap_assoc]
        rfl
    _ = ((plain text).filter isAlphanumeric).flatMap lowercaseChar := by rw [flatten_runs]
    _ = (lowercase text).flatMap foldedLetters := by
        rw [pieces, List.flatMap_assoc]
        rfl

/-- Texts that are equal in lower case character by character have the same slug only if they have
the same lower case. -/
theorem ofChars_eq_iff (same : text.flatMap lowercaseChar = other.flatMap lowercaseChar) :
    ofChars text = ofChars other ↔ lowercase text = lowercase other := by
  constructor
  · intro sameSlug
    have alike : (lowercase text).map unfinal = (lowercase other).map unfinal := by
      rw [map_unfinal_lowercase, map_unfinal_lowercase, same]
    have sameLetters :
        (lowercase text).flatMap foldedLetters = (lowercase other).flatMap foldedLetters := by
      rw [← filter_ofChars, ← filter_ofChars, sameSlug]
    exact eq_of_flatMap_eq (foldedLetters_of_isPlain isPlain_sigma.1)
      (foldedLetters_of_isPlain isPlain_sigma.2) alike sameLetters
  · intro whole
    rw [ofChars, ofChars, plain, plain, whole]

/-- The slugs of texts that are equal in lower case character by character are the same but for
final sigmas. They are the same altogether if and only if the capital sigmas that end a word have
the same places in both texts. -/
theorem ofText_of_lowercaseChar {x y : String}
    (same : x.toList.flatMap lowercaseChar = y.toList.flatMap lowercaseChar) :
    (ofText x).toList.map unfinal = (ofText y).toList.map unfinal ∧
      (ofText x = ofText y ↔
        ∀ place, EndsWordAt [] x.toList place ↔ EndsWordAt [] y.toList place) := by
  constructor
  · rw [ofText, ofText, String.toList_ofList, String.toList_ofList]
    exact map_unfinal_ofChars same
  · rw [← lowercase_eq_iff same, ← ofChars_eq_iff same, ofText, ofText, String.ofList_inj]

/-- The capital sigma at the end of the first word is one in both texts, the others are not, and the
dot of the capital is a character of its own in the other text. -/
theorem ofText_of_lowercaseChar_dotted :
    "ΣΑΣ İΣΣ".toList.flatMap lowercaseChar = "σαΣ i\u0307σΣ".toList.flatMap lowercaseChar ∧
      ofText "ΣΑΣ İΣΣ" = "σας-iσς" ∧
      ∀ place, EndsWordAt [] "ΣΑΣ İΣΣ".toList place ↔
        EndsWordAt [] "σαΣ i\u0307σΣ".toList place := by
  have same : "ΣΑΣ İΣΣ".toList.flatMap lowercaseChar =
      "σαΣ i\u0307σΣ".toList.flatMap lowercaseChar := by
    decide +kernel
  have slugs : ofText "ΣΑΣ İΣΣ" = "σας-iσς" ∧ ofText "σαΣ i\u0307σΣ" = "σας-iσς" := by
    decide +kernel
  exact ⟨same, slugs.1, (ofText_of_lowercaseChar same).2.mp (slugs.1.trans slugs.2.symm)⟩

/-- The capital sigma ends the word and is folded into a final sigma, and the small one is not, so
texts that differ only in case have different slugs. -/
theorem ofText_ne_of_sigma :
    "ΑΣ".toList.flatMap lowercaseChar = "ασ".toList.flatMap lowercaseChar ∧
      ofText "ΑΣ" = "ας" ∧ ofText "ασ" = "ασ" ∧ ofText "ΑΣ" ≠ ofText "ασ" := by
  decide +kernel

end ComicCatalogue.Slug
