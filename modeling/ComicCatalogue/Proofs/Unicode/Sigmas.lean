import ComicCatalogue.Proofs.Unicode.Context

/-!
# The places of final sigmas

Character by character, a capital sigma becomes a small one. The lower case of a whole text has a
final sigma in the place of each capital one that ends a word, and is otherwise the lower case of
its characters. So of texts that are equal in lower case character by character, the lower cases
differ by final sigmas only, and are equal if and only if the capital sigmas that end a word have
the same places.
-/

namespace ComicCatalogue.Unicode

variable {front text other : List Char} {c : Char} {place : Nat}

/-- A capital sigma of a text that stands behind another ends a word, and what comes before it in
the text has this many characters in lower case. -/
def EndsWordAt (front text : List Char) (place : Nat) : Prop :=
  ∃ before behind, text = before ++ capitalSigma :: behind ∧ endsWord (front ++ before) behind ∧
    (before.flatMap lowercaseChar).length = place

/-- A character, but the small sigma for the final one. -/
def unfinal (c : Char) : Char :=
  if c = finalSigma then smallSigma else c

theorem lowercaseChar_capitalSigma : lowercaseChar capitalSigma = [smallSigma] := by
  decide +kernel

theorem unfinal_sigma : unfinal finalSigma = smallSigma ∧ unfinal smallSigma = smallSigma := by
  decide

theorem map_unfinal_sigma : [finalSigma].map unfinal = [smallSigma].map unfinal := by
  rw [List.map_singleton, List.map_singleton, unfinal_sigma.1, unfinal_sigma.2]

theorem length_lowercaseBetween (front : List Char) (c : Char) (back : List Char) :
    (lowercaseBetween front c back).length = (lowercaseChar c).length := by
  unfold lowercaseBetween
  split
  · rename_i isSigma
    rw [isSigma, lowercaseChar_capitalSigma]
    split <;> rfl
  · rfl

theorem not_endsWordAt_nil : ¬EndsWordAt front [] place := by
  rintro ⟨before, behind, same, -⟩
  exact List.append_ne_nil_of_right_ne_nil before (List.cons_ne_nil _ behind) same.symm

/-- The sigma is the first character, or it is in the text behind that. -/
theorem endsWordAt_cons : EndsWordAt front (c :: text) place ↔
    (c = capitalSigma ∧ endsWord front text ∧ place = 0) ∨
      ∃ later, EndsWordAt (front ++ [c]) text later ∧
        place = (lowercaseChar c).length + later := by
  constructor
  · rintro ⟨before, behind, same, ends, rfl⟩
    cases before with
    | nil =>
      obtain ⟨rfl, rfl⟩ := List.cons.inj same
      rw [List.append_nil] at ends
      exact .inl ⟨rfl, ends, rfl⟩
    | cons d before =>
      obtain ⟨rfl, rfl⟩ := List.cons.inj same
      have endsBehind : endsWord (front ++ [c] ++ before) behind := by
        rwa [List.append_assoc, List.singleton_append]
      refine .inr ⟨_, ⟨before, behind, rfl, endsBehind, rfl⟩, ?_⟩
      rw [List.flatMap_cons, List.length_append]
  · rintro (⟨rfl, ends, rfl⟩ | ⟨later, ⟨before, behind, rfl, ends, rfl⟩, rfl⟩)
    · refine ⟨[], text, rfl, ?_, rfl⟩
      rwa [List.append_nil]
    · refine ⟨c :: before, behind, rfl, ?_, ?_⟩
      · rwa [List.append_assoc, List.singleton_append] at ends
      · rw [List.flatMap_cons, List.length_append]

/-- In the place of a capital sigma that ends a word, a text has a final sigma in lower case, and a
small one character by character. -/
theorem EndsWordAt.getElem? (ends : EndsWordAt front text place) :
    (lowercaseAfter (endsCased front) text)[place]? = some finalSigma ∧
      (text.flatMap lowercaseChar)[place]? = some smallSigma := by
  induction text generalizing front place with
  | nil => exact absurd ends not_endsWordAt_nil
  | cons c rest ih =>
    rw [lowercaseAfter_endsCased_cons, List.flatMap_cons]
    rcases endsWordAt_cons.mp ends with ⟨rfl, endsHere, rfl⟩ | ⟨later, endsLater, rfl⟩
    · rw [lowercaseBetween, if_pos rfl, if_pos endsHere, lowercaseChar_capitalSigma]
      exact ⟨rfl, rfl⟩
    · have same := length_lowercaseBetween front c rest
      rw [List.getElem?_append_right (by omega), List.getElem?_append_right (by omega), same,
        Nat.add_sub_cancel_left]
      exact ih endsLater

/-- In every other place, a text in lower case has what it has character by character. -/
theorem getElem?_lowercaseAfter_of_not_endsWordAt (other : ¬EndsWordAt front text place) :
    (lowercaseAfter (endsCased front) text)[place]? = (text.flatMap lowercaseChar)[place]? := by
  induction text generalizing front place with
  | nil => rfl
  | cons c rest ih =>
    rw [endsWordAt_cons, not_or] at other
    obtain ⟨notHere, notLater⟩ := other
    have same := length_lowercaseBetween front c rest
    rw [lowercaseAfter_endsCased_cons, List.flatMap_cons]
    by_cases first : place < (lowercaseChar c).length
    · rw [List.getElem?_append_left (by omega), List.getElem?_append_left first, lowercaseBetween]
      split
      · rename_i isSigma
        rw [isSigma, lowercaseChar_capitalSigma] at first ⊢
        have start : place = 0 := Nat.lt_one_iff.mp first
        rw [if_neg fun ends => notHere ⟨isSigma, ends, start⟩]
      · rfl
    · rw [List.getElem?_append_right (by omega), List.getElem?_append_right (by omega), same]
      refine ih fun ends => notLater ⟨_, ends, ?_⟩
      omega

/-- But for final sigmas, the lower case of a text is that of its characters. -/
theorem map_unfinal_lowercase (text : List Char) :
    (lowercase text).map unfinal = (text.flatMap lowercaseChar).map unfinal := by
  refine List.ext_getElem? fun place => ?_
  rw [List.getElem?_map, List.getElem?_map]
  by_cases ends : EndsWordAt [] text place
  · obtain ⟨final, small⟩ := ends.getElem?
    have here : (lowercase text)[place]? = some finalSigma := final
    rw [here, small, Option.map_some, Option.map_some, unfinal_sigma.1, unfinal_sigma.2]
  · exact congrArg (Option.map unfinal) (getElem?_lowercaseAfter_of_not_endsWordAt ends)

/-- Where the lower case is the same, so are the places of the capital sigmas that end a word. -/
theorem endsWordAt_of_lowercase_eq
    (same : text.flatMap lowercaseChar = other.flatMap lowercaseChar)
    (whole : lowercase text = lowercase other) (ends : EndsWordAt [] text place) :
    EndsWordAt [] other place := by
  obtain ⟨final, small⟩ := ends.getElem?
  by_contra notOther
  have there : (lowercase other)[place]? = (other.flatMap lowercaseChar)[place]? :=
    getElem?_lowercaseAfter_of_not_endsWordAt notOther
  have here : (lowercase text)[place]? = some finalSigma := final
  rw [← whole, ← same, here, small, Option.some.injEq] at there
  exact absurd there (by decide)

/-- Texts that are equal in lower case character by character have the same lower case if and only
if the capital sigmas that end a word have the same places in both. -/
theorem lowercase_eq_iff (same : text.flatMap lowercaseChar = other.flatMap lowercaseChar) :
    lowercase text = lowercase other ↔
      ∀ place, EndsWordAt [] text place ↔ EndsWordAt [] other place := by
  constructor
  · intro whole place
    constructor
    · exact endsWordAt_of_lowercase_eq same whole
    · exact endsWordAt_of_lowercase_eq same.symm whole.symm
  · intro samePlaces
    refine List.ext_getElem? fun place => ?_
    by_cases ends : EndsWordAt [] text place
    · have final := ends.getElem?.1
      have finalOther := ((samePlaces place).mp ends).getElem?.1
      exact final.trans finalOther.symm
    · have notOther : ¬EndsWordAt [] other place := mt (samePlaces place).mpr ends
      have each := getElem?_lowercaseAfter_of_not_endsWordAt ends
      have eachOther := getElem?_lowercaseAfter_of_not_endsWordAt notOther
      rw [← same] at eachOther
      exact each.trans eachOther.symm

/-- Parts that are the same but for final sigmas are put together into texts that are, too. -/
theorem map_unfinal_flatMap {f : Char → List Char}
    (steady : (f finalSigma).map unfinal = (f smallSigma).map unfinal) (text : List Char) :
    (text.flatMap f).map unfinal = (text.map unfinal).flatMap fun c => (f c).map unfinal := by
  rw [List.map_flatMap, List.flatMap_map]
  refine List.flatMap_congr fun c _ => ?_
  by_cases final : c = finalSigma
  · rw [final, unfinal_sigma.1, steady]
  · rw [unfinal, if_neg final]

/-- Texts that are the same but for final sigmas are equal if a function that tells the sigmas apart
makes the same of them. -/
theorem eq_of_flatMap_eq {f : Char → List Char} (small : f smallSigma = [smallSigma])
    (final : f finalSigma = [finalSigma]) (alike : text.map unfinal = other.map unfinal)
    (same : text.flatMap f = other.flatMap f) : text = other := by
  induction text generalizing other with
  | nil => exact (List.map_eq_nil_iff.mp alike.symm).symm
  | cons c rest ih =>
    obtain ⟨d, more, rfl⟩ : ∃ d more, other = d :: more :=
      List.exists_cons_of_ne_nil fun none => by simp [none] at alike
    rw [List.map_cons, List.map_cons, List.cons.injEq] at alike
    obtain ⟨alikeHead, alikeTail⟩ := alike
    rw [List.flatMap_cons, List.flatMap_cons] at same
    have head : c = d := by
      by_cases isFinal : c = finalSigma <;> by_cases isFinalOther : d = finalSigma
      · rw [isFinal, isFinalOther]
      · rw [unfinal, if_pos isFinal, unfinal, if_neg isFinalOther] at alikeHead
        rw [isFinal, final, ← alikeHead, small] at same
        exact absurd (List.cons.inj same).1 (by decide)
      · rw [unfinal, if_neg isFinal, unfinal, if_pos isFinalOther] at alikeHead
        rw [isFinalOther, final, alikeHead, small] at same
        exact absurd (List.cons.inj same).1 (by decide)
      · rwa [unfinal, if_neg isFinal, unfinal, if_neg isFinalOther] at alikeHead
    rw [head] at same ⊢
    rw [ih alikeTail (List.append_cancel_left same)]

end ComicCatalogue.Unicode
