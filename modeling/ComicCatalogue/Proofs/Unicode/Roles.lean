import ComicCatalogue.Proofs.Unicode.Context
import ComicCatalogue.Proofs.Unicode.Tables

/-!
# What a piece of text does to the sigmas around it

How the words around a piece of text begin and end depends on the piece only by its first and its
last character that is not case-ignorable. Where two pieces without capital sigmas agree in these,
one can take the place of the other: the lower case of the text around them stays the same.
-/

namespace ComicCatalogue.Unicode

variable {part other : List Char}

/-- Two pieces of text between which the words around them do not tell. -/
structure SameRole (part other : List Char) : Prop where
  noSigma : capitalSigma ∉ part
  noSigmaOther : capitalSigma ∉ other
  opens : opening part = opening other
  closes : closing part = closing other

/-- The opening of a text, from its code points. -/
def openingOf (codePoints : List Nat) : Option Bool :=
  (codePoints.find? (!caseIgnorableBits.testBit ·)).map casedBits.testBit

theorem opening_eq (text : List Char) : opening text = openingOf (text.map Char.toNat) := by
  have sameIgnorable : isCaseIgnorable = caseIgnorableBits.testBit ∘ Char.toNat :=
    funext isCaseIgnorable_eq_testBit
  have sameCased : isCased = casedBits.testBit ∘ Char.toNat := funext isCased_eq_testBit
  rw [opening, openingOf, List.find?_map, Option.map_map, sameIgnorable, sameCased]
  rfl

/-- Whether a code point can stand for several, as far as the words around it are concerned. -/
def standsFor (n : Nat) (part : List Nat) : Bool :=
  !(n :: part).contains capitalSigma.toNat && openingOf part == openingOf [n] &&
    openingOf part.reverse == openingOf [n]

theorem sameRole_of_standsFor {c : Char} (stands : standsFor c.toNat (part.map Char.toNat)) :
    SameRole [c] part := by
  simp only [standsFor, Bool.and_eq_true, Bool.not_eq_true', beq_iff_eq] at stands
  obtain ⟨⟨noSigma, opens⟩, closes⟩ := stands
  have apart : capitalSigma ∉ c :: part := by
    intro member
    have inside : capitalSigma.toNat ∈ (c :: part).map Char.toNat := List.mem_map_of_mem member
    rw [List.map_cons, ← List.contains_iff_mem, noSigma] at inside
    cases inside
  rw [List.mem_cons, not_or] at apart
  constructor
  · simpa using apart.1
  · exact apart.2
  · rw [opening_eq, opening_eq, opens]
    rfl
  · rw [closing, closing, List.reverse_singleton, opening_eq, opening_eq, List.map_reverse, closes]
    rfl

/-- A character that is skipped when the surroundings of a letter are read can be left out, as far
as the words around it are concerned. -/
theorem sameRole_nil {c : Char} (ignorable : isCaseIgnorable c) : SameRole [c] [] := by
  have notSigma : capitalSigma ≠ c := by
    rintro rfl
    rw [isCased_capitalSigma.2] at ignorable
    cases ignorable
  constructor
  · simpa using notSigma
  · simp
  · simp [opening, ignorable]
  · simp [closing, opening, ignorable]

/-- Without capital sigmas, every character of a text is lowered on its own. -/
theorem lowercaseAfter_append_of_not_mem (noSigma : capitalSigma ∉ part) (front back : List Char) :
    lowercaseAfter (endsCased front) (part ++ back) =
      part.flatMap lowercaseChar ++ lowercaseAfter (endsCased (front ++ part)) back := by
  induction part generalizing front with
  | nil => rw [List.append_nil]; rfl
  | cons c rest ih =>
    rw [List.mem_cons, not_or] at noSigma
    have alone : lowercaseBetween front c (rest ++ back) = lowercaseChar c :=
      if_neg (Ne.symm noSigma.1)
    rw [List.cons_append, lowercaseAfter_endsCased_cons, alone, ih noSigma.2, List.flatMap_cons,
      List.append_assoc, List.append_assoc, List.singleton_append]

/-- Where one piece of text takes the place of another, the lower case of what is around it stays
the same. -/
theorem exists_lowercase_append (same : SameRole part other) (front back : List Char) :
    ∃ before behind,
      lowercase (front ++ (part ++ back)) = before ++ (part.flatMap lowercaseChar ++ behind) ∧
        lowercase (front ++ (other ++ back)) =
          before ++ (other.flatMap lowercaseChar ++ behind) := by
  have starts : startsCased (part ++ back) = startsCased (other ++ back) := by
    rw [startsCased_append, startsCased_append, same.opens]
  have ends : endsCased (front ++ other) = endsCased (front ++ part) := by
    rw [endsCased_append, endsCased_append, same.closes]
  obtain ⟨before, first, second⟩ := exists_lowercaseAfter_append_both [] front starts
  rw [List.nil_append, lowercaseAfter_append_of_not_mem same.noSigma] at first
  rw [List.nil_append, lowercaseAfter_append_of_not_mem same.noSigmaOther, ends] at second
  exact ⟨before, _, first, second⟩

end ComicCatalogue.Unicode
