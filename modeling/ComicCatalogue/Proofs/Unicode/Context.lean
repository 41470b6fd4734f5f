import Mathlib.Data.List.Induction
import ComicCatalogue.Proofs.Unicode.Lowercase

/-!
# Lower case in context

The lower case of a text depends on what stands around it only by its capital sigmas: each becomes a
final sigma if it ends a word, and a small sigma otherwise. Where every capital sigma ends a word in
a text if and only if it does so in a longer one, the lower case of the text is a part of that of
the longer one.
-/

namespace ComicCatalogue.Unicode

theorem isCased_capitalSigma : isCased capitalSigma ∧ isCaseIgnorable capitalSigma = false := by
  decide +kernel

/-- Whether the last character of a text that is not case-ignorable is a cased one. -/
def endsCased (text : List Char) : Bool :=
  text.foldl (fun afterCased c => if isCaseIgnorable c then afterCased else isCased c) false

/-- Whether the first character of a text that is not case-ignorable is a cased one, if there is
any. -/
def opening (text : List Char) : Option Bool :=
  (text.find? (!isCaseIgnorable ·)).map isCased

/-- Whether the last character of a text that is not case-ignorable is a cased one, if there is
any. -/
def closing (text : List Char) : Option Bool :=
  opening text.reverse

/-- Whether a capital sigma between two texts ends a word. -/
def endsWord (front back : List Char) : Bool :=
  endsCased front && !startsCased back

/-- The lower case of a character between two texts. -/
def lowercaseBetween (front : List Char) (c : Char) (back : List Char) : List Char :=
  if c = capitalSigma then if endsWord front back then [finalSigma] else [smallSigma]
  else lowercaseChar c

/-- Every capital sigma of a text ends a word between two texts if and only if it does so between
two others. -/
def SigmasAgree (text front back otherFront otherBack : List Char) : Prop :=
  ∀ left right, text = left ++ capitalSigma :: right →
    endsWord (front ++ left) (right ++ back) = endsWord (otherFront ++ left) (right ++ otherBack)

variable {text front back otherFront otherBack : List Char} {c : Char}

theorem sigmasAgree_iff : SigmasAgree text front back otherFront otherBack ↔
    ∀ n < text.length, text[n]? = some capitalSigma →
      endsWord (front ++ text.take n) (text.drop (n + 1) ++ back) =
        endsWord (otherFront ++ text.take n) (text.drop (n + 1) ++ otherBack) := by
  constructor
  · intro agree n _ isSigma
    obtain ⟨inside, isSigma⟩ := List.getElem?_eq_some_iff.mp isSigma
    refine agree _ _ ?_
    rw [← isSigma, List.getElem_cons_drop, List.take_append_drop]
  · rintro agree left right rfl
    have same := agree left.length (by simp) (by simp)
    simpa using same

instance : Decidable (SigmasAgree text front back otherFront otherBack) :=
  decidable_of_iff _ sigmasAgree_iff.symm

theorem endsCased_concat (front : List Char) (c : Char) :
    endsCased (front ++ [c]) = if isCaseIgnorable c then endsCased front else isCased c := by
  rw [endsCased, List.foldl_append, List.foldl_cons, List.foldl_nil, endsCased]

theorem startsCased_append (text back : List Char) :
    startsCased (text ++ back) = (opening text).getD (startsCased back) := by
  induction text with
  | nil => rfl
  | cons c rest ih =>
    unfold startsCased opening at ih ⊢
    by_cases ignorable : isCaseIgnorable c
    · simpa [ignorable] using ih
    · simp [ignorable]

theorem endsCased_append (front text : List Char) :
    endsCased (front ++ text) = (closing text).getD (endsCased front) := by
  induction text using List.reverseRecOn with
  | nil => rw [List.append_nil]; rfl
  | append_singleton rest c ih =>
    rw [← List.append_assoc, endsCased_concat]
    unfold closing opening at ih ⊢
    by_cases ignorable : isCaseIgnorable c
    · simpa [ignorable] using ih
    · simp [ignorable]

/-- A text is read in front of another as it is at the end if no cased character follows. -/
theorem startsCased_append_of_eq_false (uncased : startsCased back = false) (text : List Char) :
    startsCased (text ++ back) = startsCased text := by
  have alone := startsCased_append text []
  rw [List.append_nil] at alone
  rw [startsCased_append, alone, uncased]
  rfl

theorem lowercaseAfter_endsCased_cons (front : List Char) (c : Char) (rest : List Char) :
    lowercaseAfter (endsCased front) (c :: rest) =
      lowercaseBetween front c rest ++ lowercaseAfter (endsCased (front ++ [c])) rest := by
  rw [endsCased_concat, lowercaseAfter]
  rfl

/-- What stands behind a text changes its lower case only by how it starts. -/
theorem exists_lowercaseAfter_append_both (start front : List Char) {other : List Char}
    (starts : startsCased back = startsCased other) :
    ∃ lower,
      lowercaseAfter (endsCased start) (front ++ back) =
          lower ++ lowercaseAfter (endsCased (start ++ front)) back ∧
        lowercaseAfter (endsCased start) (front ++ other) =
          lower ++ lowercaseAfter (endsCased (start ++ front)) other := by
  induction front generalizing start with
  | nil => exact ⟨[], by rw [List.append_nil]; exact ⟨rfl, rfl⟩⟩
  | cons c rest ih =>
    obtain ⟨lower, same, sameOther⟩ := ih (start ++ [c])
    have first : lowercaseBetween start c (rest ++ back) =
        lowercaseBetween start c (rest ++ other) := by
      unfold lowercaseBetween endsWord
      rw [startsCased_append, startsCased_append, starts]
    refine ⟨lowercaseBetween start c (rest ++ back) ++ lower, ?_, ?_⟩
    · rw [List.cons_append, lowercaseAfter_endsCased_cons, same, List.append_assoc,
        List.append_assoc, List.singleton_append]
    · rw [List.cons_append, lowercaseAfter_endsCased_cons, sameOther, first, List.append_assoc,
        List.append_assoc, List.singleton_append]

/-- What is in front of a text changes its lower case only by how it ends. -/
theorem exists_lowercaseAfter_append (start front back : List Char) :
    ∃ lower, lowercaseAfter (endsCased start) (front ++ back) =
      lower ++ lowercaseAfter (endsCased (start ++ front)) back := by
  obtain ⟨lower, same, -⟩ :=
    exists_lowercaseAfter_append_both start front (Eq.refl (startsCased back))
  exact ⟨lower, same⟩

theorem SigmasAgree.tail (agree : SigmasAgree (c :: text) front back otherFront otherBack) :
    SigmasAgree text (front ++ [c]) back (otherFront ++ [c]) otherBack := by
  rintro left right rfl
  rw [List.append_assoc, List.append_assoc, List.singleton_append]
  exact agree (c :: left) right rfl

theorem SigmasAgree.head (agree : SigmasAgree (c :: text) front back otherFront otherBack) :
    lowercaseBetween front c (text ++ back) =
      lowercaseBetween otherFront c (text ++ otherBack) := by
  unfold lowercaseBetween
  split
  · rename_i isSigma
    have same := agree [] text (by rw [isSigma, List.nil_append])
    rw [List.append_nil, List.append_nil] at same
    rw [same]
  · rfl

/-- Where every capital sigma is read as it is in the text alone, the lower case of a text with
others around it begins with that of the text. -/
theorem lowercaseAfter_append_of_sigmasAgree (agree : SigmasAgree text front back otherFront []) :
    lowercaseAfter (endsCased front) (text ++ back) =
      lowercaseAfter (endsCased otherFront) text ++
        lowercaseAfter (endsCased (front ++ text)) back := by
  induction text generalizing front otherFront with
  | nil => rw [List.append_nil]; rfl
  | cons c rest ih =>
    have head := agree.head
    rw [List.append_nil] at head
    rw [List.cons_append, lowercaseAfter_endsCased_cons, lowercaseAfter_endsCased_cons, head,
      ih agree.tail, List.append_assoc, List.append_assoc, List.singleton_append]

/-- Where every capital sigma ends a word in a text if and only if it does so in a longer one, the
lower case of the text is a part of that of the longer one. -/
theorem lowercase_isInfix (agree : SigmasAgree text front back [] []) :
    lowercase text <:+: lowercase (front ++ text ++ back) := by
  obtain ⟨lower, same⟩ := exists_lowercaseAfter_append [] front (text ++ back)
  refine ⟨lower, lowercaseAfter (endsCased (front ++ text)) back, ?_⟩
  have behind := lowercaseAfter_append_of_sigmasAgree agree
  rw [List.nil_append, behind, ← List.append_assoc, ← List.append_assoc] at same
  exact same.symm

theorem lowercaseChar_ne_nil (c : Char) : lowercaseChar c ≠ [] := by
  rw [lowercaseChar]
  split
  · exact List.cons_ne_nil _ _
  · exact List.cons_ne_nil _ _

theorem lowercase_ne_nil (some : text ≠ []) : lowercase text ≠ [] := by
  obtain ⟨c, rest, rfl⟩ := List.exists_cons_of_ne_nil some
  rw [lowercase, lowercaseAfter]
  refine List.append_ne_nil_of_left_ne_nil ?_ _
  split
  · split <;> exact List.cons_ne_nil _ _
  · exact lowercaseChar_ne_nil c

/-- No null character comes out of a lower-casing of other characters. -/
theorem toNat_ne_zero_of_mem_lowercaseChar {c d : Char} (notNull : c.toNat ≠ 0)
    (member : d ∈ lowercaseChar c) : d.toNat ≠ 0 := by
  rcases mem_lowercaseChar member with ⟨-, rfl | rfl⟩ | ⟨-, value⟩
  · decide
  · decide
  · rw [value]
    rcases lowercaseCodePoint_cases c.toNat with same | image
    · rwa [same]
    · simp only [isLowercaseImage, decide_eq_true_eq] at image
      omega

theorem toNat_ne_zero_of_mem_lowercase {d : Char} (notNull : ∀ c ∈ text, c.toNat ≠ 0)
    (member : d ∈ lowercase text) : d.toNat ≠ 0 := by
  rcases mem_lowercaseAfter member with (rfl | rfl) | ⟨c, inText, lower⟩
  · decide
  · decide
  · exact toNat_ne_zero_of_mem_lowercaseChar (notNull c inText) lower

end ComicCatalogue.Unicode
