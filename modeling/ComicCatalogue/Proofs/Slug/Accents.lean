import Mathlib.Logic.Relation
import ComicCatalogue.Proofs.Slug.Interchange

/-!
# Accents do not matter

A text is respelled by putting in an accent or leaving one out, and by writing a character as its
canonical decomposition or the other way round. However often a text is respelled, its slug stays
the same; nor does it matter in which order the marks of a letter are arranged before they are
dropped.
-/

namespace ComicCatalogue.Slug

open Unicode

variable {text other : List Char} {x y : String}

/-! ### Respelling -/

/-- One text respells another: it has one more accent, or one character is decomposed. -/
inductive Respelling : List Char → List Char → Prop where
  | accent (front : List Char) (mark : Char) (back : List Char) (isAccent : isAccent mark) :
    Respelling (front ++ back) (front ++ mark :: back)
  | decompose (front : List Char) (c : Char) (back : List Char) :
    Respelling (front ++ c :: back) (front ++ (canonicalChar c ++ back))

theorem plain_decompose (front : List Char) (c : Char) (back : List Char) :
    plain (front ++ c :: back) = plain (front ++ (canonicalChar c ++ back)) := by
  rcases canonicalChar_cases c with same | same
  · rw [same, List.singleton_append]
  · exact same.plain_append front back

theorem plain_accent (front : List Char) {mark : Char} (back : List Char)
    (isAccent : isAccent mark) : plain (front ++ mark :: back) = plain (front ++ back) :=
  (interchangeable_of_isAccent isAccent).plain_append front back

/-- A text is folded like one that respells it. -/
theorem plain_of_respelling (respelling : Respelling text other) : plain text = plain other := by
  cases respelling with
  | accent front mark back isAccent => exact (plain_accent front back isAccent).symm
  | decompose front c back => exact plain_decompose front c back

/-- Texts that respell each other in any number of steps are folded alike. -/
theorem plain_of_respelled (respelled : Relation.EqvGen Respelling text other) :
    plain text = plain other := by
  induction respelled with
  | rel text other step => exact plain_of_respelling step
  | refl text => rfl
  | symm text other _ ih => exact ih.symm
  | trans text between other _ _ ih ihNext => exact ih.trans ihNext

/-! ### The order of marks -/

/-- The classes by which the marks of a letter are arranged. Only marks are in a class other than
zero. -/
structure CombiningClass where
  of : Char → Nat
  isMark_of_ne_zero : ∀ c, of c ≠ 0 → isMark c

namespace CombiningClass

variable (classes : CombiningClass)

/-- Puts a character in front of an arranged text: behind the marks of lower classes that the text
begins with, if it is in a class itself. -/
def insert (c : Char) : List Char → List Char
  | [] => [c]
  | d :: rest =>
    if 0 < classes.of d ∧ classes.of d < classes.of c then d :: insert c rest else c :: d :: rest

/-- A text with the marks behind each other character arranged by their classes. -/
def arrange (text : List Char) : List Char :=
  text.foldr classes.insert []

/-- The slug of a text whose marks are arranged before they are dropped. -/
def slug (text : String) : String :=
  let decomposed := decompose ((lowercase text.toList).flatMap readSymbol)
  let plain := (classes.arrange decomposed).filter (!isMark ·)
  String.ofList (['-'].intercalate ((runs isAlphanumeric plain).map (·.flatMap lowercaseChar)))

theorem filter_insert (c : Char) (text : List Char) :
    (classes.insert c text).filter (!isMark ·) = (c :: text).filter (!isMark ·) := by
  induction text with
  | nil => rfl
  | cons d rest ih =>
    rw [insert]
    split
    · rename_i lower
      -- Only marks change places, and none of them is kept.
      have mark : isMark c := classes.isMark_of_ne_zero c (by omega)
      have markBehind : isMark d := classes.isMark_of_ne_zero d (by omega)
      simpa [List.filter_cons, mark, markBehind] using ih
    · rfl

theorem filter_arrange (text : List Char) :
    (classes.arrange text).filter (!isMark ·) = text.filter (!isMark ·) := by
  induction text with
  | nil => rfl
  | cons c rest ih =>
    have arranged : classes.arrange (c :: rest) = classes.insert c (classes.arrange rest) := rfl
    rw [arranged, filter_insert, List.filter_cons, List.filter_cons, ih]

/-- The order of marks does not matter, since they are dropped. -/
theorem slug_eq (text : String) : classes.slug text = ofText text := by
  rw [slug, filter_arrange]
  rfl

end CombiningClass

/-- Texts that respell each other have the same slug, however their marks are arranged. -/
theorem ofText_of_respelled (respelled : Relation.EqvGen Respelling x.toList y.toList) :
    ofText y = ofText x ∧ ∀ classes : CombiningClass, classes.slug y = ofText x := by
  have same : ofText y = ofText x := by
    rw [ofText, ofText, ofChars, ofChars, plain_of_respelled respelled]
  refine ⟨same, fun classes => ?_⟩
  rw [classes.slug_eq, same]

/-- The accent of an iota is written apart, a dot below it is put behind the accent and a cedilla
below the last sigma, which still ends the word. -/
theorem ofText_of_respelled_capitals :
    Relation.EqvGen Respelling "ΣΊΣ".toList "ΣΙ\u0301\u0323Σ\u0327".toList ∧
      ofText "ΣΙ\u0301\u0323Σ\u0327" = "σις" ∧
      ∃ classes : CombiningClass, classes.of '\u0301' = 230 ∧ classes.of '\u0323' = 220 ∧
        classes.slug "ΣΙ\u0301\u0323Σ\u0327" = "σις" := by
  have iota : canonicalChar 'Ί' = ['Ι', '\u0301'] := by decide +kernel
  have apart : Respelling ['Σ', 'Ί', 'Σ'] ['Σ', 'Ι', '\u0301', 'Σ'] := by
    have step := Respelling.decompose ['Σ'] 'Ί' ['Σ']
    rwa [iota] at step
  have dotted : Respelling ['Σ', 'Ι', '\u0301', 'Σ'] ['Σ', 'Ι', '\u0301', '\u0323', 'Σ'] :=
    Respelling.accent ['Σ', 'Ι', '\u0301'] '\u0323' ['Σ'] (by decide +kernel)
  have whole : Respelling ['Σ', 'Ι', '\u0301', '\u0323', 'Σ']
      ['Σ', 'Ι', '\u0301', '\u0323', 'Σ', '\u0327'] :=
    Respelling.accent ['Σ', 'Ι', '\u0301', '\u0323', 'Σ'] '\u0327' [] (by decide +kernel)
  have respelled : Relation.EqvGen Respelling "ΣΊΣ".toList "ΣΙ\u0301\u0323Σ\u0327".toList :=
    .trans _ _ _ (.trans _ _ _ (.rel _ _ apart) (.rel _ _ dotted)) (.rel _ _ whole)
  have slug : ofText "ΣΊΣ" = "σις" := by decide +kernel
  obtain ⟨same, sameArranged⟩ := ofText_of_respelled respelled
  rw [slug] at same sameArranged
  let classOf : Char → Nat := fun c => if c = '\u0301' then 230 else if c = '\u0323' then 220 else 0
  have areMarks (c : Char) (inClass : classOf c ≠ 0) : isMark c := by
    by_cases acute : c = '\u0301'
    · subst acute
      decide +kernel
    · by_cases dot : c = '\u0323'
      · subst dot
        decide +kernel
      · simp [classOf, acute, dot] at inClass
  exact ⟨respelled, same, ⟨classOf, areMarks⟩, rfl, rfl, sameArranged _⟩

end ComicCatalogue.Slug
