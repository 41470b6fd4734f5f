import ComicCatalogue.Proofs.Unicode.Lowercase
import ComicCatalogue.Slug

/-!
# The memo of slugs cannot be seen

A text and its lower case have the same slug, so a slug that was found for some spelling of a text
is right for every other. A memo that only ever noted such slugs is sound, and steps that start from
a sound memo give the slugs themselves and leave a sound memo.
-/

namespace ComicCatalogue

theorem Text.lowercase_lowercase (text : String) :
    Text.lowercase (Text.lowercase text) = Text.lowercase text := by
  simp [Text.lowercase, Unicode.lowercase_lowercase]

namespace Slug

theorem ofChars_lowercase (text : List Char) : ofChars (Unicode.lowercase text) = ofChars text := by
  simp only [ofChars, plain, Unicode.lowercase_lowercase]

theorem ofText_lowercase (text : String) : ofText (Text.lowercase text) = ofText text := by
  simp only [ofText, Text.lowercase, String.toList_ofList, ofChars_lowercase]

theorem ofText_empty : ofText "" = "" := rfl

namespace Memo

/-- A memo is sound if every slug in it is the slug of its text. -/
def Sound (memo : Memo) : Prop :=
  ∀ entry ∈ memo.known, entry.2 = ofText entry.1

/-- From every sound memo, the step gives this value and leaves a sound memo. -/
def Yields {α : Type} (step : StateM Memo α) (a : α) : Prop :=
  ∀ memo : Memo, memo.Sound → (step.run memo).1 = a ∧ (step.run memo).2.Sound

theorem sound_empty : Sound {} := by
  intro entry member
  cases member

theorem Yields.pure {α : Type} (a : α) : Yields (Pure.pure a) a :=
  fun _ sound => ⟨rfl, sound⟩

theorem Yields.bind {α β : Type} {step : StateM Memo α} {next : α → StateM Memo β} {a : α} {b : β}
    (first : Yields step a) (second : Yields (next a) b) : Yields (step >>= next) b := by
  intro memo sound
  obtain ⟨same, soundAfter⟩ := first memo sound
  have rest := second (step.run memo).2 soundAfter
  rw [← same] at rest
  exact rest

theorem yields_slug (text : String) : Yields (slug text) (ofText text) := by
  intro memo sound
  unfold slug
  split
  · rename_i empty
    rw [String.isEmpty_iff] at empty
    subst empty
    exact ⟨ofText_empty.symm, sound⟩
  · cases found : memo.known.lookup (Text.lowercase text) with
    | some known =>
      obtain ⟨before, after, same, _⟩ := List.lookup_eq_some_iff.mp found
      have right := sound (Text.lowercase text, known) (by simp [same])
      rw [ofText_lowercase] at right
      simpa [found] using ⟨right, sound⟩
    | none =>
      have added : Sound ⟨(Text.lowercase text, ofText (Text.lowercase text)) :: memo.known⟩ := by
        intro entry member
        rcases List.mem_cons.mp member with rfl | member
        · rfl
        · exact sound entry member
      simpa [found] using ⟨ofText_lowercase text, added⟩

theorem yields_mapM_slug (texts : List String) : Yields (texts.mapM slug) (texts.map ofText) := by
  induction texts with
  | nil => exact Yields.pure []
  | cons text rest ih =>
    rw [List.mapM_cons]
    exact (yields_slug text).bind (ih.bind (Yields.pure _))

theorem yields_slugs (texts : List String) :
    Yields (slugs texts) ((texts.map ofText).filter (!·.isEmpty)) :=
  (yields_mapM_slug texts).bind (Yields.pure _)

/-- The memo after the slugs of these texts have been asked for in turn. -/
def ofTexts (texts : List String) : Memo :=
  ((texts.mapM slug).run {}).2

theorem sound_ofTexts (texts : List String) : (ofTexts texts).Sound :=
  (yields_mapM_slug texts {} sound_empty).2

end Memo

end Slug

end ComicCatalogue
