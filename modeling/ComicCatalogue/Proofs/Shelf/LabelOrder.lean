import Mathlib.Data.List.Pairwise
import Mathlib.Data.Prod.Lex
import Mathlib.Data.String.Basic
import ComicCatalogue.Shelf.Select

/-!
# Entries by name

Labels are listed by their names, and those with the same name by their numbers. Labels of one
taxonomy have different numbers, so no two are at the same place.
-/

namespace ComicCatalogue

/-- An entry stands before another in a listing: its name does, or the names are the same and its
number is smaller. -/
def Entry.Precedes (a b : Entry) : Prop :=
  a.name < b.name ∨ a.name = b.name ∧ a.id < b.id

namespace Label

/-- The place of a label in a listing. -/
def place (label : Label) : String ×ₗ Int :=
  toLex (label.name, label.id)

variable {a b : Label}

theorem mayPrecede_iff : a.mayPrecede b ↔ a.place ≤ b.place := by
  rw [place, place, Prod.Lex.toLex_le_toLex, mayPrecede, Bool.or_eq_true, Bool.and_eq_true,
    beq_iff_eq, decide_eq_true_eq, decide_eq_true_eq]

theorem mayPrecede_trans (a b c : Label) (first : a.mayPrecede b) (second : b.mayPrecede c) :
    a.mayPrecede c :=
  mayPrecede_iff.mpr ((mayPrecede_iff.mp first).trans (mayPrecede_iff.mp second))

theorem mayPrecede_total (a b : Label) : (a.mayPrecede b || b.mayPrecede a) = true := by
  rw [Bool.or_eq_true]
  simpa only [mayPrecede_iff] using le_total a.place b.place

/-- Labels at the same place have the same number. -/
theorem id_eq_of_mayPrecede (first : a.mayPrecede b) (second : b.mayPrecede a) : a.id = b.id :=
  congrArg (·.2) ((mayPrecede_iff.mp first).antisymm (mayPrecede_iff.mp second))

/-- A listing of labels with different numbers is in strict order. -/
theorem pairwise_mergeSort {labels : List Label} (distinct : (labels.map (·.id)).Nodup) :
    (labels.mergeSort mayPrecede).Pairwise fun a b => a.place < b.place := by
  have sorted := List.pairwise_mergeSort mayPrecede_trans mayPrecede_total labels
  have different : ((labels.mergeSort mayPrecede).map (·.id)).Nodup :=
    ((List.mergeSort_perm labels mayPrecede).map _).nodup_iff.mpr distinct
  refine (sorted.and (List.pairwise_map.mp different)).imp fun ⟨may, apart⟩ => ?_
  exact (mayPrecede_iff.mp may).lt_of_ne fun same => apart (congrArg (·.2) same)

/-- Whatever else is noted about labels, as entries they stand in the order of their places. -/
theorem pairwise_map_mergeSort {labels : List Label} (distinct : (labels.map (·.id)).Nodup)
    {entry : Label → Entry} (named : ∀ label, (entry label).name = label.name)
    (numbered : ∀ label, (entry label).id = label.id) :
    ((labels.mergeSort mayPrecede).map entry).Pairwise Entry.Precedes := by
  refine List.pairwise_map.mpr ((pairwise_mergeSort distinct).imp fun before => ?_)
  rw [Entry.Precedes, named, named, numbered, numbered]
  exact Prod.Lex.toLex_lt_toLex.mp before

end Label

end ComicCatalogue
