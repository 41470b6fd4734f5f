import Mathlib
import ComicCatalogue.Shelf.Select

/-!
# The order of listings

Archives are listed by their sort keys, and those with the same key by their numbers, both in the
same direction. Archives of different numbers are never at the same place, so this leaves only one
order for the archives of a shelf.
-/

namespace ComicCatalogue

namespace SortKey

/-- The place of a sort key: at the bottom, among the numbers, or among the texts above them. -/
def place : SortKey → WithBot (Int ⊕ₗ String)
  | nothing => ⊥
  | number value => some (toLex (.inl value))
  | text value => some (toLex (.inr value))

theorem before_iff {a b : SortKey} : a.before b ↔ a.place < b.place := by
  cases a <;> cases b <;> simp [before, place, WithBot.some_eq_coe]

theorem place_injective {a b : SortKey} (same : a.place = b.place) : a = b := by
  cases a <;> cases b <;> simp_all [place, WithBot.some_eq_coe]

end SortKey

namespace Volume

/-- The place of an archive in ascending order. -/
def place (field : SortField) (volume : Volume) : WithBot (Int ⊕ₗ String) ×ₗ Int :=
  toLex ((volume.sortKey field).place, volume.id)

theorem before_iff {field : SortField} {a b : Volume} :
    a.before field b ↔ a.place field < b.place field := by
  rw [place, place, Prod.Lex.toLex_lt_toLex, before, Bool.or_eq_true, SortKey.before_iff,
    Bool.and_eq_true, beq_iff_eq, decide_eq_true_eq]
  exact or_congr_right (and_congr_left fun _ => ⟨congrArg SortKey.place, SortKey.place_injective⟩)

/-- An archive stands before another in a listing: its sort key does, or the keys are the same and
its number does. -/
def Precedes (field : SortField) (order : SortOrder) (a b : Volume) : Prop :=
  match order with
  | .ascending => a.before field b
  | .descending => b.before field a

variable {field : SortField} {order : SortOrder} {a b : Volume}

/-- No archive stands before itself, and what stands before one stands before all behind it. -/
instance : IsStrictOrder Volume (Precedes field order) where
  irrefl a := by
    cases order <;> exact fun before => lt_irrefl _ (before_iff.mp before)
  trans a b c first second := by
    cases order with
    | ascending => exact before_iff.mpr ((before_iff.mp first).trans (before_iff.mp second))
    | descending => exact before_iff.mpr ((before_iff.mp second).trans (before_iff.mp first))

/-- Of two archives with different numbers one stands before the other. -/
theorem precedes_or_precedes (different : a.id ≠ b.id) :
    a.Precedes field order b ∨ b.Precedes field order a := by
  have places : a.place field ≠ b.place field := fun same => different (congrArg (·.2) same)
  cases order with
  | ascending => exact (lt_or_gt_of_ne places).imp before_iff.mpr before_iff.mpr
  | descending => exact (lt_or_gt_of_ne places).symm.imp before_iff.mpr before_iff.mpr

theorem mayPrecede_ascending_iff :
    a.mayPrecede field .ascending b ↔ a.place field ≤ b.place field := by
  rw [mayPrecede, Bool.not_eq_true', ← Bool.not_eq_true, before_iff, not_lt]

theorem mayPrecede_descending_iff :
    a.mayPrecede field .descending b ↔ b.place field ≤ a.place field := by
  rw [mayPrecede, Bool.not_eq_true', ← Bool.not_eq_true, before_iff, not_lt]

theorem mayPrecede_trans (a b c : Volume) (first : a.mayPrecede field order b)
    (second : b.mayPrecede field order c) : a.mayPrecede field order c := by
  cases order with
  | ascending =>
    rw [mayPrecede_ascending_iff] at *
    exact first.trans second
  | descending =>
    rw [mayPrecede_descending_iff] at *
    exact second.trans first

theorem mayPrecede_total (a b : Volume) :
    (a.mayPrecede field order b || b.mayPrecede field order a) = true := by
  rw [Bool.or_eq_true]
  cases order with
  | ascending => simpa only [mayPrecede_ascending_iff] using le_total _ _
  | descending => simpa only [mayPrecede_descending_iff] using le_total _ _

theorem Precedes.of_mayPrecede (different : a.id ≠ b.id) (may : a.mayPrecede field order b) :
    a.Precedes field order b := by
  refine (precedes_or_precedes different).resolve_right fun behind => ?_
  cases order <;> simp [mayPrecede, show _ = true from behind] at may

end Volume

/-- The archives of a shelf have different numbers, so a listing has one order only. -/
theorem Shelf.isStrictTotalOrder_precedes {shelf : Shelf}
    (distinct : (shelf.volumes.map (·.id)).Nodup) (field : SortField) (order : SortOrder) :
    IsStrictTotalOrder { volume // volume ∈ shelf.volumes }
      fun a b => a.val.Precedes field order b.val where
  irrefl a := irrefl_of (Volume.Precedes field order) a.val
  trans _ _ _ := trans_of (Volume.Precedes field order)
  trichotomous a b notBefore notBehind := by
    by_contra different
    have apart : a.val.id ≠ b.val.id := fun same =>
      different (Subtype.ext (List.inj_on_of_nodup_map distinct a.property b.property same))
    exact (Volume.precedes_or_precedes apart).elim notBefore notBehind

theorem Shelf.nodup_ids_ordered {shelf : Shelf} (distinct : (shelf.volumes.map (·.id)).Nodup)
    (selection : Selection) : ((shelf.ordered selection).map (·.id)).Nodup := by
  have kept : ((shelf.matching selection.conditions).map (·.id)).Nodup :=
    distinct.sublist (List.filter_sublist.map _)
  have reordered := (List.mergeSort_perm (shelf.matching selection.conditions)
    (Volume.mayPrecede selection.sort selection.order)).map (·.id)
  exact reordered.nodup_iff.mpr kept

/-- The archives that satisfy a selection come in its order. -/
theorem Shelf.pairwise_ordered {shelf : Shelf} (distinct : (shelf.volumes.map (·.id)).Nodup)
    (selection : Selection) :
    (shelf.ordered selection).Pairwise (Volume.Precedes selection.sort selection.order) := by
  have sorted : (shelf.ordered selection).Pairwise fun a b =>
      a.mayPrecede selection.sort selection.order b :=
    List.pairwise_mergeSort Volume.mayPrecede_trans Volume.mayPrecede_total _
  have different : (shelf.ordered selection).Pairwise fun a b => a.id ≠ b.id :=
    List.pairwise_map.mp (nodup_ids_ordered distinct selection)
  exact (different.and sorted).imp fun ⟨apart, may⟩ => .of_mayPrecede apart may

end ComicCatalogue
