import Mathlib.Algebra.Group.Nat.Defs
import Mathlib.Data.List.Chain
import ComicCatalogue.Unicode.RangeMap

/-!
# What a table over code points holds

The ranges of a search tree from left to right are the list that it was arranged from, so whatever
a look-up finds is an entry of that list. If the list was ascending, every entry is found.
-/

namespace ComicCatalogue.Unicode.RangeMap

variable {α : Type}

/-- The ranges of a tree with their values, from left to right. -/
def toList : RangeMap α → List (Nat × Nat × α)
  | leaf => []
  | node left first last value right => left.toList ++ (first, last, value) :: right.toList

/-- Building a tree splits the list into the tree's ranges and the entries left. -/
theorem toList_build (depth : Nat) (entries : List (Nat × Nat × α)) :
    (build depth entries).1.toList ++ (build depth entries).2 = entries := by
  induction depth generalizing entries with
  | zero => rfl
  | succ depth ih =>
    have front := ih entries
    rw [build]
    split
    · rename_i left same
      rw [same] at front
      exact front
    · rename_i left first last value rest same
      rw [same] at front
      have back := ih rest
      simp only [toList, List.append_assoc, List.cons_append] at front back ⊢
      rw [back, front]

theorem mem_toList_of_find? {n first : Nat} {value : α} {table : RangeMap α}
    (found : table.find? n = some (first, value)) :
    ∃ last, (first, last, value) ∈ table.toList ∧ first ≤ n ∧ n ≤ last := by
  induction table with
  | leaf => cases found
  | node left low high middle right ihLeft ihRight =>
    rw [find?] at found
    split at found
    · obtain ⟨last, member, bounds⟩ := ihLeft found
      exact ⟨last, by simp [toList, member], bounds⟩
    · split at found
      · obtain ⟨last, member, bounds⟩ := ihRight found
        exact ⟨last, by simp [toList, member], bounds⟩
      · simp only [Option.some.injEq, Prod.mk.injEq] at found
        obtain ⟨rfl, rfl⟩ := found
        exact ⟨high, by simp [toList], by omega, by omega⟩

/-- What a look-up finds in an arranged list is an entry whose range holds the code point. -/
theorem mem_of_find?_ofSorted {n first : Nat} {value : α} {entries : List (Nat × Nat × α)}
    (found : (ofSorted entries).find? n = some (first, value)) :
    ∃ last, (first, last, value) ∈ entries ∧ first ≤ n ∧ n ≤ last := by
  obtain ⟨last, member, bounds⟩ := mem_toList_of_find? found
  refine ⟨last, ?_, bounds⟩
  rw [← toList_build (entries.length.log2 + 1) entries]
  exact List.mem_append_left _ member

/-- One range is not empty and lies below another. -/
def Precedes (entry other : Nat × Nat × α) : Prop :=
  entry.1 ≤ entry.2.1 ∧ entry.2.1 < other.1

instance : IsTrans (Nat × Nat × α) Precedes where
  trans _ _ _ := fun ⟨nonempty, below⟩ ⟨nonemptyNext, belowNext⟩ =>
    ⟨nonempty, (below.trans_le nonemptyNext).trans belowNext⟩

/-- A tree of some depth has room for one entry less than two to the power of its depth. -/
theorem build_eq_drop (depth : Nat) (entries : List (Nat × Nat × α)) :
    (build depth entries).2 = entries.drop (2 ^ depth - 1) := by
  induction depth generalizing entries with
  | zero => rfl
  | succ depth ih =>
    have front := ih entries
    have positive := Nat.two_pow_pos depth
    rw [build]
    split
    · rename_i left same
      rw [same, eq_comm, List.drop_eq_nil_iff] at front
      refine (List.drop_eq_nil_iff.mpr ?_).symm
      rw [Nat.pow_succ]
      omega
    · rename_i left first last value rest same
      rw [same] at front
      have behind : rest = entries.drop (2 ^ depth - 1 + 1) := by
        rw [← List.drop_drop, ← front, List.drop_one, List.tail_cons]
      have back := ih rest
      rw [behind, List.drop_drop] at back
      rw [behind]
      refine back.trans (congrArg entries.drop ?_)
      rw [Nat.pow_succ]
      omega

theorem toList_ofSorted (entries : List (Nat × Nat × α)) : (ofSorted entries).toList = entries := by
  have split := toList_build (entries.length.log2 + 1) entries
  have room : entries.length ≤ 2 ^ (entries.length.log2 + 1) - 1 :=
    Nat.le_sub_one_of_lt Nat.lt_log2_self
  rw [build_eq_drop, List.drop_eq_nil_iff.mpr room, List.append_nil] at split
  exact split

/-- Every entry of an ascending tree is found. -/
theorem find?_of_mem_toList {n first last : Nat} {value : α} {table : RangeMap α}
    (ascending : table.toList.Pairwise Precedes) (member : (first, last, value) ∈ table.toList)
    (low : first ≤ n) (high : n ≤ last) : table.find? n = some (first, value) := by
  induction table with
  | leaf => cases member
  | node left below above middle right ihLeft ihRight =>
    rw [toList, List.pairwise_append, List.pairwise_cons] at ascending
    obtain ⟨ascendingLeft, ⟨behind, ascendingRight⟩, before⟩ := ascending
    rw [toList, List.mem_append, List.mem_cons] at member
    rw [find?]
    rcases member with inLeft | here | inRight
    · have isBelow : last < below := (before _ inLeft _ List.mem_cons_self).2
      rw [if_pos (by omega), ihLeft ascendingLeft inLeft]
    · cases here
      rw [if_neg (by omega), if_neg (by omega)]
    · have isAbove : below ≤ above ∧ above < first := behind _ inRight
      rw [if_neg (by omega), if_pos (by omega), ihRight ascendingRight inRight]

/-- Whether ranges are not empty, each of them below the next. -/
def AreAscending (ranges : List (Nat × Nat)) : Prop :=
  ranges.IsChain fun range next => range.1 ≤ range.2 ∧ range.2 < next.1

instance (ranges : List (Nat × Nat)) : Decidable (AreAscending ranges) :=
  inferInstanceAs (Decidable (ranges.IsChain _))

/-- A table of ascending ranges contains what lies in one of them. -/
theorem contains_ofRanges_iff {n : Nat} {ranges : List (Nat × Nat)}
    (ascending : AreAscending ranges) :
    (ofRanges ranges).contains n ↔ ∃ range ∈ ranges, range.1 ≤ n ∧ n ≤ range.2 := by
  constructor
  · intro contains
    obtain ⟨⟨first, value⟩, found⟩ := Option.isSome_iff_exists.mp contains
    obtain ⟨last, member, bounds⟩ := mem_of_find?_ofSorted found
    obtain ⟨range, isRange, same⟩ := List.mem_map.mp member
    cases same
    exact ⟨range, isRange, bounds⟩
  · rintro ⟨⟨first, last⟩, isRange, low, high⟩
    have entries : (ofRanges ranges).toList = _ := toList_ofSorted _
    have ordered : (ofRanges ranges).toList.Pairwise Precedes := by
      rw [entries, ← List.isChain_iff_pairwise, List.isChain_map]
      exact ascending
    have member : (first, last, ()) ∈ (ofRanges ranges).toList := by
      rw [entries]
      exact List.mem_map_of_mem isRange
    have found := find?_of_mem_toList ordered member low high
    rw [contains, found, Option.isSome_some]

end ComicCatalogue.Unicode.RangeMap
