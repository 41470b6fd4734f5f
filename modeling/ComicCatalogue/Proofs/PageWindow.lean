import Mathlib.Algebra.Group.Nat.Defs
import Mathlib.Order.Basic
import Mathlib.Order.Nat
import ComicCatalogue.PageWindow
import ComicCatalogue.Shelf.Select

/-!
# Pages of a list

The pages of a list, one after the other, are the list. As a number of pages has 32 bits, so many
pages are counted at most; what is behind them is on no page.
-/

namespace ComicCatalogue

theorem excerpt_sublist {α : Type} (limit : Option Nat) (offset : Nat) (members : List α) :
    (excerpt limit offset members).Sublist members := by
  unfold excerpt
  split
  · exact List.drop_sublist _ _
  · exact (List.take_sublist _ _).trans (List.drop_sublist _ _)

theorem mem_of_mem_excerpt {α : Type} {limit : Option Nat} {offset : Nat} {members : List α}
    {member : α} (isIn : member ∈ excerpt limit offset members) : member ∈ members :=
  (excerpt_sublist limit offset members).mem isIn

/-- Excerpts of one length, each from where the last one ended, are the beginning of the list. -/
theorem flatMap_excerpt {α : Type} (size count : Nat) (members : List α) :
    ((List.range count).flatMap fun index => excerpt (some size) (size * index) members) =
      members.take (size * count) := by
  induction count with
  | zero => simp
  | succ count ih =>
    rw [List.range_succ, List.flatMap_append, ih, Nat.mul_succ, List.take_add]
    simp [excerpt]

namespace PageWindow

/-- The numbers that pages can be asked for by. Zero asks for the first page. -/
def IsPage (page : Nat) : Prop :=
  page ≤ maxPages

theorem isPage_one : IsPage 1 := by
  unfold IsPage
  decide

/-- Where the rows in front of a page can be counted, so many are left out. -/
theorem offset_max {size page : Nat} (fits : size * (page - 1) < 2 ^ 63) :
    offset size (max page 1) = ((size * (page - 1) : Nat) : Int) := by
  have before : ((max page 1 : Nat) : Int) - 1 = ((page - 1 : Nat) : Int) := by
    omega
  have bits : UInt64.size = 2 ^ 64 := rfl
  rw [offset, before, ← Int.natCast_mul]
  exact Int.bmod_eq_of_le (by omega) (by omega)

/-- So they can for all pages with a few rows. -/
theorem mul_lt_of_isPage {size page : Nat} (small : size ≤ 100) (isPage : IsPage page) :
    size * (page - 1) < 2 ^ 63 := by
  have most : page - 1 ≤ 0xFFFFFFFF := (Nat.sub_le page 1).trans isPage
  calc size * (page - 1) ≤ 100 * 0xFFFFFFFF := Nat.mul_le_mul small most
    _ < 2 ^ 63 := by decide

theorem pageCount_le_maxPages {size : Nat} (positive : 0 < size) (total : Int) :
    pageCount total size ≤ maxPages := by
  rw [pageCount, if_neg positive.ne']
  exact Nat.min_le_right _ _

theorem pageCount_zero {size : Nat} (positive : 0 < size) : pageCount 0 size = 0 := by
  rw [pageCount, if_neg positive.ne', Int.toNat_zero, Nat.zero_add,
    Nat.div_eq_of_lt (Nat.sub_lt positive Nat.one_pos), Nat.zero_min]

/-- Unless pages go uncounted, the counted ones hold all members. -/
theorem le_mul_pageCount {count size : Nat} (positive : 0 < size)
    (counted : pageCount count size < maxPages) : count ≤ size * pageCount count size := by
  rw [pageCount, if_neg positive.ne', Int.toNat_natCast] at counted ⊢
  rw [Nat.min_eq_left (by omega)]
  have split := Nat.div_add_mod (count + size - 1) size
  have small := Nat.mod_lt (count + size - 1) positive
  omega

/-- The counted pages hold what the largest number of pages would hold. -/
theorem take_mul_pageCount {α : Type} {size : Nat} (positive : 0 < size) (members : List α) :
    members.take (size * pageCount members.length size) = members.take (size * maxPages) := by
  have most := pageCount_le_maxPages positive members.length
  rcases most.lt_or_eq with counted | all
  · have within := le_mul_pageCount positive counted
    have more : members.length ≤ size * maxPages :=
      within.trans (Nat.mul_le_mul_left size most)
    rw [List.take_of_length_le within, List.take_of_length_le more]
  · rw [all]

/-- The counted pages, one after the other, hold as much of the list as so many pages can. -/
theorem flatMap_pages {α : Type} {size : Nat} (positive : 0 < size) (members : List α) :
    (List.range' 1 (pageCount members.length size)).flatMap
        (fun page => excerpt (some size) (size * (page - 1)) members) =
      members.take (size * maxPages) := by
  rw [← take_mul_pageCount positive, ← flatMap_excerpt, List.range'_eq_map_range, List.flatMap_map]
  simp only [Nat.add_sub_cancel_left]

/-- Behind the counted pages there is nothing. -/
theorem excerpt_of_pageCount_lt {α : Type} {size page : Nat} (positive : 0 < size)
    (members : List α) (isPage : IsPage page) (behind : pageCount members.length size < page) :
    excerpt (some size) (size * (page - 1)) members = [] := by
  have within := le_mul_pageCount positive (behind.trans_le isPage)
  have start : size * pageCount members.length size ≤ size * (page - 1) :=
    Nat.mul_le_mul_left size (by omega)
  rw [excerpt, List.drop_of_length_le (within.trans start), List.take_nil]

end PageWindow

end ComicCatalogue
