import Mathlib.Algebra.Order.Floor.Div
import Mathlib.Data.List.Chain
import Mathlib.Order.Bounds.Basic
import ComicCatalogue.PageWindow.Bounded

/-!
# Windows fit in bounded numbers

Where a few numbers are left above the last page, no sum and no difference of page numbers gets out
of bounds: what is subtracted is smaller, since the cases before have ruled out the small numbers.
The window then is the one that unbounded numbers give, and it shows the pages around the current
one.
-/

namespace ComicCatalogue.PageWindow

/-- What the window around a page of a listing of so many pages shows. -/
structure IsAround (current totalPages : Nat) (window : PageWindow) : Prop where
  total : window.totalPages = totalPages
  /-- The page is moved to the nearest end if it is outside. -/
  clamped : window.current = min (max current 1) (max totalPages 1)
  /-- Each number is followed by the next one. -/
  consecutive : window.pages.IsChain fun page next => next = page + 1
  inside : ∀ page ∈ window.pages, 1 ≤ page ∧ page ≤ totalPages
  length : window.pages.length = min totalPages 10
  mem : 0 < totalPages → window.current ∈ window.pages
  /-- Away from the ends there are five pages before the current one and four behind it. -/
  centred : 1 ≤ (window.current : Int) - 5 → window.current + 4 ≤ totalPages →
    window.pages = List.range' (window.current - 5) 10

theorem isAround_around {current totalPages : Nat}
    (counted : shown current totalPages + behind ≤ maxPages) :
    IsAround current totalPages (around current totalPages) := by
  have clamped : (around current totalPages).current = min (max current 1) (max totalPages 1) := rfl
  have pages : (around current totalPages).pages =
      List.range' (first (around current totalPages).current totalPages) (min totalPages 10) :=
    if_pos counted
  have total : (around current totalPages).totalPages = totalPages := rfl
  generalize around current totalPages = window at *
  constructor
  · exact total
  · exact clamped
  · rw [pages]
    exact List.isChain_range' _ _ 1
  · intro page member
    rw [pages, List.mem_range'_1] at member
    unfold first width before behind at member
    split_ifs at member <;> omega
  · rw [pages, List.length_range']
  · intro filled
    rw [pages, List.mem_range'_1]
    unfold first width before behind
    split_ifs <;> omega
  · intro start finish
    rw [pages]
    have full : min totalPages 10 = 10 := by omega
    have place : first window.current totalPages = window.current - 5 := by
      unfold first width before behind
      split_ifs <;> omega
    rw [full, place]

/-! ### Page numbers of 32 bits -/

theorem add?_ofNat {a : UInt32} {n : Nat} (fits : a.toNat + n < 2 ^ 32) :
    ∃ sum, add? a (.ofNat n) = some sum ∧ sum.toNat = a.toNat + n := by
  have small : (UInt32.ofNat n).toNat = n :=
    UInt32.toNat_ofNat_of_lt' ((Nat.le_add_left n _).trans_lt fits)
  have fitted : a.toNat + (UInt32.ofNat n).toNat < UInt32.size := by rwa [small]
  refine ⟨a + UInt32.ofNat n, if_pos fitted, ?_⟩
  rw [UInt32.toNat_add, small, Nat.mod_eq_of_lt fits]

theorem sub?_ofNat {a : UInt32} {n : Nat} (below : n ≤ a.toNat) :
    ∃ difference, sub? a (.ofNat n) = some difference ∧ difference.toNat = a.toNat - n := by
  have small : (UInt32.ofNat n).toNat = n :=
    UInt32.toNat_ofNat_of_lt' (below.trans_lt a.toNat_lt)
  have le : (UInt32.ofNat n).toNat ≤ a.toNat := by rwa [small]
  refine ⟨a - UInt32.ofNat n, if_pos le, ?_⟩
  rw [UInt32.toNat_sub_of_le _ _ le, small]

theorem toNat_max (a b : UInt32) : (max a b).toNat = max a.toNat b.toNat := by
  change (if a ≤ b then b else a).toNat = _
  rw [apply_ite UInt32.toNat, Nat.max_def]
  rfl

theorem toNat_min (a b : UInt32) : (min a b).toNat = min a.toNat b.toNat := by
  change (if a ≤ b then a else b).toNat = _
  rw [apply_ite UInt32.toNat, Nat.min_def]
  rfl

/-- As long as the few pages behind the current one can be counted, the ends of the window are
found, and they are those that unbounded numbers give. -/
theorem ends?_of_lt {current totalPages : UInt32} (counted : current.toNat + behind < 2 ^ 32) :
    ∃ start finish, ends? current totalPages = some (start, finish) ∧
      start.toNat = first current.toNat totalPages.toNat ∧
      finish.toNat + 1 - start.toNat = min totalPages.toNat width := by
  unfold ends? first
  unfold width before behind at *
  by_cases none : totalPages = 0
  · exact ⟨1, 0, by rw [if_pos none], by simp [none], by simp [none]⟩
  rw [if_neg none]
  by_cases few : totalPages.toNat ≤ 10
  · rw [if_pos (UInt32.le_iff_toNat_le.mpr few), if_pos (.inl few), Nat.min_eq_left few]
    exact ⟨1, totalPages, rfl, rfl, Nat.add_sub_cancel _ 1⟩
  rw [if_neg (mt UInt32.le_iff_toNat_le.mp few), Nat.min_eq_right (by omega)]
  by_cases start : current.toNat ≤ 5
  · rw [if_pos (UInt32.le_iff_toNat_le.mpr start), if_pos (.inr start)]
    exact ⟨1, .ofNat 10, rfl, rfl, rfl⟩
  rw [if_neg (mt UInt32.le_iff_toNat_le.mp start), if_neg (by omega)]
  -- more than ten pages are left for the first difference, and five for the second one
  obtain ⟨last, added, toNat_last⟩ := add?_ofNat counted
  rw [added, Option.bind_eq_bind, Option.bind_some]
  by_cases finish : totalPages.toNat ≤ current.toNat + 4
  · obtain ⟨skipped, subtracted, toNat_skipped⟩ := @sub?_ofNat totalPages 10 (by omega)
    have bound := totalPages.toNat_lt
    obtain ⟨opening, added, toNat_opening⟩ := @add?_ofNat skipped 1 (by omega)
    have opened : add? skipped 1 = some opening := added
    rw [if_pos (UInt32.le_iff_toNat_le.mpr (toNat_last ▸ finish)), if_pos finish]
    refine ⟨opening, totalPages, ?_, by omega, by omega⟩
    rw [subtracted, Option.bind_some, opened]
    rfl
  · obtain ⟨opening, subtracted, toNat_opening⟩ := @sub?_ofNat current 5 (by omega)
    rw [if_neg (mt UInt32.le_iff_toNat_le.mp (toNat_last ▸ finish)), if_neg finish]
    refine ⟨opening, last, ?_, toNat_opening, by omega⟩
    rw [subtracted, Option.bind_some]
    rfl

theorem numbers_eq {start finish : UInt32} {count : Nat}
    (count_eq : finish.toNat + 1 - start.toNat = count) :
    numbers start finish = List.range' start.toNat count := by
  rw [numbers, count_eq]

/-- If too few numbers are left above a page, the sum gets out of bounds. -/
theorem ends?_of_le {current totalPages : UInt32} (most : 2 ^ 32 ≤ current.toNat + behind)
    (within : current ≤ totalPages) : ends? current totalPages = none := by
  have bound := totalPages.toNat_lt
  have le := UInt32.le_iff_toNat_le.mp within
  have uncounted : add? current (.ofNat behind) = none := if_neg (Nat.not_lt.mpr most)
  unfold ends?
  unfold behind at *
  rw [if_neg, if_neg, if_neg, uncounted, Option.bind_eq_bind, Option.bind_none]
  · intro small
    have := UInt32.le_iff_toNat_le.mp small
    change current.toNat ≤ 5 at this
    omega
  · intro small
    have := UInt32.le_iff_toNat_le.mp small
    change totalPages.toNat ≤ 10 at this
    omega
  · rintro rfl
    change current.toNat ≤ 0 at le
    omega

/-- The window is found unless too few numbers are left above the page, and then it is the one that
unbounded numbers give. -/
theorem around?_eq (current totalPages : UInt32) :
    around? current totalPages =
      if shown current.toNat totalPages.toNat + behind ≤ maxPages then
        some (around current.toNat totalPages.toNat)
      else none := by
  have clamped : (min (max current 1) (max totalPages 1)).toNat =
      shown current.toNat totalPages.toNat := by
    rw [toNat_min, toNat_max, toNat_max, UInt32.toNat_one, shown]
  by_cases counted : shown current.toNat totalPages.toNat + behind ≤ maxPages
  · have bound : (min (max current 1) (max totalPages 1)).toNat + behind < 2 ^ 32 :=
      clamped ▸ Nat.lt_succ_of_le counted
    obtain ⟨start, finish, found, start_eq, count⟩ := @ends?_of_lt _ totalPages bound
    simp only [around?, around, found, Option.bind_eq_bind, Option.bind_some, numbers_eq count,
      start_eq, clamped, if_pos counted]
    rfl
  · have most : 2 ^ 32 ≤ (min (max current 1) (max totalPages 1)).toNat + behind :=
      clamped ▸ Nat.lt_of_not_le counted
    have within : min (max current 1) (max totalPages 1) ≤ totalPages := by
      rw [UInt32.le_iff_toNat_le, clamped, shown]
      unfold shown behind maxPages at counted
      omega
    simp only [around?, ends?_of_le most within, Option.bind_eq_bind, Option.bind_none,
      if_neg counted]

/-- Every window in which page numbers can be counted is found. -/
theorem around?_of_le {current totalPages : UInt32}
    (counted : totalPages.toNat ≤ maxPages - behind) :
    around? current totalPages = some (around current.toNat totalPages.toNat) ∧
      IsAround current.toNat totalPages.toNat (around current.toNat totalPages.toNat) := by
  have few : shown current.toNat totalPages.toNat + behind ≤ maxPages := by
    unfold shown maxPages behind at *
    omega
  rw [around?_eq, if_pos few]
  exact ⟨rfl, isAround_around few⟩

theorem totalPages_of_around?_eq_some {current totalPages : UInt32} {window : PageWindow}
    (found : around? current totalPages = some window) :
    window.totalPages = totalPages.toNat := by
  simp only [around?, Option.bind_eq_bind, Option.bind_eq_some_iff] at found
  obtain ⟨ends, -, shown⟩ := found
  exact (congrArg PageWindow.totalPages (Option.some.inj shown)).symm

/-! ### Counting pages -/

/-- Rounding up gives the least number of pages that hold so many rows. -/
theorem isLeast_ceilDiv (rows : Nat) {size : Nat} (positive : 0 < size) :
    IsLeast {count : Nat | rows ≤ count * size} ((rows + size - 1) / size) := by
  rw [← Nat.ceilDiv_eq_add_pred_div]
  constructor
  · have enough := (ceilDiv_le_iff_le_mul positive).mp (le_refl (rows ⌈/⌉ size))
    rwa [Nat.mul_comm] at enough
  · intro count enough
    exact (ceilDiv_le_iff_le_mul positive).mpr (Nat.mul_comm count size ▸ enough)

/-- A quotient with a remainder has a divisor of two or more, so the number after it fits. -/
theorem toNat_divideUp (a : UInt64) {b : UInt64} (positive : 0 < b.toNat) :
    (divideUp a b).toNat = (a.toNat + b.toNat - 1) / b.toNat := by
  have whole : a.toNat / b.toNat * b.toNat + a.toNat % b.toNat = a.toNat :=
    Nat.div_add_mod' a.toNat b.toNat
  have small := Nat.mod_lt a.toNat positive
  unfold divideUp
  by_cases rest : 0 < a.toNat % b.toNat
  · have fits : a.toNat / b.toNat + 1 < 2 ^ 64 := by
      have half := Nat.div_le_div_left (c := 2) (b := b.toNat) (a := a.toNat) (by omega) (by omega)
      have bound := a.toNat_lt
      omega
    rw [if_pos (UInt64.lt_iff_toNat_lt.mpr (UInt64.toNat_mod a b ▸ rest)), UInt64.toNat_add,
      UInt64.toNat_div, UInt64.toNat_one, Nat.mod_eq_of_lt fits]
    refine (Nat.div_eq_of_lt_le ?_ ?_).symm
    · rw [Nat.succ_mul]
      omega
    · rw [Nat.succ_mul, Nat.succ_mul]
      omega
  · rw [if_neg (mt UInt64.lt_iff_toNat_lt.mp (UInt64.toNat_mod a b ▸ rest)), UInt64.toNat_div]
    refine (Nat.div_eq_of_lt_le ?_ ?_).symm
    · omega
    · rw [Nat.succ_mul]
      omega

/-- The rows that are counted are those that a count of 64 bits with a sign says, and none for a
count below zero. -/
theorem toNat_rows (total : Int64) :
    (if total < 0 then 0 else total.toUInt64).toNat = total.toInt.toNat := by
  by_cases negative : total < 0
  · rw [if_pos negative]
    rw [Int64.lt_iff_toInt_lt, Int64.toInt_zero] at negative
    exact (Int.toNat_of_nonpos negative.le).symm
  · rw [if_neg negative, ← UInt64.toNat_toBitVec, Int64.toBitVec_toUInt64, ← Int64.toInt_toBitVec]
    rw [Int64.lt_iff_toInt_lt, Int64.toInt_zero, ← Int64.toInt_toBitVec] at negative
    have cases := BitVec.toInt_eq_toNat_cond total.toBitVec
    split at cases <;> omega

theorem toNat_narrowed (pages : UInt64) :
    (if pages ≤ .ofNat maxPages then pages.toUInt32 else .ofNat maxPages).toNat =
      min pages.toNat maxPages := by
  by_cases fits : pages.toNat ≤ maxPages
  · rw [if_pos (UInt64.le_iff_toNat_le.mpr fits), Nat.min_eq_left fits, UInt64.toNat_toUInt32]
    exact Nat.mod_eq_of_lt (Nat.lt_succ_of_le fits)
  · rw [if_neg (mt UInt64.le_iff_toNat_le.mp fits), Nat.min_eq_right (Nat.le_of_not_le fits)]
    rfl

/-- Counting pages in bounded numbers stops at the largest page number. -/
theorem toNat_countPages (total : Int64) {pageSize : UInt32} (positive : 0 < pageSize.toNat) :
    (countPages total pageSize).toNat = pageCount total.toInt pageSize.toNat := by
  have some : pageSize ≠ 0 := fun none => positive.ne' (congrArg UInt32.toNat none)
  have divisor : 0 < pageSize.toUInt64.toNat := by rwa [UInt32.toNat_toUInt64]
  simp only [countPages, pageCount, if_neg some, if_neg positive.ne', toNat_narrowed,
    toNat_divideUp _ divisor, toNat_rows, UInt32.toNat_toUInt64]

/-- So the window of a listing is found in bounded numbers unless too few are left. -/
theorem ofTotal?_eq (current : UInt32) (total : Int64) {pageSize : UInt32}
    (positive : 0 < pageSize.toNat) :
    ofTotal? current total pageSize =
      if (ofTotal current.toNat total.toInt pageSize.toNat).current + behind ≤ maxPages then
        some (ofTotal current.toNat total.toInt pageSize.toNat)
      else none := by
  rw [ofTotal?, around?_eq, toNat_countPages total positive]
  rfl

/-- The number of pages of a listing is the least number that holds its rows, as far as it can be
counted. -/
theorem exists_isLeast_countPages (total : Int64) {pageSize : UInt32}
    (positive : 0 < pageSize.toNat) :
    ∃ pages, IsLeast {count : Nat | max total.toInt 0 ≤ count * pageSize.toNat} pages ∧
      (countPages total pageSize).toNat = min pages maxPages := by
  refine ⟨(total.toInt.toNat + pageSize.toNat - 1) / pageSize.toNat, ?_, ?_⟩
  · have holds : {count : Nat | max total.toInt 0 ≤ count * pageSize.toNat} =
        {count : Nat | total.toInt.toNat ≤ count * pageSize.toNat} := by
      ext count
      rw [Set.mem_ofPred_eq, Set.mem_ofPred_eq, ← Int.ofNat_toNat]
      exact_mod_cast Iff.rfl
    rw [holds]
    exact isLeast_ceilDiv _ positive
  · rw [toNat_countPages total positive, pageCount, if_neg positive.ne']

/-- Unless there are almost as many pages as can be counted, the window around any page is found
without a sum or a difference out of bounds. It shows up to ten numbers in a row around the current
page, and has as many pages as the rows take. -/
theorem windows_found :
    (∀ current totalPages : UInt32, totalPages.toNat ≤ UInt32.size - 1 - 4 →
      ∃ window, around? current totalPages = some window ∧
        IsAround current.toNat totalPages.toNat window ∧
        window = around current.toNat totalPages.toNat) ∧
    ∀ (current : UInt32) (total : Int64) (pageSize : UInt32), 1 ≤ pageSize.toNat →
      ∃ pages, IsLeast {count : Nat | max total.toInt 0 ≤ count * pageSize.toNat} pages ∧
        (countPages total pageSize).toNat = min pages maxPages ∧
        (∀ window, ofTotal? current total pageSize = some window →
          window.totalPages = min pages maxPages) ∧
        (pages ≤ UInt32.size - 1 - 4 → ofTotal? current total pageSize =
          some (ofTotal current.toNat total.toInt pageSize.toNat)) := by
  constructor
  · intro current totalPages counted
    obtain ⟨found, isAround⟩ := @around?_of_le current totalPages counted
    exact ⟨_, found, isAround, rfl⟩
  · intro current total pageSize positive
    obtain ⟨pages, least, counted⟩ := exists_isLeast_countPages total positive
    refine ⟨pages, least, counted, ?_, ?_⟩
    · intro window found
      rw [totalPages_of_around?_eq_some found, counted]
    · intro fits
      have few : pageCount total.toInt pageSize.toNat ≤ maxPages - behind := by
        rw [← toNat_countPages total positive, counted]
        exact (Nat.min_le_left _ _).trans fits
      rw [ofTotal?_eq current total positive, if_pos]
      change shown _ _ + behind ≤ maxPages
      unfold shown maxPages behind at *
      omega

/-- The last page that has four numbers above it, and a listing with more pages than that: only its
rows are counted, up to the largest number. -/
theorem windows_found_last :
    (∃ window, around? 4294967291 4294967291 = some window ∧
      IsAround 4294967291 4294967291 window ∧ window = around 4294967291 4294967291) ∧
    ∃ pages, IsLeast {count : Nat | max (Int64.toInt 4294967296) 0 ≤ count * UInt32.toNat 1} pages ∧
      (countPages 4294967296 1).toNat = min pages maxPages := by
  have windows := windows_found
  obtain ⟨pages, least, counted, -⟩ := windows.2 1 4294967296 1 (by decide)
  exact ⟨windows.1 4294967291 4294967291 (by decide), pages, least, counted⟩

end ComicCatalogue.PageWindow
