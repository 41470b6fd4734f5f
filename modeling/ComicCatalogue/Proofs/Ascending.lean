import Mathlib.Data.List.Dedup
import Mathlib.Data.List.Induction
import Mathlib.Data.List.Sort
import Mathlib.Data.String.Basic
import ComicCatalogue.Ascending

/-!
# Ascending lists as sets and maps

The ascending list of some values has exactly these values as its members, each of them once. Lists
with the same members therefore have the same ascending list. A list of keys with their values has
the value that a key was set to last, and its keys ascend as they would without their values.
-/

namespace ComicCatalogue

namespace Ascending

variable {α : Type} [LT α] [DecidableLT α] [DecidableEq α]

@[simp] theorem mem_insert {a b : α} {values : List α} :
    b ∈ insert a values ↔ b = a ∨ b ∈ values := by
  induction values with
  | nil => simp [insert]
  | cons c rest ih =>
    rw [insert]
    split
    · simp
    · split
      · rename_i same
        simp [same]
      · simp only [List.mem_cons, ih]
        exact or_left_comm

@[simp] theorem mem_ofList {a : α} {values : List α} : a ∈ ofList values ↔ a ∈ values := by
  induction values with
  | nil => rfl
  | cons b rest ih =>
    rw [ofList, List.foldr_cons, ← ofList, mem_insert, ih, List.mem_cons]

/-! ### Maps -/

section Maps

variable {β : Type}

omit [LT α] [DecidableLT α] in
theorem lookup_cons_eq_ite (key other : α) (value : β) (pairs : List (α × β)) :
    ((key, value) :: pairs).lookup other =
      if other = key then some value else pairs.lookup other := by
  by_cases same : other = key
  · simp [same]
  · simp [List.lookup_cons, same, beq_eq_false_iff_ne.mpr same]

omit [LT α] [DecidableLT α] in
theorem isSome_lookup_iff {key : α} {pairs : List (α × β)} :
    (pairs.lookup key).isSome ↔ key ∈ pairs.map (·.1) := by
  induction pairs with
  | nil => simp
  | cons pair rest ih =>
    rw [lookup_cons_eq_ite, List.map_cons, List.mem_cons, ← ih]
    by_cases same : key = pair.1 <;> simp [same]

omit [LT α] [DecidableLT α] in
/-- Where no key has two values, the first value of a key is any value of it. -/
theorem lookup_eq_some_iff_mem {key : α} {value : β} {pairs : List (α × β)}
    (distinct : (pairs.map (·.1)).Nodup) :
    pairs.lookup key = some value ↔ (key, value) ∈ pairs := by
  induction pairs with
  | nil => simp
  | cons pair rest ih =>
    obtain ⟨first, others⟩ := List.nodup_cons.mp distinct
    rw [lookup_cons_eq_ite, List.mem_cons, ← ih others]
    by_cases same : key = pair.1
    · subst same
      have absent : rest.lookup pair.1 = none := by
        rw [← Option.not_isSome_iff_eq_none, isSome_lookup_iff]
        exact first
      simp [absent, eq_comm, Prod.ext_iff]
    · simp [same, Prod.ext_iff]

/-- The keys after a key is set are those before it and the key. -/
theorem map_fst_put (key : α) (value : β) (pairs : List (α × β)) :
    (put key value pairs).map (·.1) = insert key (pairs.map (·.1)) := by
  induction pairs with
  | nil => rfl
  | cons pair rest ih =>
    obtain ⟨other, old⟩ := pair
    rw [put, List.map_cons, insert]
    by_cases below : key < other
    · rw [if_pos below, if_pos below]
      rfl
    · by_cases same : key = other
      · rw [if_neg below, if_pos same, if_neg below, if_pos same, List.map_cons, same]
      · rw [if_neg below, if_neg same, if_neg below, if_neg same, List.map_cons, ih]

theorem lookup_put (key other : α) (value : β) (pairs : List (α × β)) :
    (put key value pairs).lookup other =
      if other = key then some value else pairs.lookup other := by
  induction pairs with
  | nil => exact lookup_cons_eq_ite key other value []
  | cons pair rest ih =>
    obtain ⟨first, old⟩ := pair
    rw [put]
    by_cases below : key < first
    · rw [if_pos below, lookup_cons_eq_ite]
    · by_cases isFirst : key = first
      · subst isFirst
        rw [if_neg below, if_pos rfl, lookup_cons_eq_ite, lookup_cons_eq_ite]
        by_cases same : other = key <;> simp [same]
      · rw [if_neg below, if_neg isFirst, lookup_cons_eq_ite, lookup_cons_eq_ite, ih]
        by_cases same : other = key
        · rw [if_neg (same ▸ isFirst), if_pos same, if_pos same]
        · rw [if_neg same, if_neg same]

theorem lookup_ofPairs (pairs : List (α × β)) (key : α) :
    (ofPairs pairs).lookup key = pairs.reverse.lookup key := by
  induction pairs using List.reverseRecOn with
  | nil => rfl
  | append_singleton pairs pair ih =>
    rw [ofPairs, List.foldl_append, List.foldl_cons, List.foldl_nil, ← ofPairs, lookup_put,
      List.reverse_append, List.reverse_singleton, List.singleton_append, lookup_cons_eq_ite, ih]

/-- Where no key has two values, each keeps its own. -/
theorem lookup_ofPairs_of_nodup {pairs : List (α × β)} (distinct : (pairs.map (·.1)).Nodup)
    (key : α) : (ofPairs pairs).lookup key = pairs.lookup key := by
  have reversed : (pairs.reverse.map (·.1)).Nodup := by
    rw [List.map_reverse]
    exact List.nodup_reverse.mpr distinct
  rw [lookup_ofPairs]
  ext value
  rw [lookup_eq_some_iff_mem reversed, lookup_eq_some_iff_mem distinct, List.mem_reverse]

end Maps

variable [IsStrictTotalOrder α (· < ·)]

theorem pairwise_insert (a : α) {values : List α} (ascending : values.Pairwise (· < ·)) :
    (insert a values).Pairwise (· < ·) := by
  induction values with
  | nil => simp [insert]
  | cons b rest ih =>
    obtain ⟨first, later⟩ := List.pairwise_cons.mp ascending
    rw [insert]
    split
    · rename_i below
      refine List.pairwise_cons.mpr ⟨fun c member => ?_, ascending⟩
      rcases List.mem_cons.mp member with rfl | member
      · exact below
      · exact IsTrans.trans _ _ _ below (first c member)
    · split
      · exact ascending
      · rename_i notBelow different
        refine List.pairwise_cons.mpr ⟨fun c member => ?_, ih later⟩
        rcases mem_insert.mp member with rfl | member
        · exact ((trichotomous_of (· < ·) c b).resolve_left notBelow).resolve_left different
        · exact first c member

theorem pairwise_ofList (values : List α) : (ofList values).Pairwise (· < ·) := by
  induction values with
  | nil => exact List.Pairwise.nil
  | cons a rest ih => exact pairwise_insert a ih

/-- The ascending list of some values has as many members as there are different values. -/
theorem length_ofList (values : List α) : (ofList values).length = values.dedup.length := by
  have nodup : (ofList values).Nodup :=
    (pairwise_ofList values).imp fun below => ne_of_irrefl below
  refine ((List.perm_ext_iff_of_nodup nodup values.nodup_dedup).mpr fun a => ?_).length_eq
  rw [mem_ofList, List.mem_dedup]

end Ascending

end ComicCatalogue
