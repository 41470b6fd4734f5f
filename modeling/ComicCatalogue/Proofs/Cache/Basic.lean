import ComicCatalogue.Cache.Basic
import ComicCatalogue.Proofs.Ascending

/-!
# Where the entries of a cache come from

An operation on a cache adds at most the entry that is set. Whatever is found was there, and was
fresh; whatever a purge leaves is not covered by it.
-/

namespace ComicCatalogue.Cache

variable {α : Type} {cache : Cache α} {now : Nat} {key : Key} {entry : Key × Held α}

theorem mem_of_held? {held : Held α} (found : cache.held? key = some held) :
    (key, held) ∈ cache.entries := by
  obtain ⟨before, after, split, _⟩ := List.lookup_eq_some_iff.mp found
  rw [split]
  exact List.mem_append_right _ List.mem_cons_self

theorem held?_eq_some_iff (distinct : (cache.entries.map (·.1)).Nodup) {held : Held α} :
    cache.held? key = some held ↔ (key, held) ∈ cache.entries :=
  Ascending.lookup_eq_some_iff_mem distinct

/-- A result that can be found could be found before. -/
theorem Held.isFresh_of_le {held : Held α} {earlier : Nat} (fresh : held.isFresh now)
    (before : earlier ≤ now) : held.isFresh earlier := by
  rw [isFresh, decide_eq_true_eq] at *
  omega

theorem mem_of_mem_without (member : entry ∈ (cache.without key).entries) :
    entry ∈ cache.entries :=
  (List.mem_filter.mp member).1

theorem mem_of_mem_get (member : entry ∈ (cache.get now key).2.entries) :
    entry ∈ cache.entries := by
  unfold get at member
  split at member
  · exact member
  · rename_i held found
    simp only at member
    split at member
    · rcases List.mem_cons.mp member with rfl | other
      · exact mem_of_held? found
      · exact mem_of_mem_without other
    · exact mem_of_mem_without member

theorem get_eq_some_iff {value : α} :
    (cache.get now key).1 = some value ↔
      ∃ held, cache.held? key = some held ∧ held.isFresh now ∧ held.value = value := by
  unfold get
  cases found : cache.held? key with
  | none => simp
  | some held => by_cases fresh : held.isFresh now <;> simp [fresh]

/-- A result that is found is that of a fresh entry under the key. -/
theorem mem_of_get_eq_some {value : α} (found : (cache.get now key).1 = some value) :
    ∃ held, (key, held) ∈ cache.entries ∧ held.isFresh now ∧ held.value = value := by
  obtain ⟨held, isHeld, fresh, same⟩ := get_eq_some_iff.mp found
  exact ⟨held, mem_of_held? isHeld, fresh, same⟩

/-- A result is found if and only if it would be found. -/
theorem isSome_get (cache : Cache α) (now : Nat) (key : Key) :
    (cache.get now key).1.isSome = cache.contains now key := by
  unfold get contains
  cases cache.held? key with
  | none => rfl
  | some held =>
    by_cases fresh : held.isFresh now
    · simp [fresh]
    · simp [fresh]

@[simp] theorem lifetime_get : (cache.get now key).2.lifetime = cache.lifetime := by
  unfold get
  split
  · rfl
  · simp only
    split <;> rfl

theorem mem_of_mem_set {value : α}
    (member : entry ∈ (cache.set now key value none).entries) :
    entry = (key, ⟨value, now, cache.lifetime⟩) ∨ entry ∈ cache.entries :=
  (List.mem_cons.mp (List.mem_of_mem_take member)).imp_right mem_of_mem_without

theorem mem_purge_iff {space : Option String} :
    entry ∈ (cache.purge space).2.entries ↔
      entry ∈ cache.entries ∧ covers space entry.1 = false := by
  simp [purge]

end ComicCatalogue.Cache
