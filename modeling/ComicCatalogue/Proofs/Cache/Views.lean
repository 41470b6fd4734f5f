import Mathlib.Algebra.BigOperators.Finprod
import ComicCatalogue.Proofs.Ascending
import ComicCatalogue.Proofs.Cache.Recency

/-!
# The views of a cache agree

A cache can be asked for the result under a key, whether there would be one, for the keys of a
namespace, and for its size. Each of these reads the entries in its own way: a look-up takes the
first entry under the key, and the others pass over all entries and leave the expired ones out.
Since no key has two entries, they all tell of the same keys. The counters tell how many look-ups
there were and how many of them found something.
-/

namespace ComicCatalogue.Cache

variable {α : Type}

/-- Whether a step looks a result up. -/
def Step.isLookUp : Step α → Bool
  | get _ => true
  | _ => false

/-- What a look-up finds, if an event is one. -/
def found? (cache : Cache α) (event : Event α) : Option (Option α) :=
  match event.step with
  | .get key => some (cache.get event.now key).1
  | _ => none

/-- What the look-ups of a history found, the latest first. -/
def lookUps (start : Cache α) : List (Event α) → List (Option α)
  | [] => []
  | event :: earlier => ((ofHistory start earlier).found? event).toList ++ lookUps start earlier

/-- The keys of the results that would be found, the one touched last first. -/
def freshKeys (now : Nat) (cache : Cache α) : List Key :=
  (cache.entries.filter (·.2.isFresh now)).map (·.1)

/-! ### Counters -/

variable {start cache : Cache α} {event : Event α} {history : List (Event α)}

/-- An event counts as a hit if it is a look-up that finds something, and as a miss if it is one
that finds nothing. -/
theorem counters_after (cache : Cache α) (event : Event α) :
    (cache.after event).hits = (cache.found? event).toList.countP Option.isSome + cache.hits ∧
      (cache.after event).misses =
        (cache.found? event).toList.countP Option.isNone + cache.misses := by
  obtain ⟨now, step⟩ := event
  cases step with
  | get key =>
    simp only [after, found?, get]
    cases cache.held? key with
    | none => simp [Nat.add_comm]
    | some held => by_cases fresh : held.isFresh now <;> simp [fresh, Nat.add_comm]
  | _ => simp [after, found?, set, remove, without, purge]

theorem counters_ofHistory (start : Cache α) (history : List (Event α)) :
    (ofHistory start history).hits = (lookUps start history).countP Option.isSome + start.hits ∧
      (ofHistory start history).misses =
        (lookUps start history).countP Option.isNone + start.misses := by
  induction history with
  | nil => simp [ofHistory, lookUps]
  | cons event earlier ih =>
    obtain ⟨hits, misses⟩ := counters_after (ofHistory start earlier) event
    simp only [ofHistory, lookUps, List.countP_append]
    omega

theorem length_lookUps (start : Cache α) (history : List (Event α)) :
    (lookUps start history).length = history.countP (·.step.isLookUp) := by
  induction history with
  | nil => rfl
  | cons event earlier ih =>
    obtain ⟨now, step⟩ := event
    cases step <;> simp [lookUps, found?, Step.isLookUp, ih]

theorem countP_isSome_add_countP_isNone {β : Type} (values : List (Option β)) :
    values.countP Option.isSome + values.countP Option.isNone = values.length := by
  rw [List.length_eq_countP_add_countP Option.isSome]
  congr 1
  apply List.countP_congr
  intro value _
  simp

/-! ### Entries -/

theorem size_stats (cache : Cache α) (now : Nat) :
    (cache.stats now).size = (cache.freshKeys now).length := by
  rw [freshKeys, List.length_map, stats, List.countP_eq_length_filter]

/-- Every key is in one namespace, so the namespaces have all keys together. -/
theorem finsum_countP_space (keys : List Key) :
    ∑ᶠ space, keys.countP (·.space = space) = keys.length := by
  have each (space : String) :
      keys.countP (·.space = space) = (keys.map Key.space).count space := by
    rw [List.count, List.countP_map]
    rfl
  rw [finsum_congr each, ← List.length_map Key.space, ← List.sum_toFinset_count_eq_length]
  apply finsum_eq_sum_of_support_subset
  intro space isSupport
  rw [Function.mem_support] at isSupport
  exact Finset.mem_coe.mpr (List.mem_toFinset.mpr (List.count_pos_iff.mp (by omega)))

section Distinct

variable {now : Nat} {key : Key} {held : Held α} {space : String}
  (distinct : (cache.entries.map (·.1)).Nodup)

include distinct

theorem contains_iff_mem_freshKeys : cache.contains now key ↔ key ∈ cache.freshKeys now := by
  simp only [contains, Option.any_eq_true, held?_eq_some_iff distinct, freshKeys, List.mem_map,
    List.mem_filter]
  constructor
  · rintro ⟨held, member, fresh⟩
    exact ⟨(key, held), ⟨member, fresh⟩, rfl⟩
  · rintro ⟨entry, ⟨member, fresh⟩, rfl⟩
    exact ⟨entry.2, member, fresh⟩

theorem nodup_freshKeys : (cache.freshKeys now).Nodup :=
  distinct.sublist (List.filter_sublist.map _)

omit distinct in
theorem keysIn_eq : cache.keysIn now space =
    Ascending.ofList (((cache.freshKeys now).filter (·.space = space)).map (·.key)) := by
  rw [keysIn, freshKeys]
  congr 1
  induction cache.entries with
  | nil => rfl
  | cons entry rest ih =>
    by_cases fresh : entry.2.isFresh now <;> by_cases inside : entry.1.space = space <;>
      simp [fresh, inside, ih]

/-- The list of the keys of a namespace has them in another order than the entries, but drops
none. -/
theorem keysIn_perm : (cache.keysIn now space).Perm
    (((cache.freshKeys now).filter (·.space = space)).map (·.key)) := by
  have nodup : (((cache.freshKeys now).filter (·.space = space)).map (·.key)).Nodup := by
    refine List.Nodup.map_on ?_ ((nodup_freshKeys distinct).filter _)
    rintro ⟨spaceA, keyA⟩ memberA ⟨spaceB, keyB⟩ memberB same
    have inA := of_decide_eq_true (List.mem_filter.mp memberA).2
    have inB := of_decide_eq_true (List.mem_filter.mp memberB).2
    simp_all
  have ascending : (cache.keysIn now space).Pairwise (· < ·) := Ascending.pairwise_ofList _
  refine (List.perm_ext_iff_of_nodup (ascending.imp ne_of_lt) nodup).mpr fun key => ?_
  rw [keysIn_eq, Ascending.mem_ofList]

theorem mem_keysIn_iff {name : String} :
    name ∈ cache.keysIn now space ↔ cache.contains now ⟨space, name⟩ := by
  rw [(keysIn_perm distinct).mem_iff, contains_iff_mem_freshKeys distinct, List.mem_map]
  constructor
  · rintro ⟨key, member, rfl⟩
    obtain ⟨isFresh, inside⟩ := List.mem_filter.mp member
    rw [← of_decide_eq_true inside]
    exact isFresh
  · intro isFresh
    exact ⟨⟨space, name⟩, List.mem_filter.mpr ⟨isFresh, decide_eq_true rfl⟩, rfl⟩

/-- The size of a cache is the number of keys that something would be found under. -/
theorem size_stats_eq_card : (cache.stats now).size = (cache.freshKeys now).toFinset.card := by
  rw [List.toFinset_card_of_nodup (nodup_freshKeys distinct), size_stats]

theorem length_keysIn :
    (cache.keysIn now space).length = (cache.freshKeys now).countP (·.space = space) := by
  rw [(keysIn_perm distinct).length_eq, List.length_map, List.countP_eq_length_filter]

/-- Every key that something would be found under is listed in one namespace. -/
theorem finsum_length_keysIn :
    ∑ᶠ space, (cache.keysIn now space).length = (cache.stats now).size := by
  have each (space : String) : (cache.keysIn now space).length =
      (cache.freshKeys now).countP (·.space = space) := length_keysIn distinct
  rw [size_stats, ← finsum_countP_space]
  exact finsum_congr each

end Distinct

/-- Whatever has been done with a cache in turn, its views agree at every moment. The keys of a
namespace are listed in ascending order, each once, and they are those under which something would
be found. The size is the number of these keys, which is the sum over all namespaces, and there is
room for them. A look-up finds something if and only if something would be found. The counters tell
how many look-ups there were in all, how many of them found something, and how many did not. -/
theorem views_agree (name : String) (capacity lifetime : Nat) (history : List (Event α))
    (now : Nat) :
    let start : Cache α := empty name capacity lifetime
    let cache := ofHistory start history
    (∀ space, (cache.keysIn now space).Pairwise (· < ·) ∧
      ∀ name, name ∈ cache.keysIn now space ↔ cache.contains now ⟨space, name⟩) ∧
    (∃ keys : Finset Key, (∀ key, key ∈ keys ↔ cache.contains now key) ∧
      (cache.stats now).size = keys.card) ∧
    (cache.stats now).size = ∑ᶠ space, (cache.keysIn now space).length ∧
    (cache.stats now).size ≤ max capacity 1 ∧
    (∀ key, (cache.get now key).1.isSome = cache.contains now key) ∧
    (cache.stats now).lookups = history.countP (·.step.isLookUp) ∧
    (cache.stats now).hits = (lookUps start history).countP Option.isSome ∧
    (cache.stats now).misses = (lookUps start history).countP Option.isNone := by
  intro start cache
  have follows : Follows history (touches start history) cache := follows_ofHistory rfl history
  have distinct := follows.ordered.nodup_keys
  obtain ⟨hits, misses⟩ := counters_ofHistory start history
  refine ⟨fun space => ⟨Ascending.pairwise_ofList _, fun _ => mem_keysIn_iff distinct⟩,
    ⟨(cache.freshKeys now).toFinset, fun key => ?_, size_stats_eq_card distinct⟩,
    (finsum_length_keysIn distinct).symm, ?_, isSome_get cache now, ?_, hits, misses⟩
  · rw [List.mem_toFinset, contains_iff_mem_freshKeys distinct]
  · have room : cache.capacity = max capacity 1 := capacity_ofHistory history
    rw [← room]
    exact List.countP_le_length.trans follows.size
  · calc (cache.stats now).lookups
        = cache.hits + cache.misses := rfl
      _ = (lookUps start history).countP Option.isSome +
          (lookUps start history).countP Option.isNone := by rw [hits, misses]; rfl
      _ = (lookUps start history).length := countP_isSome_add_countP_isNone _
      _ = history.countP (·.step.isLookUp) := length_lookUps start history

end ComicCatalogue.Cache
