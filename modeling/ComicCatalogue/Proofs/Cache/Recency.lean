import Mathlib.Data.Finset.Card
import Mathlib.Data.List.TakeWhile
import ComicCatalogue.Proofs.Cache.History

/-!
# What a cache finds

The entries of a cache stand in the order in which they were touched. An entry is therefore given up
only when as many other keys as there is room for have been touched since, and what a cache finds
can be told from its history: which entry the history leaves under the key, whether it is fresh, and
how many other keys were touched since the key was.
-/

namespace ComicCatalogue.Cache

variable {α : Type}

/-! ### The order of touches -/

/-- A key was touched after another one was last touched. -/
def TouchedAfter (order : List Key) (key other : Key) : Prop :=
  key ∈ order.takeWhile (· ≠ other)

variable {order : List Key} {key other : Key}

theorem mem_touchedSince_iff : other ∈ touchedSince key order ↔ TouchedAfter order other key :=
  List.mem_toFinset

theorem TouchedAfter.ne (touched : TouchedAfter order key other) : key ≠ other := by
  simpa using List.mem_takeWhile_imp touched

theorem touchedAfter_cons_iff {first : Key} :
    TouchedAfter (first :: order) key other ↔
      first ≠ other ∧ (key = first ∨ TouchedAfter order key other) := by
  by_cases same : first = other
  · simp [TouchedAfter, same]
  · simp [TouchedAfter, same]

theorem TouchedAfter.asymm (touched : TouchedAfter order key other) :
    ¬TouchedAfter order other key := by
  induction order with
  | nil => cases touched
  | cons first order ih =>
    rw [touchedAfter_cons_iff] at touched ⊢
    rintro ⟨notKey, later⟩
    rcases touched.2 with rfl | earlier
    · exact notKey rfl
    · rcases later with rfl | later
      · exact touched.1 rfl
      · exact ih earlier later

theorem touchedSince_cons_of_ne (different : other ≠ key) :
    touchedSince key (other :: order) = insert other (touchedSince key order) := by
  simp [touchedSince, different]

/-- The entries stand in the order in which their keys were touched, the latest first. -/
def Ordered (order : List Key) (entries : List (Key × Held α)) : Prop :=
  entries.Pairwise fun entry other => TouchedAfter order entry.1 other.1

namespace Ordered

variable {entries : List (Key × Held α)} {entry : Key × Held α}

theorem nodup_keys (ordered : Ordered order entries) : (entries.map (·.1)).Nodup :=
  List.pairwise_map.mpr (ordered.imp TouchedAfter.ne)

/-- An entry that is touched is put in front of the others. -/
theorem touch (ordered : Ordered order entries) (key : Key) (held : Held α) :
    Ordered (key :: order) ((key, held) :: entries.filter (·.1 ≠ key)) := by
  have others : ∀ entry ∈ entries.filter (·.1 ≠ key), key ≠ entry.1 := fun entry member =>
    Ne.symm (by simpa using (List.mem_filter.mp member).2)
  refine List.pairwise_cons.mpr ⟨fun entry member => ?_, ?_⟩
  · exact touchedAfter_cons_iff.mpr ⟨others entry member, .inl rfl⟩
  · refine (ordered.filter _).imp_of_mem fun _ memberOther touched => ?_
    exact touchedAfter_cons_iff.mpr ⟨others _ memberOther, .inr touched⟩

/-- Only when as many other keys were touched since, an entry is not among the first ones. -/
theorem mem_take (ordered : Ordered order entries) (member : entry ∈ entries) {n : Nat}
    (few : (touchedSince entry.1 order).card < n) : entry ∈ entries.take n := by
  rw [← List.take_append_drop n entries] at member
  rcases List.mem_append.mp member with first | late
  · exact first
  · exfalso
    have long := List.length_pos_of_mem late
    rw [List.length_drop] at long
    have split := ordered
    rw [Ordered, ← List.take_append_drop n entries, List.pairwise_append] at split
    have nodup := ordered.nodup_keys.sublist ((List.take_sublist n entries).map _)
    have inFront : ((entries.take n).map (·.1)).toFinset ⊆ touchedSince entry.1 order := by
      intro key isKey
      obtain ⟨first, inTake, rfl⟩ := List.mem_map.mp (List.mem_toFinset.mp isKey)
      exact mem_touchedSince_iff.mpr (split.2.2 first inTake entry late)
    have atMost := Finset.card_le_card inFront
    rw [List.toFinset_card_of_nodup nodup, List.length_map, List.length_take] at atMost
    omega

/-- What was touched after one of the first entries is among the first ones. -/
theorem mem_take_of_touchedAfter (ordered : Ordered order entries) {first : Key × Held α} {n : Nat}
    (inTake : first ∈ entries.take n) (member : entry ∈ entries)
    (touched : TouchedAfter order entry.1 first.1) : entry ∈ entries.take n := by
  rw [← List.take_append_drop n entries] at member
  rcases List.mem_append.mp member with inFront | late
  · exact inFront
  · rw [Ordered, ← List.take_append_drop n entries, List.pairwise_append] at ordered
    exact absurd touched (ordered.2.2 first inTake entry late).asymm

/-- If all keys that were touched since an entry was are there, they are when one more is
touched. -/
theorem touchedSince_touch_subset (ordered : Ordered order entries)
    (all : ∀ entry ∈ entries, touchedSince entry.1 order ⊆ (entries.map (·.1)).toFinset)
    {key : Key} {held : Held α} {n : Nat}
    (member : entry ∈ ((key, held) :: entries.filter (·.1 ≠ key)).take n) :
    touchedSince entry.1 (key :: order) ⊆
      ((((key, held) :: entries.filter (·.1 ≠ key)).take n).map (·.1)).toFinset := by
  intro other since
  have touched := mem_touchedSince_iff.mp since
  obtain ⟨notKey, before⟩ := touchedAfter_cons_iff.mp touched
  have isThere : ∃ held', (other, held') ∈ (key, held) :: entries.filter (·.1 ≠ key) := by
    by_cases same : other = key
    · exact ⟨held, by rw [same]; exact List.mem_cons_self⟩
    · have old : entry ∈ entries := by
        rcases List.mem_cons.mp (List.mem_of_mem_take member) with rfl | old
        · exact absurd rfl notKey
        · exact List.mem_of_mem_filter old
      have isKey := all entry old (mem_touchedSince_iff.mpr (before.resolve_left same))
      obtain ⟨found, inEntries, rfl⟩ := List.mem_map.mp (List.mem_toFinset.mp isKey)
      exact ⟨found.2, List.mem_cons_of_mem _ (List.mem_filter.mpr ⟨inEntries, decide_eq_true same⟩)⟩
  obtain ⟨held', isThere⟩ := isThere
  have inTake := (ordered.touch key held).mem_take_of_touchedAfter member isThere touched
  exact List.mem_toFinset.mpr (List.mem_map_of_mem inTake)

end Ordered

/-! ### What an event does -/

variable {cache start : Cache α} {event : Event α} {held : Held α}

theorem effective_eq_getD (lifetime : Nat) (own : Option Nat) :
    Step.effective lifetime own = (own.filter (0 < ·)).getD lifetime := by
  cases own with
  | none => rfl
  | some n => cases n <;> rfl

@[simp] theorem capacity_after : (cache.after event).capacity = cache.capacity := by
  unfold after
  split
  case h_2 => unfold get; split <;> [rfl; (dsimp only; split <;> rfl)]
  all_goals rfl

@[simp] theorem lifetime_after : (cache.after event).lifetime = cache.lifetime := by
  unfold after
  split
  case h_2 => exact lifetime_get
  all_goals rfl

@[simp] theorem capacity_ofHistory (history : List (Event α)) :
    (ofHistory start history).capacity = start.capacity := by
  induction history with
  | nil => rfl
  | cons event earlier ih => rw [ofHistory, capacity_after, ih]

@[simp] theorem lifetime_ofHistory (history : List (Event α)) :
    (ofHistory start history).lifetime = start.lifetime := by
  induction history with
  | nil => rfl
  | cons event earlier ih => rw [ofHistory, lifetime_after, ih]

theorem ne_of_held?_eq_none {entry : Key × Held α} (absent : cache.held? key = none)
    (member : entry ∈ cache.entries) : entry.1 ≠ key := by
  have different := List.lookup_eq_none_iff.mp absent entry member
  exact Ne.symm (by simpa using different)

/-- A purge covers a key if it is one of everything or of the namespace of the key. -/
theorem covers_iff {space : Option String} :
    covers space key ↔ space = none ∨ space = some key.space := by
  cases space <;> simp [covers]

/-- What an event does to the entries: it sets a key, finds a result, or only takes entries out,
which are those that it ends and an expired one that it meets. -/
inductive Effect (cache : Cache α) (event : Event α) : Prop where
  | sets (key : Key) (value : α) (own : Option Nat) (isSet : event.step = .set key value own)
    (touched : cache.touched? event = some key)
    (entries : (cache.after event).entries =
      ((key, ⟨value, event.now, Step.effective cache.lifetime own⟩) ::
        cache.entries.filter (·.1 ≠ key)).take cache.capacity)
  | finds (key : Key) (held : Held α) (isGet : event.step = .get key)
    (isHeld : cache.held? key = some held) (touched : cache.touched? event = some key)
    (entries : (cache.after event).entries = (key, held) :: cache.entries.filter (·.1 ≠ key))
  | leaves (keep : Key × Held α → Bool) (touched : cache.touched? event = none)
    (entries : (cache.after event).entries = cache.entries.filter keep)
    (all : cache.takesOut event = false → ∀ entry ∈ cache.entries, keep entry)
    (kept : ∀ entry : Key × Held α, keep entry → ¬event.step.Ends entry.1)
    (taken : ∀ entry ∈ cache.entries, keep entry = false → event.step.Ends entry.1 ∨
      event.step = .get entry.1 ∧
        ∃ held, cache.held? entry.1 = some held ∧ held.isFresh event.now = false)

theorem effect (cache : Cache α) (event : Event α) : Effect cache event := by
  obtain ⟨now, step⟩ := event
  cases step with
  | set key value own =>
    refine .sets key value own rfl rfl ?_
    rw [effective_eq_getD]
    rfl
  | get key =>
    cases found : cache.held? key with
    | none =>
      refine .leaves (fun _ => true) ?_ ?_ (fun _ _ _ => rfl) (fun _ _ => id)
        fun _ _ gone => nomatch gone
      · simp [touched?, get, found]
      · simp [after, get, found]
    | some held =>
      by_cases fresh : held.isFresh now
      · refine .finds key held rfl found ?_ ?_
        · simp [touched?, get, found, fresh]
        · simp [after, get, found, fresh, without]
      · refine .leaves (·.1 ≠ key) ?_ ?_ (fun undisturbed => ?_) (fun _ _ => id)
          fun entry _ gone => ?_
        · simp [touched?, get, found, fresh]
        · simp [after, get, found, fresh, without]
        · simp [takesOut, found, fresh] at undisturbed
        · obtain rfl : entry.1 = key := by simpa using gone
          exact .inr ⟨rfl, held, found, Bool.not_eq_true _ ▸ fresh⟩
  | remove key =>
    refine .leaves (·.1 ≠ key) rfl rfl (fun undisturbed entry member => ?_)
      (fun entry kept same => ?_) fun entry _ gone => .inl ?_
    · have absent : cache.held? key = none := by simpa [takesOut, remove] using undisturbed
      exact decide_eq_true (ne_of_held?_eq_none absent member)
    · exact of_decide_eq_true kept same.symm
    · exact (of_not_not (of_decide_eq_false gone)).symm
  | purge space =>
    refine .leaves (!covers space ·.1) rfl rfl (fun undisturbed entry member => ?_)
      (fun entry kept ends => ?_) fun entry _ gone => .inl ?_
    · have none : cache.entries.countP (covers space ·.1) = 0 := by
        simpa only [takesOut, purge, decide_eq_false_iff_not, Nat.pos_iff_ne_zero, not_not]
          using undisturbed
      simpa using List.countP_eq_zero.mp none entry member
    · rw [covers_iff.mpr ends] at kept
      cases kept
    · exact covers_iff.mp (by simpa using gone)
  | _ =>
    refine .leaves (fun _ => true) rfl ?_ (fun _ _ _ => rfl) (fun _ _ => id)
      fun _ _ gone => nomatch gone
    simp [after]

/-! ### What a history leads to -/

variable {lifetime : Nat} {history : List (Event α)}

/-- A history leaves at most one entry under a key. -/
theorem Leaves.eq {other : Held α} (left : Leaves lifetime key history held)
    (leftOther : Leaves lifetime key history other) : held = other := by
  induction left with
  | set now value own earlier =>
    cases leftOther with
    | set => rfl
    | later kept => exact absurd rfl kept
  | later kept _ ih =>
    cases leftOther with
    | set => exact absurd rfl kept
    | later _ leftOther => exact ih leftOther

/-- How the entries of a cache follow from the history that has led to it. -/
structure Follows (history : List (Event α)) (order : List Key) (cache : Cache α) : Prop where
  /-- The entries stand in the order in which they were touched. -/
  ordered : Ordered order cache.entries
  /-- Each entry is the one that the history leaves under its key. -/
  left : ∀ entry ∈ cache.entries, Leaves cache.lifetime entry.1 history entry.2
  /-- There is room for the entries. -/
  size : cache.entries.length ≤ cache.capacity

/-- An entry that is found under a key is the one that the history leaves there. -/
theorem Follows.leaves_of_held? (follows : Follows history order cache)
    (found : cache.held? key = some held) : Leaves cache.lifetime key history held :=
  follows.left _ (mem_of_held? found)

theorem Follows.after (follows : Follows history order cache) (event : Event α) :
    Follows (event :: history) ((cache.touched? event).toList ++ order) (cache.after event) := by
  cases effect cache event with
  | sets key value own isSet touched entries =>
    obtain ⟨now, step⟩ := event
    obtain rfl : step = _ := isSet
    refine ⟨?_, fun entry member => ?_, ?_⟩
    · rw [touched, entries]
      exact (follows.ordered.touch key _).sublist (List.take_sublist _ _)
    · rw [lifetime_after]
      rw [entries] at member
      rcases List.mem_cons.mp (List.mem_of_mem_take member) with rfl | old
      · exact .set now value own history
      · obtain ⟨member, other⟩ := List.mem_filter.mp old
        have different : key ≠ entry.1 := Ne.symm (of_decide_eq_true other)
        exact .later different (follows.left entry member)
    · rw [capacity_after, entries]
      exact List.length_take_le _ _
  | finds key held isGet isHeld touched entries =>
    obtain ⟨now, step⟩ := event
    obtain rfl : step = _ := isGet
    refine ⟨?_, fun entry member => ?_, ?_⟩
    · rw [touched, entries]
      exact follows.ordered.touch key held
    · rw [lifetime_after]
      rw [entries] at member
      rcases List.mem_cons.mp member with rfl | old
      · exact .later id (follows.leaves_of_held? isHeld)
      · exact .later id (follows.left entry (List.mem_of_mem_filter old))
    · rw [capacity_after, entries]
      have shorter : (cache.entries.filter (·.1 ≠ key)).length < cache.entries.length :=
        List.length_filter_lt_length_iff_exists.mpr ⟨_, mem_of_held? isHeld, by simp⟩
      exact Nat.le_trans shorter follows.size
  | leaves keep touched entries _ kept =>
    refine ⟨?_, fun entry member => ?_, ?_⟩
    · rw [touched, entries]
      exact follows.ordered.sublist List.filter_sublist
    · rw [lifetime_after]
      rw [entries] at member
      obtain ⟨member, isKept⟩ := List.mem_filter.mp member
      exact .later (kept entry isKept) (follows.left entry member)
    · rw [capacity_after, entries]
      exact Nat.le_trans (List.length_filter_le _ _) follows.size

/-- Whatever is done with a cache that is empty at first, its entries follow from the history. -/
theorem follows_ofHistory (empty : start.entries = []) (history : List (Event α)) :
    Follows history (touches start history) (ofHistory start history) := by
  induction history with
  | nil =>
    refine ⟨?_, fun entry member => ?_, ?_⟩
    · rw [ofHistory, empty]
      exact List.Pairwise.nil
    · rw [ofHistory, empty] at member
      cases member
    · rw [ofHistory, empty]
      exact Nat.zero_le _
  | cons event earlier ih => exact ih.after event

/-- As long as a key itself is not touched, the keys that were touched since it was only become
more. -/
theorem touchedSince_subset_touched (untouched : cache.touched? event ≠ some key) :
    touchedSince key order ⊆ touchedSince key ((cache.touched? event).toList ++ order) := by
  cases touched : cache.touched? event with
  | none => exact Finset.Subset.refl _
  | some first =>
    have different : first ≠ key := fun same => untouched (same ▸ touched)
    rw [Option.toList_some, List.singleton_append, touchedSince_cons_of_ne different]
    exact Finset.subset_insert first _

/-- An event that touches a key and does not end what is kept there finds it. -/
theorem exists_of_touched (touched : cache.touched? event = some key)
    (kept : ¬event.step.Ends key) :
    ∃ held, cache.held? key = some held ∧ (key, held) ∈ (cache.after event).entries := by
  cases effect cache event with
  | sets other value own isSet touchedOther =>
    rw [touched] at touchedOther
    cases touchedOther
    rw [isSet] at kept
    exact absurd rfl kept
  | finds other held _ isHeld touchedOther entries =>
    rw [touched] at touchedOther
    cases touchedOther
    exact ⟨held, isHeld, entries ▸ List.mem_cons_self⟩
  | leaves _ untouched =>
    rw [touched] at untouched
    cases untouched

/-- An entry that an event neither touches nor ends stays where it is, unless it has expired or as
many other keys as there is room for were touched since its key was. -/
theorem mem_entries_after (ordered : Ordered order cache.entries)
    (member : (key, held) ∈ cache.entries) (untouched : cache.touched? event ≠ some key)
    (kept : ¬event.step.Ends key) (fresh : held.isFresh event.now)
    (few : (touchedSince key ((cache.touched? event).toList ++ order)).card < cache.capacity) :
    (key, held) ∈ (cache.after event).entries := by
  have inside (other : Key) (touched : cache.touched? event = some other) :
      (key, held) ∈ cache.entries.filter (·.1 ≠ other) := by
    refine List.mem_filter.mpr ⟨member, decide_eq_true fun same => untouched ?_⟩
    rw [touched, ← same]
  cases effect cache event with
  | sets other value own _ touched entries =>
    rw [touched, Option.toList_some, List.singleton_append] at few
    rw [entries]
    exact (ordered.touch other _).mem_take (List.mem_cons_of_mem _ (inside other touched)) few
  | finds other found _ _ touched entries =>
    rw [entries]
    exact List.mem_cons_of_mem _ (inside other touched)
  | leaves keep _ entries _ _ taken =>
    rw [entries]
    refine List.mem_filter.mpr ⟨member, Bool.of_not_eq_false fun gone => ?_⟩
    rcases taken _ member gone with ends | ⟨_, other, isHeld, expired⟩
    · exact kept ends
    · rw [(held?_eq_some_iff ordered.nodup_keys).mpr member] at isHeld
      cases isHeld
      rw [fresh] at expired
      cases expired

/-- An entry that a history leaves is there as long as it is fresh and fewer other keys than there
is room for were touched since its key was. -/
theorem mem_entries_of_leaves (empty : start.entries = []) {now : Nat}
    (left : Leaves start.lifetime key history held) (before : ∀ event ∈ history, event.now ≤ now)
    (fresh : held.isFresh now)
    (few : (touchedSince key (touches start history)).card < start.capacity) :
    (key, held) ∈ (ofHistory start history).entries := by
  induction left with
  | set moment value own earlier =>
    rw [ofHistory]
    cases effect (ofHistory start earlier) ⟨moment, .set key value own⟩ with
    | sets _ _ _ isSet _ entries =>
      cases isSet
      rw [entries, capacity_ofHistory, lifetime_ofHistory, List.take_cons (by omega)]
      exact List.mem_cons_self
    | finds _ _ isGet => cases isGet
    | leaves _ touched => cases touched
  | @later event earlier held kept left ih =>
    have follows := follows_ofHistory empty earlier
    rw [touches] at few
    rw [ofHistory]
    by_cases touched : (ofHistory start earlier).touched? event = some key
    · obtain ⟨found, isHeld, member⟩ := exists_of_touched touched kept
      have leftFound := follows.leaves_of_held? isHeld
      rw [lifetime_ofHistory] at leftFound
      rwa [leftFound.eq left] at member
    · have fewer : (touchedSince key (touches start earlier)).card < start.capacity :=
        (Finset.card_le_card (touchedSince_subset_touched touched)).trans_lt few
      have member := ih (fun event member => before event (List.mem_cons_of_mem _ member)) fresh
        fewer
      have freshThen := Held.isFresh_of_le fresh (before event List.mem_cons_self)
      exact mem_entries_after follows.ordered member touched kept freshThen
        ((capacity_ofHistory earlier).symm ▸ few)

/-- As long as nothing was taken out, what was touched since an entry was is still there. -/
theorem touchedSince_subset (empty : start.entries = []) (undisturbed : Undisturbed start history)
    {entry : Key × Held α} (member : entry ∈ (ofHistory start history).entries) :
    touchedSince entry.1 (touches start history) ⊆
      ((ofHistory start history).entries.map (·.1)).toFinset := by
  induction history generalizing entry with
  | nil =>
    rw [ofHistory, empty] at member
    cases member
  | cons event earlier ih =>
    have follows := follows_ofHistory empty earlier
    have all : ∀ entry ∈ (ofHistory start earlier).entries, _ := fun entry => ih undisturbed.2
    rw [ofHistory] at member ⊢
    rw [touches]
    cases effect (ofHistory start earlier) event with
    | sets key value own _ touched entries =>
      rw [entries] at member ⊢
      rw [touched]
      exact follows.ordered.touchedSince_touch_subset all member
    | finds key held _ _ touched entries =>
      rw [entries, ← List.take_length (l := (key, held) :: _)] at member ⊢
      rw [touched]
      exact follows.ordered.touchedSince_touch_subset all member
    | leaves keep touched entries keepsAll =>
      rw [entries, List.filter_eq_self.mpr (keepsAll undisturbed.1)] at member ⊢
      rw [touched]
      exact all entry member

/-- As long as nothing was taken out, an entry is there, and so is all that was touched since. -/
theorem card_touchedSince_lt (empty : start.entries = []) (undisturbed : Undisturbed start history)
    {entry : Key × Held α} (member : entry ∈ (ofHistory start history).entries) :
    (touchedSince entry.1 (touches start history)).card <
      (ofHistory start history).entries.length := by
  have inside : insert entry.1 (touchedSince entry.1 (touches start history)) ⊆
      ((ofHistory start history).entries.map (·.1)).toFinset :=
    Finset.insert_subset (List.mem_toFinset.mpr (List.mem_map_of_mem member))
      (touchedSince_subset empty undisturbed member)
  have notOther : entry.1 ∉ touchedSince entry.1 (touches start history) :=
    fun other => (mem_touchedSince_iff.mp other).ne rfl
  have nodup := (follows_ofHistory empty history).ordered.nodup_keys
  have atMost := Finset.card_le_card inside
  rwa [Finset.card_insert_of_notMem notOther, List.toFinset_card_of_nodup nodup,
    List.length_map] at atMost

/-- Whatever has been done with a cache in turn, what a look-up finds follows from the history
alone. A result that is found is the one that its key was last set to; it is fresh, and nothing has
removed or purged it. Such a result is found if fewer other keys than there is room for were touched
since its key was, and it is not found if there were as many, as long as only lack of room has taken
entries out. There is room for all entries, and no key has two. -/
theorem get_ofHistory (name : String) (capacity lifetime : Nat) (history : List (Event α))
    (now : Nat) (before : ∀ event ∈ history, event.now ≤ now) (key : Key) :
    let start : Cache α := empty name capacity lifetime
    let cache := ofHistory start history
    let others := touchedSince key (touches start history)
    (∀ value, (cache.get now key).1 = some value →
      ∃ held, Leaves lifetime key history held ∧ held.isFresh now ∧ held.value = value) ∧
    (∀ held, Leaves lifetime key history held → held.isFresh now → others.card < max capacity 1 →
      (cache.get now key).1 = some held.value) ∧
    (Undisturbed start history → max capacity 1 ≤ others.card → (cache.get now key).1 = none) ∧
    cache.entries.length ≤ max capacity 1 ∧ (cache.entries.map (·.1)).Nodup := by
  intro start cache others
  have follows : Follows history (touches start history) cache := follows_ofHistory rfl history
  have sameCapacity : cache.capacity = max capacity 1 := capacity_ofHistory history
  have sameLifetime : cache.lifetime = lifetime := lifetime_ofHistory history
  refine ⟨fun value found => ?_, fun held left fresh few => ?_, fun undisturbed many => ?_,
    sameCapacity ▸ follows.size, follows.ordered.nodup_keys⟩
  · obtain ⟨held, isHeld, fresh, same⟩ := get_eq_some_iff.mp found
    exact ⟨held, sameLifetime ▸ follows.leaves_of_held? isHeld, fresh, same⟩
  · have member : (key, held) ∈ cache.entries := mem_entries_of_leaves rfl left before fresh few
    cases found : cache.held? key with
    | none => exact absurd rfl (ne_of_held?_eq_none found member)
    | some other =>
      have same : held = other :=
        left.eq (sameLifetime ▸ follows.leaves_of_held? found)
      exact get_eq_some_iff.mpr ⟨other, found, same ▸ fresh, same ▸ rfl⟩
  · cases found : (cache.get now key).1 with
    | none => rfl
    | some value =>
      obtain ⟨held, isHeld, _⟩ := get_eq_some_iff.mp found
      have fewer : others.card < cache.entries.length :=
        card_touchedSince_lt rfl undisturbed (mem_of_held? isHeld)
      have size : cache.entries.length ≤ max capacity 1 := sameCapacity ▸ follows.size
      exact absurd (fewer.trans_le size) (Nat.not_lt.mpr many)

/-- Of three results in a cache with room for two, the one that was looked up before the third came
is found, and the other one is not. -/
theorem get_ofHistory_crowded :
    let first : Key := ⟨"archives", "first"⟩
    let second : Key := ⟨"archives", "second"⟩
    let third : Key := ⟨"archives", "third"⟩
    let history : List (Event Nat) := [⟨4, .set third 30 none⟩, ⟨3, .get first⟩,
      ⟨2, .set second 20 (some 0)⟩, ⟨1, .set first 10 (some 7)⟩]
    let cache := ofHistory (empty "archives" 2 9) history
    (∀ event ∈ history, event.now ≤ 5) ∧ (cache.get 5 first).1 = some 10 ∧
      (cache.get 5 second).1 = none := by
  intro first second third history cache
  have before : ∀ event ∈ history, event.now ≤ 5 := by decide
  obtain ⟨_, isFound, _⟩ := get_ofHistory "archives" 2 9 history 5 before first
  obtain ⟨_, _, notFound, _⟩ := get_ofHistory "archives" 2 9 history 5 before second
  have left : Leaves 9 first history ⟨10, 1, 7⟩ := by
    refine .later ?_ (.later id (.later ?_ (.set 1 10 (some 7) [])))
    · simp [Step.Ends, first, third]
    · simp [Step.Ends, first, second]
  exact ⟨before, isFound _ left (by decide) (by decide),
    notFound ⟨by decide, by decide, by decide, by decide, trivial⟩ (by decide)⟩

end ComicCatalogue.Cache
