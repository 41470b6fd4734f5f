import ComicCatalogue.Proofs.Cache.Views

/-!
# What a purge of a namespace leaves

A purge of a namespace removes the entries of the namespace, one after the other, and nothing else:
the other entries stay, in the order in which they were touched, so that they give way in the same
order when new keys come. A purge of everything is one of every namespace in turn.
-/

namespace ComicCatalogue.Cache

/-- Makes a step for each of some items in turn, and adds up what the steps count. -/
def inTurn {σ ι : Type} (step : ι → σ → Nat × σ) : List ι → σ → Nat × σ
  | [], state => (0, state)
  | item :: rest, state =>
    let (count, state) := step item state
    let (more, state) := inTurn step rest state
    (count + more, state)

variable {α : Type}

/-- The keys of a cache, the one touched last first. -/
def keys (cache : Cache α) : List Key :=
  cache.entries.map (·.1)

/-- Removes an entry, and counts it if there was one. -/
def removal (key : Key) (cache : Cache α) : Nat × Cache α :=
  ((cache.remove key).1.toNat, (cache.remove key).2)

/-- The key that an event sets. -/
def Event.setKey? (event : Event α) : Option Key :=
  match event.step with
  | .set key _ _ => some key
  | _ => none

variable {cache start : Cache α} {key : Key} {doomed : List Key} {space : String}

theorem covers_some_iff : covers (some space) key ↔ key.space = space := by
  simp [covers, eq_comm]

theorem covers_some (space : String) (key : Key) :
    covers (some space) key = decide (key.space = space) := by
  rw [Bool.eq_iff_iff, covers_some_iff, decide_eq_true_iff]

theorem nodup_keys_ofHistory (empty : start.entries = []) (history : List (Event α)) :
    (ofHistory start history).keys.Nodup :=
  (follows_ofHistory empty history).ordered.nodup_keys

theorem mem_keys_iff : key ∈ cache.keys ↔ ∃ held, (key, held) ∈ cache.entries := by
  simp [keys]

theorem isSome_held?_iff : (cache.held? key).isSome ↔ key ∈ cache.keys :=
  Ascending.isSome_lookup_iff

theorem get_of_notMem_keys (absent : key ∉ cache.keys) (now : Nat) :
    (cache.get now key).1 = none := by
  rw [← isSome_held?_iff, Bool.not_eq_true, Option.isSome_eq_false_iff,
    Option.isNone_iff_eq_none] at absent
  rw [get, absent]

/-! ### One entry after the other -/

theorem keys_without : (cache.without key).keys = cache.keys.filter (· ≠ key) := by
  rw [keys, without, keys, List.filter_map]
  rfl

/-- Keys that are there can be removed one after the other, each once. -/
theorem inTurn_removal (nodup : doomed.Nodup) (stored : ∀ key ∈ doomed, key ∈ cache.keys) :
    inTurn removal doomed cache =
      (doomed.length, { cache with entries := cache.entries.filter (·.1 ∉ doomed) }) := by
  induction doomed generalizing cache with
  | nil => simp [inTurn]
  | cons key rest ih =>
    obtain ⟨first, others⟩ := List.nodup_cons.mp nodup
    have isThere : (cache.held? key).isSome :=
      isSome_held?_iff.mpr (stored key List.mem_cons_self)
    have stillStored : ∀ other ∈ rest, other ∈ (cache.without key).keys := by
      intro other member
      rw [keys_without, List.mem_filter]
      refine ⟨stored other (List.mem_cons_of_mem _ member), decide_eq_true ?_⟩
      rintro rfl
      exact first member
    have left : (cache.without key).entries.filter (·.1 ∉ rest) =
        cache.entries.filter (·.1 ∉ key :: rest) := by
      rw [without, List.filter_filter]
      refine List.filter_congr fun entry _ => ?_
      simp [Bool.and_comm]
    simp only [inTurn, removal, remove, isThere, ih others stillStored, left, Bool.toNat_true,
      List.length_cons, Nat.add_comm 1]
    rfl

/-- A purge of a namespace removes the entries of the namespace one after the other. -/
theorem inTurn_removal_eq_purge (distinct : cache.keys.Nodup) (space : String) :
    inTurn removal (cache.keys.filter (·.space = space)) cache = cache.purge (some space) := by
  have stored : ∀ key ∈ cache.keys.filter (·.space = space), key ∈ cache.keys :=
    fun key member => List.mem_of_mem_filter member
  rw [inTurn_removal (distinct.filter _) stored, purge, ← List.countP_eq_length_filter, keys,
    List.countP_map]
  congr 2
  · funext entry
    exact (covers_some space entry.1).symm
  · refine List.filter_congr fun entry member => ?_
    have isKey : entry.1 ∈ cache.entries.map (·.1) := List.mem_map_of_mem member
    simp [covers_some, isKey]

/-! ### What is left -/

theorem held?_purge (space : Option String) (key : Key) :
    (cache.purge space).2.held? key = if covers space key then none else cache.held? key := by
  simp only [held?, purge]
  induction cache.entries with
  | nil => simp
  | cons entry rest ih =>
    obtain ⟨other, held⟩ := entry
    rw [List.lookup_cons]
    by_cases same : key = other
    · subst same
      by_cases covered : covers space key
      · simpa [covered] using ih
      · simp [covered]
    · by_cases covered : covers space other
      · simpa [covered, beq_eq_false_iff_ne.mpr same] using ih
      · simpa [covered, List.lookup_cons, beq_eq_false_iff_ne.mpr same] using ih

theorem keys_purge (space : Option String) :
    (cache.purge space).2.keys = cache.keys.filter (!covers space ·) := by
  rw [keys, keys, purge, List.filter_map]
  rfl

/-- Purging some namespaces in turn removes their entries and leaves all others. -/
theorem inTurn_purge (spaces : List String) (cache : Cache α) :
    inTurn (purge ∘ some) spaces cache =
      (cache.entries.countP (·.1.space ∈ spaces),
        { cache with entries := cache.entries.filter (·.1.space ∉ spaces) }) := by
  induction spaces generalizing cache with
  | nil => simp [inTurn]
  | cons space rest ih =>
    have count : cache.entries.countP (covers (some space) ·.1) +
        (cache.entries.filter (!covers (some space) ·.1)).countP (·.1.space ∈ rest) =
          cache.entries.countP (·.1.space ∈ space :: rest) := by
      rw [List.countP_eq_countP_filter_add cache.entries (·.1.space ∈ space :: rest)
        (covers (some space) ·.1), List.countP_filter, List.countP_filter, List.countP_filter]
      congr 1
      · refine List.countP_congr fun entry _ => ?_
        simp +contextual [covers_some]
      · refine List.countP_congr fun entry _ => ?_
        simp +contextual [covers_some]
    have left : (cache.entries.filter (!covers (some space) ·.1)).filter (·.1.space ∉ rest) =
        cache.entries.filter (·.1.space ∉ space :: rest) := by
      rw [List.filter_filter]
      refine List.filter_congr fun entry _ => ?_
      simp [covers_some, Bool.and_comm]
    simp only [inTurn, Function.comp_apply, ih, purge, count, left]

/-- Purging every namespace in turn, in any order, is purging everything. -/
theorem inTurn_purge_of_all {spaces : List String}
    (all : ∀ key ∈ cache.keys, key.space ∈ spaces) :
    inTurn (purge ∘ some) spaces cache = cache.purge none := by
  have count : cache.entries.countP (·.1.space ∈ spaces) =
      cache.entries.countP (covers none ·.1) := by
    refine List.countP_congr fun entry member => ?_
    simpa [covers] using all entry.1 (List.mem_map_of_mem member)
  have left : cache.entries.filter (·.1.space ∉ spaces) =
      cache.entries.filter (!covers none ·.1) := by
    refine List.filter_congr fun entry member => ?_
    simpa [covers] using all entry.1 (List.mem_map_of_mem member)
  rw [inTurn_purge, count, left]
  rfl

theorem purge_none (cache : Cache α) :
    cache.purge none = (cache.keys.length, { cache with entries := [] }) := by
  simp [purge, covers, keys]

theorem count_purge_some (space : String) :
    (cache.purge (some space)).1 = cache.keys.countP (·.space = space) := by
  rw [purge, keys, List.countP_map]
  refine List.countP_congr fun entry _ => ?_
  simp [covers_some]

/-! ### What happens afterwards -/

variable {history : List (Event α)}

theorem notMem_keys_after {event : Event α} (absent : key ∉ cache.keys)
    (unset : event.setKey? ≠ some key) : key ∉ (cache.after event).keys := by
  intro member
  obtain ⟨held, inEntries⟩ := mem_keys_iff.mp member
  apply absent
  cases effect cache event with
  | sets other value own isSet _ entries =>
    rw [entries] at inEntries
    rcases List.mem_cons.mp (List.mem_of_mem_take inEntries) with same | old
    · simp [Event.setKey?, isSet, (Prod.mk.inj same).1] at unset
    · exact mem_keys_iff.mpr ⟨held, List.mem_of_mem_filter old⟩
  | finds other found isGet isHeld _ entries =>
    rw [entries] at inEntries
    rcases List.mem_cons.mp inEntries with same | old
    · rw [(Prod.mk.inj same).1]
      exact mem_keys_iff.mpr ⟨found, mem_of_held? isHeld⟩
    · exact mem_keys_iff.mpr ⟨held, List.mem_of_mem_filter old⟩
  | leaves keep _ entries =>
    rw [entries] at inEntries
    exact mem_keys_iff.mpr ⟨held, List.mem_of_mem_filter inEntries⟩

/-- A key that is not there is not there until it is set. -/
theorem notMem_keys_ofHistory (absent : key ∉ start.keys)
    (unset : ∀ event ∈ history, event.setKey? ≠ some key) :
    key ∉ (ofHistory start history).keys := by
  induction history with
  | nil => exact absent
  | cons event earlier ih =>
    obtain ⟨last, before⟩ := List.forall_mem_cons.mp unset
    exact notMem_keys_after (ih before) last

/-- The keys that a history sets, the one set last first, each once. -/
def setKeys : List (Event α) → List Key
  | [] => []
  | event :: earlier =>
    match event.setKey? with
    | some key => key :: (setKeys earlier).filter (· ≠ key)
    | none => setKeys earlier

theorem nodup_setKeys (history : List (Event α)) : (setKeys history).Nodup := by
  induction history with
  | nil => exact List.nodup_nil
  | cons event earlier ih =>
    rw [setKeys]
    split
    · refine List.nodup_cons.mpr ⟨?_, ih.filter _⟩
      simp
    · exact ih

theorem exists_of_mem_setKeys (member : key ∈ setKeys history) :
    ∃ event ∈ history, event.setKey? = some key := by
  induction history with
  | nil => cases member
  | cons event earlier ih =>
    rw [setKeys] at member
    split at member
    · rename_i other isSet
      rcases List.mem_cons.mp member with rfl | old
      · exact ⟨event, List.mem_cons_self, isSet⟩
      · obtain ⟨before, isEarlier, isSet⟩ := ih (List.mem_of_mem_filter old)
        exact ⟨before, List.mem_cons_of_mem _ isEarlier, isSet⟩
    · obtain ⟨before, isEarlier, isSet⟩ := ih member
      exact ⟨before, List.mem_cons_of_mem _ isEarlier, isSet⟩

/-- A key that is set comes first, and the last ones give way if there is no room for them. -/
theorem keys_after_of_setKey? {event : Event α} (isSet : event.setKey? = some key) :
    (cache.after event).keys = (key :: cache.keys.filter (· ≠ key)).take cache.capacity := by
  obtain ⟨now, step⟩ := event
  cases step with
  | set other value own =>
    obtain rfl : other = key := Option.some_inj.mp isSet
    rw [← keys_without]
    exact List.map_take
  | _ => cases isSet

/-- When a key is put in front, it does not matter whether the others have been cut off before. -/
theorem take_cons_filter_take {keys : List Key} (nodup : keys.Nodup) (key : Key) (n : Nat) :
    (key :: (keys.take n).filter (· ≠ key)).take n = (key :: keys.filter (· ≠ key)).take n := by
  cases n with
  | zero => rfl
  | succ n =>
    rw [List.take_succ_cons, List.take_succ_cons]
    congr 1
    induction keys generalizing n with
    | nil => rfl
    | cons first rest ih =>
      obtain ⟨notIn, nodup⟩ := List.nodup_cons.mp nodup
      rw [List.take_succ_cons]
      by_cases same : first = key
      · subst same
        have others : ∀ other ∈ rest, decide (other ≠ first) = true := by
          intro other member
          rw [decide_eq_true_iff]
          rintro rfl
          exact notIn member
        have othersInTake : ∀ other ∈ rest.take n, decide (other ≠ first) = true :=
          fun other member => others other (List.mem_of_mem_take member)
        rw [List.filter_cons_of_neg (by simp), List.filter_cons_of_neg (by simp),
          List.filter_eq_self.mpr others, List.filter_eq_self.mpr othersInTake, List.take_take,
          Nat.min_self]
      · cases n with
        | zero => simp
        | succ n =>
          rw [List.filter_cons_of_pos (by simpa using same),
            List.filter_cons_of_pos (by simpa using same), List.take_succ_cons,
            List.take_succ_cons, ih nodup]

/-- When keys are set one after the other, they come first, and the keys that were there before stay
behind them in their order, as long as there is room for them. -/
theorem keys_ofHistory_of_sets (distinct : start.keys.Nodup)
    (room : start.keys.length ≤ start.capacity)
    (sets : ∀ event ∈ history, event.setKey?.isSome) :
    (ofHistory start history).keys =
      (setKeys history ++ start.keys.filter (· ∉ setKeys history)).take start.capacity := by
  induction history with
  | nil => simp [ofHistory, setKeys, List.take_of_length_le room]
  | cons event earlier ih =>
    obtain ⟨last, before⟩ := List.forall_mem_cons.mp sets
    obtain ⟨key, isSet⟩ := Option.isSome_iff_exists.mp last
    have nodup : (setKeys earlier ++ start.keys.filter (· ∉ setKeys earlier)).Nodup := by
      refine List.nodup_append.mpr ⟨nodup_setKeys earlier, distinct.filter _, ?_⟩
      rintro first isSet second member rfl
      exact of_decide_eq_true (List.mem_filter.mp member).2 isSet
    have others : (setKeys earlier ++ start.keys.filter (· ∉ setKeys earlier)).filter (· ≠ key) =
        (setKeys earlier).filter (· ≠ key) ++
          start.keys.filter (· ∉ setKeys (event :: earlier)) := by
      rw [List.filter_append, List.filter_filter]
      congr 1
      refine List.filter_congr fun other _ => ?_
      by_cases same : other = key <;> simp [setKeys, isSet, same]
    calc (ofHistory start (event :: earlier)).keys
        = (key :: (ofHistory start earlier).keys.filter (· ≠ key)).take start.capacity := by
          rw [ofHistory, keys_after_of_setKey? isSet, capacity_ofHistory]
      _ = (key :: (setKeys earlier ++ start.keys.filter (· ∉ setKeys earlier)).filter
            (· ≠ key)).take start.capacity := by
          rw [ih before, take_cons_filter_take nodup]
      _ = (setKeys (event :: earlier) ++
            start.keys.filter (· ∉ setKeys (event :: earlier))).take start.capacity := by
          rw [others, setKeys, isSet]
          rfl

/-- While other keys are set, those of some keys that stay are the first ones in their order: as
many as there is room for, less the others that stand between them. -/
theorem filter_keys_ofHistory (distinct : start.keys.Nodup)
    (room : start.keys.length ≤ start.capacity) {kept : List Key}
    (sets : ∀ event ∈ history, ∃ key, event.setKey? = some key ∧ key ∉ kept) :
    (ofHistory start history).keys.filter (· ∈ kept) =
      ((start.keys.filter (· ∉ setKeys history)).take
        (start.capacity - (setKeys history).length)).filter (· ∈ kept) := by
  have areSets : ∀ event ∈ history, event.setKey?.isSome := by
    intro event member
    obtain ⟨key, isSet, _⟩ := sets event member
    rw [isSet]
    rfl
  have apart : ((setKeys history).take start.capacity).filter (· ∈ kept) = [] := by
    rw [List.filter_eq_nil_iff]
    intro key member
    obtain ⟨event, isEvent, isSet⟩ := exists_of_mem_setKeys (List.mem_of_mem_take member)
    obtain ⟨other, isOther, notKept⟩ := sets event isEvent
    obtain rfl : other = key := Option.some_inj.mp (isOther.symm.trans isSet)
    simpa using notKept
  rw [keys_ofHistory_of_sets distinct room areSets, List.take_append, List.filter_append, apart,
    List.nil_append]

/-- Of the keys that a purge leaves, those that are still there after other keys have been set are
the first ones in their order. Without the purge it is the same, but they may be fewer. -/
theorem purge_keeps_order (distinct : cache.keys.Nodup) (room : cache.keys.length ≤ cache.capacity)
    (space : Option String)
    (sets : ∀ event ∈ history, ∃ key, event.setKey? = some key ∧
      key ∉ (cache.purge space).2.keys) :
    (ofHistory cache history).keys.filter (· ∈ (cache.purge space).2.keys) <+:
        (ofHistory (cache.purge space).2 history).keys.filter (· ∈ (cache.purge space).2.keys) ∧
      (ofHistory (cache.purge space).2 history).keys.filter (· ∈ (cache.purge space).2.keys) <+:
        (cache.purge space).2.keys := by
  have kept : (cache.purge space).2.keys = cache.keys.filter (!covers space ·) := keys_purge space
  have keptLength : (cache.purge space).2.keys.length ≤ (cache.purge space).2.capacity := by
    rw [kept]
    exact (List.length_filter_le _ _).trans room
  have keptDistinct : (cache.purge space).2.keys.Nodup := kept ▸ distinct.filter _
  rw [filter_keys_ofHistory distinct room sets,
    filter_keys_ofHistory keptDistinct keptLength sets]
  have sameCapacity : (cache.purge space).2.capacity = cache.capacity := rfl
  rw [sameCapacity]
  generalize cache.capacity - (setKeys history).length = n
  generalize (cache.purge space).2.keys = survivors at sets kept
  have unset : ∀ key ∈ survivors, decide (key ∉ setKeys history) = true := by
    intro key member
    rw [decide_eq_true_iff]
    intro isSet
    obtain ⟨event, isEvent, isSet⟩ := exists_of_mem_setKeys isSet
    obtain ⟨other, isOther, notKept⟩ := sets event isEvent
    obtain rfl : other = key := Option.some_inj.mp (isOther.symm.trans isSet)
    exact notKept member
  have whole : (survivors.take n).filter (· ∈ survivors) = survivors.take n :=
    List.filter_eq_self.mpr fun key member => decide_eq_true (List.mem_of_mem_take member)
  have all : (cache.keys.filter (· ∉ setKeys history)).filter (· ∈ survivors) = survivors := by
    conv_rhs => rw [kept]
    rw [List.filter_filter]
    refine List.filter_congr fun key member => ?_
    by_cases covered : covers space key
    · have gone : key ∉ survivors := by simp [kept, covered]
      simp [gone, covered]
    · have stays : key ∈ survivors := by simp [kept, member, covered]
      simpa [stays, covered] using unset key stays
  rw [List.filter_eq_self.mpr unset, whole]
  refine ⟨List.prefix_take_iff.mpr ⟨?_, ?_⟩, List.take_prefix _ _⟩
  · conv_rhs => rw [← all]
    exact (List.take_prefix n _).filter _
  · exact (List.length_filter_le _ _).trans (List.length_take_le _ _)

/-- Whatever has been done with a cache in turn, a purge of a namespace removes the entries of the
namespace one after the other, fresh or expired, and says how many there were. Every other key keeps
its entry, and nothing else changes: those that are left stand in the order in which they were
touched, so that they give way in the same order when other keys are set. No key of the namespace is
found until it is set again. Purging every namespace in turn, in any order, is purging everything,
which leaves nothing, and the counts add up. -/
theorem purge_ofHistory (name : String) (capacity lifetime : Nat) (history : List (Event α))
    (space : String) :
    let cache : Cache α := ofHistory (empty name capacity lifetime) history
    let purged := (cache.purge (some space)).2
    inTurn removal (cache.keys.filter (·.space = space)) cache = cache.purge (some space) ∧
    (cache.purge (some space)).1 = cache.keys.countP (·.space = space) ∧
    (∀ key, purged.held? key = if key.space = space then none else cache.held? key) ∧
    purged.keys = cache.keys.filter (·.space ≠ space) ∧
    { purged with entries := cache.entries } = cache ∧
    (∀ inserts : List (Event α),
      (∀ event ∈ inserts, ∃ key, event.setKey? = some key ∧ key ∉ purged.keys) →
      (ofHistory cache inserts).keys.filter (· ∈ purged.keys) <+:
          (ofHistory purged inserts).keys.filter (· ∈ purged.keys) ∧
        (ofHistory purged inserts).keys.filter (· ∈ purged.keys) <+: purged.keys) ∧
    (∀ key, key.space = space → ∀ later : List (Event α),
      (∀ event ∈ later, event.setKey? ≠ some key) →
      ∀ now, ((ofHistory purged later).get now key).1 = none) ∧
    (∀ spaces, (∀ key ∈ cache.keys, key.space ∈ spaces) →
      inTurn (purge ∘ some) spaces cache = cache.purge none) ∧
    cache.purge none = (∑ᶠ space, (cache.purge (some space)).1, { cache with entries := [] }) := by
  intro cache purged
  have distinct : cache.keys.Nodup := nodup_keys_ofHistory rfl history
  have room : cache.keys.length ≤ cache.capacity := by
    rw [keys, List.length_map]
    exact (follows_ofHistory rfl history).size
  have left : purged.keys = cache.keys.filter (·.space ≠ space) := by
    rw [keys_purge]
    refine List.filter_congr fun key _ => ?_
    simp [covers_some]
  refine ⟨inTurn_removal_eq_purge distinct space, count_purge_some space, fun key => ?_, left, rfl,
    fun inserts sets => purge_keeps_order distinct room (some space) sets,
    fun key inSpace later unset now => ?_, fun spaces all => inTurn_purge_of_all all, ?_⟩
  · simp only [purged, held?_purge, covers_some_iff]
  · apply get_of_notMem_keys
    apply notMem_keys_ofHistory _ unset
    simp [left, inSpace]
  · rw [purge_none, finsum_congr fun space => count_purge_some space, finsum_countP_space]

/-- The keys of three namespaces of which one begins the others; two of the keys even read alike in
one line. Only the entry of the first namespace is purged, although it has expired, and of the
others the one that was touched first gives way first. -/
theorem purge_ofHistory_namesakes :
    let short : Key := ⟨"1", "2/3"⟩
    let long : Key := ⟨"1/2", "3"⟩
    let other : Key := ⟨"12", "3"⟩
    let history : List (Event Nat) := [⟨4, .get long⟩, ⟨3, .set other 30 none⟩,
      ⟨2, .set long 20 none⟩, ⟨1, .set short 10 (some 1)⟩]
    let inserts : List (Event Nat) := [⟨6, .set ⟨"2", "b"⟩ 50 none⟩, ⟨5, .set ⟨"2", "a"⟩ 40 none⟩]
    let cache := ofHistory (empty "archive" 3 9) history
    let purged := (cache.purge (some "1")).2
    short.text = long.text ∧ (cache.purge (some "1")).1 = 1 ∧ purged.keys = [long, other] ∧
      (ofHistory purged inserts).keys.filter (· ∈ purged.keys) <+: [long, other] ∧
      ((ofHistory purged inserts).get 7 short).1 = none ∧
      inTurn (purge ∘ some) ["12", "1", "1/2"] cache = cache.purge none := by
  intro short long other history inserts cache purged
  obtain ⟨_, count, _, left, _, order, unfound, everything, _⟩ :=
    purge_ofHistory "archive" 3 9 history "1"
  have survivors : purged.keys = [long, other] := left.trans (by decide)
  have sets : ∀ event ∈ inserts, ∃ key, event.setKey? = some key ∧ key ∉ purged.keys := by
    rw [survivors]
    simp [inserts, Event.setKey?, long, other]
  have isPrefix := (order inserts sets).2
  have unset : ∀ event ∈ inserts, event.setKey? ≠ some short := by decide
  have all : ∀ key ∈ cache.keys, key.space ∈ ["12", "1", "1/2"] := by decide
  refine ⟨by decide, count.trans (by decide), survivors, ?_, unfound short rfl inserts unset 7,
    everything _ all⟩
  rwa [survivors] at isPrefix ⊢

end ComicCatalogue.Cache
