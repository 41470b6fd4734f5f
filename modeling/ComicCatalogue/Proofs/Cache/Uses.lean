import ComicCatalogue.Proofs.Cache.Fetch
import ComicCatalogue.Proofs.Cache.Recency

/-!
# How long an answer is kept

The cache of a scheme is used by fetches and by purges. Both are known steps of caches, so the uses
of a cache make a history, and what the cache holds can be told from it: an answer that was fetched
is found again as long as it is fresh, no purge has covered it, and fewer other answers than there
is room for were fetched since.
-/

namespace ComicCatalogue

namespace Cache

variable {α : Type} {key other : Key}

/-- What was touched after a key was last touched was touched after any touch of it. -/
theorem TouchedAfter.mem_of_append {later earlier : List Key}
    (touched : TouchedAfter (later ++ key :: earlier) other key) : other ∈ later := by
  induction later with
  | nil =>
    have notKey := (touchedAfter_cons_iff.mp touched).1
    exact absurd rfl notKey
  | cons last later ih =>
    obtain ⟨_, same | touched⟩ := touchedAfter_cons_iff.mp touched
    · rw [same]
      exact List.mem_cons_self
    · exact List.mem_cons_of_mem _ (ih touched)

theorem touchedSince_append_subset (later earlier : List Key) :
    touchedSince key (later ++ key :: earlier) ⊆ later.toFinset.erase key := by
  intro other since
  have touched := mem_touchedSince_iff.mp since
  exact Finset.mem_erase.mpr ⟨touched.ne, List.mem_toFinset.mpr touched.mem_of_append⟩

/-- An entry that a history leaves under a key is found as long as it is fresh and fewer other keys
than there is room for were touched since its key was. -/
theorem contains_of_leaves {start : Cache α} {history : List (Event α)} {held : Held α} {now : Nat}
    (empty : start.entries = []) (left : Leaves start.lifetime key history held)
    (before : ∀ event ∈ history, event.now ≤ now) (fresh : held.isFresh now)
    (few : (touchedSince key (touches start history)).card < start.capacity) :
    (ofHistory start history).contains now key := by
  have member := mem_entries_of_leaves empty left before fresh few
  have follows := follows_ofHistory empty history
  rw [contains]
  cases found : (ofHistory start history).held? key with
  | none => exact absurd rfl (ne_of_held?_eq_none found member)
  | some other =>
    have leftOther := follows.leaves_of_held? found
    rw [lifetime_ofHistory] at leftOther
    rw [leftOther.eq left]
    exact fresh

/-- Whatever entry a history leaves under a key is from a moment or later, and it has the lifetime
of the cache. -/
def LeavesOnlySince (lifetime : Nat) (key : Key) (moment : Nat) (history : List (Event α)) : Prop :=
  ∀ held, Leaves lifetime key history held → moment ≤ held.since ∧ held.lifetime = lifetime

end Cache

/-- What can be done with the cache of a scheme. -/
inductive Use (ι : Type) where
  | fetch (context : Context) (request : ι)
  | purge (space : Option String) (now : Nat)

/-- The moment of a use. -/
def Use.now {ι : Type} : Use ι → Nat
  | fetch context _ => context.now
  | purge _ now => now

namespace Scheme

open Cache (Leaves LeavesOnlySince ofHistory touches touchedSince)

variable {ι α : Type} (scheme : Scheme ι α)

/-- The cache after a use. -/
def use (cache : Cache α) : Use ι → Cache α
  | .fetch context request => (scheme.fetch context request cache).cache
  | .purge space _ => (cache.purge space).2

/-- The key that a use touches. -/
def touched? : Use ι → Option Cache.Key
  | .fetch _ request => some (scheme.key request)
  | .purge _ _ => none

/-- A use is a purge that covers the answer to a request. -/
def IsPurgeOf (request : ι) : Use ι → Prop
  | .fetch _ _ => False
  | .purge space _ => space = none ∨ space = some (scheme.space request)

/-- A use is a fetch for which the source was asked. -/
def Asks (request : ι) (cache : Cache α) : Use ι → Prop
  | .fetch context other => other = request ∧ (scheme.fetch context request cache).made ≠ []
  | .purge _ _ => False

/-- What a use does with a cache step by step, the latest step first: a fetch looks its key up, and
sets it if nothing was found. -/
def events (cache : Cache α) : Use ι → List (Cache.Event α)
  | .fetch context request =>
    let look : Cache.Event α := ⟨context.now, .get (scheme.key request)⟩
    if (cache.get context.now (scheme.key request)).1.isSome then [look]
    else
      [⟨context.now, .set (scheme.key request) (scheme.answer request context.source) none⟩, look]
  | .purge space now => [⟨now, .purge space⟩]

/-- What uses in turn do with a cache. -/
def history (start : Cache α) (uses : List (Use ι)) : List (Cache.Event α) :=
  uses.foldl (fun history use => scheme.events (ofHistory start history) use ++ history) []

variable {scheme} {start : Cache α} {uses : List (Use ι)} {request : ι} {moment : Nat}

theorem history_append_singleton (use : Use ι) :
    scheme.history start (uses ++ [use]) =
      scheme.events (ofHistory start (scheme.history start uses)) use ++
        scheme.history start uses := by
  rw [history, List.foldl_append]
  rfl

/-- The steps of a use lead to the cache after it, and they touch its key. -/
theorem ofHistory_events (history : List (Cache.Event α)) (use : Use ι) :
    ofHistory start (scheme.events (ofHistory start history) use ++ history) =
        scheme.use (ofHistory start history) use ∧
      touches start (scheme.events (ofHistory start history) use ++ history) =
        (scheme.touched? use).toList ++ touches start history := by
  cases use with
  | purge space now => exact ⟨rfl, rfl⟩
  | fetch context request =>
    rw [events, Scheme.use, fetch]
    cases found : (ofHistory start history).get context.now (scheme.key request) with
    | mk value after =>
      cases value with
      | some value =>
        refine ⟨?_, ?_⟩
        · simp [ofHistory, Cache.after, found]
        · simp [touches, Cache.touched?, touched?, found]
      | none =>
        refine ⟨?_, ?_⟩
        · simp [ofHistory, Cache.after, found]
        · simp [touches, Cache.touched?, touched?, found]

/-- The uses lead to the cache of their history. -/
theorem ofHistory_history (uses : List (Use ι)) :
    ofHistory start (scheme.history start uses) = uses.foldl scheme.use start := by
  induction uses using List.reverseRecOn with
  | nil => rfl
  | append_singleton earlier use ih =>
    rw [history_append_singleton, (ofHistory_events _ use).1, ih, List.foldl_append]
    rfl

/-- The steps of uses are made at the moments of the uses. -/
theorem exists_now_eq {event : Cache.Event α} (member : event ∈ scheme.history start uses) :
    ∃ use ∈ uses, event.now = use.now := by
  induction uses using List.reverseRecOn with
  | nil => cases member
  | append_singleton earlier use ih =>
    rw [history_append_singleton] at member
    rcases List.mem_append.mp member with own | old
    · refine ⟨use, List.mem_append_right _ List.mem_cons_self, ?_⟩
      cases use with
      | purge space now =>
        rw [List.mem_singleton.mp own]
        rfl
      | fetch context request =>
        rw [events] at own
        split at own
        · rw [List.mem_singleton.mp own]
          rfl
        · rcases List.mem_pair.mp own with rfl | rfl <;> rfl
    · obtain ⟨other, isUse, same⟩ := ih old
      exact ⟨other, List.mem_append_left _ isUse, same⟩

/-- Each fetch touches its key, and nothing else touches one. -/
theorem touches_history (uses : List (Use ι)) :
    touches start (scheme.history start uses) = (uses.filterMap scheme.touched?).reverse := by
  induction uses using List.reverseRecOn with
  | nil => rfl
  | append_singleton earlier use ih =>
    rw [history_append_singleton, (ofHistory_events _ use).2, ih, List.filterMap_append,
      List.reverse_append]
    cases touched : scheme.touched? use <;> simp [touched]

/-! ### What a use leaves under a key -/

variable {key : Cache.Key} {lifetime : Nat} {earlier : List (Cache.Event α)} {cache : Cache α}

/-- No use sets anything that is older than itself. -/
theorem leavesOnlySince_events {use : Use ι} (late : moment ≤ use.now)
    (only : LeavesOnlySince lifetime key moment earlier) :
    LeavesOnlySince lifetime key moment (scheme.events cache use ++ earlier) := by
  intro held left
  cases use with
  | purge space now =>
    cases left with
    | later _ left => exact only held left
  | fetch context request =>
    rw [events] at left
    split at left
    · cases left with
      | later _ left => exact only held left
    · cases left with
      | set => exact ⟨late, rfl⟩
      | later _ left =>
        cases left with
        | later _ left => exact only held left

/-- A fetch that asks the source leaves an entry of its own moment. -/
theorem leavesOnlySince_of_asks {use : Use ι} (asks : scheme.Asks request cache use) :
    LeavesOnlySince lifetime (scheme.key request) use.now (scheme.events cache use ++ earlier) := by
  cases use with
  | purge space now => exact asks.elim
  | fetch context other =>
    obtain ⟨rfl, asked⟩ := asks
    have absent : ¬(cache.get context.now (scheme.key other)).1.isSome := by
      intro isFound
      apply asked
      rw [fetch]
      revert isFound
      rcases cache.get context.now (scheme.key other) with ⟨_ | value, after⟩
      · intro isFound
        cases isFound
      · intro _
        rfl
    intro held left
    rw [events, if_neg absent] at left
    cases left with
    | set => exact ⟨le_rfl, rfl⟩
    | later kept => exact absurd rfl kept

/-- A use that does not purge what is kept under a key leaves an entry there, if there was one. -/
theorem exists_leaves_events {use : Use ι} (kept : ¬scheme.IsPurgeOf request use)
    (leaves : ∃ held, Leaves lifetime (scheme.key request) earlier held) :
    ∃ held, Leaves lifetime (scheme.key request) (scheme.events cache use ++ earlier) held := by
  obtain ⟨held, left⟩ := leaves
  cases use with
  | purge space now => exact ⟨held, .later kept left⟩
  | fetch context other =>
    rw [events]
    split
    · exact ⟨held, .later id left⟩
    · by_cases same : scheme.key other = scheme.key request
      · rw [same]
        exact ⟨_, .set _ _ _ _⟩
      · exact ⟨held, .later same (.later id left)⟩

/-- A fetch leaves an entry under its key: the one that it found, or a new one. -/
theorem exists_leaves_fetch (empty : start.entries = []) (context : Context) :
    ∃ held, Leaves start.lifetime (scheme.key request)
      (scheme.history start (uses ++ [.fetch context request])) held := by
  have follows := Cache.follows_ofHistory empty (scheme.history start uses)
  rw [history_append_singleton, events]
  split
  · rename_i isFound
    obtain ⟨value, found⟩ := Option.isSome_iff_exists.mp isFound
    obtain ⟨held, isHeld, _⟩ := Cache.get_eq_some_iff.mp found
    have left := follows.leaves_of_held? isHeld
    rw [Cache.lifetime_ofHistory] at left
    exact ⟨held, .later id left⟩
  · exact ⟨_, .set _ _ _ _⟩

/-! ### What uses in turn leave under a key -/

/-- What the steps of each use keep, the steps of uses in turn keep. -/
theorem history_append {P : List (Cache.Event α) → Prop} {later : List (Use ι)}
    (keeps : ∀ use ∈ later, ∀ cache earlier, P earlier → P (scheme.events cache use ++ earlier))
    (holds : P (scheme.history start uses)) : P (scheme.history start (uses ++ later)) := by
  induction later using List.reverseRecOn with
  | nil => rwa [List.append_nil]
  | append_singleton later use ih =>
    rw [← List.append_assoc, history_append_singleton]
    apply keeps use (List.mem_append_right _ List.mem_cons_self)
    exact ih fun use member => keeps use (List.mem_append_left _ member)

theorem leavesOnlySince_history {later : List (Use ι)} (late : ∀ use ∈ later, moment ≤ use.now)
    (only : LeavesOnlySince lifetime key moment (scheme.history start uses)) :
    LeavesOnlySince lifetime key moment (scheme.history start (uses ++ later)) :=
  history_append (fun use member _ _ => leavesOnlySince_events (late use member)) only

theorem exists_leaves_history {later : List (Use ι)}
    (kept : ∀ use ∈ later, ¬scheme.IsPurgeOf request use)
    (leaves : ∃ held, Leaves lifetime (scheme.key request) (scheme.history start uses) held) :
    ∃ held, Leaves lifetime (scheme.key request) (scheme.history start (uses ++ later)) held :=
  history_append (P := fun history => ∃ held, Leaves lifetime (scheme.key request) history held)
    (fun use member _ _ => exists_leaves_events (kept use member)) leaves

/-- An answer that was fetched is found again if the source was asked for it less than the lifetime
of the cache ago, no purge has covered it since it was fetched, and fewer other keys than there is
room for were touched since. -/
theorem contains_of_repeat (empty : start.entries = []) {before since between : List (Use ι)}
    {asking : Use ι} {context : Context} {now : Nat}
    (split : uses ++ [.fetch context request] = before ++ asking :: since)
    (asks : scheme.Asks request (before.foldl scheme.use start) asking)
    (clock : (uses ++ .fetch context request :: between).Pairwise fun a b => a.now ≤ b.now)
    (past : ∀ use ∈ uses ++ .fetch context request :: between, use.now ≤ now)
    (fresh : now - asking.now < start.lifetime)
    (kept : ∀ use ∈ between, ¬scheme.IsPurgeOf request use)
    (few : ((between.filterMap scheme.touched?).toFinset.erase (scheme.key request)).card <
      start.capacity) :
    ((uses ++ .fetch context request :: between).foldl scheme.use start).contains now
      (scheme.key request) := by
  have whole : uses ++ .fetch context request :: between =
      (before ++ [asking]) ++ (since ++ between) := by
    rw [List.append_cons, split]
    simp
  -- Whatever the key was set to last, it was set when the source was asked or later.
  have only : LeavesOnlySince start.lifetime (scheme.key request) asking.now
      (scheme.history start (uses ++ .fetch context request :: between)) := by
    rw [whole]
    apply leavesOnlySince_history
    · rw [whole, List.append_assoc, List.singleton_append] at clock
      exact fun use member => List.rel_of_pairwise_cons (List.pairwise_append.mp clock).2.1 member
    · rw [history_append_singleton, ofHistory_history]
      exact leavesOnlySince_of_asks asks
  obtain ⟨held, left⟩ : ∃ held, Leaves start.lifetime (scheme.key request)
      (scheme.history start (uses ++ .fetch context request :: between)) held := by
    rw [List.append_cons]
    exact exists_leaves_history kept (exists_leaves_fetch empty context)
  obtain ⟨since, lifetime⟩ := only held left
  have isFresh : held.isFresh now := by
    rw [Cache.Held.isFresh, lifetime, decide_eq_true_eq]
    omega
  have others : touchedSince (scheme.key request)
      (touches start (scheme.history start (uses ++ .fetch context request :: between))) ⊆
        (between.filterMap scheme.touched?).toFinset.erase (scheme.key request) := by
    rw [touches_history, List.filterMap_append, List.filterMap_cons, touched?,
      List.reverse_append, List.reverse_cons, List.append_assoc, List.singleton_append,
      ← List.toFinset_reverse]
    exact Cache.touchedSince_append_subset _ _
  rw [← ofHistory_history]
  apply Cache.contains_of_leaves empty left ?_ isFresh
  · exact (Finset.card_le_card others).trans_lt few
  · intro event member
    obtain ⟨use, isUse, same⟩ := exists_now_eq member
    rw [same]
    exact past use isUse

end Scheme

end ComicCatalogue
