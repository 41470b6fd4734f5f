import Mathlib.Data.Finset.Card
import ComicCatalogue.Proofs.Cache.Basic

/-!
# Caches that come about

A cache comes about by events: what is done with it, and when. A history is the list of the events,
the latest first, and each of them meets the cache that the earlier ones have led to.

What a cache holds can be told from the history alone. `Leaves` says which entry a history leaves
under a key, if nothing is given up for lack of room; `touches` lists the keys in the order in which
they were touched, so `touchedSince` are the keys that were touched after a given one.
-/

namespace ComicCatalogue.Cache

variable {α : Type}

/-- What can be done with a cache. -/
inductive Step (α : Type) where
  | set (key : Key) (value : α) (lifetime : Option Nat)
  | get (key : Key)
  | contains (key : Key)
  | remove (key : Key)
  | purge (space : Option String)
  | keysIn (space : String)
  | stats
  deriving DecidableEq, Repr

/-- A step and the time at which it is made. -/
structure Event (α : Type) where
  now : Nat
  step : Step α
  deriving DecidableEq, Repr

/-- The cache after an event. -/
def after (cache : Cache α) (event : Event α) : Cache α :=
  match event.step with
  | .set key value lifetime => cache.set event.now key value lifetime
  | .get key => (cache.get event.now key).2
  | .remove key => (cache.remove key).2
  | .purge space => (cache.purge space).2
  | .contains _ => cache
  | .keysIn _ => cache
  | .stats => cache

/-- The cache that a history leads to, which lists the latest event first. -/
def ofHistory (start : Cache α) : List (Event α) → Cache α
  | [] => start
  | event :: earlier => (ofHistory start earlier).after event

/-- The key that an event touches: the one that is set, and the one of a result that is found. -/
def touched? (cache : Cache α) (event : Event α) : Option Key :=
  match event.step with
  | .set key _ _ => some key
  | .get key => if (cache.get event.now key).1.isSome then some key else none
  | _ => none

/-- The keys that were touched, the latest first. -/
def touches (start : Cache α) : List (Event α) → List Key
  | [] => []
  | event :: earlier =>
    ((ofHistory start earlier).touched? event).toList ++ touches start earlier

/-- The keys that were touched after a key was last touched. -/
def touchedSince (key : Key) (touches : List Key) : Finset Key :=
  (touches.takeWhile (· ≠ key)).toFinset

/-- An event takes entries out of the cache: it removes one, purges some, or meets an expired
one. -/
def takesOut (cache : Cache α) (event : Event α) : Bool :=
  match event.step with
  | .get key => (cache.held? key).any (!·.isFresh event.now)
  | .remove key => (cache.remove key).1
  | .purge space => 0 < (cache.purge space).1
  | _ => false

/-- No event took entries out of the cache. -/
def Undisturbed (start : Cache α) : List (Event α) → Prop
  | [] => True
  | event :: earlier => (ofHistory start earlier).takesOut event = false ∧ Undisturbed start earlier

namespace Step

/-- A step ends what was kept under a key: it sets the key again, removes it, or purges it. -/
def Ends (key : Key) : Step α → Prop
  | set other _ _ => other = key
  | remove other => other = key
  | purge space => space = none ∨ space = some key.space
  | _ => False

/-- The lifetime of an entry in a cache with a lifetime of its own: the one it was given, unless
there is none or it is zero. -/
def effective (lifetime : Nat) : Option Nat → Nat
  | some (n + 1) => n + 1
  | _ => lifetime

end Step

/-- A history leaves an entry under a key: the key was last set to it, and nothing ended it
since. -/
inductive Leaves (lifetime : Nat) (key : Key) : List (Event α) → Held α → Prop where
  | set (now : Nat) (value : α) (own : Option Nat) (earlier : List (Event α)) :
    Leaves lifetime key (⟨now, .set key value own⟩ :: earlier)
      ⟨value, now, Step.effective lifetime own⟩
  | later {event : Event α} {earlier : List (Event α)} {held : Held α}
      (kept : ¬event.step.Ends key) (left : Leaves lifetime key earlier held) :
    Leaves lifetime key (event :: earlier) held

end ComicCatalogue.Cache
