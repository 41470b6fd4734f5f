import ComicCatalogue.Ascending
import ComicCatalogue.Decimal.Shortest
import ComicCatalogue.Json.Basic

/-!
# Caches of results

A cache keeps the results of earlier requests for a while. It holds at most as many entries as its
capacity and gives up the entry that was touched longest ago when a new one needs its place; setting
an entry touches it, and so does finding it. An entry expires when its time to live is over. Expired
entries are never found, but they keep their place until a look-up drops them.

Time is a number of ticks, given by the caller. Keys consist of a namespace and a local key, and a
whole namespace can be purged at once.
-/

namespace ComicCatalogue

namespace Cache

/-- The key of a result. -/
structure Key where
  space : String
  key : String
  deriving DecidableEq, Repr

/-- A key in one line. -/
def Key.text (key : Key) : String :=
  "/" ++ key.space ++ "/" ++ key.key

/-- A result in a cache. -/
structure Held (α : Type) where
  value : α
  /-- When the result was set. -/
  since : Nat
  /-- For how long it can be found. -/
  lifetime : Nat
  deriving DecidableEq, Repr

/-- Whether a result can still be found. -/
def Held.isFresh {α : Type} (now : Nat) (held : Held α) : Bool :=
  now - held.since < held.lifetime

/-- How a cache has been used, and how many results it would find. -/
structure Stats where
  size : Nat
  hits : Nat
  misses : Nat
  deriving DecidableEq, Repr

namespace Stats

/-- The number of look-ups. -/
def lookups (stats : Stats) : Nat :=
  stats.hits + stats.misses

/-- The share of look-ups that found something; zero before the first one. -/
def hitRate (stats : Stats) : Decimal :=
  .ofRatio false stats.hits stats.lookups

/-- The numbers as an object. -/
def toJson (stats : Stats) : Json :=
  .obj [
    ("size", .int stats.size),
    ("hits", .int stats.hits),
    ("misses", .int stats.misses),
    ("lookups", .int stats.lookups),
    ("hit_rate", .float stats.hitRate)]

end Stats

end Cache

/-- Results of earlier requests. -/
structure Cache (α : Type) where
  name : String
  /-- The largest number of entries. -/
  capacity : Nat
  /-- For how long an entry can be found unless it is set with a lifetime of its own. -/
  lifetime : Nat
  /-- The entries, the one touched last first. -/
  entries : List (Cache.Key × Cache.Held α) := []
  /-- How many look-ups found something. -/
  hits : Nat := 0
  /-- How many look-ups found nothing. -/
  misses : Nat := 0
  deriving DecidableEq, Repr

namespace Cache

variable {α : Type}

/-- An empty cache. A cache holds at least one entry. -/
def empty (name : String) (capacity lifetime : Nat) : Cache α where
  name := name
  capacity := max capacity 1
  lifetime := lifetime

/-- The entry under a key, fresh or expired. -/
def held? (key : Key) (cache : Cache α) : Option (Held α) :=
  cache.entries.lookup key

/-- The cache without the entry under a key. -/
def without (key : Key) (cache : Cache α) : Cache α :=
  { cache with entries := cache.entries.filter (·.1 ≠ key) }

/-- Looks a result up. A result that is found becomes the one touched last, and an expired one is
dropped. -/
def get (now : Nat) (key : Key) (cache : Cache α) : Option α × Cache α :=
  match cache.held? key with
  | none => (none, { cache with misses := cache.misses + 1 })
  | some held =>
    let others := (cache.without key).entries
    if held.isFresh now then
      (some held.value, { cache with entries := (key, held) :: others, hits := cache.hits + 1 })
    else (none, { cache with entries := others, misses := cache.misses + 1 })

/-- Whether a result would be found. -/
def contains (now : Nat) (key : Key) (cache : Cache α) : Bool :=
  (cache.held? key).any (·.isFresh now)

/-- Sets a result. Without a lifetime of its own, or with none at all, it gets the one of the cache.
If the cache is full, the entry touched longest ago gives way. -/
def set (now : Nat) (key : Key) (value : α) (lifetime : Option Nat) (cache : Cache α) : Cache α :=
  let lifetime := (lifetime.filter (0 < ·)).getD cache.lifetime
  let entries := (key, ⟨value, now, lifetime⟩) :: (cache.without key).entries
  { cache with entries := entries.take cache.capacity }

/-- Removes an entry, fresh or expired, and says whether there was one. -/
def remove (key : Key) (cache : Cache α) : Bool × Cache α :=
  ((cache.held? key).isSome, cache.without key)

/-- Whether a purge covers a key: a purge of no particular namespace covers every key. -/
def covers (space : Option String) (key : Key) : Bool :=
  space.all (· = key.space)

/-- Removes the entries of a namespace, or all of them, and says how many there were. Expired
entries count. -/
def purge (space : Option String) (cache : Cache α) : Nat × Cache α :=
  (cache.entries.countP (covers space ·.1),
    { cache with entries := cache.entries.filter (!covers space ·.1) })

/-- The local keys of the results that would be found in a namespace, ascending. -/
def keysIn (now : Nat) (space : String) (cache : Cache α) : List String :=
  Ascending.ofList <| cache.entries.filterMap fun (key, held) =>
    if key.space = space ∧ held.isFresh now then some key.key else none

/-- How the cache has been used. -/
def stats (now : Nat) (cache : Cache α) : Stats where
  size := cache.entries.countP (·.2.isFresh now)
  hits := cache.hits
  misses := cache.misses

end Cache

end ComicCatalogue
