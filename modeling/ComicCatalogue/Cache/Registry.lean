import ComicCatalogue.Cache.Basic
import ComicCatalogue.Error

/-!
# Registries of caches

A registry knows where in some larger state the cache of each name is. A cache that is registered
under a name that is taken replaces the one before it; the one before it stays where it is, but the
registry does not reach it any more.

`Bank` is the plainest such state: caches in a row, told apart by their place.
-/

namespace ComicCatalogue.Cache

/-- What can be done with a cache that lies in a state `σ`, whatever its results are. -/
structure Handle (σ : Type) where
  /-- Removes the entries of a namespace, or all of them, and says how many there were. -/
  purge : Option String → σ → Nat × σ
  /-- How the cache has been used. -/
  stats : Nat → σ → Stats

/-- The cache that is a part of a state. -/
def Handle.ofPart {σ α : Type} (get : σ → Cache α) (put : Cache α → σ → σ) : Handle σ where
  purge space state :=
    let (count, cache) := (get state).purge space
    (count, put cache state)
  stats now state := (get state).stats now

/-- The place of the cache of each name, ascending by name. -/
structure Registry (ι : Type) where
  places : List (String × ι) := []
  deriving DecidableEq, Repr

namespace Registry

variable {ι σ : Type}

/-- Puts the cache at a place under a name. -/
def register (name : String) (place : ι) (registry : Registry ι) : Registry ι :=
  ⟨Ascending.put name place registry.places⟩

/-- The names, ascending. -/
def names (registry : Registry ι) : List String :=
  registry.places.map (·.1)

/-- Purges the cache of a name. -/
def purge (handle : ι → Handle σ) (name : String) (space : Option String) (state : σ)
    (registry : Registry ι) : Except CatalogueError (Nat × σ) :=
  match registry.places.lookup name with
  | none => .error (.unknownCache name)
  | some place => .ok ((handle place).purge space state)

/-- Purges every cache that has a name, and says how many entries there were in all. -/
def purgeAll (handle : ι → Handle σ) (space : Option String) (state : σ)
    (registry : Registry ι) : Nat × σ :=
  registry.places.foldl (fun (count, state) (_, place) =>
    let (more, state) := (handle place).purge space state
    (count + more, state)) (0, state)

/-- How the cache of each name has been used. -/
def stats (handle : ι → Handle σ) (now : Nat) (state : σ) (registry : Registry ι) :
    List (String × Stats) :=
  registry.places.map fun (name, place) => (name, (handle place).stats now state)

/-- The registry in one line. -/
def text (registry : Registry ι) : String :=
  "CacheRegistry \x7b caches: " ++ Text.quotedList registry.names ++ " \x7d"

end Registry

/-- Caches in a row, and a registry of some of them. -/
structure Bank (α : Type) where
  caches : List (Cache α) := []
  registry : Registry Nat := {}

namespace Bank

variable {α : Type}

/-- The cache at a place of a row. -/
def handle (place : Nat) : Handle (List (Cache α)) where
  purge space caches :=
    match caches[place]? with
    | none => (0, caches)
    | some cache =>
      let (count, cache) := cache.purge space
      (count, caches.set place cache)
  stats now caches :=
    match caches[place]? with
    | none => ⟨0, 0, 0⟩
    | some cache => cache.stats now

/-- Adds a cache to the row. -/
def add (cache : Cache α) (bank : Bank α) : Bank α :=
  { bank with caches := bank.caches ++ [cache] }

/-- Registers the cache at a place under its name. -/
def enter (place : Nat) (bank : Bank α) : Bank α :=
  match bank.caches[place]? with
  | some cache => { bank with registry := bank.registry.register cache.name place }
  | none => bank

/-- Adds a cache to the row and registers it under its name. -/
def register (cache : Cache α) (bank : Bank α) : Bank α :=
  (bank.add cache).enter bank.caches.length

/-- Purges the cache of a name. -/
def purge (name : String) (space : Option String) (bank : Bank α) :
    Except CatalogueError (Nat × Bank α) := do
  let (count, caches) ← bank.registry.purge handle name space bank.caches
  return (count, { bank with caches := caches })

/-- Purges every cache that has a name. -/
def purgeAll (space : Option String) (bank : Bank α) : Nat × Bank α :=
  let (count, caches) := bank.registry.purgeAll handle space bank.caches
  (count, { bank with caches := caches })

/-- How the cache of each name has been used. -/
def stats (now : Nat) (bank : Bank α) : List (String × Stats) :=
  bank.registry.stats handle now bank.caches

end Bank

end ComicCatalogue.Cache
