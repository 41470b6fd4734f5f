import ComicCatalogue.Cache.Registry
import ComicCatalogue.Proofs.Ascending
import ComicCatalogue.Proofs.Cache.Purge

/-!
# Caches and their registry

Caches are made, registered, used directly and purged by their names, in any order. Which cache a
name stands for follows from what was done alone: it is the one that was registered under it last.
A purge by name is a purge of this cache and leaves all others, also one that the name stood for
before. A purge of every cache that has a name is a purge of each by its name, in any order.
-/

namespace ComicCatalogue.Cache

/-! ### Steps in turn -/

section Turns

variable {σ ι : Type} {step : ι → σ → Nat × σ}

/-- Two steps lead to the same state in either order, and count as many together. -/
def Commute (step : ι → σ → Nat × σ) : Prop :=
  ∀ first second state,
    inTurn step [first, second] state = inTurn step [second, first] state

theorem foldl_eq_inTurn (step : ι → σ → Nat × σ) (items : List ι) (count : Nat) (state : σ) :
    items.foldl (fun (count, state) item =>
      ((count + (step item state).1, (step item state).2) : Nat × σ)) (count, state) =
        (count + (inTurn step items state).1, (inTurn step items state).2) := by
  induction items generalizing count state with
  | nil => rfl
  | cons item rest ih => rw [List.foldl_cons, ih, Nat.add_assoc]; rfl

/-- Steps that commute can be made in any order. -/
theorem inTurn_perm (commute : Commute step) {items others : List ι} (perm : items.Perm others)
    (state : σ) : inTurn step items state = inTurn step others state := by
  induction perm generalizing state with
  | nil => rfl
  | cons item _ ih => simp only [inTurn, ih]
  | swap first second rest =>
    have same := commute second first state
    simp only [inTurn, Nat.add_zero, Prod.mk.injEq] at same ⊢
    obtain ⟨count, after⟩ := same
    rw [after, ← Nat.add_assoc, ← Nat.add_assoc, count]
    exact ⟨rfl, rfl⟩
  | trans _ _ ih ihNext => rw [ih, ihNext]

end Turns

/-- The place that is registered under a name. -/
def Registry.place? {ι : Type} (registry : Registry ι) (name : String) : Option ι :=
  registry.places.lookup name

namespace Bank

variable {α : Type}

/-- What can be done with caches and their registry. -/
inductive Act (α : Type) where
  /-- Makes a new cache, which takes the next place. -/
  | create (name : String) (capacity lifetime : Nat)
  /-- Registers the cache at a place under its name. -/
  | register (place : Nat)
  /-- Uses the cache at a place directly. -/
  | use (place : Nat) (event : Event α)
  /-- Purges the cache of a name. -/
  | purge (name : String) (space : Option String)
  /-- Purges every cache that has a name. -/
  | purgeAll (space : Option String)

/-- The caches and the registry after an act. -/
def after (bank : Bank α) : Act α → Bank α
  | .create name capacity lifetime => bank.add (empty name capacity lifetime)
  | .register place => bank.enter place
  | .use place event => { bank with caches := bank.caches.modify place (·.after event) }
  | .purge name space =>
    match bank.purge name space with
    | .ok (_, purged) => purged
    | .error _ => bank
  | .purgeAll space => (bank.purgeAll space).2

/-- The caches and the registry that some acts lead to, of which the latest comes first. -/
def ofActs : List (Act α) → Bank α
  | [] => {}
  | act :: earlier => (ofActs earlier).after act

/-- The place of the cache that was registered last under a name. -/
def lastRegistered (name : String) : List (Act α) → Option Nat
  | [] => none
  | .register place :: earlier =>
    if ((ofActs earlier).caches[place]?).any (·.name = name) then some place
    else lastRegistered name earlier
  | _ :: earlier => lastRegistered name earlier

/-- Purges the caches of some names in turn. -/
def purgeEach (space : Option String) : List String → Bank α → Except CatalogueError (Nat × Bank α)
  | [], bank => .ok (0, bank)
  | name :: rest, bank => do
    let (count, bank) ← bank.purge name space
    let (more, bank) ← purgeEach space rest bank
    return (count + more, bank)

variable {bank : Bank α} {caches : List (Cache α)} {place : Nat} {space : Option String}

/-! ### The caches at their places -/

@[simp] theorem name_after (cache : Cache α) (event : Event α) :
    (cache.after event).name = cache.name := by
  obtain ⟨now, step⟩ := event
  cases step with
  | get key =>
    simp only [Cache.after, get]
    cases cache.held? key with
    | none => rfl
    | some held => by_cases fresh : held.isFresh now <;> simp [fresh]
  | _ => rfl

@[simp] theorem name_purge (cache : Cache α) (space : Option String) :
    (cache.purge space).2.name = cache.name := rfl

/-- A purge through a handle purges the cache at its place and no other. -/
theorem purge_handle (place : Nat) (space : Option String) (caches : List (Cache α)) :
    (handle place).purge space caches =
      ((caches[place]?).elim 0 fun cache => (cache.purge space).1,
        caches.modify place fun cache => (cache.purge space).2) := by
  simp only [handle, List.modify_eq_set_getElem?]
  cases caches[place]? with
  | none => rfl
  | some cache => rfl

theorem map_name_modify {change : Cache α → Cache α}
    (keeps : ∀ cache, (change cache).name = cache.name) (place : Nat) (caches : List (Cache α)) :
    (caches.modify place change).map (·.name) = caches.map (·.name) := by
  apply List.ext_getElem?
  intro other
  rw [List.getElem?_map, List.getElem?_map, List.getElem?_modify]
  cases caches[other]? with
  | none => rfl
  | some cache => by_cases same : place = other <;> simp [same, keeps]

theorem commute_handle (space : Option String) :
    Commute fun place => (handle (α := α) place).purge space := by
  intro first second caches
  by_cases same : first = second
  · rw [same]
  · simp only [inTurn, purge_handle, List.getElem?_modify_ne _ _ same,
      List.getElem?_modify_ne _ _ (Ne.symm same), Nat.add_zero, Prod.mk.injEq]
    exact ⟨Nat.add_comm _ _, List.modify_modify_ne _ _ _ same⟩

/-- Purges the caches at some places in turn. -/
def purgePlaces (space : Option String) (places : List Nat) (caches : List (Cache α)) :
    Nat × List (Cache α) :=
  inTurn (fun place => (handle place).purge space) places caches

theorem map_name_purgePlaces (space : Option String) (places : List Nat)
    (caches : List (Cache α)) :
    (purgePlaces space places caches).2.map (·.name) = caches.map (·.name) := by
  induction places generalizing caches with
  | nil => rfl
  | cons place rest ih =>
    have first : ((handle place).purge space caches).2.map (·.name) = caches.map (·.name) := by
      rw [purge_handle]
      exact map_name_modify (fun cache => name_purge cache space) place caches
    exact (ih _).trans first

theorem getElem?_purgePlaces {places : List Nat} (absent : place ∉ places)
    (space : Option String) (caches : List (Cache α)) :
    (purgePlaces space places caches).2[place]? = caches[place]? := by
  induction places generalizing caches with
  | nil => rfl
  | cons other rest ih =>
    rw [List.mem_cons, not_or] at absent
    obtain ⟨different, absent⟩ := absent
    have first : ((handle other).purge space caches).2[place]? = caches[place]? := by
      rw [purge_handle]
      exact List.getElem?_modify_ne _ _ (Ne.symm different)
    exact (ih absent _).trans first

/-! ### Purges by name -/

variable {name : String}

theorem purge_of_lookup_eq_none (unknown : bank.registry.place? name = none) :
    bank.purge name space = .error (.unknownCache name) := by
  rw [Registry.place?] at unknown
  rw [purge, Registry.purge, unknown]
  rfl

/-- A purge by name is a direct purge of the cache at the place that is registered. -/
theorem purge_of_lookup_eq_some (known : bank.registry.place? name = some place) :
    bank.purge name space =
      .ok (((handle place).purge space bank.caches).1,
        { bank with caches := ((handle place).purge space bank.caches).2 }) := by
  rw [Registry.place?] at known
  rw [purge, Registry.purge, known]
  rfl

theorem purgeAll_eq (bank : Bank α) (space : Option String) :
    bank.purgeAll space =
      ((purgePlaces space (bank.registry.places.map (·.2)) bank.caches).1,
        { bank with
          caches := (purgePlaces space (bank.registry.places.map (·.2)) bank.caches).2 }) := by
  have turns := foldl_eq_inTurn (fun place => (handle (α := α) place).purge space)
    (bank.registry.places.map (·.2)) 0 bank.caches
  rw [List.foldl_map, Nat.zero_add] at turns
  exact congrArg (fun result : Nat × List (Cache α) =>
    (result.1, ({ bank with caches := result.2 } : Bank α))) turns

theorem purgeEach_eq {names : List String}
    (known : ∀ name ∈ names, (bank.registry.place? name).isSome) :
    purgeEach space names bank =
      .ok ((purgePlaces space (names.filterMap bank.registry.place?) bank.caches).1,
        { bank with caches :=
          (purgePlaces space (names.filterMap bank.registry.place?) bank.caches).2 }) := by
  induction names generalizing bank with
  | nil => rfl
  | cons name rest ih =>
    obtain ⟨isKnown, known⟩ := List.forall_mem_cons.mp known
    obtain ⟨place, found⟩ := Option.isSome_iff_exists.mp isKnown
    rw [purgeEach, purge_of_lookup_eq_some found, List.filterMap_cons_some found]
    let purged : Bank α := { bank with caches := ((handle place).purge space bank.caches).2 }
    have later : purgeEach space rest purged = _ := ih known
    simp only [purged] at later
    simp only [bind, Except.bind, later]
    rfl

/-! ### What the acts lead to -/

variable {act : Act α} {acts : List (Act α)}

theorem Act.isRegister_or (act : Act α) :
    (∃ place, act = .register place) ∨ ∀ place, act ≠ .register place := by
  cases act with
  | register place => exact .inl ⟨place, rfl⟩
  | create | use | purge | purgeAll => exact .inr fun _ => nofun

/-- Only registering changes the registry. -/
theorem registry_after (unregistered : ∀ place, act ≠ .register place) :
    (bank.after act).registry = bank.registry := by
  cases act with
  | create | use => rfl
  | register place => exact absurd rfl (unregistered place)
  | purge name space =>
    rw [after]
    cases found : bank.registry.place? name with
    | none => rw [purge_of_lookup_eq_none found]
    | some place => rw [purge_of_lookup_eq_some found]
  | purgeAll space => rw [after, purgeAll_eq]

/-- Caches stay at their places and keep their names. -/
theorem names_isPrefix_after (bank : Bank α) (act : Act α) :
    bank.caches.map (·.name) <+: (bank.after act).caches.map (·.name) := by
  cases act with
  | create name capacity lifetime =>
    rw [after, add, List.map_append]
    exact List.prefix_append _ _
  | register place =>
    rw [after, enter]
    split <;> exact List.prefix_rfl
  | use place event =>
    rw [after, map_name_modify fun cache => name_after cache event]
  | purge name space =>
    rw [after]
    cases found : bank.registry.place? name with
    | none => rw [purge_of_lookup_eq_none found]
    | some place =>
      rw [purge_of_lookup_eq_some found, purge_handle]
      simp only
      rw [map_name_modify fun cache => name_purge cache space]
  | purgeAll space =>
    rw [after, purgeAll_eq]
    simp only
    rw [map_name_purgePlaces]

theorem lastRegistered_of_unregistered (unregistered : ∀ place, act ≠ .register place)
    (name : String) : lastRegistered name (act :: acts) = lastRegistered name acts := by
  cases act with
  | register place => exact absurd rfl (unregistered place)
  | _ => rfl

/-- The registry knows the place of the cache that was registered last under a name. -/
theorem place?_ofActs (acts : List (Act α)) (name : String) :
    (ofActs acts).registry.place? name = lastRegistered name acts := by
  induction acts with
  | nil => rfl
  | cons act earlier ih =>
    rcases act.isRegister_or with ⟨place, rfl⟩ | unregistered
    · rw [ofActs, after, enter, lastRegistered]
      cases (ofActs earlier).caches[place]? with
      | none => simpa using ih
      | some cache =>
        rw [Option.any_some, ← ih]
        simp only [Registry.place?, Registry.register, Ascending.lookup_put, decide_eq_true_eq]
        by_cases same : name = cache.name <;> simp [same, eq_comm]
    · rw [lastRegistered_of_unregistered unregistered, ← ih, ofActs, registry_after unregistered]

/-- The cache that was registered last under a name has this name. -/
theorem name_of_lastRegistered (registered : lastRegistered name acts = some place) :
    ((ofActs acts).caches.map (·.name))[place]? = some name := by
  induction acts with
  | nil => cases registered
  | cons act earlier ih =>
    have stays : ((ofActs earlier).caches.map (·.name))[place]? = some name →
        ((ofActs (act :: earlier)).caches.map (·.name))[place]? = some name := by
      intro named
      obtain ⟨inside, -⟩ := List.getElem?_eq_some_iff.mp named
      obtain ⟨more, whole⟩ := names_isPrefix_after (ofActs earlier) act
      rw [ofActs, ← whole, List.getElem?_append_left inside, named]
    rcases act.isRegister_or with ⟨other, rfl⟩ | unregistered
    · rw [lastRegistered] at registered
      split at registered
      · rename_i named
        obtain rfl : other = place := Option.some_inj.mp registered
        obtain ⟨cache, found, same⟩ := (Option.any_eq_true _ _).mp named
        apply stays
        rw [List.getElem?_map, found, Option.map_some, of_decide_eq_true same]
      · exact stays (ih registered)
    · rw [lastRegistered_of_unregistered unregistered] at registered
      exact stays (ih registered)

theorem exists_cache_of_lastRegistered (registered : lastRegistered name acts = some place) :
    ∃ cache, (ofActs acts).caches[place]? = some cache ∧ cache.name = name := by
  have named := name_of_lastRegistered registered
  rwa [List.getElem?_map, Option.map_eq_some_iff] at named

/-- The names are listed in ascending order. -/
theorem pairwise_names_ofActs (acts : List (Act α)) :
    (ofActs acts).registry.names.Pairwise (· < ·) := by
  induction acts with
  | nil => exact List.Pairwise.nil
  | cons act earlier ih =>
    rcases act.isRegister_or with ⟨place, rfl⟩ | unregistered
    · rw [ofActs, after, enter]
      split
      · rw [Registry.names, Registry.register, Ascending.map_fst_put]
        exact Ascending.pairwise_insert _ ih
      · exact ih
    · rw [ofActs, registry_after unregistered]
      exact ih

theorem nodup_names_ofActs (acts : List (Act α)) : (ofActs acts).registry.names.Nodup :=
  (pairwise_names_ofActs acts).imp ne_of_lt

theorem mem_names_iff :
    name ∈ (ofActs acts).registry.names ↔ (lastRegistered name acts).isSome := by
  rw [← place?_ofActs, Registry.place?, Ascending.isSome_lookup_iff, Registry.names]

theorem mem_places_iff :
    (name, place) ∈ (ofActs acts).registry.places ↔ lastRegistered name acts = some place := by
  rw [← place?_ofActs, Registry.place?,
    Ascending.lookup_eq_some_iff_mem (nodup_names_ofActs acts)]

/-- In whatever order the names are taken, their places are those of the registry. -/
theorem filterMap_place?_perm {order : List String}
    (perm : order.Perm (ofActs acts).registry.names) :
    (order.filterMap (ofActs acts).registry.place?).Perm
      ((ofActs acts).registry.places.map (·.2)) := by
  refine (perm.filterMap _).trans (List.Perm.of_eq ?_)
  rw [Registry.names, List.filterMap_map, ← List.filterMap_eq_map]
  refine List.filterMap_congr fun entry member => ?_
  obtain ⟨name, place⟩ := entry
  rw [Function.comp_apply, place?_ofActs, mem_places_iff.mp member]
  rfl

/-- A purge of every cache that has a name is a purge of each by its name, in any order. -/
theorem purgeEach_of_perm {order : List String} (perm : order.Perm (ofActs acts).registry.names)
    (space : Option String) :
    purgeEach space order (ofActs acts) = .ok ((ofActs acts).purgeAll space) := by
  have known : ∀ name ∈ order, ((ofActs acts).registry.place? name).isSome := by
    intro name member
    rw [place?_ofActs, ← mem_names_iff]
    exact perm.mem_iff.mp member
  rw [purgeEach_eq known, purgeAll_eq, purgePlaces,
    inTurn_perm (commute_handle space) (filterMap_place?_perm perm)]
  rfl

/-- A purge of every cache that has a name leaves those that no name stands for. -/
theorem getElem?_purgeAll (unregistered : ∀ name, lastRegistered name acts ≠ some place)
    (space : Option String) :
    ((ofActs acts).purgeAll space).2.caches[place]? = (ofActs acts).caches[place]? := by
  rw [purgeAll_eq]
  apply getElem?_purgePlaces
  intro isPlace
  obtain ⟨⟨name, other⟩, member, rfl⟩ := List.mem_map.mp isPlace
  exact unregistered name (mem_places_iff.mp member)

theorem map_fst_stats (bank : Bank α) (now : Nat) :
    (bank.stats now).map (·.1) = bank.registry.names := by
  rw [stats, Registry.stats, List.map_map]
  rfl

/-- Under each name are the statistics of the cache that was registered last under it. -/
theorem mem_stats_iff {now : Nat} {stats : Stats} :
    (name, stats) ∈ (ofActs acts).stats now ↔
      ∃ place cache, lastRegistered name acts = some place ∧
        (ofActs acts).caches[place]? = some cache ∧ cache.stats now = stats := by
  rw [Bank.stats, Registry.stats, List.mem_map]
  constructor
  · rintro ⟨⟨other, place⟩, member, same⟩
    obtain ⟨rfl, rfl⟩ := Prod.mk.inj same
    have registered := mem_places_iff.mp member
    obtain ⟨cache, found, _⟩ := exists_cache_of_lastRegistered registered
    refine ⟨place, cache, registered, found, ?_⟩
    simp only [handle, found]
  · rintro ⟨place, cache, registered, found, rfl⟩
    refine ⟨(name, place), mem_places_iff.mpr registered, ?_⟩
    simp only [handle, found]

end Bank

end ComicCatalogue.Cache
