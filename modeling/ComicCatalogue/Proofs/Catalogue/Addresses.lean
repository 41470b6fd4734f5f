import ComicCatalogue.Proofs.Cache.Bank
import ComicCatalogue.Proofs.Catalogue.Purge

/-!
# Which caches a purge by name reaches

A registry reaches the cache that was registered last under each name, and no other. A name that
stands for no cache is refused, and then nothing changes; the catalogue, which has a registry of its
own caches, then keeps its verdicts on names too.
-/

namespace ComicCatalogue.Cache.Bank

variable {α : Type}

/-- Whatever has been done with caches and their registry in turn, a purge by name has the effect
and the result of a direct purge of the cache that was registered last under the name, and leaves
every other cache. A name under which none was registered is unknown, and then nothing changes; nor
does anything change in a catalogue that is asked to purge a cache that it does not know. A purge of
all is a purge of each name in turn, in any order, and leaves the caches that no name stands for.
The names and the statistics are listed in ascending order, one for each name that a cache was
registered under, and the statistics are those of the cache that was registered last. -/
theorem ofActs_reaches (acts : List (Act α)) (name : String) (space : Option String) :
    let bank := ofActs acts
    (∀ place, lastRegistered name acts = some place →
      ∃ cache, bank.caches[place]? = some cache ∧ cache.name = name ∧
        (∀ now, bank.purge name space =
          .ok ((cache.purge space).1, bank.after (.use place ⟨now, .purge space⟩))) ∧
        ∀ other ≠ place, (bank.after (.purge name space)).caches[other]? = bank.caches[other]?) ∧
    (lastRegistered name acts = none →
      bank.purge name space = .error (.unknownCache name) ∧
        bank.after (.purge name space) = bank) ∧
    (∀ (catalogue : Catalogue) (source : Source) (now : Nat),
      name ≠ Catalogue.everyCache → name ∉ Catalogue.registry.names →
      catalogue.step ⟨source, now, .purge name space⟩ =
        (⟨⟨source, now, .purge name space⟩, .purged (.error (.unknownCache name)), []⟩,
          catalogue)) ∧
    (∀ order : List String, order.Perm bank.registry.names →
      purgeEach space order bank = .ok (bank.purgeAll space)) ∧
    (∀ place, (∀ name, lastRegistered name acts ≠ some place) →
      (bank.purgeAll space).2.caches[place]? = bank.caches[place]?) ∧
    bank.registry.names.Pairwise (· < ·) ∧
    (∀ name, name ∈ bank.registry.names ↔ (lastRegistered name acts).isSome) ∧
    ∀ now, (bank.stats now).map (·.1) = bank.registry.names ∧
      ∀ name stats, (name, stats) ∈ bank.stats now ↔
        ∃ place cache, lastRegistered name acts = some place ∧
          bank.caches[place]? = some cache ∧ cache.stats now = stats := by
  intro bank
  refine ⟨fun place registered => ?_, fun unregistered => ?_,
    fun catalogue source now notEvery notNamed => ?_,
    fun order perm => purgeEach_of_perm perm space,
    fun place unregistered => getElem?_purgeAll unregistered space, pairwise_names_ofActs acts,
    fun _ => mem_names_iff, fun now => ⟨map_fst_stats bank now, fun _ _ => mem_stats_iff⟩⟩
  · obtain ⟨cache, found, named⟩ := exists_cache_of_lastRegistered registered
    have known : bank.registry.place? name = some place :=
      (place?_ofActs acts name).trans registered
    refine ⟨cache, found, named, fun now => ?_, fun other different => ?_⟩
    · rw [purge_of_lookup_eq_some known, purge_handle, found]
      rfl
    · rw [after, purge_of_lookup_eq_some known, purge_handle]
      exact List.getElem?_modify_ne _ _ (Ne.symm different)
  · have unknown : bank.registry.place? name = none :=
      (place?_ofActs acts name).trans unregistered
    refine ⟨purge_of_lookup_eq_none unknown, ?_⟩
    rw [after, purge_of_lookup_eq_none unknown]
  · have unknown := not_or.mpr ⟨notEvery, notNamed⟩
    exact Catalogue.step_purge_of_unknown source now space catalogue unknown

/-- Of two caches of one name the second was registered last, so a purge by the name leaves the
first, and so does a purge of all; a third cache has a name of its own. -/
theorem ofActs_reaches_replaced :
    let key : Key := ⟨"a", "1"⟩
    let acts : List (Act Nat) := [.register 2, .create "words" 16 60, .use 1 ⟨2, .set key 20 none⟩,
      .register 1, .create "numbers" 16 60, .use 0 ⟨1, .set key 10 none⟩, .register 0,
      .create "numbers" 16 60]
    let bank := ofActs acts
    let source : Source := {
      select := fun _ => .error (.persistence "busy")
      archive := fun _ _ => .error (.persistence "busy")
      entries := fun _ _ _ => .error (.persistence "busy") }
    let catalogue := { Catalogue.ofSettings {} with
      directory := { listings := empty "taxonomies" 16 60, verdicts := [((.tag, "cat"), true)] } }
    bank.purge "numbers" (some "a") = .ok (1, bank.after (.use 1 ⟨3, .purge (some "a")⟩)) ∧
      (bank.after (.purge "numbers" (some "a"))).caches[0]? = bank.caches[0]? ∧
      bank.purge "templates" (some "a") = .error (.unknownCache "templates") ∧
      (catalogue.step ⟨source, 3, .purge "templates" (some "a")⟩).2 = catalogue ∧
      purgeEach (some "a") ["words", "numbers"] bank = .ok (bank.purgeAll (some "a")) ∧
      (bank.purgeAll (some "a")).2.caches[0]? = bank.caches[0]? := by
  intro key acts bank source catalogue
  obtain ⟨known, _, _, order, apart, _⟩ := ofActs_reaches acts "numbers" (some "a")
  obtain ⟨_, unknown, refused, _⟩ := ofActs_reaches acts "templates" (some "a")
  obtain ⟨cache, found, _, purged, others⟩ := known 1 (by decide)
  have isSecond : bank.caches[1]? = some ⟨"numbers", 16, 60, [(key, ⟨20, 2, 60⟩)], 0, 0⟩ := rfl
  obtain rfl := Option.some_inj.mp (isSecond.symm.trans found)
  have replaced (name : String) : lastRegistered name acts ≠ some 0 := by
    have places : lastRegistered name acts = if decide ("words" = name) then some 2
        else if decide ("numbers" = name) then some 1
        else if decide ("numbers" = name) then some 0 else none := rfl
    rw [places]
    split
    · decide
    · split
      · decide
      · decide
  refine ⟨purged 3, others 0 (by decide), (unknown (by decide)).1, ?_, order _ (by decide),
    apart 0 replaced⟩
  rw [refused catalogue source 3 (by decide) (by decide)]

end ComicCatalogue.Cache.Bank
