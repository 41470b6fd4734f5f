import ComicCatalogue.Proofs.Catalogue.Session

/-!
# What a purge leaves

A purge leaves the caches that it does not mean as they are, and in the others the entries of other
namespaces. What is left of a cache rests on the inquiries that the purge does not cover.
-/

namespace ComicCatalogue

namespace Catalogue

/-- The cache after a purge of the cache that a text means. -/
def CacheName.left {α : Type} (name : CacheName) (text : String) (space : Option String)
    (cache : Cache α) : Cache α :=
  if name.IsMeant text then (cache.purge space).2 else cache

theorem CacheName.lifetime_left {α : Type} {name : CacheName} {text : String}
    {space : Option String} {cache : Cache α} :
    (name.left text space cache).lifetime = cache.lifetime := by
  unfold left
  split
  · rfl
  · rfl

/-- The catalogue after a purge of the cache that a text means. -/
def left (text : String) (space : Option String) (catalogue : Catalogue) : Catalogue where
  pageSize := catalogue.pageSize
  taxonomyPageSize := catalogue.taxonomyPageSize
  directory := {
    listings := CacheName.taxonomies.left text space catalogue.directory.listings
    verdicts := if CacheName.taxonomies.IsMeant text then [] else catalogue.directory.verdicts
    memo := catalogue.directory.memo }
  archives := CacheName.archives.left text space catalogue.archives
  lookups := CacheName.archive.left text space catalogue.lookups

/-- How many entries of a cache a purge of the cache that a text means removes. -/
def CacheName.removed {α : Type} (name : CacheName) (text : String) (space : Option String)
    (cache : Cache α) : Nat :=
  if name.IsMeant text then (cache.purge space).1 else 0

/-- How many entries a purge of the cache that a text means removes. -/
def removed (text : String) (space : Option String) (catalogue : Catalogue) : Nat :=
  CacheName.archive.removed text space catalogue.lookups +
    CacheName.archives.removed text space catalogue.archives +
    CacheName.taxonomies.removed text space catalogue.directory.listings

theorem names_registry : registry.names = ["archive", "archives", "taxonomies"] := by
  decide

theorem CacheName.IsMeant.isKnown {name : CacheName} {text : String} (isMeant : name.IsMeant text) :
    text = everyCache ∨ text ∈ registry.names := by
  refine isMeant.imp_right fun same => ?_
  rw [names_registry, same]
  cases name <;> simp [CacheName.text]

section

variable {text : String} (source : Source) (now : Nat) (space : Option String)
  (catalogue : Catalogue)

theorem purge_of_known (known : text = everyCache ∨ text ∈ registry.names) :
    catalogue.purge text space =
      .ok (catalogue.removed text space, catalogue.left text space) := by
  have counted (count : Nat) (sum : count = catalogue.removed text space)
      (purged : catalogue.purge text space = .ok (count, catalogue.left text space)) :
      catalogue.purge text space =
        .ok (catalogue.removed text space, catalogue.left text space) := by
    rw [purged, sum]
  rw [names_registry] at known
  simp only [List.mem_cons, List.not_mem_nil, or_false] at known
  rcases known with rfl | rfl | rfl | rfl
  · exact counted (0 + (catalogue.lookups.purge space).1 + (catalogue.archives.purge space).1 +
      (catalogue.directory.listings.purge space).1)
      (by simp [removed, CacheName.removed, CacheName.IsMeant]) rfl
  · exact counted (catalogue.lookups.purge space).1 (Nat.add_zero _).symm rfl
  · exact counted (catalogue.archives.purge space).1 (Nat.zero_add _).symm rfl
  · exact counted (catalogue.directory.listings.purge space).1 (Nat.zero_add _).symm rfl

theorem purge_of_unknown (unknown : ¬ (text = everyCache ∨ text ∈ registry.names)) :
    catalogue.purge text space = .error (.unknownCache text) := by
  obtain ⟨notEvery, notNamed⟩ := not_or.mp unknown
  have notFound : registry.places.lookup text = none :=
    List.lookup_eq_none_iff.mpr fun place member => by
      have other : place.1 ≠ text := fun same => notNamed (same ▸ List.mem_map_of_mem member)
      simpa using other.symm
  rw [purge, if_neg notEvery, Cache.Registry.purge, notFound]
  rfl

/-- A purge of a known cache, or of every one, succeeds. -/
theorem step_purge_of_known (known : text = everyCache ∨ text ∈ registry.names) :
    ∃ count, catalogue.step ⟨source, now, .purge text space⟩ =
      (⟨⟨source, now, .purge text space⟩, .purged (.ok count), []⟩, catalogue.left text space) :=
  ⟨catalogue.removed text space, by
    simp only [step, answer, Service.run, Service.update_apply,
      purge_of_known space catalogue known]⟩

/-- A purge of any other cache fails and leaves everything. -/
theorem step_purge_of_unknown (unknown : ¬ (text = everyCache ∨ text ∈ registry.names)) :
    catalogue.step ⟨source, now, .purge text space⟩ =
      (⟨⟨source, now, .purge text space⟩, .purged (.error (.unknownCache text)), []⟩,
        catalogue) := by
  simp only [step, answer, Service.run, Service.update_apply,
    purge_of_unknown space catalogue unknown]

end

end Catalogue

/-- The inquiries that a request does not purge the answers of. -/
def Askings.without (asked : Askings) (request : Catalogue.Request) : Askings :=
  fun inquiry source moment => asked inquiry source moment ∧ ¬ request.Purges inquiry

/-- The inquiries until after the step of a record: those before it that it does not purge the
answers of, and its own. -/
def Askings.after (asked : Askings) (record : Catalogue.Record) : Askings :=
  (asked.without record.request).during record.context record.inquiries

theorem Askings.Only.after {asked : Askings} {source : Source} (only : asked.Only source)
    (record : Catalogue.Record) (same : record.source = source) :
    (asked.after record).Only source := by
  rintro inquiry other moment (⟨before, _⟩ | ⟨_, own, _⟩)
  · exact only inquiry other moment before
  · exact own.trans same

namespace Scheme

variable {ι α : Type} {scheme : Scheme ι α} {texts : List String} {asked : Askings}
  {cache : Cache α}

/-- What is left of a cache rests on the inquiries that the purge does not cover. -/
theorem Backs.left {name : Catalogue.CacheName} (text : String) (space : Option String)
    (backs : scheme.Backs texts asked cache)
    (sameCache : ∀ request, (scheme.inquiry request).cache = name)
    (sameSpace : ∀ request, (scheme.inquiry request).space = scheme.space request) :
    scheme.Backs texts (asked.without (.purge text space)) (name.left text space cache) := by
  intro entry member
  by_cases isMeant : name.IsMeant text
  · rw [Catalogue.CacheName.left, if_pos isMeant] at member ⊢
    obtain ⟨old, uncovered⟩ := Cache.mem_purge_iff.mp member
    obtain ⟨lifetime, request, source, known, sameKey, wasAsked, value⟩ := backs entry old
    refine ⟨lifetime, request, source, known, sameKey, ⟨wasAsked, fun purges => ?_⟩, value⟩
    rw [sameKey] at uncovered
    have covered := purges.2
    rw [sameSpace] at covered
    rcases covered with rfl | rfl <;> simp [Cache.covers, key] at uncovered
  · rw [Catalogue.CacheName.left, if_neg isMeant] at member ⊢
    obtain ⟨lifetime, request, source, known, sameKey, wasAsked, value⟩ := backs entry member
    refine ⟨lifetime, request, source, known, sameKey, ⟨wasAsked, fun purges => ?_⟩, value⟩
    exact isMeant (sameCache request ▸ purges.1)

end Scheme

end ComicCatalogue
