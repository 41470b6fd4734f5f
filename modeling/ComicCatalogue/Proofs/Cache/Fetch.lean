import ComicCatalogue.Proofs.Cache.Basic
import ComicCatalogue.Proofs.Service
import ComicCatalogue.Sha256

/-!
# Fetching what a source answered

A service that keeps answers puts an inquiry to its source only if it does not find the answer to an
equal request under the key of the request. The key holds the hash of a text, so that equal keys
mean equal requests as long as no two texts that come up have the same hash.

Every entry of the cache then is what a source answered to the request of the entry's key, at the
moment that the entry is from.
-/

namespace ComicCatalogue

/-- Different texts among the given ones have different hashes. -/
def NoCollision (texts : List String) : Prop :=
  ∀ a ∈ texts, ∀ b ∈ texts, Sha256.hexDigest a = Sha256.hexDigest b → a = b

theorem NoCollision.mono {texts others : List String} (noCollision : NoCollision others)
    (fewer : texts ⊆ others) : NoCollision texts :=
  fun a member b memberOther => noCollision a (fewer member) b (fewer memberOther)

theorem noCollision_singleton (text : String) : NoCollision [text] := by
  intro first member second memberOther _
  exact (List.mem_singleton.mp member).trans (List.mem_singleton.mp memberOther).symm

theorem noCollision_pair {a b : String} (differ : Sha256.hexDigest a ≠ Sha256.hexDigest b) :
    NoCollision [a, b] := by
  intro first member second memberOther same
  simp only [List.mem_cons, List.not_mem_nil, or_false] at member memberOther
  rcases member with rfl | rfl <;> rcases memberOther with rfl | rfl
  · rfl
  · exact absurd same differ
  · exact absurd same.symm differ
  · rfl

/-- How requests of one kind are answered and kept. -/
structure Scheme (ι α : Type) where
  /-- The question that a request puts to the source. -/
  inquiry : ι → Inquiry
  /-- What the answer of a source is kept as. -/
  answer : ι → Source → α
  /-- The namespace under which the answer is kept. -/
  space : ι → String
  /-- The text whose hash is the local key. -/
  text : ι → String
  /-- A namespace and a text belong to one request. -/
  separates : ∀ a b, space a = space b → text a = text b → a = b

/-- An answer, the cache after it was fetched, and the inquiries that were made for it. -/
structure Fetched (α : Type) where
  value : α
  cache : Cache α
  made : List Inquiry

namespace Scheme

variable {ι α : Type} (scheme : Scheme ι α)

/-- The key under which the answer to a request is kept. -/
def key (request : ι) : Cache.Key :=
  ⟨scheme.space request, Sha256.hexDigest (scheme.text request)⟩

/-- The answer to a request: the one that is kept, if it can still be found, and otherwise that of
the source, which is kept from now on. -/
def fetch (context : Context) (request : ι) (cache : Cache α) : Fetched α :=
  match cache.get context.now (scheme.key request) with
  | (some value, cache) => ⟨value, cache, []⟩
  | (none, cache) =>
    let value := scheme.answer request context.source
    ⟨value, cache.set context.now (scheme.key request) value none, [scheme.inquiry request]⟩

/-- Every entry of a cache was answered to a request with one of the texts, and it can be found for
the lifetime of the cache. -/
def Backs (texts : List String) (asked : Askings) (cache : Cache α) : Prop :=
  ∀ entry ∈ cache.entries, entry.2.lifetime = cache.lifetime ∧
    ∃ request source, scheme.text request ∈ texts ∧ entry.1 = scheme.key request ∧
      asked (scheme.inquiry request) source entry.2.since ∧
      entry.2.value = scheme.answer request source

/-- A value was answered to a request: in this step, or earlier and so lately that it could still be
found. -/
def IsRecent (asked : Askings) (context : Context) (inquiries : List Inquiry) (lifetime : Nat)
    (request : ι) (value : α) : Prop :=
  scheme.inquiry request ∈ inquiries ∧ value = scheme.answer request context.source ∨
    ∃ source since, asked (scheme.inquiry request) source since ∧
      value = scheme.answer request source ∧ context.now - since < lifetime

variable {scheme} {texts : List String} {asked : Askings} {context : Context}
  {inquiries : List Inquiry} {cache : Cache α}

theorem key_inj (noCollision : NoCollision texts) {a b : ι} (known : scheme.text a ∈ texts)
    (knownOther : scheme.text b ∈ texts) (same : scheme.key a = scheme.key b) : a = b := by
  simp only [key, Cache.Key.mk.injEq] at same
  exact scheme.separates a b same.1 (noCollision _ known _ knownOther same.2)

/-- Entries stay backed when more has been asked. -/
theorem Backs.mono {others : Askings} (backs : scheme.Backs texts asked cache)
    (more : ∀ inquiry source moment, asked inquiry source moment → others inquiry source moment) :
    scheme.Backs texts others cache := by
  intro entry member
  obtain ⟨lifetime, request, source, known, sameKey, wasAsked, value⟩ := backs entry member
  exact ⟨lifetime, request, source, known, sameKey, more _ _ _ wasAsked, value⟩

theorem Backs.get (backs : scheme.Backs texts asked cache) (now : Nat) (key : Cache.Key) :
    scheme.Backs texts asked (cache.get now key).2 := by
  intro entry member
  rw [Cache.lifetime_get]
  exact backs entry (Cache.mem_of_mem_get member)

/-- Fetching an answer keeps every entry backed, and the answer is recent. -/
theorem backs_fetch (noCollision : NoCollision texts) {request : ι}
    (known : scheme.text request ∈ texts)
    (backs : scheme.Backs texts (asked.during context inquiries) cache) :
    let fetched := scheme.fetch context request cache
    scheme.Backs texts (asked.during context (inquiries ++ fetched.made)) fetched.cache ∧
      fetched.cache.lifetime = cache.lifetime ∧
      scheme.IsRecent asked context (inquiries ++ fetched.made) cache.lifetime request
        fetched.value := by
  have first := backs.get context.now (scheme.key request)
  have lifetime : (cache.get context.now (scheme.key request)).2.lifetime = cache.lifetime :=
    Cache.lifetime_get
  match got : cache.get context.now (scheme.key request) with
  | (none, after) =>
    rw [got] at first lifetime
    rw [fetch, got]
    refine ⟨fun entry member => ?_, lifetime, .inl ⟨by simp, rfl⟩⟩
    rcases Cache.mem_of_mem_set member with rfl | old
    · exact ⟨rfl, request, context.source, known, rfl, .inr ⟨by simp, rfl, rfl⟩, rfl⟩
    · exact first.mono (fun _ _ _ => Askings.during_mono (List.subset_append_left _ _)) entry old
  | (some value, after) =>
    have found : (cache.get context.now (scheme.key request)).1 = some value := by rw [got]
    obtain ⟨held, member, fresh, rfl⟩ := Cache.mem_of_get_eq_some found
    obtain ⟨ownLifetime, other, source, knownOther, sameKey, wasAsked, isAnswer⟩ := backs _ member
    -- The entry was kept for a request of its own, which the key shows to be this one.
    obtain rfl := key_inj noCollision known knownOther sameKey
    rw [got] at first lifetime
    rw [fetch, got]
    simp only [List.append_nil]
    refine ⟨first, lifetime, ?_⟩
    rcases wasAsked with before | ⟨made, rfl, _⟩
    · refine .inr ⟨source, held.since, before, isAnswer, ?_⟩
      simp only at ownLifetime
      simpa only [Cache.Held.isFresh, ownLifetime, decide_eq_true_eq] using fresh
    · exact .inl ⟨made, isAnswer⟩

/-- A step fetches the answer to a request with the cache that is a part of the state. -/
def IsFetch {σ β : Type} (scheme : Scheme ι α) (request : ι) (get : σ → Cache α)
    (put : Cache α → σ → σ) (present : α → β) (step : Service σ β) : Prop :=
  ∀ context traced, step context traced =
    let fetched := scheme.fetch context request (get traced.state)
    (present fetched.value, {
      state := put fetched.cache traced.state
      inquiries := traced.inquiries ++ fetched.made })

/-- A fetch keeps an invariant by which the cache is backed, and gives a recent answer. -/
theorem IsFetch.ensures {σ β : Type} {invariant : Askings → σ → Prop} {request : ι}
    {get : σ → Cache α} {put : Cache α → σ → σ} {present : α → β} {step : Service σ β}
    {lifetime : Nat} (isFetch : scheme.IsFetch request get put present step)
    (noCollision : NoCollision texts) (known : scheme.text request ∈ texts)
    (taken : ∀ asked state, invariant asked state →
      scheme.Backs texts asked (get state) ∧ (get state).lifetime = lifetime)
    (placed : ∀ asked state, invariant asked state → ∀ others cache,
      (∀ inquiry source moment, asked inquiry source moment → others inquiry source moment) →
      scheme.Backs texts others cache → cache.lifetime = lifetime →
      invariant others (put cache state)) :
    Service.Ensures invariant asked context step fun inquiries b => ∃ value,
      b = present value ∧ scheme.IsRecent asked context inquiries lifetime request value := by
  intro traced kept
  obtain ⟨backs, sameLifetime⟩ := taken _ _ kept
  obtain ⟨backsAfter, keepsLifetime, recent⟩ := backs_fetch noCollision known backs
  rw [sameLifetime] at keepsLifetime recent
  have grows := List.subset_append_left traced.inquiries
    (scheme.fetch context request (get traced.state)).made
  rw [isFetch]
  exact ⟨placed _ _ kept _ _ (fun _ _ _ => Askings.during_mono grows) backsAfter keepsLifetime,
    grows, _, rfl, recent⟩

end Scheme

end ComicCatalogue
