import ComicCatalogue.Proofs.Cache.Fetch
import ComicCatalogue.Proofs.Service.Agreement

/-!
# Caches that differ in their counts

The counts of hits and misses are only ever added to: no operation of a cache reads them. Two caches
of one kind with the same entries, in the same order of touches, therefore give the same results
and stay so, and emptying a cache makes it like a new one.
-/

namespace ComicCatalogue

namespace Cache

variable {α : Type} {start a b : Cache α}

/-- The cache as if it had never been looked up in. -/
def uncounted (cache : Cache α) : Cache α :=
  { cache with hits := 0, misses := 0 }

/-- The cache as it was when it was new. -/
def emptied (cache : Cache α) : Cache α :=
  { cache.uncounted with entries := [] }

/-- Two caches that were both like a given one when they were new and differ at most in their
counts. -/
structure Alike (start a b : Cache α) : Prop where
  emptied : a.emptied = start
  uncounted : a.uncounted = b.uncounted

theorem Alike.entries (alike : Alike start a b) : a.entries = b.entries := by
  have same := congrArg Cache.entries alike.uncounted
  exact same

/-- Looking a result up neither reads the counts nor changes what the cache was like. -/
theorem get_uncounted (now : Nat) (key : Key) (cache : Cache α) :
    (cache.uncounted.get now key).1 = (cache.get now key).1 ∧
      (cache.uncounted.get now key).2.uncounted = (cache.get now key).2.uncounted ∧
      (cache.get now key).2.emptied = cache.emptied := by
  have same : cache.uncounted.held? key = cache.held? key := rfl
  unfold get
  rw [same]
  split
  · exact ⟨rfl, rfl, rfl⟩
  · dsimp only
    split
    · exact ⟨rfl, rfl, rfl⟩
    · exact ⟨rfl, rfl, rfl⟩

theorem Alike.get (alike : Alike start a b) (now : Nat) (key : Key) :
    (a.get now key).1 = (b.get now key).1 ∧ Alike start (a.get now key).2 (b.get now key).2 := by
  obtain ⟨found, after, kind⟩ := get_uncounted now key a
  obtain ⟨foundOther, afterOther, _⟩ := get_uncounted now key b
  rw [← found, ← foundOther, alike.uncounted]
  refine ⟨rfl, kind.trans alike.emptied, ?_⟩
  rw [← after, ← afterOther, alike.uncounted]

theorem Alike.set (alike : Alike start a b) (now : Nat) (key : Key) (value : α)
    (lifetime : Option Nat) :
    Alike start (a.set now key value lifetime) (b.set now key value lifetime) where
  emptied := alike.emptied
  uncounted := congrArg (Cache.set now key value lifetime) alike.uncounted

theorem Alike.purge (alike : Alike start a b) (space : Option String) :
    (a.purge space).1 = (b.purge space).1 ∧ Alike start (a.purge space).2 (b.purge space).2 := by
  have after := congrArg (fun cache : Cache α => (cache.purge space).2) alike.uncounted
  exact ⟨by simp only [Cache.purge, alike.entries], alike.emptied, after⟩

/-- A cache without entries is like the new one. -/
theorem Alike.purge_none (alike : Alike start a b) : Alike start (a.purge none).2 start where
  emptied := alike.emptied
  uncounted := by
    have emptied : (a.purge none).2.uncounted = a.emptied := by
      simp [Cache.purge, Cache.uncounted, Cache.emptied, covers]
    rw [emptied, alike.emptied, ← alike.emptied]
    rfl

theorem Alike.size_stats (alike : Alike start a b) (now : Nat) :
    (a.stats now).size = (b.stats now).size := by
  simp only [stats, alike.entries]

end Cache

namespace Scheme

variable {ι α β σ : Type} {scheme : Scheme ι α} {start a b : Cache α}

/-- Fetching an answer does not depend on the counts. -/
theorem fetch_alike (scheme : Scheme ι α) (context : Context) (request : ι)
    (alike : Cache.Alike start a b) :
    (scheme.fetch context request a).value = (scheme.fetch context request b).value ∧
      (scheme.fetch context request a).made = (scheme.fetch context request b).made ∧
      Cache.Alike start (scheme.fetch context request a).cache
        (scheme.fetch context request b).cache := by
  obtain ⟨sameFound, alikeAfter⟩ := alike.get context.now (scheme.key request)
  unfold fetch
  generalize a.get context.now (scheme.key request) = got at *
  generalize b.get context.now (scheme.key request) = gotOther at *
  obtain ⟨found, after⟩ := got
  obtain ⟨foundOther, afterOther⟩ := gotOther
  obtain rfl : found = foundOther := sameFound
  cases found with
  | some value => exact ⟨rfl, rfl, alikeAfter⟩
  | none => exact ⟨rfl, rfl, alikeAfter.set _ _ _ _⟩

/-- A fetch agrees for a relation by which the caches are alike. -/
theorem IsFetch.agrees {related : σ → σ → Prop} {request : ι} {get : σ → Cache α}
    {put : Cache α → σ → σ} {present : α → β} {step : Service σ β}
    (isFetch : scheme.IsFetch request get put present step)
    (taken : ∀ a b, related a b → Cache.Alike start (get a) (get b))
    (placed : ∀ a b, related a b → ∀ c d, Cache.Alike start c d → related (put c a) (put d b)) :
    Service.Agrees related step := by
  intro context a b alike
  obtain ⟨sameValue, sameMade, alikeAfter⟩ :=
    fetch_alike scheme context request (taken _ _ alike.state)
  rw [isFetch, isFetch]
  refine ⟨congrArg present sameValue, placed _ _ alike.state _ _ alikeAfter, ?_⟩
  simp only [alike.inquiries, sameMade]

end Scheme

end ComicCatalogue
