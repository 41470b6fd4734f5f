import Mathlib.Tactic.Simps.Basic
import ComicCatalogue.Proofs.Ascending
import ComicCatalogue.Proofs.Slug.Memo
import ComicCatalogue.Query.Draft

/-!
# Settling without a memo

`Draft.settled` is the query of a draft as it comes out when every slug is computed afresh. Settling
with a sound memo gives the same query.
-/

namespace ComicCatalogue

theorem TaxonomyFilter.eq_of_get {a b : TaxonomyFilter} (same : ∀ slot, a.get slot = b.get slot) :
    a = b := by
  cases a
  cases b
  simp only [TaxonomyFilter.mk.injEq]
  exact ⟨same ⟨.anyOf, false⟩, same ⟨.allOf, false⟩, same ⟨.anyOf, true⟩, same ⟨.allOf, true⟩,
    same ⟨.noneOf, false⟩, same ⟨.noneOf, true⟩⟩

namespace Draft

open Slug.Memo (Yields yields_slug yields_slugs)

/-- The slugs of values, ascending and without the empty one. -/
def canonicalValues (values : List String) : List String :=
  Ascending.ofList ((values.map Slug.ofText).filter (!·.isEmpty))

theorem mem_canonicalValues {slug : String} {values : List String} :
    slug ∈ canonicalValues values ↔ slug ≠ "" ∧ ∃ value ∈ values, Slug.ofText value = slug := by
  simp [canonicalValues, and_comm]

/-- The filter with its values as slugs. -/
def canonicalFilter (filter : TaxonomyFilter) : TaxonomyFilter where
  anyOf := canonicalValues filter.anyOf
  allOf := canonicalValues filter.allOf
  anyContaining := canonicalValues filter.anyContaining
  allContaining := canonicalValues filter.allContaining
  noneOf := canonicalValues filter.noneOf
  noneContaining := canonicalValues filter.noneContaining

@[simp] theorem get_canonicalFilter (filter : TaxonomyFilter) (slot : Slot) :
    (canonicalFilter filter).get slot = canonicalValues (filter.get slot) := by
  obtain ⟨mode, wildcard⟩ := slot
  cases mode <;> cases wildcard <;> rfl

/-- The slug of a text, unless there is no text or its slug is empty. -/
def canonicalSlug? (text : Option String) : Option String :=
  (text.map Slug.ofText).filter (!·.isEmpty)

/-- The constraint on the title. -/
def canonicalTitle (draft : Draft) : Option TitleFilter :=
  match canonicalSlug? draft.titleEquals with
  | some slug => some (.equals slug)
  | none => (canonicalSlug? draft.titleContains).map .contains

theorem addDirective_frame (draft : Draft) (directive : Directive) :
    (draft.addDirective directive).unbounded = draft.unbounded ∧
      (draft.addDirective directive).preloads = draft.preloads := by
  cases directive with
  | taxonomy taxonomy slot values => exact ⟨rfl, rfl⟩
  | title wildcard values => cases wildcard <;> exact ⟨rfl, rfl⟩
  | pages comparison count => exact ⟨rfl, rfl⟩

/-- Directives ask neither for everything at once nor for relations. -/
theorem addDirectives_frame (draft : Draft) (directives : List Directive) :
    (draft.addDirectives directives).unbounded = draft.unbounded ∧
      (draft.addDirectives directives).preloads = draft.preloads := by
  induction directives generalizing draft with
  | nil => exact ⟨rfl, rfl⟩
  | cons directive rest ih =>
    obtain ⟨unbounded, preloads⟩ := draft.addDirective_frame directive
    obtain ⟨unboundedRest, preloadsRest⟩ := ih (draft.addDirective directive)
    exact ⟨unboundedRest.trans unbounded, preloadsRest.trans preloads⟩

/-- The query that a draft settles into, without the help of a memo. -/
@[simps]
def settled (draft : Draft) : Query where
  path := settlePath draft.path
  title := canonicalTitle draft
  filters := .ofFn fun taxonomy => canonicalFilter (draft.filters.get taxonomy)
  pages := settlePages draft.pages
  sort := .ofName draft.sort
  order := .ofName draft.order
  limit := if draft.unbounded then 0 else (min draft.limit maxLimit).toNat
  offset := if draft.unbounded then 0 else draft.offset.toNat
  unbounded := draft.unbounded
  preloads := settlePreloads draft.preloads

theorem yields_slug? (text : Option String) : Yields (slug? text) (canonicalSlug? text) := by
  cases text with
  | none => exact Yields.pure none
  | some text =>
    have same : canonicalSlug? (some text) =
        if (Slug.ofText text).isEmpty then none else some (Slug.ofText text) := by
      by_cases empty : Slug.ofText text = "" <;> simp [canonicalSlug?, empty]
    rw [same]
    exact (yields_slug text).bind (Yields.pure _)

theorem yields_settleTitle (draft : Draft) : Yields draft.settleTitle draft.canonicalTitle := by
  refine (yields_slug? draft.titleEquals).bind ?_
  unfold canonicalTitle
  cases canonicalSlug? draft.titleEquals with
  | some slug => exact Yields.pure _
  | none => exact (yields_slug? draft.titleContains).bind (Yields.pure _)

theorem yields_settleValues (values : List String) :
    Yields (settleValues values) (canonicalValues values) :=
  (yields_slugs values).bind (Yields.pure _)

theorem yields_settleFilter (filter : TaxonomyFilter) :
    Yields (settleFilter filter) (canonicalFilter filter) :=
  (yields_settleValues _).bind <| (yields_settleValues _).bind <|
    (yields_settleValues _).bind <| (yields_settleValues _).bind <|
      (yields_settleValues _).bind <| (yields_settleValues _).bind (Yields.pure _)

/-- From a sound memo, a draft settles into the query that it settles into without one. -/
theorem yields_settle (draft : Draft) : Yields draft.settle draft.settled :=
  (yields_settleTitle draft).bind <| (yields_settleFilter _).bind <|
    (yields_settleFilter _).bind <| (yields_settleFilter _).bind <|
      (yields_settleFilter _).bind <| (yields_settleFilter _).bind (Yields.pure _)

/-- A draft without names and titles needs no memo. -/
theorem settle_of_nameless {draft : Draft} (noTitle : draft.titleEquals = none)
    (noPart : draft.titleContains = none) (noNames : draft.filters = .const {}) :
    draft.settle = pure draft.settled := by
  obtain ⟨_, _, _, pages, path, sort, order, limit, offset, unbounded, preloads⟩ := draft
  dsimp only at noTitle noPart noNames
  subst noTitle noPart noNames
  have title : settleTitle
      ⟨.const {}, none, none, pages, path, sort, order, limit, offset, unbounded, preloads⟩ =
        pure none := rfl
  have filter : settleFilter {} = pure {} := rfl
  rw [settle, title]
  simp only [PerTaxonomy.const, PerTaxonomy.ofFn, filter, pure_bind]
  rfl

end Draft

end ComicCatalogue
