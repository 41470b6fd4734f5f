import Mathlib.Order.RelClasses
import ComicCatalogue.Taxonomy

/-!
# Taxonomies and their names

Taxonomies are told apart by their rank and, in any case, by their name and their plural, and a
value for each of them is given by its five parts.
-/

namespace ComicCatalogue

namespace Taxonomy

theorem mem_all (taxonomy : Taxonomy) : taxonomy ∈ all := by
  cases taxonomy <;> decide

theorem rank_injective {a b : Taxonomy} (same : a.rank = b.rank) : a = b := by
  cases a <;> cases b <;> simp_all [rank]

/-- Taxonomies are ordered by their rank, which tells them apart. -/
instance : IsStrictTotalOrder Taxonomy (· < ·) where
  irrefl a := Nat.lt_irrefl a.rank
  trans _ _ _ := Nat.lt_trans
  trichotomous _ _ notBelow notAbove :=
    rank_injective (Nat.le_antisymm (Nat.not_lt.mp notAbove) (Nat.not_lt.mp notBelow))

/-- A search by names that no two taxonomies share, in whatever case, finds the one of that
name. -/
theorem find?_eq_some_iff {nameOf : Taxonomy → String} {name : String} {taxonomy : Taxonomy}
    (distinct : ∀ a b, Text.equalIgnoringCase (nameOf a) (nameOf b) → a = b) :
    all.find? (fun other => Text.equalIgnoringCase (nameOf other) name) = some taxonomy ↔
      Text.equalIgnoringCase (nameOf taxonomy) name := by
  constructor
  · intro found
    have same := List.find?_some found
    exact same
  · intro same
    cases found : all.find? fun other => Text.equalIgnoringCase (nameOf other) name with
    | some other =>
      have sameOther := List.find?_some found
      simp only [Text.equalIgnoringCase, beq_iff_eq] at same sameOther
      rw [distinct other taxonomy (by simp [Text.equalIgnoringCase, same, sameOther])]
    | none => exact absurd same (List.find?_eq_none.mp found taxonomy (mem_all taxonomy))

theorem ofName?_eq_some_iff {name : String} {taxonomy : Taxonomy} :
    ofName? name = some taxonomy ↔ Text.equalIgnoringCase taxonomy.name name :=
  find?_eq_some_iff fun a b => by cases a <;> cases b <;> decide

/-- A relation leads to a taxonomy if its trimmed name is the plural in some case. -/
theorem ofRelation?_eq_some_iff {relation : String} {taxonomy : Taxonomy} :
    ofRelation? relation = some taxonomy ↔
      Text.equalIgnoringCase taxonomy.plural (Text.trim relation) :=
  find?_eq_some_iff fun a b => by cases a <;> cases b <;> decide

end Taxonomy

theorem PerTaxonomy.eq_of_get {α : Type} {a b : PerTaxonomy α}
    (same : ∀ taxonomy, a.get taxonomy = b.get taxonomy) : a = b := by
  rw [← ofFn_get a, ← ofFn_get b, funext same]

end ComicCatalogue
