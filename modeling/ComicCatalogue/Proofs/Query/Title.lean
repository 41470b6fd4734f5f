import ComicCatalogue.Proofs.Query.Canonical
import ComicCatalogue.Proofs.Slug.Dividers

/-!
# Titles of several values

A title directive may have several values, which are taken as one title with commas. A comma divides
texts like any other divider, so the title that is searched for is made of the slugs of the values.
-/

namespace ComicCatalogue.Draft

/-- The values of an edit that asks for a title: the whole of it, or a part. -/
def Edit.titleValues? (wildcard : Bool) : Edit → Option (List String)
  | directive (.title other values) => if other = wildcard then some values else none
  | _ => none

theorem Edit.title?_eq_map (wildcard : Bool) :
    Edit.title? wildcard = fun edit => (edit.titleValues? wildcard).map (",".intercalate ·) := by
  funext edit
  cases edit with
  | directive directive =>
    cases directive with
    | title other values =>
      by_cases same : other = wildcard <;> simp [Edit.title?, Edit.titleValues?, same]
    | _ => rfl
  | _ => rfl

theorem last?_map {α β : Type} (part : Edit → Option α) (f : α → β) (edits : List Edit) :
    last? (fun edit => (part edit).map f) edits = (last? part edits).map f := by
  rw [last?, last?, ← List.map_filterMap, List.getLast?_map]

/-- The slugs of the values of the last directive that asks for a title, the whole of it or a part,
put together, unless none of the values has a slug. -/
def titleSlug? (wildcard : Bool) (edits : List Edit) : Option String :=
  ((last? (Edit.titleValues? wildcard) edits).map Slug.joinSlugs).filter (!·.isEmpty)

theorem canonicalSlug?_last?_title (wildcard : Bool) (edits : List Edit) :
    canonicalSlug? (last? (Edit.title? wildcard) edits) = titleSlug? wildcard edits := by
  have joined : Slug.ofText ∘ (",".intercalate ·) = Slug.joinSlugs :=
    funext Slug.ofText_intercalate_comma
  rw [Edit.title?_eq_map, last?_map, canonicalSlug?, titleSlug?, Option.map_map, joined]

/-- The slug of texts with dividers between each two of them and around them is made of the slugs of
the texts. So white space at the ends of a text has no effect, and a title directive asks for the
slugs of its values put together. -/
theorem ofText_divided :
    (∀ divided : Slug.Divided, Slug.ofText divided.text = Slug.joinSlugs divided.texts) ∧
      (∀ text, Slug.ofText (Text.trim text) = Slug.ofText text) ∧
      ∀ (edits : List Edit) (seen : List String), (settledAfter seen edits).title =
        ((titleSlug? false edits).map TitleFilter.equals).or
          ((titleSlug? true edits).map TitleFilter.contains) := by
  refine ⟨Slug.ofText_text, Slug.ofText_trim, ?_⟩
  intro edits seen
  have title := (canonical_settledAfter edits seen).title
  rwa [canonicalSlug?_last?_title, canonicalSlug?_last?_title] at title

/-- One of the values is folded to nothing. -/
example : titleSlug? false [.directive (.title false ["Zero Gravity", "❤", "Σ"])] =
    some "zero-gravity-σ" := by
  decide +kernel

end ComicCatalogue.Draft
