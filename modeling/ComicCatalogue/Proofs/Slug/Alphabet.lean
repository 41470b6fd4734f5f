import Mathlib.Data.List.Basic
import ComicCatalogue.Proofs.Like
import ComicCatalogue.Proofs.Slug.Memo
import ComicCatalogue.Proofs.Unicode.Words

/-!
# The characters of slugs

A slug consists of hyphens and of letters and digits in lower case. So no wildcard occurs in it, no
character that databases read as another, and no capital: as a pattern a slug stands for itself.
-/

namespace ComicCatalogue

namespace Slug

/-- A character that stands for itself in patterns and texts, and that is no capital A to Z. -/
def IsLiteral (c : Char) : Prop :=
  c ≠ '%' ∧ c ≠ '_' ∧ (c.toNat ≠ 0 ∧ c.toNat ≠ 0xFFFE ∧ c.toNat ≠ 0xFFFF) ∧ c.toLower = c

theorem not_isAlphanumeric_special :
    ∀ n ∈ [0, 0x25, 0x5F, 0xFFFE, 0xFFFF], Unicode.Alphanumeric.table.contains n = false := by
  decide +kernel

theorem isLiteral_of_mem_lowercaseChar {c d : Char} (letter : Unicode.isAlphanumeric c)
    (member : d ∈ Unicode.lowercaseChar c) : IsLiteral d := by
  have folded : d.toLower = d :=
    Unicode.toLower_eq_self_of_lowercaseChar (Unicode.lowercaseChar_of_mem_lowercaseChar member)
  rcases Unicode.mem_lowercaseChar member with ⟨-, rfl | rfl⟩ | ⟨-, value⟩
  · exact ⟨by decide, by decide, by decide, folded⟩
  · exact ⟨by decide, by decide, by decide, folded⟩
  · have other : d.toNat ∉ [0, 0x25, 0x5F, 0xFFFE, 0xFFFF] := by
      rw [value]
      rcases Unicode.lowercaseCodePoint_cases c.toNat with same | image
      · rw [same]
        intro special
        rw [Unicode.isAlphanumeric, not_isAlphanumeric_special _ special] at letter
        cases letter
      · simp only [Unicode.isLowercaseImage, decide_eq_true_eq] at image
        simp only [List.mem_cons, List.not_mem_nil, or_false]
        omega
    simp only [List.mem_cons, List.not_mem_nil, or_false, not_or] at other
    obtain ⟨notNull, notPercent, notUnderscore, notFirst, notLast⟩ := other
    exact ⟨fun same => notPercent (by rw [same]; rfl),
      fun same => notUnderscore (by rw [same]; rfl), ⟨notNull, notFirst, notLast⟩, folded⟩

theorem isLiteral_of_mem_ofChars {text : List Char} {c : Char} (member : c ∈ ofChars text) :
    IsLiteral c := by
  rcases Unicode.mem_intercalate member with hyphen | ⟨part, isRun, inside⟩
  · rw [List.mem_singleton.mp hyphen]
    exact ⟨by decide, by decide, by decide, by decide⟩
  · obtain ⟨run, runMember, rfl⟩ := List.mem_map.mp isRun
    obtain ⟨letter, inRun, lower⟩ := List.mem_flatMap.mp inside
    exact isLiteral_of_mem_lowercaseChar (Unicode.of_mem_runs runMember inRun) lower

/-- Every character of a slug stands for itself. -/
theorem isLiteral_of_mem_ofText {text : String} {c : Char} (member : c ∈ (ofText text).toList) :
    IsLiteral c := by
  rw [ofText, String.toList_ofList] at member
  exact isLiteral_of_mem_ofChars member

theorem isFolded_ofText (text : String) : Like.IsFolded (ofText text).toList :=
  fun _ member => (isLiteral_of_mem_ofText member).2.2.2

theorem isFaithful_ofText (text : String) : Like.IsFaithful (ofText text).toList :=
  fun _ member => (isLiteral_of_mem_ofText member).2.2.1

/-- The pattern of a slug finds the slugs with this slug in them. -/
theorem accepts_within_ofText_iff (part text : String) :
    Like.accepts none (Like.within (ofText part).toList) (ofText text).toList ↔
      (ofText part).toList <:+: (ofText text).toList :=
  Like.accepts_within_iff (isFolded_ofText part) (isFolded_ofText text)
    (fun _ member => ⟨(isLiteral_of_mem_ofText member).1, (isLiteral_of_mem_ofText member).2.1⟩)
    (isFaithful_ofText part) (isFaithful_ofText text)

end Slug

end ComicCatalogue
