import Mathlib.Data.List.TakeWhile
import ComicCatalogue.Proofs.Search.Grammar
import ComicCatalogue.Proofs.Taxonomy

/-!
# Reading headings

A text begins like a directive exactly when it begins with a written heading, and then the heading
is what `readHead?` takes off.
-/

namespace ComicCatalogue.Search

section Scanning

variable {p : Char → Bool} {text rest : List Char} (ends : ∀ c ∈ rest.head?, p c = false)

include ends

theorem takeWhile_append_of_ends : (text ++ rest).takeWhile p = text.takeWhile p := by
  induction text with
  | nil =>
    cases rest with
    | nil => rfl
    | cons c rest => simp [ends c rfl]
  | cons c text ih => simp [List.takeWhile_cons, ih]

theorem dropWhile_append_of_ends : (text ++ rest).dropWhile p = text.dropWhile p ++ rest := by
  induction text with
  | nil =>
    cases rest with
    | nil => rfl
    | cons c rest => simp [ends c rfl]
  | cons c text ih =>
    cases keep : p c <;> simp [keep, ih]

theorem takeWhile_append (all : ∀ c ∈ text, p c) : (text ++ rest).takeWhile p = text := by
  rw [takeWhile_append_of_ends ends, List.takeWhile_eq_self_iff.mpr all]

theorem dropWhile_append (all : ∀ c ∈ text, p c) : (text ++ rest).dropWhile p = rest := by
  rw [dropWhile_append_of_ends ends, List.dropWhile_eq_nil_iff.mpr all, List.nil_append]

end Scanning

theorem skipChar_of_ne {c : Char} {text : List Char} (other : c ∉ text.head?) :
    skipChar c text = (false, text) := by
  cases text with
  | nil => rfl
  | cons d rest => exact if_neg fun same => other (by simp [same])

theorem skipChar_append {c : Char} {there : Bool} {rest : List Char} (other : c ∉ rest.head?) :
    skipChar c ((if there then [c] else []) ++ rest) = (there, rest) := by
  cases there with
  | true => simp [skipChar]
  | false => exact skipChar_of_ne other

theorem eq_append_of_skipChar {c : Char} {there : Bool} {text rest : List Char}
    (read : skipChar c text = (there, rest)) : text = (if there then [c] else []) ++ rest := by
  unfold skipChar at read
  split at read
  · cases read
    rfl
  · split at read
    · rename_i same
      cases read
      simp [same]
    · cases read
      rfl

theorem readCombinator_append (sign : Sign) {rest : List Char}
    (other : ∀ c ∈ rest.head?, c ≠ '&' ∧ c ≠ '|') :
    readCombinator (sign.text ++ rest) = (sign == .ampersand, rest) := by
  cases sign with
  | ampersand => rfl
  | bar => rfl
  | missing =>
    cases rest with
    | nil => rfl
    | cons c rest =>
      have := other c rfl
      simp [Sign.text, readCombinator, this]

theorem eq_append_of_readCombinator {conjunctive : Bool} {text rest : List Char}
    (read : readCombinator text = (conjunctive, rest)) :
    ∃ sign : Sign, text = sign.text ++ rest ∧ conjunctive = (sign == .ampersand) := by
  unfold readCombinator at read
  split at read
  · cases read
    exact ⟨.ampersand, rfl, rfl⟩
  · cases read
    exact ⟨.bar, rfl, rfl⟩
  · cases read
    exact ⟨.missing, rfl, rfl⟩

namespace Field

theorem isLower_of_mem_name {field : Field} {c : Char} (member : c ∈ field.name.toList) :
    c.isLower := by
  have all : field.name.toList.all Char.isLower := by
    rcases field with ⟨⟨⟩⟩ | _ | _ <;> decide
  exact List.all_eq_true.mp all c member

theorem name_ne_nil (field : Field) : field.name.toList ≠ [] := by
  rcases field with ⟨⟨⟩⟩ | _ | _ <;> decide

theorem name_injective {a b : Field} (same : a.name = b.name) : a = b := by
  revert same
  rcases a with ⟨⟨⟩⟩ | _ | _ <;> rcases b with ⟨⟨⟩⟩ | _ | _ <;> decide

theorem map_toLower_name (field : Field) :
    field.name.toList.map Char.toLower = field.name.toList := by
  rcases field with ⟨⟨⟩⟩ | _ | _ <;> decide

theorem name_of_ofName? {field : Field} {text : List Char}
    (found : ofName? (String.ofList text) = some field) :
    text.map Char.toLower = field.name.toList := by
  unfold ofName? at found
  simp only [Text.equalIgnoringCase, String.toList_ofList, beq_iff_eq] at found
  split at found
  · rename_i same
    cases found
    exact same
  · split at found
    · rename_i same
      cases found
      exact same
    · obtain ⟨which, foundWhich, rfl⟩ := Option.map_eq_some_iff.mp found
      have same := Taxonomy.ofName?_eq_some_iff.mp foundWhich
      simp only [Text.equalIgnoringCase, String.toList_ofList, beq_iff_eq] at same
      rw [← same]
      exact map_toLower_name (.taxonomy which)

/-- A text names the field whose name it is in some case. -/
theorem ofName?_eq_some_iff {field : Field} {text : List Char} :
    ofName? (String.ofList text) = some field ↔ text.map Char.toLower = field.name.toList := by
  refine ⟨name_of_ofName?, fun named => ?_⟩
  have some : (ofName? (String.ofList text)).isSome := by
    unfold ofName?
    simp only [Text.equalIgnoringCase, String.toList_ofList, named]
    cases field with
    | title => rfl
    | pages => rfl
    | taxonomy which =>
      have found : Taxonomy.ofName? (String.ofList text) = Option.some which := by
        rw [Taxonomy.ofName?_eq_some_iff]
        simp only [Text.equalIgnoringCase, String.toList_ofList, named, beq_iff_eq]
        exact map_toLower_name (.taxonomy which)
      rw [found]
      split
      · rfl
      · split <;> rfl
  obtain ⟨other, found⟩ := Option.isSome_iff_exists.mp some
  have same := (name_of_ofName? found).symm.trans named
  rw [found, name_injective (String.toList_injective same)]

end Field

namespace Heading

variable {field : Field}

/-- What the heading says. -/
def head (heading : Heading field) : Head :=
  ⟨heading.hyphen, field, heading.sign == .ampersand, heading.star⟩

theorem isAlpha_of_mem_name (heading : Heading field) : ∀ c ∈ heading.name, c.isAlpha := by
  intro c member
  have lower : c.toLower.isLower := by
    apply Field.isLower_of_mem_name
    rw [← heading.named]
    exact List.mem_map_of_mem member
  unfold Char.toLower at lower
  split at lower
  · rename_i upper
    have isUpper : c.isUpper := decide_eq_true upper
    exact Bool.or_eq_true_iff.mpr (.inl isUpper)
  · exact Bool.or_eq_true_iff.mpr (.inr lower)

theorem name_ne_nil (heading : Heading field) : heading.name ≠ [] := by
  intro empty
  apply field.name_ne_nil
  rw [← heading.named, empty, List.map_nil]

/-- What follows the name in a heading. -/
def modifiers (heading : Heading field) : List Char :=
  heading.sign.text ++ ((if heading.star then ['*'] else []) ++ [':'])

theorem isAlpha_head_modifiers (heading : Heading field) (rest : List Char) :
    ∀ c ∈ (heading.modifiers ++ rest).head?, c.isAlpha = false := by
  obtain ⟨_, _, _, _ | _ | _, _ | _⟩ := heading <;> simp [modifiers, Sign.text]

theorem text_append (heading : Heading field) (rest : List Char) :
    heading.text ++ rest =
      (if heading.hyphen then ['-'] else []) ++ (heading.name ++ (heading.modifiers ++ rest)) := by
  simp [text, modifiers]

/-- A written heading is read as what it says. -/
theorem readHead?_text (heading : Heading field) (rest : List Char) :
    readHead? (heading.text ++ rest) = some (heading.head, rest) := by
  have hyphen : skipChar '-' (heading.text ++ rest) =
      (heading.hyphen, heading.name ++ (heading.modifiers ++ rest)) := by
    rw [text_append]
    apply skipChar_append
    cases same : heading.name with
    | nil => exact absurd same heading.name_ne_nil
    | cons c name =>
      have alpha := heading.isAlpha_of_mem_name c (same ▸ List.mem_cons_self)
      rintro ⟨⟩
      simp at alpha
  have name := takeWhile_append (heading.isAlpha_head_modifiers rest) heading.isAlpha_of_mem_name
  have behind := dropWhile_append (heading.isAlpha_head_modifiers rest) heading.isAlpha_of_mem_name
  have sign : readCombinator (heading.modifiers ++ rest) =
      (heading.sign == .ampersand, (if heading.star then ['*'] else []) ++ ':' :: rest) := by
    have other : ∀ c ∈ ((if heading.star then ['*'] else []) ++ ':' :: rest).head?,
        c ≠ '&' ∧ c ≠ '|' := by
      cases heading.star <;> simp
    simpa [modifiers] using readCombinator_append heading.sign other
  have star : skipChar '*' ((if heading.star then ['*'] else []) ++ ':' :: rest) =
      (heading.star, ':' :: rest) := skipChar_append (by simp)
  have found := Field.ofName?_eq_some_iff.mpr heading.named
  simp only [readHead?, hyphen, name, found, behind, sign, star, head]

/-- What is read as a heading is a written one. -/
theorem exists_of_readHead? {text rest : List Char} {head : Head}
    (found : readHead? text = some (head, rest)) :
    ∃ heading : Heading head.field, text = heading.text ++ rest ∧ head = heading.head := by
  unfold readHead? at found
  rcases hyphen : skipChar '-' text with ⟨negated, named⟩
  rcases sign : readCombinator (named.dropWhile Char.isAlpha) with ⟨conjunctive, signed⟩
  rcases star : skipChar '*' signed with ⟨wildcard, ended⟩
  simp only [hyphen, sign, star] at found
  split at found
  · cases found
  · rename_i field named?
    split at found
    · cases found
      obtain ⟨combinator, signText, rfl⟩ := eq_append_of_readCombinator sign
      refine ⟨⟨negated, named.takeWhile Char.isAlpha, Field.name_of_ofName? named?, combinator,
        wildcard⟩, ?_, rfl⟩
      rw [eq_append_of_skipChar hyphen, text_append]
      have split : named = named.takeWhile Char.isAlpha ++ named.dropWhile Char.isAlpha :=
        List.takeWhile_append_dropWhile.symm
      rw [signText, eq_append_of_skipChar star] at split
      simpa [modifiers] using split
    · cases found

end Heading

end ComicCatalogue.Search
