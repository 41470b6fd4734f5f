import ComicCatalogue.Proofs.Slug.Idempotence

/-!
# Which texts are slugs

A text is a slug if and only if it consists of plain words with a single hyphen between each two of
them; the empty text is the slug without words. So folding has no effect on slugs, and none of the
characters by which texts are separated or quoted elsewhere comes up in a slug.
-/

namespace ComicCatalogue.Slug

open Unicode

/-- Words of plain letters and digits with a single hyphen between each two of them. -/
def IsHyphenated (text : List Char) : Prop :=
  ∃ words : List (List Char), text = ['-'].intercalate words ∧
    ∀ word ∈ words, word ≠ [] ∧ ∀ c ∈ word, IsPlain c

/-- The texts of hyphenated words are their own slugs, and no others are. -/
theorem ofText_eq_self_iff {text : String} : ofText text = text ↔ IsHyphenated text.toList := by
  constructor
  · intro same
    rw [← same, ofText, String.toList_ofList]
    exact ⟨wordsOf text.toList, rfl, forall_mem_wordsOf text.toList⟩
  · rintro ⟨words, same, arePlain⟩
    rw [ofText, same, ofChars_intercalate arePlain, ← same, String.ofList_toList]

/-- The slugs of all texts are the texts of hyphenated words. -/
theorem exists_ofText_eq_iff {slug : String} :
    (∃ text, ofText text = slug) ↔ IsHyphenated slug.toList := by
  constructor
  · rintro ⟨text, rfl⟩
    rw [← ofText_eq_self_iff]
    exact ofText_ofText text
  · intro hyphenated
    exact ⟨slug, ofText_eq_self_iff.mpr hyphenated⟩

namespace IsHyphenated

variable {text : List Char} (hyphenated : IsHyphenated text)
include hyphenated

/-- Two hyphens in a row, or one at an end, would leave an empty piece between them. -/
theorem nil_notMem_pieces (some : text ≠ []) : [] ∉ pieces isAlphanumeric text := by
  obtain ⟨words, rfl, arePlain⟩ := hyphenated
  have someWords : words ≠ [] := by
    rintro rfl
    exact some rfl
  rw [pieces_intercalate not_isAlphanumeric_hyphen someWords fun word isWord c inside =>
    ((arePlain word isWord).2 c inside).letter]
  intro isWord
  exact (arePlain [] isWord).1 rfl

theorem not_hyphen_isPrefix : ¬['-'] <+: text := by
  rintro ⟨rest, rfl⟩
  apply hyphenated.nil_notMem_pieces (List.cons_ne_nil _ _)
  rw [List.singleton_append, pieces_cons_of_not_keep not_isAlphanumeric_hyphen]
  exact List.mem_cons_self

theorem not_hyphen_isSuffix : ¬['-'] <:+ text := by
  rintro ⟨rest, rfl⟩
  apply hyphenated.nil_notMem_pieces (List.append_ne_nil_of_right_ne_nil _ (List.cons_ne_nil _ _))
  rw [pieces_append_cons not_isAlphanumeric_hyphen]
  exact List.mem_append_right _ List.mem_cons_self

theorem not_hyphens_isInfix : ¬['-', '-'] <:+: text := by
  rintro ⟨front, back, rfl⟩
  rw [List.append_assoc, List.cons_append, List.singleton_append] at hyphenated
  apply hyphenated.nil_notMem_pieces (List.append_ne_nil_of_right_ne_nil _ (List.cons_ne_nil _ _))
  rw [pieces_append_cons not_isAlphanumeric_hyphen,
    pieces_cons_of_not_keep not_isAlphanumeric_hyphen]
  exact List.mem_append_right _ List.mem_cons_self

theorem eq_hyphen_or_isPlain {c : Char} (member : c ∈ text) : c = '-' ∨ IsPlain c := by
  obtain ⟨words, rfl, arePlain⟩ := hyphenated
  rw [← ofChars_intercalate arePlain] at member
  exact mem_ofChars member

end IsHyphenated

/-- The characters that stand for something else in patterns, lists and quotations. -/
def separators : List Char :=
  "%_,\"'“”‘’«»".toList

theorem toNat_separators : separators.map Char.toNat =
    [0x25, 0x5F, 0x2C, 0x22, 0x27, 0x201C, 0x201D, 0x2018, 0x2019, 0xAB, 0xBB] := by
  decide

theorem not_isAlphanumeric_separators : ∀ c ∈ separators, isAlphanumeric c = false := by
  have outside : ∀ n ∈ separators.map Char.toNat, Alphanumeric.table.contains n = false := by
    rw [toNat_separators]
    decide +kernel
  exact fun c member => outside c.toNat (List.mem_map_of_mem member)

theorem symbol_ne_hyphen : ∀ reading ∈ symbolReadings, reading.1 ≠ '-' := by
  decide

/-- White space, a separator and a symbol with a reading of its own are no characters of slugs. -/
theorem IsHyphenated.isClean {text : List Char} (hyphenated : IsHyphenated text) {c : Char}
    (member : c ∈ text) :
    isWhitespace c = false ∧ c ∉ separators ∧ c ∉ symbolReadings.map (·.1) := by
  have other {d : Char} (fails : isAlphanumeric d = false) (notHyphen : d ≠ '-') : c ≠ d := by
    rcases hyphenated.eq_hyphen_or_isPlain member with rfl | isPlain
    · exact notHyphen.symm
    · exact isPlain.ne_of_not_isAlphanumeric fails
  refine ⟨?_, ?_, ?_⟩
  · rcases hyphenated.eq_hyphen_or_isPlain member with rfl | isPlain
    · decide
    · exact isPlain.isWhitespace_eq_false
  · intro isSeparator
    exact other (not_isAlphanumeric_separators c isSeparator)
      (fun same => absurd (same ▸ isSeparator) (by decide)) rfl
  · intro isSymbol
    obtain ⟨reading, isReading, same⟩ := List.mem_map.mp isSymbol
    exact other (not_isAlphanumeric_symbols reading isReading) (symbol_ne_hyphen reading isReading)
      same.symm

/-- Folding a slug once more has no effect. The slugs are the texts of plain words with a single
hyphen between each two of them: no hyphen stands at an end or beside another one, and no white
space, separator or symbol is in them. -/
theorem ofText_isHyphenated :
    (∀ text, ofText (ofText text) = ofText text) ∧
      (∀ slug, (∃ text, ofText text = slug) ↔ IsHyphenated slug.toList) ∧
      ∀ text, ¬['-'] <+: (ofText text).toList ∧ ¬['-'] <:+ (ofText text).toList ∧
        ¬['-', '-'] <:+: (ofText text).toList ∧
        ∀ c ∈ (ofText text).toList,
          isWhitespace c = false ∧ c ∉ separators ∧ c ∉ symbolReadings.map (·.1) := by
  refine ⟨ofText_ofText, fun _ => exists_ofText_eq_iff, fun text => ?_⟩
  have hyphenated : IsHyphenated (ofText text).toList := exists_ofText_eq_iff.mp ⟨text, rfl⟩
  refine ⟨hyphenated.not_hyphen_isPrefix, hyphenated.not_hyphen_isSuffix,
    hyphenated.not_hyphens_isInfix, ?_⟩
  intro c member
  exact hyphenated.isClean member

/-- Four words, of which accents, symbols and punctuation are folded away; the last is a letter of
full width. -/
theorem ofText_isHyphenated_accented :
    ofText "  Café ☆ Olé, 東方_Ｘ! " = "cafe-ole-東方-x" ∧
      ofText "cafe-ole-東方-x" = "cafe-ole-東方-x" ∧ IsHyphenated "cafe-ole-東方-x".toList ∧
      isWhitespace 'x' = false ∧ 'x' ∉ separators ∧ 'x' ∉ symbolReadings.map (·.1) := by
  obtain ⟨idempotent, image, clean⟩ := ofText_isHyphenated
  have folded : ofText "  Café ☆ Olé, 東方_Ｘ! " = "cafe-ole-東方-x" := by
    decide +kernel
  have again := idempotent "  Café ☆ Olé, 東方_Ｘ! "
  rw [folded] at again
  have hyphenated := (image "cafe-ole-東方-x").mp ⟨_, folded⟩
  have isIn : 'x' ∈ (ofText "  Café ☆ Olé, 東方_Ｘ! ").toList := by
    rw [folded]
    decide
  exact ⟨folded, again, hyphenated, (clean "  Café ☆ Olé, 東方_Ｘ! ").2.2.2 'x' isIn⟩

end ComicCatalogue.Slug
