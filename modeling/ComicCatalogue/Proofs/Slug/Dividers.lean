import ComicCatalogue.Proofs.Slug.Edges
import ComicCatalogue.Proofs.Slug.Plain

/-!
# Characters that divide texts

White space, hyphens, underscores, commas and stars divide a text: no letter is read differently
because of what stands behind such a character or in front of it, and none comes out of it. So the
slug of texts with any dividers between them and around them is made of the slugs of the texts.
-/

namespace ComicCatalogue

namespace Unicode

variable {c : Char}

/-- A character that is neither cased nor skipped ends the word in front of it. -/
theorem startsCased_append_cons (seen : isCaseIgnorable c = false) (uncased : isCased c = false)
    (text other : List Char) : startsCased (text ++ c :: other) = startsCased text := by
  refine startsCased_append_of_eq_false ?_ text
  simp [startsCased, seen, uncased]

/-- A character that is neither cased nor skipped keeps the lower case of what stands in front of it
apart from that of what stands behind it. -/
theorem lowercase_append_cons (seen : isCaseIgnorable c = false) (uncased : isCased c = false)
    (text other : List Char) :
    lowercase (text ++ c :: other) = lowercase text ++ (lowercaseChar c ++ lowercase other) := by
  have notSigma : c ≠ capitalSigma := by
    rintro rfl
    rw [isCased_capitalSigma.1] at uncased
    cases uncased
  have agree : SigmasAgree text [] (c :: other) [] [] := by
    intro left right _
    rw [endsWord, endsWord, startsCased_append_cons seen uncased, List.append_nil]
  have split := lowercaseAfter_append_of_sigmasAgree agree
  rw [lowercaseAfter, if_neg notSigma, seen, uncased] at split
  exact split

end Unicode

namespace Slug

open Unicode (isAlphanumeric isWhitespace lowercaseChar runs)

variable {c : Char}

/-- The characters other than white space that divide a text. -/
def dividers : List Char :=
  ['-', '_', ',', '☆', '★']

/-- Whether a character divides a text. -/
def isDivider (c : Char) : Bool :=
  isWhitespace c || dividers.contains c

/-- The code points of dividers. -/
def dividerCodePoints : List Nat :=
  Unicode.whitespaceCodePoints ++ dividers.map Char.toNat

theorem mem_dividerCodePoints (divides : isDivider c) : c.toNat ∈ dividerCodePoints := by
  rw [dividerCodePoints, List.mem_append]
  rcases (Bool.or_eq_true _ _).mp divides with blank | other
  · exact .inl (Unicode.mem_whitespaceCodePoints blank)
  · exact .inr (List.mem_map_of_mem (List.contains_iff_mem.mp other))

/-- A divider is not part of a word, and is folded into something, of which nothing is a letter or
digit. -/
theorem divider_facts : ∀ n ∈ dividerCodePoints,
    Unicode.CaseIgnorable.table.contains n = false ∧ Unicode.Cased.table.contains n = false ∧
      decomposed (lowercaseChar (Char.ofNat n)) ≠ [] ∧
      (decomposed (lowercaseChar (Char.ofNat n))).all (!isAlphanumeric ·) := by
  decide +kernel

theorem wordsOf_nil : wordsOf [] = [] := rfl

/-- The words on the two sides of a divider are told apart. -/
theorem wordsOf_append_cons (divides : isDivider c) (text other : List Char) :
    wordsOf (text ++ c :: other) = wordsOf text ++ wordsOf other := by
  have facts := divider_facts c.toNat (mem_dividerCodePoints divides)
  rw [Char.ofNat_toNat] at facts
  obtain ⟨seen, uncased, some, noLetter⟩ := facts
  obtain ⟨first, rest, folded⟩ := List.exists_cons_of_ne_nil some
  have fails : ∀ d ∈ first :: rest, isAlphanumeric d = false := by
    rw [← folded]
    simpa using noLetter
  have split : plain (text ++ c :: other) = plain text ++ first :: (rest ++ plain other) := by
    have pieces : plain (text ++ c :: other) =
        decomposed (Unicode.lowercase (text ++ c :: other)) := rfl
    rw [pieces, Unicode.lowercase_append_cons seen uncased, decomposed_append, decomposed_append,
      folded]
    rfl
  rw [wordsOf, split, Unicode.runs_append_cons _ _ (fails first List.mem_cons_self),
    Unicode.runs_append_of_fails_left _ fun d member => fails d (List.mem_cons_of_mem first member),
    List.map_append]
  rfl

/-- Dividers in front of a text add no word. -/
theorem wordsOf_append_left {gap : List Char} (areDividers : ∀ c ∈ gap, isDivider c)
    (text : List Char) : wordsOf (gap ++ text) = wordsOf text := by
  induction gap with
  | nil => rfl
  | cons c gap ih =>
    have first := wordsOf_append_cons (areDividers c List.mem_cons_self) [] (gap ++ text)
    rw [List.nil_append, wordsOf_nil, List.nil_append] at first
    rw [List.cons_append, first]
    exact ih fun d member => areDividers d (List.mem_cons_of_mem c member)

/-- Dividers keep the words on their two sides apart. -/
theorem wordsOf_append {gap : List Char} (areDividers : ∀ c ∈ gap, isDivider c) (some : gap ≠ [])
    (text other : List Char) :
    wordsOf (text ++ (gap ++ other)) = wordsOf text ++ wordsOf other := by
  obtain ⟨c, gap, rfl⟩ := List.exists_cons_of_ne_nil some
  obtain ⟨divides, areDividers⟩ := List.forall_mem_cons.mp areDividers
  rw [List.cons_append, wordsOf_append_cons divides, wordsOf_append_left areDividers]

/-- A text of dividers. -/
structure Gap where
  text : String
  areDividers : ∀ c ∈ text.toList, isDivider c

/-- Texts with dividers between each two of them, and with dividers or without at the two ends. -/
structure Divided where
  front : Gap
  first : String
  /-- The other texts, each with the dividers in front of it. -/
  rest : List (Gap × String)
  divided : ∀ part ∈ rest, part.1.text ≠ ""
  back : Gap

namespace Divided

/-- The texts that are divided. -/
def texts (divided : Divided) : List String :=
  divided.first :: divided.rest.map Prod.snd

/-- The whole text. -/
def text (divided : Divided) : String :=
  divided.front.text ++ divided.first ++
    String.join (divided.rest.map fun (gap, text) => gap.text ++ text) ++ divided.back.text

/-- The words of texts with dividers between them and behind them are those of the texts in turn. -/
theorem wordsOf_rest (first : String) {rest : List (Gap × String)}
    (divided : ∀ part ∈ rest, part.1.text ≠ "") (back : Gap) :
    wordsOf (first.toList ++
        (rest.flatMap (fun (gap, text) => gap.text.toList ++ text.toList) ++ back.text.toList)) =
      wordsOf first.toList ++ rest.flatMap fun (_, text) => wordsOf text.toList := by
  induction rest generalizing first with
  | nil =>
    by_cases none : back.text.toList = []
    · simp [none]
    · have behind := wordsOf_append back.areDividers none first.toList []
      simpa [wordsOf_nil] using behind
  | cons part rest ih =>
    obtain ⟨gap, text⟩ := part
    obtain ⟨some, divided⟩ := List.forall_mem_cons.mp divided
    have between : gap.text.toList ≠ [] := by simpa using some
    rw [List.flatMap_cons, List.append_assoc, List.append_assoc,
      wordsOf_append gap.areDividers between, ih text divided, List.flatMap_cons]

/-- The words of a divided text are those of its texts in turn. -/
theorem wordsOf_text (divided : Divided) :
    wordsOf divided.text.toList = divided.texts.flatMap fun text => wordsOf text.toList := by
  have chars : divided.text.toList = divided.front.text.toList ++ (divided.first.toList ++
      (divided.rest.flatMap (fun (gap, text) => gap.text.toList ++ text.toList) ++
        divided.back.text.toList)) := by
    simp [text, String.toList_join, List.flatMap_def, Function.comp_def]
  rw [chars, wordsOf_append_left divided.front.areDividers, wordsOf_rest _ divided.divided, texts,
    List.flatMap_cons, List.flatMap_map]

end Divided

/-- Texts with one divider between each two of them. -/
theorem wordsOf_intercalate (divides : isDivider c) (texts : List (List Char)) :
    wordsOf ([c].intercalate texts) = texts.flatMap wordsOf := by
  induction texts with
  | nil => rfl
  | cons text rest ih =>
    cases rest with
    | nil => simp
    | cons next rest =>
      rw [List.intercalate_cons_cons, List.append_assoc, List.singleton_append,
        wordsOf_append_cons divides, ih]
      rfl

/-- The slugs that are not empty, with a hyphen between each two of them. -/
def joinSlugs (texts : List String) : String :=
  "-".intercalate ((texts.map ofText).filter (!·.isEmpty))

theorem isEmpty_ofList (chars : List Char) : (String.ofList chars).isEmpty = chars.isEmpty := by
  rw [Bool.eq_iff_iff]
  simp

/-- The slug of a text with the words of other texts is made of their slugs. -/
theorem ofText_eq_joinSlugs {whole : String} {texts : List String}
    (same : wordsOf whole.toList = texts.flatMap fun text => wordsOf text.toList) :
    ofText whole = joinSlugs texts := by
  have nonempty : ∀ group ∈ texts.map fun text => wordsOf text.toList,
      ∀ word ∈ group, word ≠ [] := by
    intro group isGroup word member
    obtain ⟨text, _, rfl⟩ := List.mem_map.mp isGroup
    exact ne_nil_of_mem_wordsOf member
  apply String.toList_injective
  rw [ofText, String.toList_ofList, ofChars_eq, same, List.flatMap_def,
    Unicode.intercalate_flatten nonempty, joinSlugs, String.toList_intercalate]
  simp [List.filter_map, Function.comp_def, ofText, ofChars_eq, isEmpty_ofList]

/-- The slug of a divided text is made of the slugs of its texts. -/
theorem ofText_text (divided : Divided) : ofText divided.text = joinSlugs divided.texts :=
  ofText_eq_joinSlugs divided.wordsOf_text

/-- The slug of texts with commas between them is made of their slugs. -/
theorem ofText_intercalate_comma (texts : List String) :
    ofText (",".intercalate texts) = joinSlugs texts := by
  refine ofText_eq_joinSlugs ?_
  have comma : isDivider ',' := by decide
  rw [String.toList_intercalate]
  exact (wordsOf_intercalate comma _).trans (List.flatMap_map ..)

end Slug

end ComicCatalogue
