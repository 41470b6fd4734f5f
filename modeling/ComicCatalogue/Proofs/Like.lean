import Mathlib.Data.List.Infix
import Mathlib.Data.List.TakeWhile
import ComicCatalogue.Like

/-!
# What patterns find

A pattern that was made from a part of a text finds the texts with that part. As patterns do not
tell the case of the letters A to Z, this holds of texts in which none of these is a capital.

A null character in a part cuts the pattern off, the run behind the part included. Such a part is
found at the end of a text only.
-/

namespace ComicCatalogue.Like

/-- No letter A to Z of the text is a capital. -/
def IsFolded (text : List Char) : Prop :=
  ∀ c ∈ text, c.toLower = c

/-- The text has no null character. -/
def IsNullFree (text : List Char) : Prop :=
  ∀ c ∈ text, c.toNat ≠ 0

instance (text : List Char) : Decidable (IsNullFree text) :=
  List.decidableBAll (fun c : Char => c.toNat ≠ 0) text

/-- Every character of the text counts as itself. -/
def IsFaithful (text : List Char) : Prop :=
  ∀ c ∈ text, c.toNat ≠ 0 ∧ c.toNat ≠ 0xFFFE ∧ c.toNat ≠ 0xFFFF

instance : DecidablePred IsFaithful := fun text =>
  List.decidableBAll (fun c : Char => c.toNat ≠ 0 ∧ c.toNat ≠ 0xFFFE ∧ c.toNat ≠ 0xFFFF) text

/-- The part occurs in the text, both taken for what they count as. With a null character in it, it
occurs at the end. -/
def Finds (part text : List Char) : Prop :=
  if part.any (·.toNat = 0) then visible part <:+ visible text
  else visible part <:+: visible text

theorem any_suffixes {p : List Char → Bool} {text : List Char} :
    (suffixes text).any p ↔ ∃ front back, text = front ++ back ∧ p back := by
  induction text with
  | nil => simp [suffixes]
  | cons c rest ih =>
    rw [suffixes, List.any_cons, Bool.or_eq_true, ih]
    constructor
    · rintro (whole | ⟨front, back, split, found⟩)
      · exact ⟨[], c :: rest, rfl, whole⟩
      · exact ⟨c :: front, back, by rw [split, List.cons_append], found⟩
    · rintro ⟨front, back, split, found⟩
      cases front with
      | nil => exact .inl (by rwa [split])
      | cons d front =>
        rw [List.cons_append, List.cons.injEq] at split
        exact .inr ⟨front, back, split.2, found⟩

theorem matchesTokens_anyRun {parts : List Token} {text : List Char} :
    matchesTokens (.anyRun :: parts) text ↔
      ∃ front back, text = front ++ back ∧ matchesTokens parts back := by
  rw [matchesTokens, any_suffixes]

theorem matchesTokens_anyChar {parts : List Token} {text : List Char} :
    matchesTokens (.anyChar :: parts) text ↔
      ∃ d rest, text = d :: rest ∧ matchesTokens parts rest := by
  cases text with
  | nil => simp [matchesTokens]
  | cons d rest => simp [matchesTokens]

theorem matchesTokens_char {c : Char} {parts : List Token} {text : List Char} :
    matchesTokens (.char c :: parts) text ↔
      ∃ d rest, text = d :: rest ∧ d.toLower = c.toLower ∧ matchesTokens parts rest := by
  cases text with
  | nil => simp [matchesTokens]
  | cons d rest =>
    rw [matchesTokens, Bool.and_eq_true, sameLetter, beq_iff_eq, eq_comm]
    simp

/-- A text begins with a part that has a first character if it has such a character first, and what
is behind that begins with the others. -/
theorem exists_append_map_cons_iff {fold : Char → Char} {c : Char} {part text : List Char}
    {found : List Char → Prop} :
    (∃ front back, text = front ++ back ∧ front.map fold = (c :: part).map fold ∧ found back) ↔
      ∃ d rest, text = d :: rest ∧ fold d = fold c ∧
        ∃ front back, rest = front ++ back ∧ front.map fold = part.map fold ∧ found back := by
  constructor
  · rintro ⟨front, back, rfl, same, found⟩
    cases front with
    | nil => cases same
    | cons d front =>
      rw [List.map_cons, List.map_cons, List.cons.injEq] at same
      exact ⟨d, front ++ back, rfl, same.1, front, back, rfl, same.2, found⟩
  · rintro ⟨d, _, rfl, sameFirst, front, back, rfl, same, found⟩
    exact ⟨d :: front, back, rfl, by rw [List.map_cons, List.map_cons, sameFirst, same], found⟩

/-- The parts that stand for the characters of a text match it at the beginning, up to case. -/
theorem matchesTokens_chars_append {part : List Char} {parts : List Token} {text : List Char} :
    matchesTokens (part.map .char ++ parts) text ↔
      ∃ front back, text = front ++ back ∧ front.map Char.toLower = part.map Char.toLower ∧
        matchesTokens parts back := by
  induction part generalizing text with
  | nil => simp
  | cons c part ih =>
    rw [List.map_cons, List.cons_append, matchesTokens_char, exists_append_map_cons_iff]
    simp only [ih]

theorem IsFolded.map_toLower {text : List Char} (folded : IsFolded text) :
    text.map Char.toLower = text :=
  (List.map_congr_left folded).trans (List.map_id text)

theorem IsFolded.of_append_right {front back : List Char} (folded : IsFolded (front ++ back)) :
    IsFolded back :=
  fun c member => folded c (List.mem_append_right _ member)

theorem IsFolded.of_append_left {front back : List Char} (folded : IsFolded (front ++ back)) :
    IsFolded front :=
  fun c member => folded c (List.mem_append_left _ member)

section

variable {part text : List Char} (foldedPart : IsFolded part) (foldedText : IsFolded text)
include foldedPart foldedText

theorem matchesTokens_chars_append_of_isFolded {parts : List Token} :
    matchesTokens (part.map .char ++ parts) text ↔
      ∃ back, text = part ++ back ∧ matchesTokens parts back := by
  rw [matchesTokens_chars_append]
  constructor
  · rintro ⟨front, back, rfl, same, found⟩
    rw [foldedText.of_append_left.map_toLower, foldedPart.map_toLower] at same
    exact ⟨back, by rw [same], found⟩
  · rintro ⟨back, split, found⟩
    exact ⟨part, back, split, rfl, found⟩

theorem matchesTokens_isSuffix :
    matchesTokens (.anyRun :: part.map .char) text ↔ part <:+ text := by
  rw [matchesTokens_anyRun]
  constructor
  · rintro ⟨front, back, rfl, found⟩
    rw [← List.append_nil (part.map _),
      matchesTokens_chars_append_of_isFolded foldedPart foldedText.of_append_right] at found
    obtain ⟨rest, rfl, empty⟩ := found
    rw [matchesTokens, List.isEmpty_iff] at empty
    exact ⟨front, by rw [empty, List.append_nil]⟩
  · rintro ⟨front, rfl⟩
    refine ⟨front, part, rfl, ?_⟩
    rw [← List.append_nil (part.map _),
      matchesTokens_chars_append_of_isFolded foldedPart foldedPart]
    exact ⟨[], (List.append_nil part).symm, rfl⟩

theorem matchesTokens_isInfix :
    matchesTokens (.anyRun :: (part.map .char ++ [.anyRun])) text ↔ part <:+: text := by
  rw [matchesTokens_anyRun]
  constructor
  · rintro ⟨front, back, rfl, found⟩
    rw [matchesTokens_chars_append_of_isFolded foldedPart foldedText.of_append_right] at found
    obtain ⟨rest, rfl, _⟩ := found
    exact ⟨front, rest, List.append_assoc _ _ _⟩
  · rintro ⟨front, rest, rfl⟩
    refine ⟨front, part ++ rest, List.append_assoc _ _ _, ?_⟩
    rw [List.append_assoc] at foldedText
    rw [matchesTokens_chars_append_of_isFolded foldedPart foldedText.of_append_right]
    exact ⟨rest, rfl, matchesTokens_anyRun.mpr ⟨rest, [], (List.append_nil rest).symm, rfl⟩⟩

end

theorem tokens_escaped (c d : Char) (rest : List Char) :
    tokens (some c) (c :: d :: rest) = (tokens (some c) rest).map (.char d :: ·) :=
  if_pos rfl

theorem tokens_cons {escape : Option Char} {c : Char} (rest : List Char)
    (unescaped : escape ≠ some c) :
    tokens escape (c :: rest) =
      if c = '%' then (tokens escape rest).map (.anyRun :: ·)
      else if c = '_' then (tokens escape rest).map (.anyChar :: ·)
      else (tokens escape rest).map (.char c :: ·) := by
  cases rest <;> exact if_neg unescaped

/-- A character that is neither a wildcard nor a backslash is read as itself. -/
theorem tokens_ordinary {c : Char} (rest : List Char) (ordinary : ¬(c = '%' ∨ c = '_' ∨ c = '\\')) :
    tokens (some '\\') (c :: rest) = (tokens (some '\\') rest).map (.char c :: ·) := by
  simp only [not_or] at ordinary
  obtain ⟨notRun, notAny, notEscape⟩ := ordinary
  rw [tokens_cons _ (by simpa using Ne.symm notEscape), if_neg notRun, if_neg notAny]

theorem escape_cons (c : Char) (part : List Char) :
    escape (c :: part) =
      (if c = '%' ∨ c = '_' ∨ c = '\\' then ['\\', c] else [c]) ++ escape part :=
  List.flatMap_cons

/-- An escaped text is read as its characters. -/
theorem tokens_escape_append (part rest : List Char) :
    tokens (some '\\') (escape part ++ rest) =
      (tokens (some '\\') rest).map (part.map .char ++ ·) := by
  induction part with
  | nil => simp [escape]
  | cons c part ih =>
    rw [escape_cons, List.append_assoc]
    split
    · rw [List.cons_append, List.singleton_append, tokens_escaped, ih, Option.map_map]
      rfl
    · rw [List.singleton_append, tokens_ordinary _ ‹_›, ih, Option.map_map]
      rfl

/-- A text without wildcards is read as its characters where nothing can be escaped. -/
theorem tokens_none_append {part : List Char} (rest : List Char)
    (literal : ∀ c ∈ part, c ≠ '%' ∧ c ≠ '_') :
    tokens none (part ++ rest) = (tokens none rest).map (part.map .char ++ ·) := by
  induction part with
  | nil => simp
  | cons c part ih =>
    obtain ⟨notRun, notAny⟩ := literal c List.mem_cons_self
    rw [List.cons_append, tokens_cons _ (Option.some_ne_none c).symm, if_neg notRun, if_neg notAny,
      ih fun d member => literal d (List.mem_cons_of_mem c member), Option.map_map]
    rfl

theorem replaced_eq_special_iff {c special : Char} (small : special.toNat < 0xFFFD) :
    replaced c = special ↔ c = special := by
  have fixed : special.toNat ≠ (Char.ofNat 0xFFFD).toNat := Nat.ne_of_lt small
  unfold replaced
  split
  · rename_i nonchar
    constructor
    · rintro rfl
      exact absurd rfl fixed
    · rintro rfl
      omega
  · rfl

/-- A character is escaped if what it counts as is. -/
theorem isSpecial_replaced_iff {c : Char} :
    (replaced c = '%' ∨ replaced c = '_' ∨ replaced c = '\\') ↔ (c = '%' ∨ c = '_' ∨ c = '\\') := by
  have percent : replaced c = '%' ↔ c = '%' := replaced_eq_special_iff (by decide)
  have underscore : replaced c = '_' ↔ c = '_' := replaced_eq_special_iff (by decide)
  have backslash : replaced c = '\\' ↔ c = '\\' := replaced_eq_special_iff (by decide)
  rw [percent, underscore, backslash]

theorem toLower_replaced {c : Char} (folded : c.toLower = c) :
    (replaced c).toLower = replaced c := by
  unfold replaced
  split
  · decide
  · exact folded

theorem IsFolded.visible {text : List Char} (folded : IsFolded text) : IsFolded (visible text) := by
  intro c member
  obtain ⟨d, inText, rfl⟩ := List.mem_map.mp member
  exact toLower_replaced (folded d (List.takeWhile_subset _ inText))

theorem IsNullFree.visible_eq {text : List Char} (nullFree : IsNullFree text) :
    visible text = text.map replaced := by
  have whole : text.takeWhile (·.toNat != 0) = text :=
    List.takeWhile_eq_self_iff.mpr fun c member => by simpa using nullFree c member
  rw [visible, whole]

theorem IsFaithful.isNullFree {text : List Char} (faithful : IsFaithful text) : IsNullFree text :=
  fun c member => (faithful c member).1

theorem IsFaithful.visible_eq {text : List Char} (faithful : IsFaithful text) :
    visible text = text := by
  rw [faithful.isNullFree.visible_eq]
  refine (List.map_congr_left fun c member => ?_).trans (List.map_id text)
  obtain ⟨_, notFirst, notLast⟩ := faithful c member
  exact if_neg fun nonchar => nonchar.elim notFirst notLast

theorem visible_cons {c : Char} (notNull : c.toNat ≠ 0) (rest : List Char) :
    visible (c :: rest) = replaced c :: visible rest := by
  simp [visible, notNull]

theorem visible_null_cons {c : Char} (null : c.toNat = 0) (rest : List Char) :
    visible (c :: rest) = [] := by
  simp [visible, null]

/-- What an escaped text counts as: the escape of what the text counts as, and what follows unless
the text has a null character. -/
theorem visible_escape_append (part rest : List Char) :
    visible (escape part ++ rest) =
      escape (visible part) ++ if part.any (·.toNat = 0) then [] else visible rest := by
  induction part with
  | nil => simp [escape, visible]
  | cons c part ih =>
    rw [escape_cons, List.append_assoc]
    by_cases null : c.toNat = 0
    · have ordinary : ¬(c = '%' ∨ c = '_' ∨ c = '\\') := by
        rintro (rfl | rfl | rfl) <;> exact absurd null (by decide)
      have found : (c :: part).any (·.toNat = 0) := by simp [null]
      rw [if_neg ordinary, List.singleton_append, visible_null_cons null, visible_null_cons null,
        if_pos found]
      rfl
    · have later : (c :: part).any (·.toNat = 0) = part.any (·.toNat = 0) := by simp [null]
      rw [later]
      rw [visible_cons null, escape_cons, List.append_assoc, ← ih]
      simp only [isSpecial_replaced_iff]
      split
      · rw [List.cons_append, List.singleton_append, visible_cons (by decide), visible_cons null]
        rfl
      · rw [List.singleton_append, visible_cons null, List.singleton_append]

section

variable {part text : List Char} (foldedPart : IsFolded part) (foldedText : IsFolded text)
include foldedPart foldedText

/-- The escaped pattern of a part finds the texts with the part. -/
theorem accepts_within_escape_iff :
    accepts (some '\\') (within (escape part)) text ↔ Finds part text := by
  have pattern : visible (within (escape part)) =
      '%' :: (escape (visible part) ++ if part.any (·.toNat = 0) then [] else ['%']) := by
    rw [within, List.append_assoc, List.singleton_append, visible_cons (by decide),
      visible_escape_append]
    rfl
  rw [accepts, pattern, tokens_cons _ (by decide), if_pos rfl, tokens_escape_append, Finds]
  by_cases null : part.any (·.toNat = 0)
  · have nothing : tokens (some '\\') [] = some [] := rfl
    rw [if_pos null, if_pos null, nothing]
    simpa using matchesTokens_isSuffix foldedPart.visible foldedText.visible
  · rw [if_neg null, if_neg null]
    exact matchesTokens_isInfix foldedPart.visible foldedText.visible

/-- The pattern of a part without wildcards, which is not escaped, finds the texts with the part. -/
theorem accepts_within_iff (literal : ∀ c ∈ part, c ≠ '%' ∧ c ≠ '_') (faithful : IsFaithful part)
    (faithfulText : IsFaithful text) : accepts none (within part) text ↔ part <:+: text := by
  have faithfulPattern : IsFaithful (within part) := by
    intro c member
    simp only [within, List.mem_append, List.mem_singleton] at member
    rcases member with (rfl | member) | rfl
    · decide
    · exact faithful c member
    · decide
  rw [accepts, faithfulPattern.visible_eq, faithfulText.visible_eq, within, List.append_assoc,
    List.singleton_append, tokens_cons _ (by decide), if_pos rfl, tokens_none_append _ literal]
  exact matchesTokens_isInfix foldedPart foldedText

end

theorem IsNullFree.not_any_null {text : List Char} (nullFree : IsNullFree text) :
    ¬text.any (·.toNat = 0) := by
  simpa [IsNullFree] using nullFree

/-- Where every character counts as itself, the part occurs in the text as it is. -/
theorem finds_iff_isInfix {part text : List Char} (faithful : IsFaithful part)
    (faithfulText : IsFaithful text) : Finds part text ↔ part <:+: text := by
  rw [Finds, if_neg faithful.isNullFree.not_any_null, faithful.visible_eq, faithfulText.visible_eq]

/-- In a text without null characters, a part is found where it occurs as it is. -/
theorem finds_of_isInfix {part text : List Char} (nullFree : IsNullFree text)
    (inside : part <:+: text) : Finds part text := by
  have nullFreePart : IsNullFree part := fun c member => nullFree c (inside.subset member)
  rw [Finds, if_neg nullFreePart.not_any_null, nullFreePart.visible_eq, nullFree.visible_eq]
  exact inside.map replaced

/-- The pattern for a word of one letter has a byte for each, and one for each wildcard. -/
theorem patternBytes_within_replicate (count : Nat) :
    patternBytes (within (List.replicate count 'a')) = count + 2 := by
  have letter : 'a'.utf8Size = 1 := by decide
  have wildcard : '%'.utf8Size = 1 := by decide
  have letters : ∀ size, (List.replicate count 'a').foldl (fun size c => size + c.utf8Size) size =
      size + count := by
    induction count with
    | zero => simp
    | succ count ih =>
      intro size
      rw [List.replicate_succ, List.foldl_cons, ih, letter]
      omega
  rw [patternBytes, within, List.foldl_append, List.foldl_append, letters]
  simp only [List.foldl_cons, List.foldl_nil, wildcard]
  omega

end ComicCatalogue.Like
