import ComicCatalogue.Proofs.Like

/-!
# Matchers

A matcher tells whether a text matches a pattern in which a backslash is the escape character. What
it must do for that is said part by part of a pattern, and it may take some characters for each
other. Every such matcher finds, by the escaped pattern of a part, the texts in which the part
occurs, up to the characters that it takes for each other.
-/

namespace ComicCatalogue.Like

/-- What a matcher does with texts without null characters. It takes characters for each other if
they fold to the same. -/
structure IsMatcher (fold : Char → Char) (matcher : List Char → List Char → Bool) : Prop where
  /-- The empty pattern stands for the empty text. -/
  nil_iff {text : List Char} (nullFree : IsNullFree text) : matcher [] text ↔ text = []
  /-- A percent sign stands for any run of characters. -/
  anyRun_iff {pattern text : List Char} (nullFree : IsNullFree text) :
    matcher ('%' :: pattern) text ↔ ∃ front back, text = front ++ back ∧ matcher pattern back
  /-- An underscore stands for any single character. -/
  anyChar_iff {pattern text : List Char} (nullFree : IsNullFree text) :
    matcher ('_' :: pattern) text ↔ ∃ d rest, text = d :: rest ∧ matcher pattern rest
  /-- A character behind a backslash stands for itself. -/
  escaped_iff {c : Char} {pattern text : List Char} (notNull : c.toNat ≠ 0)
    (nullFree : IsNullFree text) : matcher ('\\' :: c :: pattern) text ↔
      ∃ d rest, text = d :: rest ∧ fold d = fold c ∧ matcher pattern rest
  /-- Every other character stands for itself. -/
  ordinary_iff {c : Char} {pattern text : List Char} (ordinary : ¬(c = '%' ∨ c = '_' ∨ c = '\\'))
    (notNull : c.toNat ≠ 0) (nullFree : IsNullFree text) : matcher (c :: pattern) text ↔
      ∃ d rest, text = d :: rest ∧ fold d = fold c ∧ matcher pattern rest

/-- Whether a text matches a pattern where every character counts as itself. -/
def acceptsAsIs (escape : Option Char) (pattern text : List Char) : Bool :=
  (tokens escape pattern).any (matchesTokens · text)

theorem IsNullFree.of_append_right {front back : List Char}
    (nullFree : IsNullFree (front ++ back)) : IsNullFree back :=
  fun c member => nullFree c (List.mem_append_right _ member)

theorem IsNullFree.of_cons {c : Char} {rest : List Char} (nullFree : IsNullFree (c :: rest)) :
    IsNullFree rest :=
  fun d member => nullFree d (List.mem_cons_of_mem c member)

/-- Only the null character counts as a null character. -/
theorem replaced_ne_null {c : Char} (notNull : c.toNat ≠ 0) : (replaced c).toNat ≠ 0 := by
  intro null
  have isNull : replaced c = '\x00' := Char.ext (UInt32.toNat_inj.mp null)
  rw [replaced_eq_special_iff (by decide)] at isNull
  exact notNull (by rw [isNull]; rfl)

theorem isNullFree_visible (text : List Char) : IsNullFree (visible text) := by
  intro c member
  obtain ⟨d, inText, rfl⟩ := List.mem_map.mp member
  exact replaced_ne_null (by simpa using List.mem_takeWhile_imp inText)

theorem exists_visible_eq_cons {text : List Char} (nullFree : IsNullFree text)
    {found : Char → List Char → Prop} :
    (∃ d rest, visible text = d :: rest ∧ found d rest) ↔
      ∃ d rest, text = d :: rest ∧ found (replaced d) (visible rest) := by
  cases text with
  | nil => simp [visible]
  | cons c rest => simp [visible_cons (nullFree c List.mem_cons_self)]

namespace IsMatcher

variable {fold : Char → Char} {matcher : List Char → List Char → Bool}
  (isMatcher : IsMatcher fold matcher)
include isMatcher

/-- The escape of a character stands for the character. -/
theorem escape_singleton_append_iff {c : Char} {pattern text : List Char} (notNull : c.toNat ≠ 0)
    (nullFree : IsNullFree text) :
    matcher ((if c = '%' ∨ c = '_' ∨ c = '\\' then ['\\', c] else [c]) ++ pattern) text ↔
      ∃ d rest, text = d :: rest ∧ fold d = fold c ∧ matcher pattern rest := by
  split
  · exact isMatcher.escaped_iff notNull nullFree
  · exact isMatcher.ordinary_iff ‹_› notNull nullFree

/-- The escape of a part stands for the part, at the beginning of a text. -/
theorem escape_append_iff {part pattern text : List Char} (nullFreePart : IsNullFree part)
    (nullFree : IsNullFree text) :
    matcher (escape part ++ pattern) text ↔
      ∃ front back, text = front ++ back ∧ front.map fold = part.map fold ∧
        matcher pattern back := by
  -- Each character of the part takes one off the text, so the induction is over all texts.
  induction part generalizing text with
  | nil =>
    constructor
    · intro found
      exact ⟨[], text, rfl, rfl, found⟩
    · rintro ⟨front, back, rfl, same, found⟩
      obtain rfl := List.map_eq_nil_iff.mp same
      exact found
  | cons c part ih =>
    rw [escape_cons, List.append_assoc, exists_append_map_cons_iff,
      isMatcher.escape_singleton_append_iff (nullFreePart c List.mem_cons_self) nullFree]
    refine exists₂_congr fun d rest => and_congr_right fun split => and_congr_right fun _ => ?_
    subst split
    exact ih nullFreePart.of_cons nullFree.of_cons

/-- The escaped pattern of a part finds the texts in which the part occurs. -/
theorem within_escape_iff {part text : List Char} (nullFreePart : IsNullFree part)
    (nullFree : IsNullFree text) :
    matcher (within (escape part)) text ↔ part.map fold <:+: text.map fold := by
  rw [within, List.append_assoc, List.singleton_append, isMatcher.anyRun_iff nullFree]
  constructor
  · rintro ⟨front, back, rfl, found⟩
    rw [isMatcher.escape_append_iff nullFreePart nullFree.of_append_right] at found
    obtain ⟨occurrence, rest, rfl, same, _⟩ := found
    exact ⟨front.map fold, rest.map fold, by simp only [List.map_append, same, List.append_assoc]⟩
  · rintro ⟨front, back, split⟩
    rw [List.append_assoc, eq_comm, List.map_eq_append_iff] at split
    obtain ⟨front, behind, rfl, rfl, split⟩ := split
    obtain ⟨occurrence, rest, rfl, same, rfl⟩ := List.map_eq_append_iff.mp split
    have nullFreeBehind := nullFree.of_append_right
    refine ⟨front, occurrence ++ rest, rfl, ?_⟩
    rw [isMatcher.escape_append_iff nullFreePart nullFreeBehind]
    refine ⟨occurrence, rest, rfl, same, ?_⟩
    -- What is left behind the occurrence is what the last run stands for.
    rw [isMatcher.anyRun_iff nullFreeBehind.of_append_right]
    exact ⟨rest, [], (List.append_nil rest).symm,
      (isMatcher.nil_iff (List.forall_mem_nil _)).mpr rfl⟩

/-- A matcher that is given what the characters count as takes them for each other if that folds to
the same. -/
theorem comp_visible : IsMatcher (fold ∘ replaced)
    fun pattern text => matcher (visible pattern) (visible text) where
  nil_iff {text} nullFree := by
    refine (isMatcher.nil_iff (isNullFree_visible text)).trans ?_
    rw [nullFree.visible_eq]
    exact List.map_eq_nil_iff
  anyRun_iff {pattern text} nullFree := by
    rw [visible_cons (by decide)]
    refine (isMatcher.anyRun_iff (isNullFree_visible text)).trans ?_
    rw [nullFree.visible_eq]
    constructor
    · rintro ⟨front, back, split, found⟩
      obtain ⟨front, back, rfl, rfl, rfl⟩ := List.map_eq_append_iff.mp split
      exact ⟨front, back, rfl, by rwa [nullFree.of_append_right.visible_eq]⟩
    · rintro ⟨front, back, rfl, found⟩
      rw [nullFree.of_append_right.visible_eq] at found
      exact ⟨front.map replaced, back.map replaced, List.map_append, found⟩
  anyChar_iff {pattern text} nullFree := by
    rw [visible_cons (by decide)]
    exact (isMatcher.anyChar_iff (isNullFree_visible text)).trans (exists_visible_eq_cons nullFree)
  escaped_iff {c pattern text} notNull nullFree := by
    rw [visible_cons (by decide), visible_cons notNull]
    exact (isMatcher.escaped_iff (replaced_ne_null notNull) (isNullFree_visible text)).trans
      (exists_visible_eq_cons nullFree)
  ordinary_iff {c pattern text} ordinary notNull nullFree := by
    rw [visible_cons notNull]
    rw [← isSpecial_replaced_iff] at ordinary
    exact (isMatcher.ordinary_iff ordinary (replaced_ne_null notNull)
      (isNullFree_visible text)).trans (exists_visible_eq_cons nullFree)

end IsMatcher

theorem acceptsAsIs_iff {escape : Option Char} {pattern text : List Char} :
    acceptsAsIs escape pattern text ↔
      ∃ parts, tokens escape pattern = some parts ∧ matchesTokens parts text := by
  rw [acceptsAsIs, Option.any_eq_true]

/-- A pattern with a first part is matched by what its parts match, the first one and the others. -/
theorem acceptsAsIs_iff_of_tokens {escape : Option Char} {whole pattern text : List Char}
    {first : Token} (read : tokens escape whole = (tokens escape pattern).map (first :: ·)) :
    acceptsAsIs escape whole text ↔
      ∃ parts, tokens escape pattern = some parts ∧ matchesTokens (first :: parts) text := by
  rw [acceptsAsIs_iff, read]
  simp

/-- Where every character counts as itself, letters A to Z are taken for each other in either case,
and no other characters are. -/
theorem isMatcher_acceptsAsIs : IsMatcher Char.toLower (acceptsAsIs (some '\\')) where
  nil_iff _ := List.isEmpty_iff
  anyRun_iff {pattern text} _ := by
    rw [acceptsAsIs_iff_of_tokens (tokens_cons pattern (by decide))]
    simp only [acceptsAsIs_iff, matchesTokens_anyRun]
    grind
  anyChar_iff {pattern text} _ := by
    rw [acceptsAsIs_iff_of_tokens (tokens_cons pattern (by decide))]
    simp only [acceptsAsIs_iff, matchesTokens_anyChar]
    grind
  escaped_iff {c pattern text} _ _ := by
    rw [acceptsAsIs_iff_of_tokens (tokens_escaped '\\' c pattern)]
    simp only [acceptsAsIs_iff, matchesTokens_char]
    grind
  ordinary_iff {c pattern text} ordinary _ _ := by
    rw [acceptsAsIs_iff_of_tokens (tokens_ordinary pattern ordinary)]
    simp only [acceptsAsIs_iff, matchesTokens_char]
    grind

theorem accepts_eq_acceptsAsIs (escape : Option Char) (pattern text : List Char) :
    accepts escape pattern text = acceptsAsIs escape (visible pattern) (visible text) := by
  rw [accepts, acceptsAsIs]
  cases tokens escape (visible pattern) with
  | none => rfl
  | some parts => rfl

/-- Where characters count for others, the two noncharacters and the replacement character are taken
for each other too. -/
theorem isMatcher_accepts : IsMatcher (Char.toLower ∘ replaced) (accepts (some '\\')) := by
  have same : accepts (some '\\') =
      fun pattern text => acceptsAsIs (some '\\') (visible pattern) (visible text) := by
    funext pattern text
    exact accepts_eq_acceptsAsIs (some '\\') pattern text
  rw [same]
  exact isMatcher_acceptsAsIs.comp_visible

/-- The escaped pattern of a part is read to its end: a run, the characters of the part, a run. -/
theorem tokens_within_escape (part : List Char) :
    tokens (some '\\') (within (escape part)) =
      some (.anyRun :: (part.map .char ++ [.anyRun])) := by
  rw [within, List.append_assoc, List.singleton_append, tokens_cons _ (by decide), if_pos rfl,
    tokens_escape_append]
  rfl

/-- The escaped pattern of a part is exact. It is read to its end as the characters of the part
between two runs, without an escape character that is left over. A matcher that takes nothing but
the letters A to Z for each other, in either case, finds by it the texts in which the part occurs up
to this case, and `accepts` finds those in which it does if all characters are taken for what they
count as. -/
theorem within_escape_isExact {part text : List Char} (nullFreePart : IsNullFree part)
    (nullFree : IsNullFree text) :
    tokens (some '\\') (within (escape part)) =
        some (.anyRun :: (part.map .char ++ [.anyRun])) ∧
      (∀ matcher, IsMatcher Char.toLower matcher →
        (matcher (within (escape part)) text ↔
          part.map Char.toLower <:+: text.map Char.toLower)) ∧
      (accepts (some '\\') (within (escape part)) text ↔
        (part.map replaced).map Char.toLower <:+: (text.map replaced).map Char.toLower) := by
  refine ⟨tokens_within_escape part, ?_, ?_⟩
  · intro matcher isMatcher
    exact isMatcher.within_escape_iff nullFreePart nullFree
  · rw [List.map_map, List.map_map]
    exact isMatcher_accepts.within_escape_iff nullFreePart nullFree

/-- A part that ends in a backslash is found where it stands, in either case, and not where its
percent sign would have to stand for other characters. -/
theorem within_escape_isExact_backslash :
    let part := "B%\\".toList
    let inside := "/ab%\\c".toList
    let outside := "/abc\\c".toList
    IsNullFree part ∧ IsNullFree inside ∧ IsNullFree outside ∧
      IsMatcher Char.toLower (acceptsAsIs (some '\\')) ∧
      tokens (some '\\') (within (escape part)) =
        some [.anyRun, .char 'B', .char '%', .char '\\', .anyRun] ∧
      acceptsAsIs (some '\\') (within (escape part)) inside ∧
      ¬acceptsAsIs (some '\\') (within (escape part)) outside ∧
      accepts (some '\\') (within (escape part)) inside ∧
      ¬accepts (some '\\') (within (escape part)) outside := by
  intro part inside outside
  have nullFreePart : IsNullFree part := by decide
  have nullFreeInside : IsNullFree inside := by decide
  have nullFreeOutside : IsNullFree outside := by decide
  obtain ⟨read, found, accepted⟩ := within_escape_isExact nullFreePart nullFreeInside
  obtain ⟨_, missed, refused⟩ := within_escape_isExact nullFreePart nullFreeOutside
  refine ⟨nullFreePart, nullFreeInside, nullFreeOutside, isMatcher_acceptsAsIs, read,
    ?_, ?_, ?_, ?_⟩
  · exact (found _ isMatcher_acceptsAsIs).mpr (by decide)
  · exact mt (missed _ isMatcher_acceptsAsIs).mp (by decide)
  · exact accepted.mpr (by decide)
  · exact mt refused.mp (by decide)

end ComicCatalogue.Like
