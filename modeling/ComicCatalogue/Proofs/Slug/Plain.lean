import ComicCatalogue.Proofs.Unicode.Context
import ComicCatalogue.Proofs.Unicode.Words
import ComicCatalogue.Slug

/-!
# Plain words

Words of letters and digits that no part of folding changes are their own slug, with a hyphen
between each two of them.
-/

namespace ComicCatalogue.Slug

/-- The words of the slug of a text. -/
def wordsOf (text : List Char) : List (List Char) :=
  (Unicode.runs Unicode.isAlphanumeric (plain text)).map (·.flatMap Unicode.lowercaseChar)

theorem ofChars_eq (text : List Char) : ofChars text = ['-'].intercalate (wordsOf text) := rfl

theorem ne_nil_of_mem_wordsOf {text word : List Char} (member : word ∈ wordsOf text) :
    word ≠ [] := by
  obtain ⟨run, isRun, rfl⟩ := List.mem_map.mp member
  have some : run ≠ [] := by simpa using List.of_mem_filter isRun
  obtain ⟨c, rest, rfl⟩ := List.exists_cons_of_ne_nil some
  rw [List.flatMap_cons]
  exact List.append_ne_nil_of_left_ne_nil (Unicode.lowercaseChar_ne_nil c) _

/-- A letter or digit that folding leaves as it is. -/
structure IsPlain (c : Char) : Prop where
  letter : Unicode.isAlphanumeric c
  unmarked : Unicode.isMark c = false
  lower : Unicode.lowercaseChar c = [c]
  unread : readSymbol c = [c]
  whole : Unicode.decomposeChar c = [c]

/-- A character that is left where a text falls into runs: plain, or the hyphen between the runs. -/
def IsKept (c : Char) : Prop :=
  Unicode.isMark c = false ∧ Unicode.lowercaseChar c = [c] ∧ readSymbol c = [c] ∧
    Unicode.decomposeChar c = [c]

instance : DecidablePred IsKept :=
  fun _ => inferInstanceAs (Decidable (_ ∧ _ ∧ _ ∧ _))

theorem IsPlain.isKept {c : Char} (isPlain : IsPlain c) : IsKept c :=
  ⟨isPlain.unmarked, isPlain.lower, isPlain.unread, isPlain.whole⟩

theorem isPlain_of_isKept {c : Char} (letter : Unicode.isAlphanumeric c) (kept : IsKept c) :
    IsPlain c :=
  ⟨letter, kept.1, kept.2.1, kept.2.2.1, kept.2.2.2⟩

/-- Folding leaves the letter and the hyphen as they are. -/
theorem letter_hyphen_facts : (Unicode.isAlphanumeric 'a' ∧ IsKept 'a') ∧
    Unicode.isAlphanumeric '-' = false ∧ IsKept '-' := by
  decide +kernel

theorem isPlain_a : IsPlain 'a' :=
  isPlain_of_isKept letter_hyphen_facts.1.1 letter_hyphen_facts.1.2

theorem isKept_hyphen : IsKept '-' :=
  letter_hyphen_facts.2.2

theorem not_isAlphanumeric_hyphen : Unicode.isAlphanumeric '-' = false :=
  letter_hyphen_facts.2.1

theorem flatMap_eq_self {f : Char → List Char} {text : List Char}
    (fixed : ∀ c ∈ text, f c = [c]) : text.flatMap f = text := by
  induction text with
  | nil => rfl
  | cons c rest ih =>
    rw [List.flatMap_cons, fixed c List.mem_cons_self,
      ih fun d member => fixed d (List.mem_cons_of_mem c member), List.singleton_append]

theorem plain_eq_self {text : List Char} (kept : ∀ c ∈ text, IsKept c) : plain text = text := by
  rw [plain, Unicode.lowercase, Unicode.lowercaseAfter_eq_self fun c member => (kept c member).2.1,
    flatMap_eq_self fun c member => (kept c member).2.2.1, Unicode.decompose,
    flatMap_eq_self fun c member => (kept c member).2.2.2, List.filter_eq_self]
  exact fun c member => by simp [(kept c member).1]

/-- Plain words with hyphens between them are their own slug. -/
theorem ofChars_intercalate {words : List (List Char)}
    (arePlain : ∀ word ∈ words, word ≠ [] ∧ ∀ c ∈ word, IsPlain c) :
    ofChars (['-'].intercalate words) = ['-'].intercalate words := by
  have kept : ∀ c ∈ ['-'].intercalate words, IsKept c := by
    intro c member
    rcases Unicode.mem_intercalate member with hyphen | ⟨word, isWord, inside⟩
    · exact List.mem_singleton.mp hyphen ▸ isKept_hyphen
    · exact ((arePlain word isWord).2 c inside).isKept
  have runs : Unicode.runs Unicode.isAlphanumeric (['-'].intercalate words) = words :=
    Unicode.runs_intercalate not_isAlphanumeric_hyphen fun word isWord =>
      ⟨(arePlain word isWord).1, fun c inside => ((arePlain word isWord).2 c inside).letter⟩
  have lower : words.map (·.flatMap Unicode.lowercaseChar) = words := by
    refine (List.map_congr_left fun word isWord => ?_).trans (List.map_id words)
    exact flatMap_eq_self fun c inside => ((arePlain word isWord).2 c inside).lower
  rw [ofChars, plain_eq_self kept, runs, lower]

/-- A plain word is its own slug. -/
theorem ofChars_of_isPlain {text : List Char} (some : text ≠ []) (isPlain : ∀ c ∈ text, IsPlain c) :
    ofChars text = text := by
  have alone := ofChars_intercalate (List.forall_mem_singleton.mpr ⟨some, isPlain⟩)
  rwa [List.intercalate_singleton] at alone

theorem ofText_of_isPlain {text : List Char} (some : text ≠ []) (isPlain : ∀ c ∈ text, IsPlain c) :
    ofText (String.ofList text) = String.ofList text := by
  rw [ofText, String.toList_ofList, ofChars_of_isPlain some isPlain]

end ComicCatalogue.Slug
