import Mathlib.Data.List.Basic
import ComicCatalogue.Unicode.Words

/-!
# Pieces, runs and words of a text

A text falls apart at each character that fails the condition, so the words of two texts with white
space between them are the words of the one and then those of the other. The words of a text are its
maximal runs without white space. Where there is no white space, nothing is trimmed.
-/

namespace ComicCatalogue.Unicode

variable {keep : Char → Bool} {text other : List Char} {c : Char}

theorem pieces_ne_nil (keep : Char → Bool) (text : List Char) : pieces keep text ≠ [] := by
  cases text with
  | nil => simp [pieces]
  | cons c rest =>
    rw [pieces]
    split
    · simp
    · split <;> simp

theorem pieces_cons_of_keep {piece : List Char} {more : List (List Char)} (kept : keep c)
    (split : pieces keep text = piece :: more) :
    pieces keep (c :: text) = (c :: piece) :: more := by
  rw [pieces, split]
  exact if_pos kept

theorem pieces_cons_of_not_keep (fails : keep c = false) :
    pieces keep (c :: text) = [] :: pieces keep text := by
  obtain ⟨piece, more, split⟩ := List.exists_cons_of_ne_nil (pieces_ne_nil keep text)
  rw [pieces, split]
  simp [fails]

/-- The pieces of a text hold the characters that satisfy the condition. -/
theorem flatten_pieces (keep : Char → Bool) (text : List Char) :
    (pieces keep text).flatten = text.filter keep := by
  induction text with
  | nil => rfl
  | cons c rest ih =>
    obtain ⟨piece, more, split⟩ := List.exists_cons_of_ne_nil (pieces_ne_nil keep rest)
    cases kept : keep c with
    | true =>
      rw [pieces_cons_of_keep kept split, List.filter_cons_of_pos kept, ← ih, split]
      rfl
    | false =>
      rw [pieces_cons_of_not_keep kept, List.filter_cons_of_neg (by simp [kept]), ← ih]
      rfl

/-- A character of a piece is one of the text, and it satisfies the condition. -/
theorem mem_filter_of_mem_pieces {piece : List Char} (member : piece ∈ pieces keep text)
    (inside : c ∈ piece) : c ∈ text.filter keep := by
  rw [← flatten_pieces]
  exact List.mem_flatten_of_mem member inside

theorem mem_of_mem_runs {run : List Char} (member : run ∈ runs keep text) (inside : c ∈ run) :
    c ∈ text :=
  List.mem_of_mem_filter (mem_filter_of_mem_pieces (List.mem_of_mem_filter member) inside)

theorem of_mem_runs {run : List Char} (member : run ∈ runs keep text) (inside : c ∈ run) : keep c :=
  List.of_mem_filter (mem_filter_of_mem_pieces (List.mem_of_mem_filter member) inside)

/-- A text falls apart at a character that fails the condition. -/
theorem pieces_append_cons (fails : keep c = false) :
    pieces keep (text ++ c :: other) = pieces keep text ++ pieces keep other := by
  induction text with
  | nil => exact pieces_cons_of_not_keep fails
  | cons d rest ih =>
    obtain ⟨first, more, split⟩ := List.exists_cons_of_ne_nil (pieces_ne_nil keep rest)
    cases kept : keep d with
    | true =>
      rw [split, List.cons_append] at ih
      rw [List.cons_append, pieces_cons_of_keep kept ih, pieces_cons_of_keep kept split,
        List.cons_append]
    | false =>
      rw [List.cons_append, pieces_cons_of_not_keep kept, pieces_cons_of_not_keep kept, ih,
        List.cons_append]

theorem pieces_of_keep (kept : ∀ c ∈ text, keep c) : pieces keep text = [text] := by
  induction text with
  | nil => rfl
  | cons c rest ih =>
    have rest := ih fun d member => kept d (List.mem_cons_of_mem c member)
    exact pieces_cons_of_keep (kept c List.mem_cons_self) rest

/-- A text with its characters replaced falls apart in the same places, if the condition holds of
the new characters as of the old ones. -/
theorem pieces_map {f : Char → Char} (same : ∀ c, keep (f c) = keep c) (text : List Char) :
    pieces keep (text.map f) = (pieces keep text).map (List.map f) := by
  induction text with
  | nil => rfl
  | cons c rest ih =>
    obtain ⟨piece, more, split⟩ := List.exists_cons_of_ne_nil (pieces_ne_nil keep rest)
    rw [split, List.map_cons] at ih
    have first := same c
    rw [List.map_cons]
    cases kept : keep c with
    | true =>
      rw [kept] at first
      rw [pieces_cons_of_keep first ih, pieces_cons_of_keep kept split]
      rfl
    | false =>
      rw [kept] at first
      rw [pieces_cons_of_not_keep first, pieces_cons_of_not_keep kept, ih, split]
      rfl

theorem runs_map {f : Char → Char} (same : ∀ c, keep (f c) = keep c) (text : List Char) :
    runs keep (text.map f) = (runs keep text).map (List.map f) := by
  rw [runs, pieces_map same, List.filter_map, runs]
  refine congrArg (List.map (List.map f)) (List.filter_congr fun piece _ => ?_)
  rw [Function.comp_apply, List.isEmpty_map]

/-- The runs of a text hold the characters that satisfy the condition. -/
theorem flatten_runs (keep : Char → Bool) (text : List Char) :
    (runs keep text).flatten = text.filter keep := by
  rw [runs, List.flatten_filter_not_isEmpty, flatten_pieces]

theorem runs_append_cons (text other : List Char) (fails : keep c = false) :
    runs keep (text ++ c :: other) = runs keep text ++ runs keep other := by
  rw [runs, pieces_append_cons fails, List.filter_append]
  rfl

/-- What fails the condition adds no run in front of a text. -/
theorem runs_append_of_fails_left (other : List Char) (fails : ∀ c ∈ text, keep c = false) :
    runs keep (text ++ other) = runs keep other := by
  induction text with
  | nil => rfl
  | cons c rest ih =>
    have first := runs_append_cons [] (rest ++ other) (fails c List.mem_cons_self)
    exact first.trans (ih fun d member => fails d (List.mem_cons_of_mem c member))

/-- What fails the condition adds no run behind a text. -/
theorem runs_append_of_fails_right (text : List Char) (fails : ∀ c ∈ other, keep c = false) :
    runs keep (text ++ other) = runs keep text := by
  cases other with
  | nil => rw [List.append_nil]
  | cons c rest =>
    have none := runs_append_of_fails_left [] fun d member =>
      fails d (List.mem_cons_of_mem c member)
    rw [List.append_nil] at none
    rw [runs_append_cons text rest (fails c List.mem_cons_self), none]
    exact List.append_nil _

theorem mem_intercalate {separator : List Char} {parts : List (List Char)}
    (member : c ∈ separator.intercalate parts) : c ∈ separator ∨ ∃ part ∈ parts, c ∈ part := by
  induction parts with
  | nil => exact absurd member List.not_mem_nil
  | cons part rest ih =>
    cases rest with
    | nil =>
      rw [List.intercalate_singleton] at member
      exact .inr ⟨part, List.mem_cons_self, member⟩
    | cons next rest =>
      rw [List.intercalate_cons_cons, List.mem_append, List.mem_append] at member
      rcases member with (first | between) | later
      · exact .inr ⟨part, List.mem_cons_self, first⟩
      · exact .inl between
      · refine (ih later).imp_right ?_
        rintro ⟨other, isPart, inside⟩
        exact ⟨other, List.mem_cons_of_mem part isPart, inside⟩

theorem map_intercalate (f : Char → Char) (separator : List Char) (parts : List (List Char)) :
    (separator.intercalate parts).map f =
      (separator.map f).intercalate (parts.map (List.map f)) := by
  induction parts with
  | nil => rfl
  | cons part rest ih =>
    cases rest with
    | nil => rw [List.intercalate_singleton, List.map_singleton, List.intercalate_singleton]
    | cons next rest =>
      rw [List.intercalate_cons_cons, List.map_append, List.map_append, ih, List.map_cons,
        List.map_cons, List.map_cons, List.intercalate_cons_cons]

theorem intercalate_append {separator : List Char} {front back : List (List Char)}
    (some : front ≠ []) (more : back ≠ []) :
    separator.intercalate (front ++ back) =
      separator.intercalate front ++ (separator ++ separator.intercalate back) := by
  obtain ⟨next, back, rfl⟩ := List.exists_cons_of_ne_nil more
  induction front with
  | nil => exact absurd rfl some
  | cons part front ih =>
    cases front with
    | nil => simp [List.intercalate_cons_cons]
    | cons other front =>
      have rest := ih (List.cons_ne_nil _ _)
      simp only [List.cons_append, List.intercalate_cons_cons] at rest ⊢
      rw [rest]
      simp

theorem intercalate_ne_nil {separator : List Char} {parts : List (List Char)} (some : parts ≠ [])
    (nonempty : ∀ part ∈ parts, part ≠ []) : separator.intercalate parts ≠ [] := by
  obtain ⟨part, parts, rfl⟩ := List.exists_cons_of_ne_nil some
  have first := nonempty part List.mem_cons_self
  cases parts with
  | nil => simpa using first
  | cons other parts => simp [List.intercalate_cons_cons, first]

/-- Groups of parts are put together like the parts of all groups, if the groups without parts are
left out. -/
theorem intercalate_flatten {separator : List Char} {groups : List (List (List Char))}
    (nonempty : ∀ group ∈ groups, ∀ part ∈ group, part ≠ []) :
    separator.intercalate groups.flatten =
      separator.intercalate ((groups.map separator.intercalate).filter (!·.isEmpty)) := by
  induction groups with
  | nil => rfl
  | cons group rest ih =>
    obtain ⟨first, later⟩ := List.forall_mem_cons.mp nonempty
    have same := ih later
    rw [List.flatten_cons, List.map_cons]
    by_cases none : group = []
    · simpa [none] using same
    · have kept : separator.intercalate group ≠ [] := intercalate_ne_nil none first
      rw [List.filter_cons_of_pos (by simpa using kept)]
      by_cases last : rest.flatten = []
      · rw [last] at same ⊢
        have noMore : (rest.map separator.intercalate).filter (!·.isEmpty) = [] := by
          by_contra more
          refine intercalate_ne_nil more ?_ same.symm
          intro part member
          simpa using List.of_mem_filter member
        rw [noMore, List.append_nil, List.intercalate_singleton]
      · have more : (rest.map separator.intercalate).filter (!·.isEmpty) ≠ [] := by
          intro noMore
          rw [noMore] at same
          refine intercalate_ne_nil last ?_ same
          intro part member
          obtain ⟨group, isGroup, inside⟩ := List.mem_flatten.mp member
          exact later group isGroup part inside
        rw [intercalate_append none last, same, ← List.singleton_append,
          intercalate_append (List.cons_ne_nil _ _) more, List.intercalate_singleton]

/-- Parts with a separator between each two of them fall apart into these parts. -/
theorem pieces_intercalate {separator : Char} {parts : List (List Char)}
    (fails : keep separator = false) (some : parts ≠ [])
    (kept : ∀ part ∈ parts, ∀ c ∈ part, keep c) :
    pieces keep ([separator].intercalate parts) = parts := by
  induction parts with
  | nil => exact absurd rfl some
  | cons part rest ih =>
    obtain ⟨keptFirst, keptLater⟩ := List.forall_mem_cons.mp kept
    cases rest with
    | nil => rw [List.intercalate_singleton, pieces_of_keep keptFirst]
    | cons next rest =>
      rw [List.intercalate_cons_cons, List.append_assoc, List.singleton_append,
        pieces_append_cons fails, pieces_of_keep keptFirst, ih (List.cons_ne_nil _ _) keptLater,
        List.singleton_append]

/-- Runs with a separator between each two of them fall apart into these runs. -/
theorem runs_intercalate {separator : Char} {parts : List (List Char)}
    (fails : keep separator = false) (areRuns : ∀ part ∈ parts, part ≠ [] ∧ ∀ c ∈ part, keep c) :
    runs keep ([separator].intercalate parts) = parts := by
  by_cases none : parts = []
  · rw [none]
    rfl
  · rw [runs, pieces_intercalate fails none fun part isPart => (areRuns part isPart).2,
      List.filter_eq_self]
    intro part isPart
    simpa using (areRuns part isPart).1

/-- White space separates words. -/
theorem words_append_cons (text other : List Char) (blank : isWhitespace c) :
    words (text ++ c :: other) = words text ++ words other :=
  runs_append_cons text other (by simp [blank])

theorem words_append_of_blank (other : List Char) (blank : ∀ c ∈ text, isWhitespace c) :
    words (text ++ other) = words other :=
  runs_append_of_fails_left other fun c member => by simp [blank c member]

/-- A text without white space is one word. -/
theorem words_of_unbroken (some : text ≠ []) (unbroken : ∀ c ∈ text, isWhitespace c = false) :
    words text = [text] := by
  rw [words, runs, pieces_of_keep fun c member => by simp [unbroken c member]]
  simp [some]

theorem of_mem_words {word : List Char} (member : word ∈ words text) :
    word ≠ [] ∧ ∀ c ∈ word, isWhitespace c = false := by
  refine ⟨by simpa using (List.mem_filter.mp member).2, fun c inside => ?_⟩
  simpa using of_mem_runs member inside

/-- A word stands between white space or at an end of the text. What has been read of the word that
the text begins in goes before the text. -/
theorem exists_of_mem_words_append (front : List Char) {word : List Char}
    (unbroken : ∀ c ∈ front, isWhitespace c = false) (member : word ∈ words (front ++ text)) :
    ∃ before after, front ++ text = before ++ word ++ after ∧
      (∀ c ∈ before.getLast?, isWhitespace c) ∧ ∀ c ∈ after.head?, isWhitespace c := by
  induction text generalizing front with
  | nil =>
    have some : front ≠ [] := by
      rintro rfl
      exact absurd member List.not_mem_nil
    rw [List.append_nil, words_of_unbroken some unbroken, List.mem_singleton] at member
    exact ⟨[], [], by simp [member], by simp, by simp⟩
  | cons c text ih =>
    cases blank : isWhitespace c with
    | false =>
      have longer : ∀ d ∈ front ++ [c], isWhitespace d = false := by
        simpa [or_imp, forall_and] using ⟨unbroken, blank⟩
      have split : front ++ c :: text = front ++ [c] ++ text := by simp
      rw [split] at member ⊢
      exact ih _ longer member
    | true =>
      rw [words_append_cons _ _ blank, List.mem_append] at member
      rcases member with first | later
      · have some : front ≠ [] := by
          rintro rfl
          exact absurd first List.not_mem_nil
        rw [words_of_unbroken some unbroken, List.mem_singleton] at first
        exact ⟨[], c :: text, by simp [first], by simp, by simpa using blank⟩
      · obtain ⟨before, after, same, opens, broken⟩ := ih [] (by simp) later
        rw [List.nil_append] at same
        refine ⟨front ++ c :: before, after, by simp [same], ?_, broken⟩
        intro d last
        cases before with
        | nil => simp_all
        | cons e before =>
          apply opens
          simpa [List.getLast?_append, List.getLast?_cons_cons] using last

/-- The words of a text are its maximal runs of characters other than white space. -/
theorem mem_words_iff {word : List Char} :
    word ∈ words text ↔ word ≠ [] ∧ (∀ c ∈ word, isWhitespace c = false) ∧
      ∃ before after, text = before ++ word ++ after ∧
        (∀ c ∈ before.getLast?, isWhitespace c) ∧ ∀ c ∈ after.head?, isWhitespace c := by
  constructor
  · intro member
    have stands := exists_of_mem_words_append [] (by simp) member
    exact ⟨(of_mem_words member).1, (of_mem_words member).2, stands⟩
  · rintro ⟨some, unbroken, before, after, rfl, opens, broken⟩
    have behind : word ∈ words (word ++ after) := by
      cases after with
      | nil => simp [words_of_unbroken some unbroken]
      | cons c after =>
        rw [words_append_cons _ _ (broken c rfl), words_of_unbroken some unbroken]
        exact List.mem_append_left _ List.mem_cons_self
    rw [List.append_assoc]
    rcases List.eq_nil_or_concat before with rfl | ⟨before, c, rfl⟩
    · exact behind
    · rw [List.concat_eq_append] at opens ⊢
      rw [List.append_assoc, List.singleton_append, words_append_cons _ _ (opens c (by simp))]
      exact List.mem_append_right _ behind

/-- Words with single spaces between them are read as these words. -/
theorem words_joinWords (text : List Char) : words (joinWords (words text)) = words text := by
  refine runs_intercalate (by decide) fun word isWord => ?_
  have := of_mem_words isWord
  simpa using this

theorem trim_of_unbroken (unbroken : ∀ c ∈ text, isWhitespace c = false) :
    trim text = text := by
  have front : text.dropWhile isWhitespace = text := by
    cases text with
    | nil => rfl
    | cons c text => simp [unbroken c List.mem_cons_self]
  have back : text.reverse.dropWhile isWhitespace = text.reverse := by
    cases same : text.reverse with
    | nil => rfl
    | cons c rest =>
      have member : c ∈ text := List.mem_reverse.mp (same ▸ List.mem_cons_self)
      simp [unbroken c member]
  rw [trim, front, back, List.reverse_reverse]

end ComicCatalogue.Unicode
