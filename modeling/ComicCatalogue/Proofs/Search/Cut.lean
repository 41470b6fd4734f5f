import ComicCatalogue.Proofs.Search.Extent

/-!
# Search lines cut into directives

A cut of a line is the text before the first directive, and each directive with the text behind it.
Of all cuts of a line there is one in which the directives start where they may start, reach as far
as they are read, and leave out none (`Cut.Divides`). The reading of the line is what this cut says:
the directives of its spans, and the words of the texts between them.
-/

namespace ComicCatalogue.Search

open Unicode (isWhitespace words joinWords)

/-- A directive in a line, with the text behind it up to the next one. -/
structure Span where
  source : List Char
  /-- What the directive says, unless it is malformed. -/
  content : Option Directive
  behind : List Char
  deriving DecidableEq, Repr

namespace Span

/-- The text of directives with what is behind each. -/
def texts (spans : List Span) : List Char :=
  spans.flatMap fun span => span.source ++ span.behind

/-- The items of directives with the text behind each. -/
def items (spans : List Span) : List Item :=
  spans.flatMap fun span => .directive span.source span.content :: span.behind.map .plain

theorem texts_cons (span : Span) (spans : List Span) :
    texts (span :: spans) = span.source ++ (span.behind ++ texts spans) := by
  simp [texts]

theorem items_cons (span : Span) (spans : List Span) :
    items (span :: spans) =
      .directive span.source span.content :: (span.behind.map .plain ++ items spans) := by
  simp [items]

end Span

/-- A line in parts: the text before the first directive, and the directives. -/
structure Cut where
  lead : List Char
  spans : List Span
  deriving DecidableEq, Repr

namespace Cut

/-- The line. -/
def text (cut : Cut) : List Char :=
  cut.lead ++ Span.texts cut.spans

/-- The texts around the directives, in order. -/
def gaps (cut : Cut) : List (List Char) :=
  cut.lead :: cut.spans.map Span.behind

end Cut

/-- Whether a directive may start behind a text that holds none: behind white space, and behind the
empty text if one may start in front of it. -/
def opensBehind (atBoundary : Bool) (text : List Char) : Bool :=
  text.getLast?.elim atBoundary isWhitespace

/-- Whether no directive begins at a place in the text where one may start. The rest of the line
follows. -/
def IsFree (atBoundary : Bool) (text rest : List Char) : Prop :=
  ∀ before after, text = before ++ after → after ≠ [] → opensBehind atBoundary before →
    ¬BeginsDirective (after ++ rest)

/-- Whether a line is cut into its directives. The flag says whether a directive may start at its
beginning; none may start right behind another. -/
inductive IsCut : Bool → List Char → List Span → Prop
  | last {atBoundary lead} (free : IsFree atBoundary lead []) : IsCut atBoundary lead []
  | span {atBoundary lead span spans}
    (free : IsFree atBoundary lead (Span.texts (span :: spans)))
    (opens : opensBehind atBoundary lead)
    (begins : BeginsDirective span.source)
    (reaches : readDirective? (span.source ++ (span.behind ++ Span.texts spans)) =
      some (span.content, span.behind ++ Span.texts spans))
    (more : IsCut false span.behind spans) : IsCut atBoundary lead (span :: spans)

/-- Whether a cut is that of a line into its directives. -/
structure Cut.Divides (cut : Cut) (line : String) : Prop where
  whole : cut.text = line.toList
  isCut : IsCut true cut.lead cut.spans

section Free

variable {atBoundary : Bool} {c : Char} {text rest : List Char}

theorem opensBehind_cons :
    opensBehind atBoundary (c :: text) = opensBehind (isWhitespace c) text := by
  cases text with
  | nil => rfl
  | cons d text => simp [opensBehind, List.getLast?_cons]

theorem isFree_nil : IsFree atBoundary [] rest := by
  intro before after same some
  exact absurd (List.append_eq_nil_iff.mp same.symm).2 some

theorem isFree_cons_iff : IsFree atBoundary (c :: text) rest ↔
    (atBoundary → ¬BeginsDirective (c :: (text ++ rest))) ∧ IsFree (isWhitespace c) text rest := by
  constructor
  · intro free
    refine ⟨fun first => free [] (c :: text) rfl (List.cons_ne_nil _ _) first, ?_⟩
    intro before after same some opens
    exact free (c :: before) after (by simp [same]) some (opensBehind_cons.trans opens)
  · rintro ⟨first, free⟩ before after same some opens
    cases before with
    | nil =>
      rw [List.nil_append] at same
      exact same ▸ first opens
    | cons d before =>
      obtain ⟨rfl, behind⟩ := List.cons.inj (same.trans List.cons_append)
      exact free before after behind some (opensBehind_cons.symm.trans opens)

/-- A text without directives is read as it stands. -/
theorem itemsFrom_of_isFree (free : IsFree atBoundary text rest) :
    itemsFrom atBoundary (text ++ rest) =
      text.map .plain ++ itemsFrom (opensBehind atBoundary text) rest := by
  induction text generalizing atBoundary with
  | nil => rfl
  | cons c text ih =>
    obtain ⟨first, free⟩ := isFree_cons_iff.mp free
    rw [List.cons_append, itemsFrom_cons fun start => readDirective?_eq_none_iff.mpr (first start),
      ih free, opensBehind_cons]
    rfl

end Free

namespace IsCut

variable {atBoundary : Bool} {c : Char} {lead : List Char} {spans : List Span}

/-- A character without a directive in front of a cut belongs to the text that leads it. -/
theorem cons (isCut : IsCut (isWhitespace c) lead spans)
    (first : atBoundary → ¬BeginsDirective (c :: (lead ++ Span.texts spans))) :
    IsCut atBoundary (c :: lead) spans := by
  cases isCut with
  | last free => exact .last (isFree_cons_iff.mpr ⟨first, free⟩)
  | span free opens begins reaches more =>
    exact .span (isFree_cons_iff.mpr ⟨first, free⟩) (opensBehind_cons.trans opens) begins reaches
      more

end IsCut

theorem exists_isCut (atBoundary : Bool) (text : List Char) :
    ∃ lead spans, lead ++ Span.texts spans = text ∧ IsCut atBoundary lead spans := by
  induction atBoundary, text using itemsFrom_induction with
  | nil atBoundary => exact ⟨[], [], rfl, .last isFree_nil⟩
  | directive source content rest read begins ih =>
    obtain ⟨behind, spans, rfl, isCut⟩ := ih
    refine ⟨[], ⟨source, content, behind⟩ :: spans, by simp [Span.texts], ?_⟩
    exact .span isFree_nil rfl begins read isCut
  | plain atBoundary c rest first ih =>
    obtain ⟨lead, spans, rfl, isCut⟩ := ih
    exact ⟨c :: lead, spans, rfl, isCut.cons first⟩

theorem itemsFrom_of_isCut {atBoundary : Bool} {lead : List Char} {spans : List Span}
    (isCut : IsCut atBoundary lead spans) :
    itemsFrom atBoundary (lead ++ Span.texts spans) = lead.map .plain ++ Span.items spans := by
  induction isCut with
  | last free =>
    have read := itemsFrom_of_isFree free
    rwa [itemsFrom_nil] at read
  | span free opens begins reaches more ih =>
    rw [itemsFrom_of_isFree free, opens, Span.texts_cons, itemsFrom_directive reaches, ih,
      Span.items_cons]

namespace Cut

/-- The cut that items make up. -/
def ofItems : List Item → Cut
  | [] => ⟨[], []⟩
  | .plain c :: items => ⟨c :: (ofItems items).lead, (ofItems items).spans⟩
  | .directive source content :: items =>
    ⟨[], ⟨source, content, (ofItems items).lead⟩ :: (ofItems items).spans⟩

theorem ofItems_plain_append (text : List Char) (items : List Item) :
    ofItems (text.map .plain ++ items) =
      ⟨text ++ (ofItems items).lead, (ofItems items).spans⟩ := by
  induction text with
  | nil => rfl
  | cons c text ih => simp [ofItems, ih]

theorem ofItems_items (cut : Cut) :
    ofItems (cut.lead.map .plain ++ Span.items cut.spans) = cut := by
  obtain ⟨lead, spans⟩ := cut
  induction spans generalizing lead with
  | nil =>
    simp only
    rw [ofItems_plain_append, Span.items, List.flatMap_nil, ofItems, List.append_nil]
  | cons span spans ih =>
    have behind : ofItems (span.behind.map .plain ++ Span.items spans) = ⟨span.behind, spans⟩ :=
      ih span.behind
    simp only
    rw [ofItems_plain_append, Span.items_cons, ofItems, behind, List.append_nil]

variable {cut other : Cut} {line : String}

theorem Divides.items_eq (divides : cut.Divides line) :
    items line = cut.lead.map .plain ++ Span.items cut.spans := by
  rw [items, ← divides.whole]
  exact itemsFrom_of_isCut divides.isCut

/-- There is one way to cut a line into its directives. -/
theorem Divides.unique (divides : cut.Divides line) (alsoDivides : other.Divides line) :
    other = cut := by
  rw [← other.ofItems_items, ← alsoDivides.items_eq, divides.items_eq, cut.ofItems_items]

theorem exists_divides (line : String) : ∃ cut : Cut, cut.Divides line := by
  obtain ⟨lead, spans, whole, isCut⟩ := exists_isCut true line.toList
  exact ⟨⟨lead, spans⟩, whole, isCut⟩

end Cut

namespace Span

theorem filterMap_content?_items (spans : List Span) :
    (items spans).filterMap Item.content? = spans.filterMap content := by
  induction spans with
  | nil => rfl
  | cons span spans ih =>
    have rest : (span.behind.map Item.plain ++ items spans).filterMap Item.content? =
        spans.filterMap content := by
      rw [List.filterMap_append, filterMap_content?_plain, ih, List.nil_append]
    rw [items_cons, List.filterMap_cons, List.filterMap_cons, rest]
    rfl

theorem countP_isMalformed_items (spans : List Span) :
    (items spans).countP Item.isMalformed = spans.countP (·.content.isNone) := by
  induction spans with
  | nil => rfl
  | cons span spans ih =>
    have rest : (span.behind.map Item.plain ++ items spans).countP Item.isMalformed =
        spans.countP (·.content.isNone) := by
      rw [List.countP_append, countP_isMalformed_plain, ih, Nat.zero_add]
    rw [items_cons, List.countP_cons, List.countP_cons, rest]
    cases same : span.content <;> simp [Item.isMalformed]

/-- A directive is well formed or malformed. -/
theorem length_content (spans : List Span) :
    (spans.filterMap content).length + spans.countP (·.content.isNone) = spans.length := by
  induction spans with
  | nil => rfl
  | cons span spans ih =>
    cases same : span.content with
    | none => simp [same, ← ih]; omega
    | some directive => simp [same, ← ih]; omega

/-- A directive separates the words in front of it from those behind it. -/
theorem words_items (text : List Char) (spans : List Span) :
    words ((text.map Item.plain ++ items spans).map Item.leftOver) =
      words text ++ spans.flatMap (words ·.behind) := by
  induction spans generalizing text with
  | nil => rw [items, List.flatMap_nil, List.append_nil, map_leftOver_plain]; simp
  | cons span spans ih =>
    have blank : isWhitespace ' ' := by decide
    rw [items_cons, List.map_append, map_leftOver_plain, List.map_cons, Item.leftOver,
      Unicode.words_append_cons _ _ blank, ih, List.flatMap_cons]

end Span

namespace Cut.Divides

variable {cut : Cut} {line : String}

theorem directives_eq (divides : cut.Divides line) :
    (Reading.ofLine line).directives = cut.spans.filterMap Span.content := by
  rw [Reading.ofLine, divides.items_eq, List.filterMap_append, filterMap_content?_plain,
    Span.filterMap_content?_items, List.nil_append]

theorem length_spans (divides : cut.Divides line) :
    (Reading.ofLine line).directives.length + (Reading.ofLine line).malformed =
      cut.spans.length := by
  have malformed : (Reading.ofLine line).malformed = cut.spans.countP (·.content.isNone) := by
    rw [Reading.ofLine, divides.items_eq, List.countP_append, countP_isMalformed_plain,
      Span.countP_isMalformed_items, Nat.zero_add]
  rw [divides.directives_eq, malformed, Span.length_content]

theorem isStructured_iff (divides : cut.Divides line) :
    (Reading.ofLine line).isStructured ↔ cut.spans ≠ [] := by
  rw [← List.length_pos_iff, ← divides.length_spans, Nat.add_pos_iff_pos_or_pos,
    List.length_pos_iff]
  simp [Reading.isStructured]

theorem remainder_eq (divides : cut.Divides line) :
    (Reading.ofLine line).remainder = String.ofList (joinWords (cut.gaps.flatMap words)) := by
  rw [Reading.ofLine, divides.items_eq, Span.words_items, gaps, List.flatMap_cons,
    List.flatMap_map]

end Cut.Divides

/-- A line falls into its directives and the texts around them in one way, and the reading of the
line is what this cut says. -/
theorem Reading.ofLine_cut (line : String) :
    ∃ cut : Cut, cut.Divides line ∧ (∀ other : Cut, other.Divides line → other = cut) ∧
      (ofLine line).directives = cut.spans.filterMap Span.content ∧
      (ofLine line).directives.length + (ofLine line).malformed = cut.spans.length ∧
      (ofLine line).remainder = String.ofList (joinWords (cut.gaps.flatMap words)) := by
  obtain ⟨cut, divides⟩ := Cut.exists_divides line
  exact ⟨cut, divides, fun other => divides.unique, divides.directives_eq, divides.length_spans,
    divides.remainder_eq⟩

end ComicCatalogue.Search
