import ComicCatalogue.Proofs.Search.Directive
import ComicCatalogue.Proofs.Unicode.Words

/-!
# Reading search lines

A search line that is written by the grammar is read as the directives and the words that it is
written from.
-/

namespace ComicCatalogue.Search

open Unicode (isWhitespace words)

theorem itemsFrom_nil (atBoundary : Bool) : itemsFrom atBoundary [] = [] := by
  rw [itemsFrom]

theorem itemsFrom_cons {atBoundary : Bool} {c : Char} {rest : List Char}
    (plain : atBoundary → readDirective? (c :: rest) = none) :
    itemsFrom atBoundary (c :: rest) = .plain c :: itemsFrom (isWhitespace c) rest := by
  have none : (if atBoundary then readDirective? (c :: rest) else none) = none := by
    cases atBoundary with
    | false => rfl
    | true => rw [if_pos rfl, plain rfl]
  rw [itemsFrom]
  split
  · rename_i content behind found
    rw [none] at found
    cases found
  · rfl

/-- Directives end before a boundary. -/
theorem itemsFrom_directive {text rest : List Char} {content : Option Directive}
    (read : readDirective? (text ++ rest) = some (content, rest)) :
    itemsFrom true (text ++ rest) = .directive text content :: itemsFrom false rest := by
  have shorter := length_readDirective?_lt read
  cases same : text ++ rest with
  | nil => simp [same] at shorter
  | cons c more =>
    have source : (c :: more).take ((c :: more).length - rest.length) = text := by
      rw [← same]
      simp
    rw [same] at read
    rw [itemsFrom]
    split
    · rename_i other behind found
      rw [if_pos rfl, read] at found
      cases found
      rw [source]
    · rename_i found
      rw [if_pos rfl, read] at found
      cases found

/-- Inside a word no directive starts. -/
theorem itemsFrom_unbroken {text : List Char} (rest : List Char)
    (unbroken : ∀ c ∈ text, isWhitespace c = false) :
    itemsFrom false (text ++ rest) = text.map .plain ++ itemsFrom false rest := by
  induction text with
  | nil => rfl
  | cons c text ih =>
    rw [List.cons_append, itemsFrom_cons (by simp), unbroken c List.mem_cons_self,
      ih fun d member => unbroken d (List.mem_cons_of_mem c member)]
    rfl

theorem readDirective?_of_blank {c : Char} {rest : List Char} (blank : isWhitespace c) :
    readDirective? (c :: rest) = none := by
  have broken : IsBreak (c :: rest) := by
    rintro d ⟨⟩
    exact blank
  refine readDirective?_eq_none [] broken ?_
  intro field heading begins
  have empty := congrArg List.length (List.prefix_nil.mp begins)
  simp [Heading.text] at empty

theorem itemsFrom_blank {text : List Char} (rest : List Char) (blank : ∀ c ∈ text, isWhitespace c) :
    itemsFrom true (text ++ rest) = text.map .plain ++ itemsFrom true rest := by
  induction text with
  | nil => rfl
  | cons c text ih =>
    have first := blank c List.mem_cons_self
    rw [List.cons_append, itemsFrom_cons fun _ => readDirective?_of_blank first, first,
      ih fun d member => blank d (List.mem_cons_of_mem c member)]
    rfl

namespace Gap

theorem isBreak_text (gap : Gap) (rest : List Char) : IsBreak (gap.text ++ rest) := by
  obtain ⟨text, some, blank⟩ := gap
  obtain ⟨c, text, rfl⟩ := List.exists_cons_of_ne_nil some
  rintro d ⟨⟩
  exact blank c List.mem_cons_self

/-- Behind white space a directive can start, whatever is before it. -/
theorem itemsFrom_text (gap : Gap) (atBoundary : Bool) (rest : List Char) :
    itemsFrom atBoundary (gap.text ++ rest) = gap.text.map .plain ++ itemsFrom true rest := by
  obtain ⟨text, some, blank⟩ := gap
  obtain ⟨c, text, rfl⟩ := List.exists_cons_of_ne_nil some
  have first := blank c List.mem_cons_self
  simp only
  rw [List.cons_append, itemsFrom_cons fun _ => readDirective?_of_blank first, first,
    itemsFrom_blank rest fun d member => blank d (List.mem_cons_of_mem c member)]
  rfl

theorem words_append (gap : Gap) (text other : List Char) :
    words (text ++ (gap.text ++ other)) = words text ++ words other := by
  obtain ⟨blanks, some, blank⟩ := gap
  obtain ⟨c, blanks, rfl⟩ := List.exists_cons_of_ne_nil some
  have inside := Unicode.words_append_of_blank other fun d member =>
    blank d (List.mem_cons_of_mem c member)
  rw [List.cons_append, Unicode.words_append_cons _ _ (blank c List.mem_cons_self), inside]

end Gap

theorem filterMap_content?_plain (text : List Char) :
    (text.map Item.plain).filterMap Item.content? = [] := by
  simp [List.filterMap_map, Function.comp_def, Item.content?]

theorem countP_isMalformed_plain (text : List Char) :
    (text.map Item.plain).countP Item.isMalformed = 0 := by
  simp [Item.isMalformed]

theorem map_leftOver_plain (text : List Char) :
    (text.map Item.plain).map Item.leftOver = text := by
  simp [Function.comp_def, Item.leftOver]

namespace Part

/-- The items of a part. -/
def items : Part → List Item
  | word text _ _ _ => text.map .plain
  | directive written => [.directive written.text (some written.directive)]

theorem itemsFrom_text (part : Part) {rest : List Char} (broken : IsBreak rest) :
    itemsFrom true (part.text ++ rest) = part.items ++ itemsFrom false rest := by
  cases part with
  | directive written => exact itemsFrom_directive (written.readDirective?_text broken)
  | word text some unbroken plain =>
    obtain ⟨c, more, rfl⟩ := List.exists_cons_of_ne_nil some
    have none := readDirective?_eq_none _ broken plain
    rw [List.cons_append] at none
    rw [Part.text, List.cons_append, itemsFrom_cons fun _ => none, unbroken c List.mem_cons_self,
      itemsFrom_unbroken rest fun d member => unbroken d (List.mem_cons_of_mem c member)]
    rfl

theorem filterMap_content?_items (part : Part) :
    part.items.filterMap Item.content? = [part].filterMap directive? := by
  cases part with
  | word text => exact filterMap_content?_plain text
  | directive written => rfl

theorem countP_isMalformed_items (part : Part) : part.items.countP Item.isMalformed = 0 := by
  cases part with
  | word text => exact countP_isMalformed_plain text
  | directive written => rfl

theorem words_items (part : Part) :
    words (part.items.map Item.leftOver) = ([part].filterMap word?).map String.toList := by
  cases part with
  | word text some unbroken plain =>
    rw [items, map_leftOver_plain, Unicode.words_of_unbroken some unbroken]
    simp [word?]
  | directive written => rfl

end Part

namespace Line

/-- The items of parts with white space behind each. -/
def spacedItems (spaced : List (Part × Gap)) : List Item :=
  spaced.flatMap fun (part, gap) => part.items ++ gap.text.map .plain

/-- The items of a line. -/
def items (line : Line) : List Item :=
  (line.lead.elim [] Gap.text).map .plain ++ (spacedItems line.spaced ++
    line.last.elim [] Part.items)

theorem itemsFrom_spaced (spaced : List (Part × Gap)) (rest : List Char) :
    itemsFrom true (spaced.flatMap (fun (part, gap) => part.text ++ gap.text) ++ rest) =
      spacedItems spaced ++ itemsFrom true rest := by
  induction spaced with
  | nil => rfl
  | cons next spaced ih =>
    obtain ⟨part, gap⟩ := next
    simp only [List.flatMap_cons, List.append_assoc, spacedItems]
    rw [part.itemsFrom_text (gap.isBreak_text _), gap.itemsFrom_text, ih, spacedItems]

/-- A written line is taken apart into the items of its parts. -/
theorem items_text (line : Line) : Search.items (String.ofList line.text) = line.items := by
  obtain ⟨lead, spaced, last⟩ := line
  rw [Search.items, String.toList_ofList, text, items, List.append_assoc]
  have front : ∀ rest, itemsFrom true (lead.elim [] Gap.text ++ rest) =
      (lead.elim [] Gap.text).map .plain ++ itemsFrom true rest := by
    intro rest
    cases lead with
    | none => rfl
    | some gap => exact gap.itemsFrom_text true rest
  have back : itemsFrom true (last.elim [] Part.text) = last.elim [] Part.items := by
    cases last with
    | none => exact itemsFrom_nil true
    | some part =>
      have broken : IsBreak [] := by
        rintro c ⟨⟩
      have read := part.itemsFrom_text broken
      simpa [itemsFrom_nil] using read
  rw [front, itemsFrom_spaced, back]

theorem spacedItems_cons (part : Part) (gap : Gap) (spaced : List (Part × Gap)) :
    spacedItems ((part, gap) :: spaced) =
      part.items ++ (gap.text.map .plain ++ spacedItems spaced) := by
  simp [spacedItems]

theorem filterMap_content?_spacedItems (spaced : List (Part × Gap)) :
    (spacedItems spaced).filterMap Item.content? =
      (spaced.map (·.1)).filterMap Part.directive? := by
  induction spaced with
  | nil => rfl
  | cons next spaced ih =>
    obtain ⟨part, gap⟩ := next
    rw [spacedItems_cons, List.filterMap_append, List.filterMap_append,
      part.filterMap_content?_items, filterMap_content?_plain, ih, List.nil_append,
      ← List.filterMap_append, List.singleton_append, List.map_cons]

theorem filterMap_content?_items (line : Line) :
    line.items.filterMap Item.content? = line.parts.filterMap Part.directive? := by
  obtain ⟨lead, spaced, last⟩ := line
  rw [items, parts, List.filterMap_append, List.filterMap_append, List.filterMap_append,
    filterMap_content?_plain, filterMap_content?_spacedItems, List.nil_append]
  cases last with
  | none => rfl
  | some part => exact congrArg _ part.filterMap_content?_items

theorem countP_isMalformed_items (line : Line) : line.items.countP Item.isMalformed = 0 := by
  obtain ⟨lead, spaced, last⟩ := line
  have middle : (spacedItems spaced).countP Item.isMalformed = 0 := by
    induction spaced with
    | nil => rfl
    | cons next spaced ih =>
      rw [spacedItems_cons, List.countP_append, List.countP_append,
        next.1.countP_isMalformed_items, countP_isMalformed_plain, ih]
  rw [items, List.countP_append, List.countP_append, countP_isMalformed_plain, middle]
  cases last with
  | none => rfl
  | some part => simp [part.countP_isMalformed_items]

theorem words_spacedItems (spaced : List (Part × Gap)) (rest : List Char) :
    words ((spacedItems spaced).map Item.leftOver ++ rest) =
      ((spaced.map (·.1)).filterMap Part.word?).map String.toList ++ words rest := by
  induction spaced with
  | nil => rfl
  | cons next spaced ih =>
    obtain ⟨part, gap⟩ := next
    rw [spacedItems_cons, List.map_append, List.map_append, map_leftOver_plain, List.append_assoc,
      List.append_assoc, gap.words_append, part.words_items, ih, ← List.append_assoc,
      ← List.map_append, ← List.filterMap_append, List.singleton_append, List.map_cons]

theorem words_items (line : Line) :
    words (line.items.map Item.leftOver) =
      (line.parts.filterMap Part.word?).map String.toList := by
  obtain ⟨lead, spaced, last⟩ := line
  have front : ∀ rest, words (lead.elim [] Gap.text ++ rest) = words rest := by
    intro rest
    cases lead with
    | none => rfl
    | some gap => exact Unicode.words_append_of_blank rest gap.blank
  have back : words ((last.elim [] Part.items).map Item.leftOver) =
      (last.toList.filterMap Part.word?).map String.toList := by
    cases last with
    | none => rfl
    | some part => exact part.words_items
  rw [items, List.map_append, List.map_append, map_leftOver_plain, front, words_spacedItems, back,
    parts, List.filterMap_append, List.map_append]

end Line

theorem Reading.directives_text (line : Line) :
    (ofLine (String.ofList line.text)).directives = line.parts.filterMap Part.directive? := by
  rw [ofLine, line.items_text]
  exact line.filterMap_content?_items

/-- A written line is read as what its parts say: the directives in order, none of them malformed,
and the words with single spaces between them. -/
theorem Reading.ofLine_text (line : Line) :
    Reading.ofLine (String.ofList line.text) =
      { directives := line.parts.filterMap Part.directive?
        malformed := 0
        remainder := " ".intercalate (line.parts.filterMap Part.word?) } := by
  have joined : String.ofList (Unicode.joinWords (words (line.items.map Item.leftOver))) =
      " ".intercalate (line.parts.filterMap Part.word?) := by
    apply String.toList_injective
    rw [String.toList_ofList, String.toList_intercalate, line.words_items, Unicode.joinWords]
    rfl
  rw [ofLine, line.items_text, line.filterMap_content?_items, line.countP_isMalformed_items, joined]

/-- The line `pages*:5`. -/
def starredPages : Line :=
  { lead := none
    spaced := []
    last := some (.directive (.pages ⟨false, "pages".toList, by decide, .missing, true⟩ .equal
      [.bare ['5'] (List.forall_mem_singleton.mpr (by decide)) (by decide)]
      ⟨false, ['5'], by decide, List.forall_mem_singleton.mpr (by decide), by decide, by decide⟩
      (by decide))) }

/-- A star that is written on a constraint of pages is read, and lost. -/
theorem Reading.isWildcard_starredPages :
    starredPages.parts.filterMap Part.star? = [true] ∧
      (ofLine (String.ofList starredPages.text)).directives.map Directive.isWildcard = [false] := by
  refine ⟨rfl, ?_⟩
  rw [Reading.directives_text]
  rfl

end ComicCatalogue.Search
