import ComicCatalogue.Proofs.Search.Plain

/-!
# Lines put together

White space ends whatever is read of a line, except for a phrase in quotes, whose end is looked for
however far away it is. So a line that consists of two lines with white space between them is read
as the one and then the other, unless both have quotes.
-/

namespace ComicCatalogue.Search

open Unicode (isWhitespace words joinWords)

variable {text rest : List Char}

/-- Whether a text can be read without what follows: white space follows, and where a quote of the
text is not closed, none follows that closes it. -/
structure IsApart (text rest : List Char) : Prop where
  broken : IsBreak rest
  quoteless : '"' ∉ text ∨ '"' ∉ rest

theorem IsApart.of_suffix {behind : List Char} (apart : IsApart text rest)
    (suffix : behind <:+ text) : IsApart behind rest :=
  ⟨apart.broken, apart.quoteless.imp_left fun noQuote quote => noQuote (suffix.subset quote)⟩

theorem readValue_append (apart : IsApart text rest) :
    readValue (text ++ rest) = ((readValue text).1, (readValue text).2 ++ rest) := by
  have ends : ∀ c ∈ rest.head?, (!isWhitespace c) = false := by
    intro c first
    simp [apart.broken c first]
  rcases readValue_cases text with
    unquoted | ⟨phrase, behind, closed, rfl⟩ | ⟨quoted, unclosed, rfl⟩
  · have noQuote : '"' ∉ (text ++ rest).head? := by
      cases text with
      | nil => exact fun first => absurd (apart.broken '"' first) (by decide)
      | cons c text => exact unquoted
    rw [readValue_of_bare noQuote, readValue_of_bare unquoted,
      takeWhile_append_of_ends (isTokenChar_of_isBreak apart.broken),
      dropWhile_append_of_ends (isTokenChar_of_isBreak apart.broken)]
  · have split : '"' :: (phrase ++ '"' :: behind) ++ rest =
        '"' :: (phrase ++ '"' :: (behind ++ rest)) := by simp
    rw [split, readValue_of_closed closed, readValue_of_closed closed]
  · have noQuote : '"' ∉ quoted ++ rest := by
      have := apart.quoteless.resolve_left (not_not_intro List.mem_cons_self)
      simp [unclosed, this]
    rw [List.cons_append, readValue_of_open noQuote, readValue_of_open unclosed,
      takeWhile_append_of_ends ends, dropWhile_append_of_ends ends]

theorem readValues_append (apart : IsApart text rest) :
    readValues (text ++ rest) = ((readValues text).1, (readValues text).2 ++ rest) := by
  induction text using readValues_induction with
  | comma text value behind read ih =>
    have apartBehind := apart.of_suffix
      ((List.suffix_cons _ _).trans (isInfix_of_readValue read).2)
    have readAll : readValue (text ++ rest) = (value, ',' :: (behind ++ rest)) := by
      rw [readValue_append apart, read, List.cons_append]
    rw [readValues_of_comma readAll, readValues_of_comma read, ih apartBehind]
  | last text value behind read ends =>
    have readAll : readValue (text ++ rest) = (value, behind ++ rest) := by
      rw [readValue_append apart, read]
    have endsAll : ',' ∉ (behind ++ rest).head? := by
      cases behind with
      | nil => exact fun first => absurd (apart.broken ',' first) (by decide)
      | cons c behind => exact ends
    rw [readValues_of_no_comma readAll endsAll, readValues_of_no_comma read ends]

theorem readComparison_append_of_isBreak (broken : IsBreak rest) :
    readComparison (text ++ rest) = ((readComparison text).1, (readComparison text).2 ++ rest) := by
  -- Two characters decide, and white space is none of those that make a difference.
  rcases text with _ | ⟨c, _ | ⟨d, text⟩⟩
  · cases rest with
    | nil => rfl
    | cons e rest =>
      have blank := broken e rfl
      have notLess : e ≠ '<' := by rintro rfl; exact absurd blank (by decide)
      have notGreater : e ≠ '>' := by rintro rfl; exact absurd blank (by decide)
      simp [readComparison, notLess, notGreater]
  · cases rest with
    | nil => simp
    | cons e rest =>
      have blank := broken e rfl
      have notEqual : e ≠ '=' := by rintro rfl; exact absurd blank (by decide)
      by_cases less : c = '<' <;> by_cases greater : c = '>' <;>
        simp_all [readComparison]
  · by_cases less : c = '<' <;> by_cases greater : c = '>' <;> by_cases equal : d = '=' <;>
      simp_all [readComparison]

theorem Head.readComparison_append (head : Head) (broken : IsBreak rest) :
    head.readComparison (text ++ rest) =
      ((head.readComparison text).1, (head.readComparison text).2 ++ rest) := by
  unfold Head.readComparison
  split
  · exact readComparison_append_of_isBreak broken
  · rfl

/-- A directive is read as if nothing followed. -/
theorem readDirective?_append (apart : IsApart text rest) :
    readDirective? (text ++ rest) =
      (readDirective? text).map fun (content, behind) => (content, behind ++ rest) := by
  cases read : readDirective? text with
  | none =>
    rw [readDirective?_eq_none_iff] at read
    exact readDirective?_eq_none_iff.mpr fun begins => read (begins.of_append apart.broken)
  | some taken =>
    obtain ⟨content, behind⟩ := taken
    obtain ⟨field, heading, body, rfl, rfl, rfl⟩ := exists_of_readDirective? read
    have apartValues := apart.of_suffix
      ((heading.head.readComparison_suffix body).trans (List.suffix_append _ _))
    rw [List.append_assoc, heading.readDirective?_text,
      heading.head.readComparison_append apart.broken, readValues_append apartValues]
    rfl

/-- What is in front of white space is read as if nothing followed, and what is behind it as if
nothing came before. -/
theorem itemsFrom_append {atBoundary : Bool} (gap : Gap) (quoteless : '"' ∉ text ∨ '"' ∉ rest) :
    itemsFrom atBoundary (text ++ (gap.text ++ rest)) =
      itemsFrom atBoundary text ++ (gap.text.map .plain ++ itemsFrom true rest) := by
  have broken := gap.isBreak_text rest
  have notQuote : '"' ∉ gap.text := fun quote => absurd (gap.blank '"' quote) (by decide)
  induction atBoundary, text using itemsFrom_induction with
  | nil atBoundary =>
    rw [itemsFrom_nil]
    exact gap.itemsFrom_text atBoundary rest
  | directive source content behind read begins ih =>
    have apart : IsApart (source ++ behind) (gap.text ++ rest) :=
      ⟨broken, quoteless.imp_right fun noQuote => by simp [notQuote, noQuote]⟩
    have readAll := readDirective?_append apart
    rw [read, Option.map_some, List.append_assoc] at readAll
    have noQuote := quoteless.imp_left fun noQuote quote =>
      noQuote (List.mem_append_right source quote)
    rw [List.append_assoc, itemsFrom_directive readAll, itemsFrom_directive read, ih noQuote,
      List.cons_append]
  | plain atBoundary c behind first ih =>
    have none (start : atBoundary) : readDirective? (c :: behind) = none :=
      readDirective?_eq_none_iff.mpr (first start)
    have noneAll (start : atBoundary) :
        readDirective? (c :: (behind ++ (gap.text ++ rest))) = .none := by
      rw [← List.cons_append, readDirective?_eq_none_iff]
      exact fun begins => first start (begins.of_append broken)
    have noQuote := quoteless.imp_left fun noQuote quote => noQuote (List.mem_cons_of_mem c quote)
    rw [List.cons_append, itemsFrom_cons noneAll, itemsFrom_cons none, ih noQuote,
      List.cons_append]

/-! ### Readings -/

theorem joinWords_append {front back : List (List Char)} (some : front ≠ []) (more : back ≠ []) :
    joinWords (front ++ back) = joinWords front ++ ' ' :: joinWords back := by
  rw [joinWords, Unicode.intercalate_append some more]
  rfl

/-- Texts with a space between each two of them, without the empty ones. -/
def joinTexts (texts : List String) : String :=
  " ".intercalate (texts.filter (· ≠ ""))

theorem joinTexts_empty_left (text : String) : joinTexts ["", text] = text := by
  by_cases empty : text = "" <;> simp [joinTexts, empty]

theorem joinTexts_empty_right (text : String) : joinTexts [text, ""] = text := by
  by_cases empty : text = "" <;> simp [joinTexts, empty]

/-- Two texts of words are put together with a space, if there are words in both. -/
theorem ofList_joinWords_append {front back : List (List Char)}
    (nonempty : ∀ word ∈ front, word ≠ []) (nonemptyBack : ∀ word ∈ back, word ≠ []) :
    String.ofList (joinWords (front ++ back)) =
      joinTexts [String.ofList (joinWords front), String.ofList (joinWords back)] := by
  by_cases none : front = []
  · rw [none]
    exact (joinTexts_empty_left _).symm
  · by_cases noneBack : back = []
    · rw [noneBack, List.append_nil]
      exact (joinTexts_empty_right _).symm
    · have kept : String.ofList (joinWords front) ≠ "" := by
        simpa [joinWords] using Unicode.intercalate_ne_nil none nonempty
      have keptBack : String.ofList (joinWords back) ≠ "" := by
        simpa [joinWords] using Unicode.intercalate_ne_nil noneBack nonemptyBack
      apply String.toList_injective
      rw [String.toList_ofList, joinWords_append none noneBack, joinTexts,
        String.toList_intercalate]
      simp [kept, keptBack, List.intercalate_cons_cons]

namespace Reading

/-- The reading of two lines one behind the other. -/
def append (first second : Reading) : Reading where
  directives := first.directives ++ second.directives
  malformed := first.malformed + second.malformed
  remainder := joinTexts [first.remainder, second.remainder]

instance : Append Reading := ⟨append⟩

variable {first second : String} (gap : Gap) (quoteless : '"' ∉ first.toList ∨ '"' ∉ second.toList)

include quoteless

theorem items_append : items (first ++ String.ofList gap.text ++ second) =
    items first ++ (gap.text.map .plain ++ items second) := by
  rw [items, String.toList_append, String.toList_append, String.toList_ofList, List.append_assoc]
  exact itemsFrom_append gap quoteless

/-- Two lines with white space between them are read one after the other, unless both have
quotes. -/
theorem ofLine_append :
    ofLine (first ++ String.ofList gap.text ++ second) = ofLine first ++ ofLine second := by
  have split := items_append gap quoteless
  have sameWords : words ((items (first ++ String.ofList gap.text ++ second)).map Item.leftOver) =
      words ((items first).map Item.leftOver) ++ words ((items second).map Item.leftOver) := by
    rw [split, List.map_append, List.map_append, map_leftOver_plain, gap.words_append]
  have nonempty (line : String) : ∀ word ∈ words ((items line).map Item.leftOver), word ≠ [] :=
    fun word isWord => (Unicode.of_mem_words isWord).1
  rw [ofLine, sameWords, ofList_joinWords_append (nonempty first) (nonempty second), split,
    List.filterMap_append, List.filterMap_append, filterMap_content?_plain, List.countP_append,
    List.countP_append, countP_isMalformed_plain, List.nil_append, Nat.zero_add]
  rfl

/-- Two lines put together have directives if one of them has. -/
theorem isStructured_append :
    (ofLine (first ++ String.ofList gap.text ++ second)).isStructured =
      ((ofLine first).isStructured || (ofLine second).isStructured) := by
  rw [ofLine_append gap quoteless, Bool.eq_iff_iff]
  change (append (ofLine first) (ofLine second)).isStructured = true ↔ _
  simp only [isStructured, append, Bool.or_eq_true, Bool.not_eq_true', List.isEmpty_eq_false_iff,
    decide_eq_true_eq, ne_eq, List.append_eq_nil_iff]
  grind

end Reading

/-- Whether a line consists of words that begin no directive, and has no quotes. -/
structure ArePlainWords (line : String) : Prop where
  quoteless : '"' ∉ line.toList
  plain : ∀ word ∈ words line.toList, ¬BeginsDirective word

namespace ArePlainWords

variable {line : String} (plain : ArePlainWords line)

include plain

theorem directives_eq_nil : (Reading.ofLine line).directives = [] := by
  rw [Reading.ofLine_of_isFree (isFree_iff_words.mpr plain.plain)]

/-- Plain words behind a line or in front of it leave its directives as they are. -/
theorem directives_append (other : String) (gap : Gap) :
    (Reading.ofLine (other ++ String.ofList gap.text ++ line)).directives =
        (Reading.ofLine other).directives ∧
      (Reading.ofLine (line ++ String.ofList gap.text ++ other)).directives =
        (Reading.ofLine other).directives := by
  rw [Reading.ofLine_append gap (.inr plain.quoteless),
    Reading.ofLine_append gap (.inl plain.quoteless)]
  have none := plain.directives_eq_nil
  constructor
  · exact (congrArg _ none).trans (List.append_nil _)
  · exact (congrArg (· ++ _) none).trans (List.nil_append _)

end ArePlainWords

end ComicCatalogue.Search
