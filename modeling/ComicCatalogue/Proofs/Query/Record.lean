import ComicCatalogue.Proofs.Query.Edits
import ComicCatalogue.Proofs.Search.Extent
import ComicCatalogue.Proofs.Unicode.Edges
import ComicCatalogue.Query.Record

/-!
# What directives say is taken up

The record of a directive that is read from a line is sound: its parts fit its field, its values are
parts of the line, and a count of pages is one. A draft takes up everything that a sound record
says, and leaves the rest of what it holds as it is.
-/

namespace ComicCatalogue

namespace Search

open Unicode (isWhitespace)

variable {text : List Char} {value : String}

/-! ### Values -/

/-- Whether a value is neither blank nor surrounded by white space. -/
structure IsTrimmed (value : String) : Prop where
  same : Text.trim value = value
  nonempty : value ≠ ""

theorem of_mem_kept (member : value ∈ kept text) : IsTrimmed value ∧ value.toList <:+: text := by
  unfold kept at member
  split at member
  · cases member
  · rename_i some
    obtain rfl := List.mem_singleton.mp member
    obtain ⟨front, back, -, -, split⟩ := Unicode.exists_append_trim text
    refine ⟨⟨?_, ?_⟩, front, back, ?_⟩
    · rw [Text.trim, String.toList_ofList, Unicode.trim_trim]
    · simpa using some
    · rw [String.toList_ofList, ← split]

/-- The values read from a text are trimmed parts of it. -/
theorem of_mem_readValues (member : value ∈ (readValues text).1) :
    IsTrimmed value ∧ value.toList <:+: text := by
  induction text using readValues_induction with
  | comma text first rest read ih =>
    obtain ⟨inside, behind⟩ := isInfix_of_readValue read
    rw [readValues_of_comma read] at member
    rcases List.mem_append.mp member with isFirst | more
    · exact (of_mem_kept isFirst).imp_right (·.trans inside)
    · exact (ih more).imp_right (·.trans ((List.suffix_cons _ _).trans behind).isInfix)
  | last text first rest read ends =>
    rw [readValues_of_no_comma read ends] at member
    exact (of_mem_kept member).imp_right (·.trans (isInfix_of_readValue read).1)

/-! ### Counts -/

theorem isWhitespace_of_isDigit {c : Char} (digit : c.isDigit) : isWhitespace c = false := by
  have elsewhere : ∀ n ∈ Unicode.whitespaceCodePoints, n < '0'.toNat ∨ '9'.toNat < n := by decide
  by_contra blank
  have outside := elsewhere _ (Unicode.mem_whitespaceCodePoints (Bool.not_eq_false _ ▸ blank))
  simp only [Char.isDigit, Bool.and_eq_true, decide_eq_true_eq] at digit
  have low : '0'.toNat ≤ c.toNat := digit.1
  have high : c.toNat ≤ '9'.toNat := digit.2
  omega

theorem toList_toString (n : Nat) : (toString n).toList = Nat.toDigits 10 n :=
  Nat.toList_repr

theorem toString_inj {m n : Nat} (same : toString m = toString n) : m = n := by
  have digits : Nat.toDigits 10 m = Nat.toDigits 10 n := by
    rw [← toList_toString, same, toList_toString]
  rw [← Nat.ofDigitChars_ten_toDigits (n := m), digits, Nat.ofDigitChars_ten_toDigits]

/-- A number in decimal digits, without leading zeros. -/
def Count.ofNat (n : Nat) (positive : 0 < n) (fits : n < UInt32.size) : Count where
  plus := false
  digits := Nat.toDigits 10 n
  nonempty := Nat.toDigits_ne_nil
  areDigits := fun _ member => Nat.isDigit_of_mem_toDigits (by decide) (by decide) member
  positive := by rwa [Nat.ofDigitChars_ten_toDigits]
  fits := by rwa [Nat.ofDigitChars_ten_toDigits]

theorem readCount?_toString {n : Nat} (positive : 0 < n) (fits : n < UInt32.size) :
    readCount? (toString n) = some n := by
  have read := (Count.ofNat n positive fits).readCount?_text
  rw [Count.number, Count.ofNat, Nat.ofDigitChars_ten_toDigits] at read
  rw [← read]
  rfl

theorem isTrimmed_toString (n : Nat) : IsTrimmed (toString n) := by
  have unbroken : ∀ c ∈ Nat.toDigits 10 n, isWhitespace c = false := fun c member =>
    isWhitespace_of_isDigit (Nat.isDigit_of_mem_toDigits (by decide) (by decide) member)
  constructor
  · rw [Text.trim, toList_toString, Unicode.trim_of_unbroken unbroken, ← toList_toString,
      String.ofList_toList]
  · intro empty
    refine Nat.toDigits_ne_nil (n := n) (b := 10) ?_
    rw [← toList_toString, empty, String.toList_empty]

theorem lt_of_readCount? {n : Nat} (read : readCount? value = some n) : n < UInt32.size := by
  unfold readCount? at read
  grind

/-! ### Records -/

/-- The record of a head and its values is that of the directive they make up. -/
theorem Head.record?_eq (head : Head) (comparison : Comparison) (values : List String) :
    head.record? comparison values =
      (head.directive? comparison values).map Directive.record := by
  obtain ⟨negated, field, conjunctive, wildcard⟩ := head
  rcases values with _ | ⟨value, _ | ⟨other, values⟩⟩
  · cases field <;> rfl
  · cases field with
    | taxonomy which => cases negated <;> cases conjunctive <;> rfl
    | title => rfl
    | pages =>
      cases read : readCount? value with
      | none => simp [record?, directive?, read]
      | some count =>
        by_cases positive : 0 < count <;>
          simp [record?, directive?, read, positive, Option.filter, Directive.record]
  · cases field with
    | taxonomy which => cases negated <;> cases conjunctive <;> rfl
    | _ => rfl

/-- Whether the parts of a record fit its field, and its values are from the text. -/
structure Record.IsSound (record : Record) (text : List Char) : Prop where
  nonempty : record.values ≠ []
  trimmed : ∀ value ∈ record.values, IsTrimmed value
  inside : record.field ≠ .pages → ∀ value ∈ record.values, value.toList <:+: text
  negated : record.negated → ∃ which, record.field = .taxonomy which
  conjunctive : record.conjunctive →
    record.negated = false ∧ ∃ which, record.field = .taxonomy which
  comparison : record.comparison.isSome ↔ record.field = .pages
  pages : record.field = .pages → record.wildcard = false ∧
    ∃ count, 0 < count ∧ count < UInt32.size ∧ record.values = [toString count] ∧
      record.pageCount? = some count

namespace Record.IsSound

variable {record : Record} {other : List Char}

theorem of_isInfix (sound : record.IsSound text) (part : text <:+: other) : record.IsSound other :=
  { sound with
    inside := fun notPages value member => (sound.inside notPages value member).trans part }

/-- A head makes a sound record of trimmed values, or none. -/
theorem of_record? {head : Head} {comparison : Comparison} {values : List String}
    (made : head.record? comparison values = some record)
    (written : ∀ value ∈ values, IsTrimmed value ∧ value.toList <:+: text) :
    record.IsSound text := by
  obtain ⟨negated, field, conjunctive, wildcard⟩ := head
  cases values with
  | nil => cases made
  | cons first rest =>
    cases field with
    | taxonomy which =>
      cases made
      exact {
        nonempty := List.cons_ne_nil first rest
        trimmed := fun value member => (written value member).1
        inside := fun _ value member => (written value member).2
        negated := fun _ => ⟨which, rfl⟩
        conjunctive := fun both => ⟨by simp_all, which, rfl⟩
        comparison := by simp
        pages := by simp }
    | title =>
      cases made
      exact {
        nonempty := List.cons_ne_nil first rest
        trimmed := fun value member => (written value member).1
        inside := fun _ value member => (written value member).2
        negated := by simp
        conjunctive := by simp
        comparison := by simp
        pages := by simp }
    | pages =>
      cases rest with
      | cons other rest => cases made
      | nil =>
        obtain ⟨count, counted, rfl⟩ := Option.map_eq_some_iff.mp made
        obtain ⟨read, positive⟩ := Option.filter_eq_some_iff.mp counted
        have positive : 0 < count := of_decide_eq_true positive
        have fits := lt_of_readCount? read
        exact {
          nonempty := List.cons_ne_nil _ _
          trimmed := by simpa using isTrimmed_toString count
          inside := by simp
          negated := by simp
          conjunctive := by simp
          comparison := by simp
          pages := fun _ => ⟨rfl, count, positive, fits, rfl, readCount?_toString positive fits⟩ }

end Record.IsSound

/-- Each directive that is read somewhere in a text has a sound record. -/
theorem isSound_of_mem_itemsFrom {directive : Directive} {atBoundary : Bool}
    (member : directive ∈ (itemsFrom atBoundary text).filterMap Item.content?) :
    directive.record.IsSound text := by
  induction atBoundary, text using itemsFrom_induction with
  | nil atBoundary =>
    rw [itemsFrom_nil] at member
    cases member
  | directive source content rest read begins ih =>
    rw [itemsFrom_directive read, ← List.singleton_append, List.filterMap_append] at member
    rcases List.mem_append.mp member with here | behind
    · obtain rfl : content = some directive := by simpa [Item.content?, eq_comm] using here
      obtain ⟨field, heading, values, split, made, -⟩ := exists_of_readDirective? read
      have part : (heading.head.readComparison values).2 <:+: source ++ rest := by
        rw [split]
        exact ((heading.head.readComparison_suffix values).trans (List.suffix_append _ _)).isInfix
      have record : heading.head.record? (heading.head.readComparison values).1
          (readValues (heading.head.readComparison values).2).1 = some directive.record := by
        rw [Head.record?_eq, ← made, Option.map_some]
      exact .of_record? record fun value member =>
        (of_mem_readValues member).imp_right (·.trans part)
    · exact (ih behind).of_isInfix (List.suffix_append _ _).isInfix
  | plain atBoundary c rest first ih =>
    rw [itemsFrom_cons fun start => readDirective?_eq_none_iff.mpr (first start),
      List.filterMap_cons_none rfl] at member
    exact (ih member).of_isInfix (List.suffix_cons c rest).isInfix

end Search

open Search (Record Reading)

theorem TaxonomyFilter.addRecord_eq (record : Record) (filter : TaxonomyFilter) :
    filter.addRecord record = filter.add record.slot record.values := by
  obtain ⟨field, negated, conjunctive, wildcard, comparison, values⟩ := record
  cases negated <;> cases conjunctive <;> cases wildcard <;> rfl

namespace Draft

/-- Whether a draft has taken up what a record says, all of it in the place that it is for, and
holds the rest as before. -/
def HasTaken (draft : Draft) (record : Record) (after : Draft) : Prop :=
  match record.field with
  | .taxonomy which =>
    after = { draft with filters := after.filters } ∧
      ∀ other slot, (after.filters.get other).get slot = (draft.filters.get other).get slot ++
        if which = other ∧ record.slot = slot then record.values else []
  | .title =>
    let title := ",".intercalate record.values
    after = if record.wildcard then { draft with titleContains := some title }
      else { draft with titleEquals := some title }
  | .pages =>
    after = { draft with pages := after.pages } ∧
      ∃ comparison count, record.comparison = some comparison ∧ record.pageCount? = some count ∧
        ∀ other, after.bound? other =
          if comparison = other then some ⟨comparison, count⟩ else draft.bound? other

variable {record : Record} {text : List Char}

/-- A draft passes over nothing that a sound record says. -/
theorem hasTaken_addRecord (sound : record.IsSound text) (draft : Draft) :
    draft.HasTaken record (draft.addRecord record) := by
  cases same : record.field with
  | taxonomy which =>
    simp only [HasTaken, addRecord, same, TaxonomyFilter.addRecord_eq]
    exact ⟨trivial, fun other slot => get_modify_add _ _ _ _ _ _⟩
  | title => simp only [HasTaken, addRecord, same]
  | pages =>
    obtain ⟨-, count, -, -, -, counted⟩ := sound.pages same
    obtain ⟨comparison, compared⟩ := Option.isSome_iff_exists.mp (sound.comparison.mpr same)
    simp only [HasTaken, addRecord, same, compared, counted]
    refine ⟨trivial, comparison, count, rfl, rfl, fun other => ?_⟩
    rw [bound?, List.reverse_append, List.reverse_singleton, List.singleton_append,
      List.find?_cons]
    by_cases here : comparison = other <;> simp [here, bound?]

/-- Adding a directive is adding its record, if that is sound. -/
theorem addRecord_record {directive : Directive} (sound : directive.record.IsSound text)
    (draft : Draft) : draft.addRecord directive.record = draft.addDirective directive := by
  cases directive with
  | taxonomy which slot values =>
    obtain ⟨mode, wildcard⟩ := slot
    simp only [addRecord, Directive.record, TaxonomyFilter.addRecord_eq]
    cases mode <;> rfl
  | title wildcard values => cases wildcard <;> rfl
  | pages comparison count =>
    obtain ⟨-, other, -, -, values, counted⟩ := sound.pages rfl
    obtain rfl : count = other := Search.toString_inj (List.singleton_inj.mp values)
    simp only [addRecord, counted]
    rfl

/-- Each directive that is read from a line is sound, and every draft takes up what it says. -/
theorem hasTaken_of_mem_directives (line : String) (directive : Directive)
    (member : directive ∈ (Reading.ofLine line).directives) :
    directive.record.IsSound line.toList ∧ ∀ draft : Draft,
      draft.addDirective directive = draft.addRecord directive.record ∧
        draft.HasTaken directive.record (draft.addRecord directive.record) := by
  have sound : directive.record.IsSound line.toList := Search.isSound_of_mem_itemsFrom member
  exact ⟨sound, fun draft => ⟨(addRecord_record sound draft).symm, hasTaken_addRecord sound draft⟩⟩

/-- A count with a plus sign and leading zeros is a count. -/
theorem hasTaken_of_mem_directives_pages :
    let record : Record := { field := .pages, comparison := some .atLeast, values := ["7"] }
    record.IsSound "-tag&:\"big eyes\",x -pages&*:>=+007".toList ∧ ∀ draft : Draft,
      draft.addDirective (.pages .atLeast 7) = draft.addRecord record ∧
        draft.HasTaken record (draft.addRecord record) := by
  have directives : (Reading.ofLine "-tag&:\"big eyes\",x -pages&*:>=+007").directives =
      [.taxonomy .tag ⟨.noneOf, false⟩ ["big eyes", "x"], .pages .atLeast 7] := by decide +kernel
  exact hasTaken_of_mem_directives "-tag&:\"big eyes\",x -pages&*:>=+007" (.pages .atLeast 7)
    (by simp [directives])

end Draft

end ComicCatalogue
