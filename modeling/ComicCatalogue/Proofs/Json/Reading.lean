import ComicCatalogue.Proofs.Json.Compact

/-!
# Reading undoes writing

A value is read back from its text without white space, as long as it has no decimals and its whole
numbers fit in 64 bits, with a sign or without one. Other numbers would be kept in binary.
-/

namespace ComicCatalogue.Json

mutual

/-- The value has no decimals, and its whole numbers fit in 64 bits. -/
def IsBounded : Json → Prop
  | int n => -0x8000000000000000 ≤ n ∧ n ≤ 0xFFFFFFFFFFFFFFFF
  | float _ => False
  | arr items => AreBounded items
  | obj fields => HaveBounded fields
  | _ => True

/-- Each of the values is such a value. -/
def AreBounded : List Json → Prop
  | [] => True
  | item :: items => IsBounded item ∧ AreBounded items

/-- The value of each of the fields is such a value. -/
def HaveBounded : List (String × Json) → Prop
  | [] => True
  | (_, value) :: fields => IsBounded value ∧ HaveBounded fields

end

theorem areBounded_iff {items : List Json} : AreBounded items ↔ ∀ item ∈ items, IsBounded item := by
  induction items with
  | nil => simp [AreBounded]
  | cons item items ih => simp [AreBounded, ih]

theorem haveBounded_iff {fields : List (String × Json)} :
    HaveBounded fields ↔ ∀ field ∈ fields, IsBounded field.2 := by
  induction fields with
  | nil => simp [HaveBounded]
  | cons field fields ih => simp [HaveBounded, ih]

mutual

theorem IsBounded.isWhole : (value : Json) → value.IsBounded → value.IsWhole
  | null, _ => trivial
  | bool _, _ => trivial
  | int _, _ => trivial
  | float _, bounded => bounded
  | str _, _ => trivial
  | arr items, bounded => AreBounded.areWhole items bounded
  | obj fields, bounded => HaveBounded.haveWhole fields bounded

theorem AreBounded.areWhole : (items : List Json) → AreBounded items → AreWhole items
  | [], _ => trivial
  | item :: items, bounded =>
    ⟨IsBounded.isWhole item bounded.1, AreBounded.areWhole items bounded.2⟩

theorem HaveBounded.haveWhole :
    (fields : List (String × Json)) → HaveBounded fields → HaveWhole fields
  | [], _ => trivial
  | (_, value) :: fields, bounded =>
    ⟨IsBounded.isWhole value bounded.1, HaveBounded.haveWhole fields bounded.2⟩

end

/-! ### Texts in quotes -/

/-- No character is half of a surrogate pair. -/
theorem joinSurrogates_map_toNat (text : List Char) :
    joinSurrogates (text.map Char.toNat) = some text := by
  induction text with
  | nil => rfl
  | cons c text ih =>
    have valid : c.toNat < 0xD800 ∨ 0xDFFF < c.toNat ∧ c.toNat < 0x110000 := c.valid
    rw [List.map_cons, joinSurrogates.eq_def]
    dsimp only
    rw [if_neg (by omega), if_neg (by omega), ih, Char.ofNat_toNat]
    rfl

theorem readText_escaped (text : String) (rest : List Char) :
    readText (text.toList.flatMap escapeChar ++ '"' :: rest) = some (text, rest) := by
  rw [readText, readUnits_flatMap_escapeChar, Option.bind_eq_bind, Option.bind_some]
  dsimp only
  rw [joinSurrogates_map_toNat, Option.bind_eq_bind, Option.bind_some, String.ofList_toList]

/-! ### Whole numbers -/

/-- Nothing follows that would belong to a number. -/
def EndsValue (rest : List Char) : Prop :=
  ∀ c ∈ rest.head?, c.isDigit = false ∧ c ≠ '.' ∧ c ≠ 'e' ∧ c ≠ 'E'

theorem endsValue_nil : EndsValue [] :=
  fun _ member => nomatch member

theorem endsValue_cons {c : Char} (rest : List Char)
    (other : c.isDigit = false ∧ c ≠ '.' ∧ c ≠ 'e' ∧ c ≠ 'E') : EndsValue (c :: rest) := by
  simpa [EndsValue] using other

variable {rest : List Char}

theorem EndsValue.endsNumber (ends : EndsValue rest) : EndsNumber rest :=
  fun c member => (ends c member).1

theorem takeDigits_toDigits_append (n : Nat) (ends : EndsValue rest) :
    takeDigits (Nat.toDigits 10 n ++ rest) = (Nat.toDigits 10 n, rest) := by
  have digits := takeWhile_toDigits_append (n := n) ends.endsNumber
  rw [takeDigits, digits]
  have split := List.takeWhile_append_dropWhile (p := Char.isDigit) (l := Nat.toDigits 10 n ++ rest)
  rw [digits] at split
  rw [List.append_cancel_left split]

/-- A number has no zero in front, unless it is zero. -/
theorem head?_toDigits {n : Nat} (positive : 0 < n) : (Nat.toDigits 10 n).head? ≠ some '0' := by
  induction n using Nat.strongRecOn with
  | ind n ih =>
    by_cases small : n < 10
    · rw [Nat.toDigits_of_lt_base small]
      have digits : ∀ d ∈ List.range 10, 0 < d → [Nat.digitChar d].head? ≠ some '0' := by decide
      exact digits n (List.mem_range.mpr small) positive
    · rw [Nat.toDigits_of_base_le (by decide) (Nat.not_lt.mp small),
        List.head?_append_of_ne_nil _ Nat.toDigits_ne_nil]
      exact ih (n / 10) (by omega) (by omega)

theorem le_ofDigitChars (digits : List Char) (n : Nat) : n ≤ Nat.ofDigitChars 10 digits n := by
  induction digits generalizing n with
  | nil => exact Nat.le_refl n
  | cons c digits ih =>
    rw [Nat.ofDigitChars_cons]
    exact Nat.le_trans (by omega) (ih (10 * n + (c.toNat - '0'.toNat)))

/-- Digits are left only if the number does not fit. -/
theorem fitDigits_of_lt (digits : List Char) {n : Nat}
    (fits : Nat.ofDigitChars 10 digits n < UInt64.size) :
    fitDigits n digits = (Nat.ofDigitChars 10 digits n, []) := by
  induction digits generalizing n with
  | nil => rfl
  | cons c digits ih =>
    rw [Nat.ofDigitChars_cons] at fits ⊢
    rw [fitDigits, if_pos (Nat.lt_of_le_of_lt (le_ofDigitChars digits _) fits), ih fits]

theorem numberOf?_toDigits (negative : Bool) {n : Nat} (fits : n < UInt64.size) :
    numberOf? negative (Nat.toDigits 10 n) [] none = wholeOf? negative n := by
  have digits := fitDigits_of_lt (Nat.toDigits 10 n) (n := 0)
    (by rwa [Nat.ofDigitChars_ten_toDigits])
  rw [Nat.ofDigitChars_ten_toDigits] at digits
  rw [numberOf?, digits]
  rfl

theorem readFraction_of_ends (ends : EndsValue rest) : readFraction rest = some ([], rest) := by
  unfold readFraction
  split
  · exact absurd rfl (ends '.' rfl).2.1
  · rfl

theorem readExponent_of_ends (ends : EndsValue rest) : readExponent rest = some (none, rest) := by
  unfold readExponent
  split
  · rename_i c rest
    obtain ⟨-, -, notLower, notUpper⟩ := ends c rfl
    rw [if_neg (not_or.mpr ⟨notLower, notUpper⟩)]
  · rfl

/-- A number behind its sign. -/
def readUnsigned (negative : Bool) (text : List Char) : Option (Json × List Char) := do
  let (whole, text) := takeDigits text
  if whole.isEmpty ∨ (whole.length ≠ 1 ∧ whole.head? = some '0') then none
  let (fraction, text) ← readFraction text
  let (exponent, text) ← readExponent text
  some (← numberOf? negative whole fraction exponent, text)

theorem readNumber_minus (text : List Char) :
    readNumber ('-' :: text) = readUnsigned true text := rfl

theorem readNumber_digit {c : Char} (digit : c.isDigit) (text : List Char) :
    readNumber (c :: text) = readUnsigned false (c :: text) := by
  unfold readNumber
  split
  rename_i negative more same
  split at same
  · rename_i minus
    rw [(List.cons.inj minus).1] at digit
    cases digit
  · cases same
    rfl

/-- The digits of a number, with nothing behind them that belongs to it, are read as one number. -/
theorem readUnsigned_toDigits_append (negative : Bool) (n : Nat) (ends : EndsValue rest) :
    readUnsigned negative (Nat.toDigits 10 n ++ rest) =
      (numberOf? negative (Nat.toDigits 10 n) [] none).map (·, rest) := by
  have legal : ¬((Nat.toDigits 10 n).isEmpty ∨
      (Nat.toDigits 10 n).length ≠ 1 ∧ (Nat.toDigits 10 n).head? = some '0') := by
    rw [List.isEmpty_iff]
    rintro (empty | ⟨long, zero⟩)
    · exact Nat.toDigits_ne_nil empty
    · rcases Nat.eq_zero_or_pos n with rfl | positive
      · exact long rfl
      · exact head?_toDigits positive zero
  rw [readUnsigned, takeDigits_toDigits_append n ends]
  dsimp only
  rw [if_neg legal, readFraction_of_ends ends]
  simp only [Option.bind_eq_bind, Option.bind_some, readExponent_of_ends ends]
  exact Option.map_eq_bind.symm

theorem readNumber_wholeNumber_append {n : Int} (bounded : (int n).IsBounded)
    (ends : EndsValue rest) : readNumber (wholeNumber n ++ rest) = some (int n, rest) := by
  unfold IsBounded at bounded
  have fits : n.natAbs < UInt64.size := by
    unfold UInt64.size
    omega
  unfold wholeNumber
  by_cases negative : n < 0
  · rw [if_pos negative, List.singleton_append, List.cons_append, readNumber_minus,
      readUnsigned_toDigits_append true _ ends, numberOf?_toDigits true fits, wholeOf?]
    have sized : 0 < n.natAbs ∧ n.natAbs ≤ 0x8000000000000000 := by omega
    have value : -(n.natAbs : Int) = n := by omega
    rw [if_neg (by decide), if_pos sized, value]
    rfl
  · obtain ⟨c, digits, split, digit⟩ := toDigits_eq_cons n.natAbs
    rw [if_neg negative, List.nil_append, split, List.cons_append, readNumber_digit digit,
      ← List.cons_append, ← split, readUnsigned_toDigits_append false _ ends,
      numberOf?_toDigits false fits, wholeOf?]
    have value : (n.natAbs : Int) = n := by omega
    rw [if_pos (by decide), value]
    rfl

/-! ### Values -/

theorem skipBlank_cons {c : Char} (shown : isBlank c = false) (text : List Char) :
    skipBlank (c :: text) = c :: text := by
  rw [skipBlank, List.dropWhile_cons_of_neg (by rw [shown]; decide)]

theorem isBlank_kind (value : Json) : isBlank value.kind = false := by
  cases value with
  | bool flag => cases flag <;> rfl
  | _ => rfl

theorem kindOfStart_of_isBlank {c : Char} (blank : isBlank c) : kindOfStart c = c := by
  simp only [isBlank, Bool.decide_or, Bool.or_eq_true, decide_eq_true_eq] at blank
  rcases blank with rfl | rfl | rfl | rfl <;> rfl

/-- No value starts with white space. -/
theorem skipBlank_compactChars_append {value : Json} (whole : value.IsWhole) (rest : List Char) :
    skipBlank (compactChars value ++ rest) = compactChars value ++ rest := by
  obtain ⟨c, text, split, kinds⟩ := compactChars_eq_cons whole
  rw [split, List.cons_append]
  refine skipBlank_cons (eq_false_of_ne_true fun blank => ?_) _
  rw [kindOfStart_of_isBlank blank] at kinds
  rw [kinds, isBlank_kind] at blank
  cases blank

theorem readValue_number {c : Char} (number : c = '-' ∨ c.isDigit) (fuel : Nat)
    (text : List Char) : readValue (fuel + 1) (c :: text) = readNumber (c :: text) := by
  rw [readValue]
  all_goals
    intro rest same
    rw [(List.cons.inj same).1] at number
    revert number
    decide

variable {fuel : Nat} {text more : List Char} {item value : Json} {name : String}

theorem readValue_bracket (shown : skipBlank text = text) (filled : ∀ rest, text ≠ ']' :: rest) :
    readValue (fuel + 1) ('[' :: text) =
      (readItems fuel text).map fun (items, rest) => (arr items, rest) := by
  rw [readValue, shown]
  split
  · rename_i same
    exact absurd rfl (filled _)
  · rfl

theorem readValue_brace (fuel : Nat) (text : List Char) :
    readValue (fuel + 1) ('\x7b' :: '"' :: text) =
      (readFields fuel ('"' :: text)).map fun (fields, rest) => (obj fields, rest) := by
  rw [readValue]
  rfl

theorem readItems_last (read : readValue fuel text = some (item, ']' :: rest)) :
    readItems (fuel + 1) text = some ([item], rest) := by
  rw [readItems, read]
  rfl

theorem readItems_comma (read : readValue fuel text = some (item, ',' :: more)) :
    readItems (fuel + 1) text =
      (readItems fuel (skipBlank more)).map fun (items, rest) => (item :: items, rest) := by
  rw [readItems, read]
  exact Option.map_eq_bind.symm

theorem quote_append (name : String) (text : List Char) :
    quote name ++ text = '"' :: (name.toList.flatMap escapeChar ++ '"' :: text) := by
  simp [quote]

theorem readFields_last (read : readValue fuel (skipBlank text) = some (value, '\x7d' :: rest)) :
    readFields (fuel + 1) (quote name ++ ':' :: text) = some ([(name, value)], rest) := by
  rw [quote_append, readFields, readText_escaped]
  simp only [Option.bind_eq_bind, Option.bind_some]
  rw [skipBlank_cons rfl]
  simp only [read]
  rfl

theorem readFields_comma (read : readValue fuel (skipBlank text) = some (value, ',' :: more)) :
    readFields (fuel + 1) (quote name ++ ':' :: text) =
      (readFields fuel (skipBlank more)).map fun (fields, rest) =>
        ((name, value) :: fields, rest) := by
  rw [quote_append, readFields, readText_escaped]
  simp only [Option.bind_eq_bind, Option.bind_some]
  rw [skipBlank_cons rfl]
  simp only [read]
  exact Option.map_eq_bind.symm

theorem wholeNumber_eq_cons (n : Int) :
    ∃ c text, wholeNumber n = c :: text ∧ (c = '-' ∨ c.isDigit) := by
  rw [wholeNumber]
  split
  · exact ⟨_, _, rfl, .inl rfl⟩
  · obtain ⟨c, digits, split, digit⟩ := toDigits_eq_cons n.natAbs
    exact ⟨c, digits, by rw [split, List.nil_append], .inr digit⟩

/-- What stands behind an item or a field ends it. -/
theorem endsValue_behind {last : Prop} [Decidable last] {text rest : List Char} {c : Char}
    (other : c.isDigit = false ∧ c ≠ '.' ∧ c ≠ 'e' ∧ c ≠ 'E') :
    EndsValue ((if last then [] else ',' :: text) ++ c :: rest) := by
  split
  · exact endsValue_cons _ other
  · exact endsValue_cons _ (by decide)

mutual

/-- Every value is read back from its text, whatever follows. Each part of the text takes two steps
at most. -/
theorem readValue_compactChars_append (value : Json) {fuel : Nat} {rest : List Char}
    (bounded : value.IsBounded) (enough : 2 * (compactChars value).length + 1 ≤ fuel)
    (ends : EndsValue rest) : readValue fuel (compactChars value ++ rest) = some (value, rest) := by
  obtain ⟨fuel, rfl⟩ : ∃ less, fuel = less + 1 := ⟨fuel - 1, by omega⟩
  cases value with
  | null => rfl
  | bool flag => cases flag <;> rfl
  | int n =>
    have shown : compactChars (int n) = wholeNumber n := rfl
    obtain ⟨c, text, split, number⟩ := wholeNumber_eq_cons n
    rw [shown, ← readNumber_wholeNumber_append bounded ends, split, List.cons_append,
      readValue_number number]
  | float _ => exact bounded.elim
  | str text =>
    have shown : compactChars (str text) = quote text := rfl
    rw [shown, quote_append, readValue, readText_escaped]
    rfl
  | arr items =>
    have split : compactChars (arr items) ++ rest = '[' :: (compactItems items ++ ']' :: rest) := by
      simp [compactChars]
    rw [split]
    rw [compactChars, List.length_append, List.length_append, List.length_singleton,
      List.length_singleton] at enough
    cases items with
    | nil => rfl
    | cons item items =>
      have whole := IsBounded.isWhole item bounded.1
      have shown : skipBlank (compactItems (item :: items) ++ ']' :: rest) =
          compactItems (item :: items) ++ ']' :: rest := by
        rw [compactItems_cons, List.append_assoc, skipBlank_compactChars_append whole]
      have filled (more : List Char) :
          compactItems (item :: items) ++ ']' :: rest ≠ ']' :: more := by
        rw [compactItems_cons, List.append_assoc]
        exact compactChars_append_ne_bracket whole
      rw [readValue_bracket shown filled,
        readItems_compactItems_append (item :: items) (List.cons_ne_nil _ _) bounded (by omega)]
      rfl
  | obj fields =>
    have split : compactChars (obj fields) ++ rest =
        '\x7b' :: (compactFields fields ++ '\x7d' :: rest) := by
      simp [compactChars]
    rw [split]
    rw [compactChars, List.length_append, List.length_append, List.length_singleton,
      List.length_singleton] at enough
    cases fields with
    | nil => rfl
    | cons field fields =>
      have read : readFields fuel (compactFields (field :: fields) ++ '\x7d' :: rest) =
          some (field :: fields, rest) :=
        readFields_compactFields_append (field :: fields) (List.cons_ne_nil _ _) bounded (by omega)
      obtain ⟨name, value⟩ := field
      rw [compactFields_cons, List.append_assoc, quote_append] at read ⊢
      rw [readValue_brace, read]
      rfl

theorem readItems_compactItems_append (items : List Json) {fuel : Nat} {rest : List Char}
    (filled : items ≠ []) (bounded : AreBounded items)
    (enough : 2 * (compactItems items).length + 2 ≤ fuel) :
    readItems fuel (compactItems items ++ ']' :: rest) = some (items, rest) := by
  obtain ⟨fuel, rfl⟩ : ∃ less, fuel = less + 1 := ⟨fuel - 1, by omega⟩
  obtain - | ⟨item, items⟩ := items
  · exact absurd rfl filled
  rw [compactItems_cons, List.length_append] at enough
  rw [compactItems_cons, List.append_assoc]
  have read : readValue fuel (compactChars item ++
      ((if items = [] then [] else ',' :: compactItems items) ++ ']' :: rest)) =
        some (item, (if items = [] then [] else ',' :: compactItems items) ++ ']' :: rest) :=
    readValue_compactChars_append item bounded.1 (by omega) (endsValue_behind (by decide))
  cases items with
  | nil => exact readItems_last read
  | cons next items =>
    rw [if_neg (List.cons_ne_nil next items), List.cons_append] at read ⊢
    rw [if_neg (List.cons_ne_nil next items), List.length_cons] at enough
    have shown : skipBlank (compactItems (next :: items) ++ ']' :: rest) =
        compactItems (next :: items) ++ ']' :: rest := by
      rw [compactItems_cons, List.append_assoc,
        skipBlank_compactChars_append (IsBounded.isWhole next bounded.2.1)]
    rw [readItems_comma read, shown,
      readItems_compactItems_append (next :: items) (List.cons_ne_nil _ _) bounded.2 (by omega)]
    rfl

theorem readFields_compactFields_append (fields : List (String × Json)) {fuel : Nat}
    {rest : List Char} (filled : fields ≠ []) (bounded : HaveBounded fields)
    (enough : 2 * (compactFields fields).length + 2 ≤ fuel) :
    readFields fuel (compactFields fields ++ '\x7d' :: rest) = some (fields, rest) := by
  obtain ⟨fuel, rfl⟩ : ∃ less, fuel = less + 1 := ⟨fuel - 1, by omega⟩
  obtain - | ⟨⟨name, value⟩, fields⟩ := fields
  · exact absurd rfl filled
  rw [compactFields_cons, List.length_append, List.length_cons, List.length_append] at enough
  rw [compactFields_cons, List.append_assoc, List.cons_append, List.append_assoc]
  have read : readValue fuel (skipBlank (compactChars value ++
      ((if fields = [] then [] else ',' :: compactFields fields) ++ '\x7d' :: rest))) =
        some (value, (if fields = [] then [] else ',' :: compactFields fields) ++
          '\x7d' :: rest) := by
    rw [skipBlank_compactChars_append (IsBounded.isWhole value bounded.1)]
    exact readValue_compactChars_append value bounded.1 (by omega) (endsValue_behind (by decide))
  cases fields with
  | nil => exact readFields_last read
  | cons next fields =>
    rw [if_neg (List.cons_ne_nil next fields), List.cons_append] at read ⊢
    rw [if_neg (List.cons_ne_nil next fields), List.length_cons] at enough
    have shown : skipBlank (compactFields (next :: fields) ++ '\x7d' :: rest) =
        compactFields (next :: fields) ++ '\x7d' :: rest := by
      rw [compactFields_cons, List.append_assoc, quote_append, skipBlank_cons rfl]
    rw [readFields_comma read, shown,
      readFields_compactFields_append (next :: fields) (List.cons_ne_nil _ _) bounded.2 (by omega)]
    rfl

end

/-- A value is read back from its text. -/
theorem parse?_compact {value : Json} (bounded : value.IsBounded) :
    parse? value.compact = some value := by
  have shown := skipBlank_compactChars_append (IsBounded.isWhole value bounded) []
  rw [List.append_nil] at shown
  have read := readValue_compactChars_append value bounded (Nat.le_refl _) endsValue_nil
  rw [List.append_nil] at read
  rw [parse?, compact, String.toList_ofList, shown, read]
  rfl

end ComicCatalogue.Json
