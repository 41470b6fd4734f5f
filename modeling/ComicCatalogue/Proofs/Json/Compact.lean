import Mathlib.Data.List.Basic
import ComicCatalogue.Json.Reader

/-!
# A text belongs to one value

Different values without decimals have different texts, and where the text of a value ends is known
from the text: a text in quotes ends with its closing quote, an array and an object with their
brackets, and a whole number where no digit follows. Fields keep their order, so objects with the
same fields in another order are different values.
-/

namespace ComicCatalogue.Json

mutual

/-- The value has no decimals in it. -/
def IsWhole : Json → Prop
  | float _ => False
  | arr items => AreWhole items
  | obj fields => HaveWhole fields
  | _ => True

/-- None of the values has decimals in it. -/
def AreWhole : List Json → Prop
  | [] => True
  | item :: items => IsWhole item ∧ AreWhole items

/-- None of the values of the fields has decimals in it. -/
def HaveWhole : List (String × Json) → Prop
  | [] => True
  | (_, value) :: fields => IsWhole value ∧ HaveWhole fields

end

theorem areWhole_iff {items : List Json} : AreWhole items ↔ ∀ item ∈ items, IsWhole item := by
  induction items with
  | nil => simp [AreWhole]
  | cons item items ih => simp [AreWhole, ih]

theorem haveWhole_iff {fields : List (String × Json)} :
    HaveWhole fields ↔ ∀ field ∈ fields, IsWhole field.2 := by
  induction fields with
  | nil => simp [HaveWhole]
  | cons field fields ih => simp [HaveWhole, ih]

/-! ### Texts in quotes -/

theorem hexNumber?_control :
    ∀ n ∈ List.range 0x20,
      hexNumber? ['0', '0', hexDigit (n / 16), hexDigit (n % 16)] = some n := by
  decide

theorem readUnits_letter {letter : Char} {unit : Nat} (known : escapeLetter? letter = some unit)
    (rest : List Char) :
    readUnits ('\\' :: letter :: rest) =
      (readUnits rest).map fun (units, rest) => (unit :: units, rest) := by
  have notU : letter ≠ 'u' := by
    rintro rfl
    cases known
  rw [readUnits]
  · rw [known]
    cases readUnits rest <;> rfl
  · intro a b c d more same _
    exact notU same

/-- A character inside quotes is read back, whatever follows. -/
theorem readUnits_escapeChar_append (c : Char) (rest : List Char) :
    readUnits (escapeChar c ++ rest) =
      (readUnits rest).map fun (units, rest) => (c.toNat :: units, rest) := by
  unfold escapeChar
  iterate 7
    split
    · rename_i same
      first
        | subst same
        | rw [same]
      exact readUnits_letter rfl rest
  split
  · rename_i control
    have value := hexNumber?_control c.toNat (List.mem_range.mpr control)
    simp only [List.cons_append, List.nil_append, readUnits, value]
    cases readUnits rest <;> rfl
  · rename_i notQuote notEscape _ _ _ _ _ printable
    rw [List.singleton_append, readUnits]
    · rw [if_neg (by simp [printable, notEscape])]
      cases readUnits rest <;> rfl
    · exact notQuote
    · exact fun _ _ _ _ _ same => absurd same notEscape
    · exact fun _ _ same => absurd same notEscape

theorem readUnits_flatMap_escapeChar (text rest : List Char) :
    readUnits (text.flatMap escapeChar ++ '"' :: rest) = some (text.map Char.toNat, rest) := by
  induction text with
  | nil => rw [List.flatMap_nil, List.nil_append, readUnits, List.map_nil]
  | cons c text ih =>
    rw [List.flatMap_cons, List.append_assoc, readUnits_escapeChar_append, ih]
    rfl

theorem quote_append_inj {a b : String} {rest other : List Char}
    (same : quote a ++ rest = quote b ++ other) : a = b ∧ rest = other := by
  simp only [quote, List.append_assoc, List.cons_append, List.nil_append, List.cons.injEq,
    true_and] at same
  have read := congrArg readUnits same
  rw [readUnits_flatMap_escapeChar, readUnits_flatMap_escapeChar, Option.some_inj,
    Prod.mk.injEq] at read
  have sameChars : a.toList = b.toList :=
    List.map_injective_iff.mpr (fun _ _ => Char.toNat_inj.mp) read.1
  exact ⟨String.toList_inj.mp sameChars, read.2⟩

/-! ### Whole numbers -/

/-- No digit follows. -/
def EndsNumber (rest : List Char) : Prop :=
  ∀ c ∈ rest.head?, c.isDigit = false

theorem endsNumber_cons {c : Char} {rest : List Char} (other : c.isDigit = false) :
    EndsNumber (c :: rest) := by
  simpa [EndsNumber] using other

theorem takeWhile_toDigits_append {n : Nat} {rest : List Char} (ends : EndsNumber rest) :
    (Nat.toDigits 10 n ++ rest).takeWhile Char.isDigit = Nat.toDigits 10 n := by
  have digits : ∀ c ∈ Nat.toDigits 10 n, c.isDigit := fun c member =>
    Nat.isDigit_of_mem_toDigits (by decide) (by decide) member
  rw [List.takeWhile_append_of_pos digits]
  cases rest with
  | nil => rw [List.takeWhile_nil, List.append_nil]
  | cons c rest =>
    have other : c.isDigit = false := ends c rfl
    rw [List.takeWhile_cons_of_neg (by simp [other]), List.append_nil]

theorem toDigits_append_inj {m n : Nat} {rest other : List Char} (ends : EndsNumber rest)
    (endsOther : EndsNumber other) (same : Nat.toDigits 10 m ++ rest = Nat.toDigits 10 n ++ other) :
    m = n ∧ rest = other := by
  have sameDigits : Nat.toDigits 10 m = Nat.toDigits 10 n := by
    rw [← takeWhile_toDigits_append ends, same, takeWhile_toDigits_append endsOther]
  have sameNumber := congrArg (Nat.ofDigitChars 10 · 0) sameDigits
  simp only [Nat.ofDigitChars_ten_toDigits] at sameNumber
  rw [sameDigits] at same
  exact ⟨sameNumber, List.append_cancel_left same⟩

theorem toDigits_eq_cons (n : Nat) :
    ∃ c digits, Nat.toDigits 10 n = c :: digits ∧ c.isDigit := by
  cases same : Nat.toDigits 10 n with
  | nil => exact absurd same Nat.toDigits_ne_nil
  | cons c digits =>
    refine ⟨c, digits, rfl,
      Nat.isDigit_of_mem_toDigits (b := 10) (by decide) (by decide) (n := n) ?_⟩
    rw [same]
    exact List.mem_cons_self

theorem wholeNumber_append_inj {m n : Int} {rest other : List Char} (ends : EndsNumber rest)
    (endsOther : EndsNumber other) (same : wholeNumber m ++ rest = wholeNumber n ++ other) :
    m = n ∧ rest = other := by
  have signed : ∀ (size : Nat) (tail : List Char), ∃ c more,
      Nat.toDigits 10 size ++ tail = c :: more ∧ c ≠ '-' := by
    intro size tail
    obtain ⟨c, digits, split, digit⟩ := toDigits_eq_cons size
    refine ⟨c, digits ++ tail, by rw [split, List.cons_append], ?_⟩
    rintro rfl
    cases digit
  simp only [wholeNumber, List.append_assoc] at same
  by_cases negative : m < 0 <;> by_cases negativeOther : n < 0
  · simp only [negative, negativeOther, if_true, List.cons_append, List.nil_append, List.cons.injEq,
      true_and] at same
    obtain ⟨sameSize, sameRest⟩ := toDigits_append_inj ends endsOther same
    exact ⟨by omega, sameRest⟩
  · obtain ⟨c, more, split, noSign⟩ := signed n.natAbs other
    simp only [negative, negativeOther, if_true, if_false, List.cons_append, List.nil_append, split,
      List.cons.injEq] at same
    exact absurd same.1.symm noSign
  · obtain ⟨c, more, split, noSign⟩ := signed m.natAbs rest
    simp only [negative, negativeOther, if_true, if_false, List.cons_append, List.nil_append, split,
      List.cons.injEq] at same
    exact absurd same.1 noSign
  · simp only [negative, negativeOther, if_false, List.nil_append] at same
    obtain ⟨sameSize, sameRest⟩ := toDigits_append_inj ends endsOther same
    exact ⟨by omega, sameRest⟩

/-! ### Values -/

/-- The kind of a value. -/
def kind : Json → Char
  | null => 'n'
  | bool true => 't'
  | bool false => 'f'
  | int _ => '0'
  | float _ => '.'
  | str _ => '"'
  | arr _ => '['
  | obj _ => '\x7b'

/-- The kind of the value that a text starts with, by the first character. -/
def kindOfStart (c : Char) : Char :=
  if c = '-' ∨ c.isDigit then '0' else c

theorem compactChars_eq_cons {value : Json} (whole : value.IsWhole) :
    ∃ c text, compactChars value = c :: text ∧ kindOfStart c = value.kind := by
  cases value with
  | null => exact ⟨_, _, rfl, rfl⟩
  | bool flag => cases flag <;> exact ⟨_, _, rfl, rfl⟩
  | int n =>
    have shown : compactChars (int n) = wholeNumber n := rfl
    rw [shown, wholeNumber]
    split
    · exact ⟨_, _, rfl, rfl⟩
    · obtain ⟨c, digits, split, digit⟩ := toDigits_eq_cons n.natAbs
      exact ⟨c, digits, by rw [split, List.nil_append], if_pos (.inr digit)⟩
  | float _ => exact whole.elim
  | str text => exact ⟨_, _, rfl, rfl⟩
  | arr items => exact ⟨_, _, rfl, rfl⟩
  | obj fields => exact ⟨_, _, rfl, rfl⟩

theorem kind_eq_of_compactChars_append {a b : Json} {rest other : List Char} (whole : a.IsWhole)
    (wholeOther : b.IsWhole) (same : compactChars a ++ rest = compactChars b ++ other) :
    a.kind = b.kind := by
  obtain ⟨c, text, split, kindA⟩ := compactChars_eq_cons whole
  obtain ⟨d, textOther, splitOther, kindB⟩ := compactChars_eq_cons wholeOther
  rw [split, splitOther] at same
  rw [← kindA, ← kindB, (List.cons.inj same).1]

/-- No value starts with the bracket that ends an array. -/
theorem compactChars_append_ne_bracket {value : Json} {rest other : List Char}
    (whole : value.IsWhole) : compactChars value ++ rest ≠ ']' :: other := by
  intro same
  obtain ⟨c, text, split, kinds⟩ := compactChars_eq_cons whole
  rw [split] at same
  obtain rfl : c = ']' := (List.cons.inj same).1
  have bracket : kindOfStart ']' = ']' := rfl
  rw [bracket] at kinds
  cases value with
  | bool flag => cases flag <;> simp [kind] at kinds
  | _ => simp [kind] at kinds

theorem compactItems_cons (item : Json) (items : List Json) :
    compactItems (item :: items) =
      compactChars item ++ if items = [] then [] else ',' :: compactItems items := by
  cases items <;> simp [compactItems]

theorem compactFields_cons (name : String) (value : Json) (fields : List (String × Json)) :
    compactFields ((name, value) :: fields) =
      quote name ++ ':' :: (compactChars value ++
        if fields = [] then [] else ',' :: compactFields fields) := by
  cases fields <;> simp [compactFields]

theorem endsNumber_behind {last : Prop} [Decidable last] {text rest : List Char} {c : Char}
    (other : c.isDigit = false) :
    EndsNumber ((if last then [] else ',' :: text) ++ c :: rest) := by
  split
  · exact endsNumber_cons other
  · exact endsNumber_cons (by decide)

mutual

/-- The text of a value without decimals tells the value and where it ends. -/
theorem compactChars_append_inj (a b : Json) {rest other : List Char} (whole : a.IsWhole)
    (wholeOther : b.IsWhole) (ends : EndsNumber rest) (endsOther : EndsNumber other)
    (same : compactChars a ++ rest = compactChars b ++ other) : a = b ∧ rest = other := by
  have kinds := kind_eq_of_compactChars_append whole wholeOther same
  cases a with
  | null =>
    cases b with
    | null => exact ⟨rfl, List.append_cancel_left same⟩
    | bool flag => cases flag <;> simp [kind] at kinds
    | _ => simp [kind] at kinds
  | bool flag =>
    cases b with
    | bool other =>
      cases flag <;> cases other
      · exact ⟨rfl, List.append_cancel_left same⟩
      · simp [kind] at kinds
      · simp [kind] at kinds
      · exact ⟨rfl, List.append_cancel_left same⟩
    | _ => cases flag <;> simp [kind] at kinds
  | int m =>
    cases b with
    | int n =>
      obtain ⟨sameNumber, sameRest⟩ := wholeNumber_append_inj ends endsOther same
      exact ⟨congrArg int sameNumber, sameRest⟩
    | bool flag => cases flag <;> simp [kind] at kinds
    | _ => simp [kind] at kinds
  | float _ => exact whole.elim
  | str text =>
    cases b with
    | str textOther =>
      obtain ⟨sameText, sameRest⟩ := quote_append_inj same
      exact ⟨congrArg str sameText, sameRest⟩
    | bool flag => cases flag <;> simp [kind] at kinds
    | _ => simp [kind] at kinds
  | arr items =>
    cases b with
    | arr itemsOther =>
      simp only [compactChars, List.append_assoc, List.cons_append, List.nil_append,
        List.cons.injEq, true_and] at same
      obtain ⟨sameItems, sameRest⟩ := compactItems_append_inj items itemsOther whole wholeOther same
      exact ⟨congrArg arr sameItems, sameRest⟩
    | bool flag => cases flag <;> simp [kind] at kinds
    | _ => simp [kind] at kinds
  | obj fields =>
    cases b with
    | obj fieldsOther =>
      simp only [compactChars, List.append_assoc, List.cons_append, List.nil_append,
        List.cons.injEq, true_and] at same
      obtain ⟨sameFields, sameRest⟩ :=
        compactFields_append_inj fields fieldsOther whole wholeOther same
      exact ⟨congrArg obj sameFields, sameRest⟩
    | bool flag => cases flag <;> simp [kind] at kinds
    | _ => simp [kind] at kinds

theorem compactItems_append_inj (items others : List Json) {rest other : List Char}
    (whole : AreWhole items) (wholeOther : AreWhole others)
    (same : compactItems items ++ ']' :: rest = compactItems others ++ ']' :: other) :
    items = others ∧ rest = other := by
  cases items with
  | nil =>
    cases others with
    | nil => exact ⟨rfl, (List.cons.inj same).2⟩
    | cons item others =>
      rw [compactItems_cons, List.append_assoc] at same
      exact absurd same.symm (compactChars_append_ne_bracket wholeOther.1)
  | cons first items =>
    cases others with
    | nil =>
      rw [compactItems_cons, List.append_assoc] at same
      exact absurd same (compactChars_append_ne_bracket whole.1)
    | cons firstOther others =>
      rw [compactItems_cons, compactItems_cons, List.append_assoc, List.append_assoc] at same
      obtain ⟨sameFirst, sameRest⟩ := compactChars_append_inj first firstOther whole.1 wholeOther.1
        (endsNumber_behind (by decide)) (endsNumber_behind (by decide)) same
      subst sameFirst
      by_cases last : items = [] <;> by_cases lastOther : others = []
      · simp only [last, lastOther, if_true, List.nil_append, List.cons.injEq, true_and] at sameRest
        exact ⟨by rw [last, lastOther], sameRest⟩
      · simp [last, lastOther] at sameRest
      · simp [last, lastOther] at sameRest
      · simp only [last, lastOther, if_false, List.cons_append, List.cons.injEq,
          true_and] at sameRest
        obtain ⟨sameItems, sameEnd⟩ :=
          compactItems_append_inj items others whole.2 wholeOther.2 sameRest
        exact ⟨by rw [sameItems], sameEnd⟩

theorem compactFields_append_inj (fields others : List (String × Json)) {rest other : List Char}
    (whole : HaveWhole fields) (wholeOther : HaveWhole others)
    (same : compactFields fields ++ '\x7d' :: rest = compactFields others ++ '\x7d' :: other) :
    fields = others ∧ rest = other := by
  cases fields with
  | nil =>
    cases others with
    | nil => exact ⟨rfl, (List.cons.inj same).2⟩
    | cons field others =>
      rw [compactFields_cons] at same
      cases (List.cons.inj same).1
  | cons field fields =>
    obtain ⟨name, value⟩ := field
    cases others with
    | nil =>
      rw [compactFields_cons] at same
      cases (List.cons.inj same).1
    | cons fieldOther others =>
      obtain ⟨nameOther, valueOther⟩ := fieldOther
      rw [compactFields_cons, compactFields_cons, List.append_assoc, List.append_assoc] at same
      obtain ⟨sameName, behind⟩ := quote_append_inj same
      subst sameName
      simp only [List.cons_append, List.append_assoc, List.cons.injEq, true_and] at behind
      obtain ⟨sameValue, sameRest⟩ := compactChars_append_inj value valueOther whole.1 wholeOther.1
        (endsNumber_behind (by decide)) (endsNumber_behind (by decide)) behind
      subst sameValue
      by_cases last : fields = [] <;> by_cases lastOther : others = []
      · simp only [last, lastOther, if_true, List.nil_append, List.cons.injEq, true_and] at sameRest
        exact ⟨by rw [last, lastOther], sameRest⟩
      · simp [last, lastOther] at sameRest
      · simp [last, lastOther] at sameRest
      · simp only [last, lastOther, if_false, List.cons_append, List.cons.injEq,
          true_and] at sameRest
        obtain ⟨sameFields, sameEnd⟩ :=
          compactFields_append_inj fields others whole.2 wholeOther.2 sameRest
        exact ⟨by rw [sameFields], sameEnd⟩

end

/-- Values without decimals that have the same text are the same. -/
theorem compact_inj {a b : Json} (whole : a.IsWhole) (wholeOther : b.IsWhole)
    (same : a.compact = b.compact) : a = b := by
  have sameChars : compactChars a ++ [] = compactChars b ++ [] := by
    rw [List.append_nil, List.append_nil]
    exact String.ofList_injective same
  have ends : EndsNumber [] := fun c member => nomatch member
  exact (compactChars_append_inj a b whole wholeOther ends ends sameChars).1

end ComicCatalogue.Json
