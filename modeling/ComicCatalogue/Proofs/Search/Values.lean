import ComicCatalogue.Proofs.Search.Heading
import ComicCatalogue.Proofs.Unicode.Words

/-!
# Reading values

Written values are read as their contents, whatever follows the white space behind them, and a
written count as its number.
-/

namespace ComicCatalogue.Search

open Unicode (isWhitespace)

theorem isTokenChar_iff {c : Char} : isTokenChar c ↔ isWhitespace c = false ∧ c ≠ ',' := by
  simp [isTokenChar]

theorem isTokenChar_of_isBreak {rest : List Char} (broken : IsBreak rest) :
    ∀ c ∈ rest.head?, isTokenChar c = false := by
  intro c first
  simp [isTokenChar, broken c first]

/-- What one value adds to a list of values. -/
def kept (value : List Char) : List String :=
  if (Unicode.trim value).isEmpty then [] else [String.ofList (Unicode.trim value)]

theorem kept_of_unbroken {text : List Char} (some : text ≠ [])
    (unbroken : ∀ c ∈ text, isWhitespace c = false) : kept text = [String.ofList text] := by
  rw [kept, Unicode.trim_of_unbroken unbroken, if_neg (by simpa using some)]

/-- A list of values goes on behind a comma. -/
theorem readValues_of_comma {text value rest : List Char}
    (read : readValue text = (value, ',' :: rest)) :
    readValues text = (kept value ++ (readValues rest).1, (readValues rest).2) := by
  rw [readValues]
  simp only
  split
  · rename_i other same
    rw [read] at same
    cases same
    rw [read, kept]
  · rename_i different
    exact absurd (by rw [read]) (different rest)

/-- A list of values ends where no comma follows. -/
theorem readValues_of_no_comma {text value rest : List Char} (read : readValue text = (value, rest))
    (ends : ',' ∉ rest.head?) : readValues text = (kept value, rest) := by
  rw [readValues]
  simp only
  split
  · rename_i other same
    rw [read] at same
    cases same
    exact absurd rfl ends
  · rw [read, kept]

namespace Value

theorem readValue_text (value : Value) {rest : List Char}
    (ends : ∀ c ∈ rest.head?, isTokenChar c = false) :
    readValue (value.text ++ rest) = (value.content, rest) := by
  cases value with
  | bare text isToken unquoted =>
    have token : ∀ c ∈ text, isTokenChar c := fun c member => isTokenChar_iff.mpr (isToken c member)
    have noQuote : '"' ∉ (text ++ rest).head? := by
      cases text with
      | nil => exact fun first => absurd (ends '"' first) (by decide)
      | cons c text => exact unquoted
    unfold readValue
    split
    · rename_i quoted same
      rw [Value.text] at same
      exact absurd (by simp [same]) noQuote
    · exact Prod.ext (takeWhile_append ends token) (dropWhile_append ends token)
  | phrase text closed =>
    have inside : ∀ c ∈ text, (c != '"') = true := by
      intro c member
      simp only [bne_iff_ne, ne_eq]
      rintro rfl
      exact closed member
    have ends : ∀ c ∈ ('"' :: rest).head?, (c != '"') = false := by simp
    have taken := takeWhile_append ends inside
    have left := dropWhile_append ends inside
    simp [Value.text, readValue, taken, left, content]

theorem texts_cons_cons (value other : Value) (values : List Value) :
    texts (value :: other :: values) = value.text ++ ',' :: texts (other :: values) := by
  simp [texts, List.intercalate_cons_cons]

theorem contents_cons (value : Value) (values : List Value) :
    contents (value :: values) = kept value.content ++ contents values := by
  cases empty : Unicode.trim value.content with
  | nil => simp [contents, kept, empty]
  | cons c content => simp [contents, kept, empty]

/-- Written values are read as their contents. -/
theorem readValues_texts {values : List Value} {rest : List Char} (some : values ≠ [])
    (broken : IsBreak rest) : readValues (texts values ++ rest) = (contents values, rest) := by
  induction values with
  | nil => exact absurd rfl some
  | cons value values ih =>
    cases values with
    | nil =>
      have read := value.readValue_text (isTokenChar_of_isBreak broken)
      have ends : ',' ∉ rest.head? := fun first => absurd (broken ',' first) (by decide)
      have single : texts [value] = value.text := by simp [texts, List.intercalate]
      rw [single, readValues_of_no_comma read ends, contents_cons]
      simp [contents]
    | cons other values =>
      have ends : ∀ c ∈ (',' :: (texts (other :: values) ++ rest)).head?,
          isTokenChar c = false := by
        simp [isTokenChar]
      have read := value.readValue_text ends
      rw [texts_cons_cons, List.append_assoc, List.cons_append, readValues_of_comma read,
        ih (List.cons_ne_nil _ _), contents_cons value]

theorem ne_nil_of_contents {values : List Value} (some : contents values ≠ []) : values ≠ [] := by
  rintro rfl
  exact some rfl

/-- What follows the first of some values does not belong to it. -/
theorem exists_texts_append (value : Value) (values : List Value) {rest : List Char}
    (broken : IsBreak rest) :
    ∃ tail, texts (value :: values) ++ rest = value.text ++ tail ∧
      ∀ c ∈ tail.head?, c = ',' ∨ isWhitespace c := by
  cases values with
  | nil => exact ⟨rest, by simp [texts, List.intercalate], fun c first => Or.inr (broken c first)⟩
  | cons other values =>
    refine ⟨',' :: (texts (other :: values) ++ rest), by simp [texts_cons_cons], ?_⟩
    rintro c ⟨⟩
    exact Or.inl rfl

/-- Values begin with a quote or with one of their contents, unless the first is empty. -/
theorem of_mem_head?_texts {values : List Value} {rest : List Char} {c : Char}
    (some : values ≠ []) (broken : IsBreak rest) (first : c ∈ (texts values ++ rest).head?) :
    c = '"' ∨ c = ',' ∨ isWhitespace c ∨ ∃ content ∈ contents values, c ∈ content.toList := by
  cases values with
  | nil => exact absurd rfl some
  | cons value values =>
    obtain ⟨tail, same, ends⟩ := exists_texts_append value values broken
    rw [same] at first
    cases value with
    | phrase text closed =>
      cases first
      exact Or.inl rfl
    | bare text isToken unquoted =>
      cases text with
      | nil => exact Or.inr ((ends c first).imp_right Or.inl)
      | cons d text =>
        have inside : c ∈ d :: text := List.mem_of_mem_head? first
        have token := kept_of_unbroken (List.cons_ne_nil d text) fun e member =>
          (isToken e member).1
        refine Or.inr (Or.inr (Or.inr ⟨String.ofList (d :: text), ?_, ?_⟩))
        · rw [contents_cons, content, token]
          exact List.mem_append_left _ List.mem_cons_self
        · rwa [String.toList_ofList]

end Value

namespace Count

theorem of_mem_text {count : Count} {c : Char} (member : c ∈ count.text) : c = '+' ∨ c.isDigit := by
  rcases List.mem_append.mp member with sign | digit
  · left
    cases plus : count.plus <;> simp_all
  · exact Or.inr (count.areDigits c digit)

/-- A written count is read as its number. -/
theorem readCount?_text (count : Count) :
    readCount? (String.ofList count.text) = some count.number := by
  have sign : skipChar '+' count.text = (count.plus, count.digits) := by
    apply skipChar_append
    intro first
    exact absurd (count.areDigits '+' (List.mem_of_mem_head? first)) (by decide)
  have digits : count.digits.all Char.isDigit = true := List.all_eq_true.mpr count.areDigits
  have fits : count.digits.foldl (fun n c => 10 * n + (c.toNat - '0'.toNat)) 0 < UInt32.size :=
    count.fits
  simp only [readCount?, String.toList_ofList, sign, digits, fits]
  simp [count.nonempty, number, Nat.ofDigitChars]

end Count

end ComicCatalogue.Search
