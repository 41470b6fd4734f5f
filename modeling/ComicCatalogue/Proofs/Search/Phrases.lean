import ComicCatalogue.Proofs.Search.Line

/-!
# Lines of phrases

A search line of one directive whose values are all in quotes. Whatever the phrases are, as long as
no quote occurs in them and none is blank, the line is read as the directive with the trimmed
phrases for its values. A value without quotes is read as it stands, if it is a token.
-/

namespace ComicCatalogue.Search

/-- The line of one directive with phrases in quotes for its values. -/
def phraseLine (heading : String) (phrases : List String) : String :=
  heading ++ ":" ++ ",".intercalate (phrases.map fun phrase => "\"" ++ phrase ++ "\"")

/-- A phrase that can stand in quotes. -/
structure IsPhrase (phrase : String) : Prop where
  closed : '"' ∉ phrase.toList
  notBlank : Text.trim phrase ≠ ""

/-- Phrases as values. -/
def Value.phrases (phrases : List String) (arePhrases : ∀ phrase ∈ phrases, IsPhrase phrase) :
    List Value :=
  phrases.pmap (fun phrase isPhrase => .phrase phrase.toList isPhrase.closed) arePhrases

variable {phrases : List String} {heading : String}
  (arePhrases : ∀ phrase ∈ phrases, IsPhrase phrase)

theorem Value.texts_phrases : Value.texts (Value.phrases phrases arePhrases) =
    (",".intercalate (phrases.map fun phrase => "\"" ++ phrase ++ "\"")).toList := by
  rw [texts, Value.phrases, List.map_pmap, String.toList_intercalate, List.map_map]
  simp [Value.text, Function.comp_def]

theorem Value.contents_phrases :
    Value.contents (Value.phrases phrases arePhrases) = phrases.map Text.trim := by
  have trimmed : (Value.phrases phrases arePhrases).map (Unicode.trim ·.content) =
      phrases.map (Unicode.trim ·.toList) := by
    simp [Value.phrases, List.map_pmap, Value.content]
  have kept : (phrases.map (Unicode.trim ·.toList)).filter (· ≠ []) =
      phrases.map (Unicode.trim ·.toList) := by
    rw [List.filter_eq_self, List.forall_mem_map]
    intro phrase member
    simpa [Text.trim] using (arePhrases phrase member).notBlank
  rw [contents, trimmed, kept, List.map_map]
  rfl

theorem Value.contents_phrases_ne_nil (some : phrases ≠ []) :
    Value.contents (Value.phrases phrases arePhrases) ≠ [] := by
  simpa [Value.contents_phrases] using some

/-- A line of one written directive is read as this directive. -/
theorem Reading.directives_written (written : Written) :
    (ofLine (String.ofList written.text)).directives = [written.directive] :=
  Reading.directives_text { lead := none, spaced := [], last := some (.directive written) }

/-- A line of phrases is read as the directive that is written with these phrases. -/
theorem Reading.directives_phraseLine (written : Written)
    (same : written.text =
      (heading ++ ":").toList ++ Value.texts (Value.phrases phrases arePhrases)) :
    (ofLine (phraseLine heading phrases)).directives = [written.directive] := by
  have read := Reading.directives_written written
  rwa [same, Value.texts_phrases, ← String.toList_append, String.ofList_toList] at read

/-- The heading of a constraint on a taxonomy. -/
def slotHeading (which : Taxonomy) : Slot → String
  | ⟨.anyOf, false⟩ => which.name
  | ⟨.allOf, false⟩ => which.name ++ "&"
  | ⟨.anyOf, true⟩ => which.name ++ "*"
  | ⟨.allOf, true⟩ => which.name ++ "&*"
  | ⟨.noneOf, false⟩ => "-" ++ which.name
  | ⟨.noneOf, true⟩ => "-" ++ which.name ++ "*"

/-- The heading of a constraint as the grammar has it. -/
def Heading.ofSlot (which : Taxonomy) (slot : Slot) : Heading (.taxonomy which) where
  hyphen := slot.mode = .noneOf
  name := which.name.toList
  named := Field.map_toLower_name (.taxonomy which)
  sign := if slot.mode = .allOf then .ampersand else .missing
  star := slot.wildcard

theorem Heading.text_ofSlot (which : Taxonomy) (slot : Slot) :
    (ofSlot which slot).text = (slotHeading which slot ++ ":").toList := by
  obtain ⟨mode, wildcard⟩ := slot
  cases mode <;> cases wildcard <;> simp [text, ofSlot, slotHeading, Sign.text]

theorem Heading.slot_ofSlot (which : Taxonomy) (slot : Slot) :
    (⟨(ofSlot which slot).mode, (ofSlot which slot).star⟩ : Slot) = slot := by
  obtain ⟨mode, wildcard⟩ := slot
  cases mode <;> rfl

include arePhrases in
/-- Phrases behind the heading of a constraint are its values. -/
theorem Reading.directives_slotHeading (which : Taxonomy) (slot : Slot) (some : phrases ≠ []) :
    (ofLine (phraseLine (slotHeading which slot) phrases)).directives =
      [.taxonomy which slot (phrases.map Text.trim)] := by
  have values := Value.contents_phrases_ne_nil arePhrases some
  rw [Reading.directives_phraseLine arePhrases (.taxonomy which (.ofSlot which slot) _ values)
    (congrArg (· ++ _) (Heading.text_ofSlot which slot)), Written.directive, Heading.slot_ofSlot,
    Value.contents_phrases]

include arePhrases in
/-- Phrases behind the heading of titles are the values of a title. -/
theorem Reading.directives_title (some : phrases ≠ []) :
    (ofLine (phraseLine "title" phrases)).directives = [.title false (phrases.map Text.trim)] := by
  have values := Value.contents_phrases_ne_nil arePhrases some
  rw [Reading.directives_phraseLine arePhrases
    (.title ⟨false, "title".toList, rfl, .missing, false⟩ _ values) rfl, Written.directive,
    Value.contents_phrases]

/-- A text that can stand without quotes. -/
structure IsToken (text : String) : Prop where
  some : text ≠ ""
  unbroken : ∀ c ∈ text.toList, Unicode.isWhitespace c = false ∧ c ≠ ','
  unquoted : text.toList.head? ≠ Option.some '"'

/-- A token as a value. -/
def Value.token {text : String} (isToken : IsToken text) : Value :=
  .bare text.toList isToken.unbroken isToken.unquoted

theorem Value.contents_token {text : String} (isToken : IsToken text) :
    Value.contents [Value.token isToken] = [text] := by
  have some : text.toList ≠ [] := by simpa using isToken.some
  rw [contents_cons, token, content,
    kept_of_unbroken some fun c member => (isToken.unbroken c member).1, String.ofList_toList]
  rfl

/-- A token behind the heading of a constraint is its only value. -/
theorem Reading.directives_token (which : Taxonomy) (slot : Slot) {text : String}
    (isToken : IsToken text) :
    (ofLine (slotHeading which slot ++ ":" ++ text)).directives =
      [.taxonomy which slot [text]] := by
  have some : Value.contents [Value.token isToken] ≠ [] := by
    rw [Value.contents_token]
    exact List.cons_ne_nil _ _
  have read := Reading.directives_written (.taxonomy which (.ofSlot which slot) _ some)
  have same : (Written.taxonomy which (.ofSlot which slot) _ some).text =
      (slotHeading which slot ++ ":" ++ text).toList := by
    rw [Written.text, Heading.text_ofSlot]
    simp [Value.texts, Value.token, Value.text]
  rwa [same, String.ofList_toList, Written.directive, Heading.slot_ofSlot,
    Value.contents_token] at read

end ComicCatalogue.Search
