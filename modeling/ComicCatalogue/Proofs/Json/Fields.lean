import ComicCatalogue.Json.Decode
import ComicCatalogue.Proofs.Ascending
import ComicCatalogue.Proofs.Json.Reading

/-!
# Fields of records

A record is written with the parts that it has, and each part is found again under its name. A part
that is left out is found missing. What decoders accept is in range.
-/

namespace ComicCatalogue

/-- A step that depends on another one succeeds if both do. -/
theorem except_bind_eq_ok_iff {ε α β : Type} {step : Except ε α} {next : α → Except ε β} {b : β} :
    step >>= next = .ok b ↔ ∃ a, step = .ok a ∧ next a = .ok b := by
  cases step with
  | error error => exact ⟨fun failed => (nomatch failed), fun ⟨_, failed, _⟩ => nomatch failed⟩
  | ok a => exact ⟨fun done => ⟨a, rfl, done⟩, fun ⟨_, same, done⟩ => by cases same; exact done⟩

theorem except_map_eq_ok_iff {ε α β : Type} {step : Except ε α} {f : α → β} {b : β} :
    step.map f = .ok b ↔ ∃ a, step = .ok a ∧ f a = b := by
  cases step with
  | error error => simp [Except.map]
  | ok a => simp [Except.map]

namespace Json

/-! ### Writing parts -/

/-- The fields of the parts that there are. -/
def written (parts : List (String × Option Json)) : List (String × Json) :=
  parts.filterMap fun part => part.2.map (part.1, ·)

/-- A list as a part: none if it is empty. -/
def listPart {α : Type} (toJson : α → Json) (values : List α) : Option Json :=
  if values.isEmpty then none else some (arr (values.map toJson))

theorem written_nil : written [] = [] := rfl

theorem written_cons (name : String) (part : Option Json) (parts : List (String × Option Json)) :
    written ((name, part) :: parts) = field? name part ++ written parts := by
  cases part <;> rfl

theorem written_append (parts others : List (String × Option Json)) :
    written (parts ++ others) = written parts ++ written others :=
  List.filterMap_append

theorem written_map {α : Type} (values : List α) (name : α → String) (part : α → Option Json) :
    written (values.map fun a => (name a, part a)) =
      values.flatMap fun a => field? (name a) (part a) := by
  induction values with
  | nil => rfl
  | cons a values ih => rw [List.map_cons, written_cons, ih, List.flatMap_cons]

theorem listPart_eq_none_iff {α : Type} {toJson : α → Json} {values : List α} :
    listPart toJson values = none ↔ values = [] := by
  cases values with
  | nil => exact ⟨fun _ => rfl, fun _ => rfl⟩
  | cons a values => exact ⟨fun absent => (nomatch absent), fun empty => (nomatch empty)⟩

theorem listField_eq {α : Type} (name : String) (toJson : α → Json) (values : List α) :
    listField name toJson values = field? name (listPart toJson values) := by
  unfold listField listPart
  split <;> rfl

variable {parts : List (String × Option Json)} {name : String}

theorem map_fst_written_sublist (parts : List (String × Option Json)) :
    ((written parts).map (·.1)).Sublist (parts.map (·.1)) := by
  induction parts with
  | nil => exact List.Sublist.slnil
  | cons part parts ih =>
    obtain ⟨name, _ | value⟩ := part
    · exact ih.cons name
    · exact ih.cons_cons name

theorem mem_written_iff {value : Json} :
    (name, value) ∈ written parts ↔ (name, some value) ∈ parts := by
  rw [written, List.mem_filterMap]
  constructor
  · rintro ⟨⟨other, part⟩, member, same⟩
    obtain ⟨_, rfl, same⟩ := Option.map_eq_some_iff.mp same
    cases same
    exact member
  · exact fun member => ⟨_, member, rfl⟩

/-- A name belongs to one part only. -/
theorem mem_written_iff_of_mem (distinct : (parts.map (·.1)).Nodup) {part : Option Json}
    (member : (name, part) ∈ parts) {value : Json} :
    (name, value) ∈ written parts ↔ part = some value := by
  rw [mem_written_iff]
  constructor
  · intro other
    exact congrArg Prod.snd (List.inj_on_of_nodup_map distinct member other rfl)
  · rintro rfl
    exact member

/-- Each part is found under its name. -/
theorem lookup_written (distinct : (parts.map (·.1)).Nodup) {part : Option Json}
    (member : (name, part) ∈ parts) : (written parts).lookup name = part := by
  have names := distinct.sublist (map_fst_written_sublist parts)
  ext value
  rw [Ascending.lookup_eq_some_iff_mem names, mem_written_iff_of_mem distinct member]

/-- A field that is not there is not found. -/
theorem lookup_eq_none_of_notMem {fields : List (String × Json)}
    (absent : name ∉ fields.map (·.1)) : fields.lookup name = none := by
  rwa [← Option.not_isSome_iff_eq_none, Ascending.isSome_lookup_iff]

theorem repeated?_eq_none {fields : List (String × Json)} (names : List String)
    {seen : List String} (distinct : (fields.map (·.1)).Nodup)
    (unseen : ∀ name ∈ fields.map (·.1), name ∉ seen) : repeated? names seen fields = none := by
  induction fields generalizing seen with
  | nil => rfl
  | cons field fields ih =>
    obtain ⟨first, others⟩ := List.nodup_cons.mp distinct
    obtain ⟨fresh, unseenLater⟩ := List.forall_mem_cons.mp unseen
    rw [repeated?, if_neg fresh]
    refine ih others fun name member => ?_
    split
    · intro again
      rcases List.mem_cons.mp again with rfl | old
      · exact first member
      · exact unseenLater name member old
    · exact unseenLater name member

/-- The fields of a record are taken as they were written. -/
theorem fieldsWith_written (distinct : (parts.map (·.1)).Nodup) (surplus : Surplus)
    (names : List String) :
    fieldsWith surplus names (obj (written parts)) = .ok (written parts) := by
  have written := distinct.sublist (map_fst_written_sublist parts)
  rw [fieldsWith, repeated?_eq_none names written fun _ _ => List.not_mem_nil]

/-- What is read from an object is what its fields say. -/
theorem eq_of_fieldsWith_obj {surplus : Surplus} {names : List String} {fields read : Fields}
    (done : fieldsWith surplus names (obj fields) = .ok read) : read = fields := by
  rw [fieldsWith] at done
  split at done
  · cases done
  · exact (Except.ok.inj done).symm

/-- A part is written if there is something to write. -/
theorem mem_names_written_iff (distinct : (parts.map (·.1)).Nodup) {part : Option Json}
    (member : (name, part) ∈ parts) : name ∈ (written parts).map (·.1) ↔ part ≠ none := by
  have names := distinct.sublist (map_fst_written_sublist parts)
  rw [← Ascending.isSome_lookup_iff, lookup_written distinct member, Option.isSome_iff_ne_none]

theorem haveBounded_written_iff :
    HaveBounded (written parts) ↔ ∀ part ∈ parts, ∀ value ∈ part.2, value.IsBounded := by
  rw [haveBounded_iff]
  constructor
  · rintro bounded ⟨name, part⟩ member value rfl
    exact bounded (name, value) (mem_written_iff.mpr member)
  · rintro bounded ⟨name, value⟩ member
    exact bounded (name, some value) (mem_written_iff.mp member) value rfl

theorem isBounded_listPart {α : Type} {toJson : α → Json} {values : List α}
    (bounded : ∀ value ∈ values, (toJson value).IsBounded) :
    ∀ value ∈ listPart toJson values, value.IsBounded := by
  intro value member
  unfold listPart at member
  split at member
  · cases member
  · cases member
    exact areBounded_iff.mpr (List.forall_mem_map.mpr bounded)

/-! ### Numbers in range -/

/-- The number has 64 bits with a sign. -/
def IsInt64 (n : Int) : Prop :=
  -0x8000000000000000 ≤ n ∧ n ≤ 0x7FFFFFFFFFFFFFFF

/-- The number has 32 bits. -/
def IsNat32 (n : Nat) : Prop :=
  n ≤ 0xFFFFFFFF

/-- The number has 64 bits. -/
def IsNat64 (n : Nat) : Prop :=
  n ≤ 0xFFFFFFFFFFFFFFFF

instance : DecidablePred IsInt64 := fun n =>
  inferInstanceAs (Decidable (-0x8000000000000000 ≤ n ∧ n ≤ 0x7FFFFFFFFFFFFFFF))

instance : DecidablePred IsNat32 := fun n => inferInstanceAs (Decidable (n ≤ 0xFFFFFFFF))

instance : DecidablePred IsNat64 := fun n => inferInstanceAs (Decidable (n ≤ 0xFFFFFFFFFFFFFFFF))

theorem IsInt64.isBounded {n : Int} (fits : IsInt64 n) : (int n).IsBounded := by
  unfold IsInt64 at fits
  unfold IsBounded
  omega

theorem IsNat64.isBounded {n : Nat} (fits : IsNat64 n) : (int n).IsBounded := by
  unfold IsNat64 at fits
  unfold IsBounded
  omega

theorem IsNat32.isBounded {n : Nat} (fits : IsNat32 n) : (int n).IsBounded :=
  IsNat64.isBounded (Nat.le_trans fits (by decide))

namespace Decoder

theorem text_str (value : String) : text (.str value) = .ok value := rfl

theorem int64_int {n : Int} (fits : IsInt64 n) : int64 (.int n) = .ok n := by
  unfold IsInt64 at fits
  exact if_pos (by omega)

theorem toNat_whole_int {high n : Nat} (name : String) (fits : n ≤ high) :
    (whole 0 high name (.int n)).map Int.toNat = .ok n := by
  rw [whole, if_pos (by omega), Except.map, Int.toNat_natCast]

theorem nat32_int {n : Nat} (fits : IsNat32 n) : nat32 (.int n) = .ok n :=
  toNat_whole_int "u32" fits

theorem nat64_int {n : Nat} (fits : IsNat64 n) : nat64 (.int n) = .ok n :=
  toNat_whole_int "u64" fits

section

variable {α β : Type} {decoder : Decoder α} {property : α → Prop}

/-- What the decoder reads has the property. -/
def Gives (decoder : Decoder α) (property : α → Prop) : Prop :=
  ∀ value a, decoder value = .ok a → property a

theorem Gives.map {f : α → β} {result : β → Prop} (gives : decoder.Gives property)
    (keeps : ∀ a, property a → result (f a)) :
    Gives (fun value => (decoder value).map f) result := by
  intro value b read
  obtain ⟨a, readA, rfl⟩ := except_map_eq_ok_iff.mp read
  exact keeps a (gives value a readA)

theorem whole_gives (low high : Int) (name : String) :
    Gives (whole low high name) fun n => low ≤ n ∧ n ≤ high := by
  intro value n read
  unfold whole at read
  split at read
  · split at read
    · rename_i inRange
      cases read
      exact inRange
    · cases read
  · cases read

theorem toNat_whole_gives (high : Nat) (name : String) :
    Gives (fun value => (whole 0 high name value).map Int.toNat) (· ≤ high) :=
  (whole_gives 0 high name).map fun _ inRange => Int.toNat_le.mpr inRange.2

theorem int64_gives : Gives int64 IsInt64 :=
  whole_gives _ _ "i64"

theorem nat32_gives : Gives nat32 IsNat32 :=
  toNat_whole_gives 0xFFFFFFFF "u32"

theorem nat64_gives : Gives nat64 IsNat64 :=
  toNat_whole_gives 0xFFFFFFFFFFFFFFFF "u64"

/-- Items are read one by one. -/
theorem mapM_eq_ok_iff {items : List Json} {values : List α} :
    items.mapM decoder = .ok values ↔
      List.Forall₂ (fun item value => decoder item = .ok value) items values := by
  induction items generalizing values with
  | nil => simp [pure, Except.pure, eq_comm]
  | cons item items ih =>
    rw [List.mapM_cons, except_bind_eq_ok_iff]
    simp only [except_bind_eq_ok_iff, ih, List.forall₂_cons_left_iff]
    constructor
    · rintro ⟨value, read, rest, readRest, same⟩
      cases same
      exact ⟨value, rest, read, readRest, rfl⟩
    · rintro ⟨value, rest, read, readRest, rfl⟩
      exact ⟨value, read, rest, readRest, rfl⟩

theorem Gives.list (gives : decoder.Gives property) :
    Gives (list decoder) fun values => ∀ a ∈ values, property a := by
  intro value values read
  cases value with
  | arr items =>
    have each : List.Forall₂ _ items values := mapM_eq_ok_iff.mp read
    clear read
    induction each with
    | nil => exact fun _ member => nomatch member
    | cons first _ ih => exact List.forall_mem_cons.mpr ⟨gives _ _ first, ih⟩
  | _ => cases read

theorem Gives.nullable (gives : decoder.Gives property) :
    Gives (nullable decoder) fun part => ∀ a ∈ part, property a := by
  intro value part read a member
  unfold Decoder.nullable at read
  split at read
  · cases read
    cases member
  · obtain ⟨_, readSome, rfl⟩ := except_map_eq_ok_iff.mp read
    cases member
    exact gives _ _ readSome

theorem nullable_of_ne_null {value : Json} (notNull : value ≠ null) :
    nullable decoder value = (decoder value).map some := by
  unfold nullable
  split
  · exact absurd rfl notNull
  · rfl

/-- A list that was written item by item is read item by item. -/
theorem list_map {toJson : α → Json} {values : List α}
    (reads : ∀ a ∈ values, decoder (toJson a) = .ok a) :
    list decoder (arr (values.map toJson)) = .ok values := by
  refine mapM_eq_ok_iff.mpr (List.forall₂_map_left_iff.mpr ?_)
  exact List.forall₂_same.mpr reads

end

end Decoder

/-! ### Reading parts -/

namespace Fields

variable {α : Type} {fields : Fields} {decoder : Decoder α} {property : α → Prop} {name : String}

theorem optional_eq (name : String) (decoder : Decoder α) (fields : Fields) :
    fields.optional name decoder =
      (fields.lookup name).elim (.ok none) fun value => (decoder value).map some := by
  unfold optional
  split
  · rename_i missing
    rw [missing, Option.elim]
  · rename_i found
    rw [found, Option.elim]

theorem required_of_lookup {value : Json} {a : α} (found : fields.lookup name = some value)
    (reads : decoder value = .ok a) : fields.required name decoder = .ok a := by
  rw [required, optional_eq, found, Option.elim, reads]
  rfl

theorem withDefault_of_lookup {value : Json} {a default : α}
    (found : fields.lookup name = some value) (reads : decoder value = .ok a) :
    fields.withDefault name decoder default = .ok a := by
  rw [withDefault, optional_eq, found, Option.elim, reads]
  rfl

/-- A missing field has its default. -/
theorem withDefault_of_missing {default : α} (missing : fields.lookup name = none) :
    fields.withDefault name decoder default = .ok default := by
  rw [withDefault, optional_eq, missing]
  rfl

theorem nullable_of_missing {part : Option α} (missing : fields.lookup name = none)
    (read : fields.nullable name decoder = .ok part) : part = none := by
  rw [nullable, withDefault_of_missing missing] at read
  exact (Except.ok.inj read).symm

theorem list_of_missing {values : List α} (missing : fields.lookup name = none)
    (read : fields.list name decoder = .ok values) : values = [] := by
  rw [list, withDefault_of_missing missing] at read
  exact (Except.ok.inj read).symm

theorem nullable_of_lookup {toJson : α → Json} {part : Option α}
    (found : fields.lookup name = part.map toJson) (reads : ∀ a ∈ part, decoder (toJson a) = .ok a)
    (notNull : ∀ a, toJson a ≠ null) : fields.nullable name decoder = .ok part := by
  cases part with
  | none => exact withDefault_of_missing found
  | some a =>
    refine withDefault_of_lookup found ?_
    rw [Decoder.nullable_of_ne_null (notNull a), reads a rfl]
    rfl

theorem list_of_lookup {toJson : α → Json} {values : List α}
    (found : fields.lookup name = listPart toJson values)
    (reads : ∀ a ∈ values, decoder (toJson a) = .ok a) : fields.list name decoder = .ok values := by
  unfold listPart at found
  split at found
  · rename_i empty
    rw [List.isEmpty_iff.mp empty]
    exact withDefault_of_missing found
  · exact withDefault_of_lookup found (Decoder.list_map reads)

theorem optional_gives (gives : decoder.Gives property) {part : Option α}
    (read : fields.optional name decoder = .ok part) : ∀ a ∈ part, property a := by
  rw [optional_eq] at read
  cases found : fields.lookup name with
  | none =>
    rw [found] at read
    cases read
    exact fun _ member => nomatch member
  | some value =>
    rw [found] at read
    obtain ⟨a, readA, rfl⟩ := except_map_eq_ok_iff.mp read
    exact fun _ member => Option.mem_some.mp member ▸ gives value a readA

/-- What is read from a field has the property that what its decoder reads has. -/
theorem required_gives (gives : decoder.Gives property) {a : α}
    (read : fields.required name decoder = .ok a) : property a := by
  obtain ⟨part, readPart, taken⟩ := except_bind_eq_ok_iff.mp read
  cases part with
  | none => cases taken
  | some b =>
    cases taken
    exact optional_gives gives readPart a rfl

theorem withDefault_gives (gives : decoder.Gives property) {a default : α}
    (hasProperty : property default) (read : fields.withDefault name decoder default = .ok a) :
    property a := by
  obtain ⟨part, readPart, taken⟩ := except_bind_eq_ok_iff.mp read
  cases taken
  cases part with
  | none => exact hasProperty
  | some b => exact optional_gives gives readPart b rfl

theorem nullable_gives (gives : decoder.Gives property) {part : Option α}
    (read : fields.nullable name decoder = .ok part) : ∀ a ∈ part, property a :=
  withDefault_gives gives.nullable (fun a member => absurd member (Option.not_mem_none a)) read

theorem list_gives (gives : decoder.Gives property) {values : List α}
    (read : fields.list name decoder = .ok values) : ∀ a ∈ values, property a :=
  withDefault_gives gives.list (List.forall_mem_nil property) read

end Fields

end Json

end ComicCatalogue
