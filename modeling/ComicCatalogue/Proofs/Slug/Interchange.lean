import ComicCatalogue.Proofs.Slug.Edges
import ComicCatalogue.Proofs.Slug.Plain
import ComicCatalogue.Proofs.Unicode.Roles

/-!
# Pieces of text that can take each other's place

Two pieces of text can take each other's place if they are folded into the same characters and the
words around them cannot tell them apart. So it is with an accent and the empty text, and with a
character and its canonical decomposition; both are facts of the tables.
-/

namespace ComicCatalogue.Slug

open Unicode

variable {part other : List Char} {c : Char} {n : Nat}

/-- What a character that is no capital sigma is folded into. -/
def foldChar (c : Char) : List Char :=
  decomposed (lowercaseChar c)

theorem decomposed_flatMap (text : List Char) :
    decomposed (text.flatMap lowercaseChar) = text.flatMap foldChar := by
  induction text with
  | nil => rfl
  | cons c rest ih =>
    rw [List.flatMap_cons, decomposed_append, ih]
    rfl

/-- Whether two pieces of text can take each other's place. -/
structure Interchangeable (part other : List Char) : Prop where
  role : SameRole part other
  folded : part.flatMap foldChar = other.flatMap foldChar

/-- Where one piece of text takes the place of another, the whole text is folded alike. -/
theorem Interchangeable.plain_append (same : Interchangeable part other) (front back : List Char) :
    plain (front ++ (part ++ back)) = plain (front ++ (other ++ back)) := by
  obtain ⟨before, behind, first, second⟩ := exists_lowercase_append same.role front back
  calc plain (front ++ (part ++ back))
      = decomposed (before ++ (part.flatMap lowercaseChar ++ behind)) := congrArg decomposed first
    _ = decomposed (before ++ (other.flatMap lowercaseChar ++ behind)) := by
        simp only [decomposed_append, decomposed_flatMap, same.folded]
    _ = plain (front ++ (other ++ back)) := (congrArg decomposed second).symm

/-- What is skipped and folded into nothing can be left out, and put in. -/
theorem interchangeable_nil (ignorable : isCaseIgnorable c)
    (dropped : foldChar c = []) : Interchangeable [c] [] where
  role := sameRole_nil ignorable
  folded := by rw [List.flatMap_singleton, dropped, List.flatMap_nil]

/-! ### Folding code points -/

/-- The code points that are read as something else. -/
def symbolBits : Nat :=
  bitsOf (symbolReadings.map (·.1.toNat))

theorem readSymbol_of_testBit (outside : symbolBits.testBit c.toNat = false) :
    readSymbol c = [c] := by
  have unread : symbolReadings.lookup c = none := by
    rw [List.lookup_eq_none_iff]
    intro reading member
    rw [bne_iff_ne]
    rintro rfl
    have inside : symbolBits.testBit reading.1.toNat :=
      testBit_bitsOf_iff.mpr (List.mem_map_of_mem member)
    rw [outside] at inside
    cases inside
  rw [readSymbol, unread, Option.getD_none]

/-- The lower case of a code point. -/
def lowerOf (n : Nat) : List Nat :=
  if n = 0x130 then [0x69, 0x307] else [lowercaseCodePoint n]

/-- What a code point is folded into if its lower case is not read as something else. -/
def foldOf (n : Nat) : List Nat :=
  ((lowerOf n).flatMap Decomposition.ofCodePoint).filter (!markBits.testBit ·)

theorem lowercaseChar_eq (c : Char) : lowercaseChar c = (lowerOf c.toNat).map Char.ofNat := by
  rw [lowercaseChar, lowerOf]
  split <;> rfl

theorem isValidChar_of_mem_lowerOf {m : Nat} (member : m ∈ lowerOf c.toNat) : m.isValidChar := by
  rw [lowerOf] at member
  split at member
  · simp only [List.mem_cons, List.not_mem_nil, or_false] at member
    rcases member with rfl | rfl <;> decide
  · rw [List.mem_singleton.mp member]
    exact isValidChar_lowercaseCodePoint c

theorem foldChar_eq (unread : ∀ m ∈ lowerOf c.toNat, symbolBits.testBit m = false) :
    foldChar c = (foldOf c.toNat).map Char.ofNat := by
  have valid (m : Nat) (member : m ∈ lowerOf c.toNat) : (Char.ofNat m).toNat = m :=
    toNat_ofNat_of_isValidChar (isValidChar_of_mem_lowerOf member)
  have read : (lowercaseChar c).flatMap readSymbol = lowercaseChar c := by
    refine flatMap_eq_self fun d member => readSymbol_of_testBit ?_
    rw [lowercaseChar_eq] at member
    obtain ⟨m, isLower, rfl⟩ := List.mem_map.mp member
    rw [valid m isLower]
    exact unread m isLower
  have decomposes : decompose (lowercaseChar c) =
      ((lowerOf c.toNat).flatMap Decomposition.ofCodePoint).map Char.ofNat := by
    rw [lowercaseChar_eq, decompose, List.flatMap_map, List.map_flatMap]
    refine List.flatMap_congr fun m member => ?_
    rw [decomposeChar, valid m member]
  rw [foldChar, decomposed, read, decomposes, foldOf, List.filter_map]
  refine congrArg (List.map Char.ofNat) (List.filter_congr fun m member => ?_)
  obtain ⟨lower, isLower, inside⟩ := List.mem_flatMap.mp member
  have valid := isValidChar_of_mem_lowerOf isLower
  have whole := Decomposition.isWhole_of_mem_ofCodePoint valid m inside
  rw [Function.comp_apply, isMark_eq_testBit,
    toNat_ofNat_of_isValidChar (Decomposition.isWhole_iff.mp whole).1]

/-- Whether a code point and several others are folded alike, and none is read as something
else. -/
def foldsAlike (n : Nat) (part : List Nat) : Bool :=
  (n :: part).all (fun m => (lowerOf m).all (!symbolBits.testBit ·)) &&
    foldOf n == part.flatMap foldOf

theorem folded_of_foldsAlike {part : List Char} (alike : foldsAlike c.toNat (part.map Char.toNat)) :
    [c].flatMap foldChar = part.flatMap foldChar := by
  simp only [foldsAlike, List.all_cons, List.all_map, Bool.and_eq_true, List.all_eq_true,
    Bool.not_eq_true', beq_iff_eq, Function.comp_apply, List.flatMap_map] at alike
  obtain ⟨⟨unread, unreadParts⟩, same⟩ := alike
  have sameParts : part.flatMap foldChar = part.flatMap fun d => (foldOf d.toNat).map Char.ofNat :=
    List.flatMap_congr fun d member => foldChar_eq (unreadParts d member)
  rw [List.flatMap_singleton, foldChar_eq unread, same, sameParts, List.map_flatMap]

/-- The code points that are not their own lower case or are read as something else, and some
more. -/
def unsteadyBits : Nat :=
  capitalBits ||| symbolBits ||| bits [(0x130, 0x130)]

theorem lowerOf_of_testBit (steady : unsteadyBits.testBit n = false) :
    lowerOf n = [n] ∧ symbolBits.testBit n = false := by
  simp only [unsteadyBits, Nat.testBit_or, Bool.or_eq_false_iff] at steady
  obtain ⟨⟨noCapital, unread⟩, notDotted⟩ := steady
  have other : n ≠ 0x130 := by
    rintro rfl
    revert notDotted
    decide
  rw [lowerOf, if_neg other, lowercaseCodePoint_of_testBit noCapital]
  exact ⟨rfl, unread⟩

/-- Where nothing has another lower case, a code point is folded like its decomposition. -/
theorem foldsAlike_of_steady {part : List Nat}
    (steady : ∀ m ∈ n :: part, unsteadyBits.testBit m = false)
    (decomposes : Decomposition.ofCodePoint n = part)
    (whole : ∀ m ∈ part, Decomposition.ofCodePoint m = [m]) : foldsAlike n part := by
  have unread : (n :: part).all (fun m => (lowerOf m).all (!symbolBits.testBit ·)) := by
    rw [List.all_eq_true]
    intro m member
    obtain ⟨same, outside⟩ := lowerOf_of_testBit (steady m member)
    simp [same, outside]
  have fold : foldOf n = part.filter (!markBits.testBit ·) := by
    rw [foldOf, (lowerOf_of_testBit (steady n List.mem_cons_self)).1, List.flatMap_singleton,
      decomposes]
  have foldParts : part.flatMap foldOf = part.filter (!markBits.testBit ·) := by
    have each (m : Nat) (member : m ∈ part) : foldOf m = [m].filter (!markBits.testBit ·) := by
      rw [foldOf, (lowerOf_of_testBit (steady m (List.mem_cons_of_mem n member))).1,
        List.flatMap_singleton, whole m member]
    rw [List.flatMap_congr each, ← List.filter_flatMap, List.flatMap_singleton']
  rw [foldsAlike, unread, fold, foldParts, beq_self_eq_true]
  rfl

/-! ### Accents -/

/-- Accents are marks, and skipped when the surroundings of a letter are read. -/
theorem accentBits_facts : accentBits &&& caseIgnorableBits = accentBits ∧
    accentBits &&& markBits = accentBits ∧ accentBits &&& unsteadyBits = 0 ∧
      accentBits &&& bits [(0xAC00, 0xD7A3)] = 0 := by
  decide +kernel

/-- Accents decompose into marks. -/
theorem accents_pass : Decomposition.entries.all
    (Decomposition.passes accentBits fun _ part => part.all markBits.testBit) = true := by
  decide +kernel

theorem testBit_of_mem_ofCodePoint {m : Nat} (accent : accentBits.testBit n)
    (member : m ∈ Decomposition.ofCodePoint n) : markBits.testBit m := by
  by_cases moved : Decomposition.ofCodePoint n = [n]
  · rw [moved, List.mem_singleton] at member
    exact member ▸ testBit_of_land_eq accentBits_facts.2.1 accent
  · have notHangul : ¬(0xAC00 ≤ n ∧ n ≤ 0xD7A3) := by
      rintro ⟨low, high⟩
      rw [testBit_of_land_range_eq_zero accentBits_facts.2.2.2 low high] at accent
      cases accent
    have marks := Decomposition.check_of_passes accents_pass accent notHangul moved
    exact List.all_eq_true.mp marks m member

/-- Nothing is left of an accent. -/
theorem foldChar_of_isAccent (accent : isAccent c) : foldChar c = [] := by
  rw [isAccent_eq_testBit] at accent
  obtain ⟨lower, unread⟩ :=
    lowerOf_of_testBit (testBit_of_land_eq_zero accentBits_facts.2.2.1 accent)
  rw [foldChar_eq (by simpa [lower] using unread), foldOf, lower, List.flatMap_singleton,
    List.map_eq_nil_iff, List.filter_eq_nil_iff]
  intro m member
  simp [testBit_of_mem_ofCodePoint accent member]

theorem interchangeable_of_isAccent (accent : isAccent c) : Interchangeable [c] [] := by
  refine interchangeable_nil ?_ (foldChar_of_isAccent accent)
  rw [isCaseIgnorable_eq_testBit]
  rw [isAccent_eq_testBit] at accent
  exact testBit_of_land_eq accentBits_facts.1 accent

/-! ### Canonical decompositions -/

/-- The code points that have to do with case or are read as something else. -/
def contextBits : Nat :=
  unsteadyBits ||| caseIgnorableBits ||| casedBits

/-- Hangul syllables and jamo have nothing to do with case. -/
theorem contextBits_hangul :
    contextBits &&& bits [(0x1100, 0x11FF)] = 0 ∧ contextBits &&& bits [(0xAC00, 0xD7A3)] = 0 := by
  decide +kernel

theorem testBit_of_contextBits (outside : contextBits.testBit n = false) :
    unsteadyBits.testBit n = false ∧ caseIgnorableBits.testBit n = false ∧
      casedBits.testBit n = false := by
  simp only [contextBits, Nat.testBit_or, Bool.or_eq_false_iff] at outside
  exact ⟨outside.1.1, outside.1.2, outside.2⟩

theorem openingOf_of_contextBits {codePoints : List Nat} (nonempty : codePoints ≠ [])
    (outside : ∀ m ∈ codePoints, contextBits.testBit m = false) :
    openingOf codePoints = some false := by
  obtain ⟨m, rest, rfl⟩ := List.exists_cons_of_ne_nil nonempty
  obtain ⟨-, seen, uncased⟩ := testBit_of_contextBits (outside m List.mem_cons_self)
  simp [openingOf, seen, uncased]

/-- Where nothing has to do with case, a code point can stand for others. -/
theorem standsFor_of_contextBits {part : List Nat} (nonempty : part ≠ [])
    (outside : ∀ m ∈ n :: part, contextBits.testBit m = false) : standsFor n part := by
  have noSigma : (n :: part).contains capitalSigma.toNat = false := by
    rw [Bool.eq_false_iff, ne_eq, List.contains_iff_mem]
    intro member
    have uncased := (testBit_of_contextBits (outside _ member)).2.2
    rw [← isCased_eq_testBit, isCased_capitalSigma.1] at uncased
    cases uncased
  have alone : openingOf [n] = some false :=
    openingOf_of_contextBits (List.cons_ne_nil n []) fun m member =>
      outside m (List.mem_singleton.mp member ▸ List.mem_cons_self)
  have opens : openingOf part = some false :=
    openingOf_of_contextBits nonempty fun m member => outside m (List.mem_cons_of_mem n member)
  have closes : openingOf part.reverse = some false :=
    openingOf_of_contextBits (List.reverse_ne_nil_iff.mpr nonempty) fun m member =>
      outside m (List.mem_cons_of_mem n (List.mem_reverse.mp member))
  rw [standsFor, noSigma, alone, opens, closes]
  rfl

/-- Where nothing has to do with case, a code point can take the place of its decomposition. -/
theorem replaced_of_contextBits {part : List Nat} (nonempty : part ≠ [])
    (outside : ∀ m ∈ n :: part, contextBits.testBit m = false)
    (decomposes : Decomposition.ofCodePoint n = part)
    (whole : ∀ m ∈ part, Decomposition.ofCodePoint m = [m]) :
    standsFor n part ∧ foldsAlike n part := by
  constructor
  · exact standsFor_of_contextBits nonempty outside
  · exact foldsAlike_of_steady (fun m member => (testBit_of_contextBits (outside m member)).1)
      decomposes whole

/-- Whether a code point can take the place of what it decomposes into. Where nothing has to do with
case or nothing is unsteady, the sets tell. -/
def replaces (n : Nat) (part : List Nat) : Bool :=
  !part.isEmpty && bitsOf (n :: part) &&& contextBits == 0 ||
    standsFor n part && (bitsOf (n :: part) &&& unsteadyBits == 0 || foldsAlike n part)

theorem replaced_of_replaces {part : List Nat} (replaced : replaces n part)
    (decomposes : Decomposition.ofCodePoint n = part)
    (whole : ∀ m ∈ part, Decomposition.ofCodePoint m = [m]) :
    standsFor n part ∧ foldsAlike n part := by
  simp only [replaces, Bool.or_eq_true, Bool.and_eq_true, Bool.not_eq_true', beq_iff_eq,
    List.isEmpty_eq_false_iff] at replaced
  rcases replaced with ⟨nonempty, apart⟩ | ⟨stands, apart | alike⟩
  · exact replaced_of_contextBits nonempty (testBit_of_mem apart) decomposes whole
  · exact ⟨stands, foldsAlike_of_steady (testBit_of_mem apart) decomposes whole⟩
  · exact ⟨stands, alike⟩

/-- Code points with a canonical decomposition can take the place of it, but for those that are
listed apart. -/
theorem canonicals_pass : Decomposition.entries.all
    (Decomposition.passes canonicalBits fun n part =>
      replaces n part || (Canonical.shorter.lookup n).isSome) = true := by
  decide +kernel

theorem shorter_facts : ∀ entry ∈ Canonical.shorter,
    standsFor entry.1 entry.2 ∧ foldsAlike entry.1 entry.2 ∧ ∀ m ∈ entry.2, m.isValidChar := by
  decide +kernel

/-- A Hangul syllable can take the place of its jamo. -/
theorem hangul_replaced (low : 0xAC00 ≤ n) (high : n ≤ 0xD7A3)
    (whole : ∀ m ∈ Decomposition.ofCodePoint n, Decomposition.ofCodePoint m = [m]) :
    standsFor n (Decomposition.ofCodePoint n) ∧ foldsAlike n (Decomposition.ofCodePoint n) := by
  have jamo : Decomposition.ofCodePoint n = Decomposition.jamo (n - 0xAC00) := by
    rw [Decomposition.ofCodePoint, if_pos ⟨low, high⟩]
  have outside : ∀ m ∈ n :: Decomposition.ofCodePoint n, contextBits.testBit m = false := by
    rw [List.forall_mem_cons]
    constructor
    · exact testBit_of_land_range_eq_zero contextBits_hangul.2 low high
    · intro m member
      rw [jamo] at member
      obtain ⟨first, last⟩ := Decomposition.bounds_of_mem_jamo (by omega) member
      exact testBit_of_land_range_eq_zero contextBits_hangul.1 first last
  have nonempty : Decomposition.ofCodePoint n ≠ [] := by
    rw [jamo, Decomposition.jamo]
    split <;> exact List.cons_ne_nil _ _
  exact replaced_of_contextBits nonempty outside rfl whole

/-- A code point can take the place of its canonical decomposition. -/
theorem ofCodePoint_replaced (valid : n.isValidChar) (listed : Canonical.table.contains n)
    (full : Canonical.shorter.lookup n = none) (moved : Decomposition.ofCodePoint n ≠ [n]) :
    standsFor n (Decomposition.ofCodePoint n) ∧ foldsAlike n (Decomposition.ofCodePoint n) := by
  have whole (m : Nat) (member : m ∈ Decomposition.ofCodePoint n) :
      Decomposition.ofCodePoint m = [m] :=
    (Decomposition.isWhole_iff.mp (Decomposition.isWhole_of_mem_ofCodePoint valid m member)).2
  by_cases hangul : 0xAC00 ≤ n ∧ n ≤ 0xD7A3
  · exact hangul_replaced hangul.1 hangul.2 whole
  · rw [contains_canonical_eq_testBit] at listed
    have replaced := Decomposition.check_of_passes canonicals_pass listed hangul moved
    rw [full, Option.isSome_none, Bool.or_false] at replaced
    exact replaced_of_replaces replaced rfl whole

theorem interchangeable_of_codePoints {part : List Nat} (stands : standsFor c.toNat part)
    (alike : foldsAlike c.toNat part) (valid : ∀ m ∈ part, m.isValidChar) :
    Interchangeable [c] (part.map Char.ofNat) := by
  have codePoints : (part.map Char.ofNat).map Char.toNat = part := by
    rw [List.map_map]
    exact (List.map_congr_left fun m member =>
      toNat_ofNat_of_isValidChar (valid m member)).trans (List.map_id part)
  constructor
  · exact sameRole_of_standsFor (by rwa [codePoints])
  · exact folded_of_foldsAlike (by rwa [codePoints])

/-- A character is its own canonical decomposition or can take the place of it. -/
theorem canonicalChar_cases (c : Char) :
    canonicalChar c = [c] ∨ Interchangeable [c] (canonicalChar c) := by
  have alone (same : Canonical.ofCodePoint c.toNat = [c.toNat]) : canonicalChar c = [c] := by
    rw [canonicalChar, same, List.map_singleton, Char.ofNat_toNat]
  by_cases listed : Canonical.table.contains c.toNat
  · cases full : Canonical.shorter.lookup c.toNat with
    | some part =>
      have same : Canonical.ofCodePoint c.toNat = part := by
        rw [Canonical.ofCodePoint, if_pos listed, full, Option.getD_some]
      obtain ⟨before, after, split, -⟩ := List.lookup_eq_some_iff.mp full
      obtain ⟨stands, alike, valid⟩ := shorter_facts (c.toNat, part) (by simp [split])
      rw [canonicalChar, same]
      exact .inr (interchangeable_of_codePoints stands alike valid)
    | none =>
      have same : Canonical.ofCodePoint c.toNat = Decomposition.ofCodePoint c.toNat := by
        rw [Canonical.ofCodePoint, if_pos listed, full, Option.getD_none]
      by_cases moved : Decomposition.ofCodePoint c.toNat = [c.toNat]
      · exact .inl (alone (same.trans moved))
      · obtain ⟨stands, alike⟩ := ofCodePoint_replaced c.valid listed full moved
        have valid (m : Nat) (member : m ∈ Decomposition.ofCodePoint c.toNat) : m.isValidChar :=
          (Decomposition.isWhole_iff.mp
            (Decomposition.isWhole_of_mem_ofCodePoint c.valid m member)).1
        rw [canonicalChar, same]
        exact .inr (interchangeable_of_codePoints stands alike valid)
  · exact .inl (alone (by rw [Canonical.ofCodePoint, if_neg listed]))

end ComicCatalogue.Slug
