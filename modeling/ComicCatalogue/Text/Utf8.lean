/-!
# UTF-8

The bytes that encode characters, and the characters that bytes encode. Bytes that encode nothing
are replaced: as many of them as could start a character, but at least one, give one replacement
character. A byte is a number below 256.
-/

namespace ComicCatalogue.Utf8

/-- The bytes of a character. -/
def bytes (c : Char) : List Nat :=
  (String.utf8EncodeChar c).map UInt8.toNat

/-- The character that stands for bytes without a meaning. -/
def replacement : Char := Char.ofNat 0xFFFD

/-- What the first byte of a character says about it. -/
structure Lead where
  /-- The highest bits of the character. -/
  value : Nat
  /-- How many bytes follow. -/
  count : Nat
  /-- The lowest byte that may follow first. -/
  low : Nat
  /-- The highest byte that may follow first. -/
  high : Nat
  deriving DecidableEq, Repr

/-- What a byte says as the first one of a character. The bounds rule out longer encodings than
needed, surrogates and numbers beyond the last code point. -/
def Lead.ofByte? (byte : Nat) : Option Lead :=
  if byte < 0x80 then some ⟨byte, 0, 0x80, 0xBF⟩
  else if 0xC2 ≤ byte ∧ byte ≤ 0xDF then some ⟨byte - 0xC0, 1, 0x80, 0xBF⟩
  else if 0xE0 ≤ byte ∧ byte ≤ 0xEF then
    some ⟨byte - 0xE0, 2, if byte = 0xE0 then 0xA0 else 0x80, if byte = 0xED then 0x9F else 0xBF⟩
  else if 0xF0 ≤ byte ∧ byte ≤ 0xF4 then
    some ⟨byte - 0xF0, 3, if byte = 0xF0 then 0x90 else 0x80, if byte = 0xF4 then 0x8F else 0xBF⟩
  else none

/-- Reads bytes that follow: the code point, if they all do, and the bytes behind them. -/
def readRest (value low high : Nat) : Nat → List Nat → Option Nat × List Nat
  | 0, rest => (some value, rest)
  | _ + 1, [] => (none, [])
  | count + 1, byte :: rest =>
    if low ≤ byte ∧ byte ≤ high then readRest (64 * value + (byte - 0x80)) 0x80 0xBF count rest
    else (none, byte :: rest)

theorem length_readRest_le (value low high count : Nat) (bytes : List Nat) :
    (readRest value low high count bytes).2.length ≤ bytes.length := by
  fun_induction readRest value low high count bytes with
  | case1 => simp
  | case2 => simp
  | case3 value low high count byte rest follows ih => exact Nat.le_succ_of_le ih
  | case4 => simp

/-- The characters that bytes encode. -/
def decode : List Nat → List Char
  | [] => []
  | byte :: rest =>
    match Lead.ofByte? byte with
    | none => replacement :: decode rest
    | some lead =>
      let read := readRest lead.value lead.low lead.high lead.count rest
      read.1.elim replacement Char.ofNat :: decode read.2
termination_by bytes => bytes.length
decreasing_by
  · simp
  · exact Nat.lt_succ_of_le (length_readRest_le _ _ _ _ _)

end ComicCatalogue.Utf8
