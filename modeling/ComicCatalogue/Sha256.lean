/-!
# SHA-256

The hash function SHA-256 on byte sequences, and the digest of a text as hexadecimal digits.
-/

namespace ComicCatalogue.Sha256

/-- The constants of the sixty-four rounds. -/
def roundConstants : Array UInt32 := #[
  0x428a2f98, 0x71374491, 0xb5c0fbcf, 0xe9b5dba5, 0x3956c25b, 0x59f111f1,
  0x923f82a4, 0xab1c5ed5, 0xd807aa98, 0x12835b01, 0x243185be, 0x550c7dc3,
  0x72be5d74, 0x80deb1fe, 0x9bdc06a7, 0xc19bf174, 0xe49b69c1, 0xefbe4786,
  0x0fc19dc6, 0x240ca1cc, 0x2de92c6f, 0x4a7484aa, 0x5cb0a9dc, 0x76f988da,
  0x983e5152, 0xa831c66d, 0xb00327c8, 0xbf597fc7, 0xc6e00bf3, 0xd5a79147,
  0x06ca6351, 0x14292967, 0x27b70a85, 0x2e1b2138, 0x4d2c6dfc, 0x53380d13,
  0x650a7354, 0x766a0abb, 0x81c2c92e, 0x92722c85, 0xa2bfe8a1, 0xa81a664b,
  0xc24b8b70, 0xc76c51a3, 0xd192e819, 0xd6990624, 0xf40e3585, 0x106aa070,
  0x19a4c116, 0x1e376c08, 0x2748774c, 0x34b0bcb5, 0x391c0cb3, 0x4ed8aa4a,
  0x5b9cca4f, 0x682e6ff3, 0x748f82ee, 0x78a5636f, 0x84c87814, 0x8cc70208,
  0x90befffa, 0xa4506ceb, 0xbef9a3f7, 0xc67178f2]

/-- The eight words before the first block. -/
def initialState : Array UInt32 := #[
  0x6a09e667, 0xbb67ae85, 0x3c6ef372, 0xa54ff53a,
  0x510e527f, 0x9b05688c, 0x1f83d9ab, 0x5be0cd19]

/-- Rotates a word to the right. -/
def rotate (x : UInt32) (n : UInt32) : UInt32 :=
  (x >>> n) ||| (x <<< (32 - n))

/-- The eight bytes of a number, the highest first. -/
def lengthBytes (n : Nat) : Array UInt8 :=
  (Array.range 8).map fun i => UInt8.ofNat (n >>> (8 * (7 - i)))

/-- The message with a one bit, zeros and its length in bits, so that it fills blocks of
sixty-four bytes. -/
def pad (message : Array UInt8) : Array UInt8 :=
  let zeros := (119 - message.size % 64) % 64
  message ++ #[0x80] ++ Array.replicate zeros 0 ++ lengthBytes (8 * message.size)

/-- The word whose four bytes start at an index, the highest first. -/
def wordAt (bytes : Array UInt8) (index : Nat) : UInt32 :=
  (List.range 4).foldl (fun word i => (word <<< 8) ||| (bytes.getD (index + i) 0).toUInt32) 0

/-- The sixty-four words that the rounds of a block use. -/
def schedule (bytes : Array UInt8) (block : Nat) : Array UInt32 :=
  let first := (Array.range 16).map fun i => wordAt bytes (64 * block + 4 * i)
  (List.range 48).foldl (fun words _ =>
    let n := words.size
    let x := words.getD (n - 15) 0
    let y := words.getD (n - 2) 0
    let s0 := rotate x 7 ^^^ rotate x 18 ^^^ (x >>> 3)
    let s1 := rotate y 17 ^^^ rotate y 19 ^^^ (y >>> 10)
    words.push (words.getD (n - 16) 0 + s0 + words.getD (n - 7) 0 + s1)) first

/-- The eight working words of a block. -/
structure Working where
  a : UInt32
  b : UInt32
  c : UInt32
  d : UInt32
  e : UInt32
  f : UInt32
  g : UInt32
  h : UInt32

/-- One round. -/
def round (w : Working) (constant word : UInt32) : Working :=
  let s1 := rotate w.e 6 ^^^ rotate w.e 11 ^^^ rotate w.e 25
  let choice := (w.e &&& w.f) ^^^ ((~~~ w.e) &&& w.g)
  let t1 := w.h + s1 + choice + constant + word
  let s0 := rotate w.a 2 ^^^ rotate w.a 13 ^^^ rotate w.a 22
  let majority := (w.a &&& w.b) ^^^ (w.a &&& w.c) ^^^ (w.b &&& w.c)
  ⟨t1 + (s0 + majority), w.a, w.b, w.c, w.d + t1, w.e, w.f, w.g⟩

/-- The state after a block. -/
def compress (bytes : Array UInt8) (state : Array UInt32) (block : Nat) : Array UInt32 :=
  let words := schedule bytes block
  let word (i : Nat) : UInt32 := state.getD i 0
  let start : Working := ⟨word 0, word 1, word 2, word 3, word 4, word 5, word 6, word 7⟩
  let w := (List.range 64).foldl
    (fun w i => round w (roundConstants.getD i 0) (words.getD i 0)) start
  #[word 0 + w.a, word 1 + w.b, word 2 + w.c, word 3 + w.d, word 4 + w.e, word 5 + w.f,
    word 6 + w.g, word 7 + w.h]

/-- The eight words of the digest of a message. -/
def digest (message : Array UInt8) : Array UInt32 :=
  let bytes := pad message
  (List.range (bytes.size / 64)).foldl (compress bytes) initialState

/-- The eight hexadecimal digits of a word. -/
def wordHex (word : UInt32) : List Char :=
  (List.range 8).map fun i => Nat.digitChar ((word.toNat >>> (4 * (7 - i))) % 16)

/-- The digest of a text's UTF-8 bytes, as sixty-four hexadecimal digits. -/
def hexDigest (text : String) : String :=
  String.ofList ((digest text.toUTF8.data).toList.flatMap wordHex)

end ComicCatalogue.Sha256
