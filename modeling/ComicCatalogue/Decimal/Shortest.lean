import ComicCatalogue.Decimal.Basic
import ComicCatalogue.Decimal.Binary

/-!
# The shortest decimal of a binary fraction

`Decimal.ofBinary` gives the decimal that a binary fraction is written as: of the decimals that
read back as the fraction, one with the fewest digits, and of those the nearest. All arithmetic is
exact.
-/

namespace ComicCatalogue.Decimal

/-- The interval of numbers that read back as a binary fraction, and the fraction itself, as three
numerators over a common denominator: lower end, fraction, upper end. -/
def interval (x : Binary) : Nat × Nat × Nat × Nat :=
  let value := 4 * x.mantissa
  let low := if x.mantissa = 1 <<< 52 ∧ Binary.minPower < x.power then value - 1 else value - 2
  let scale := 1 <<< x.power.toNat
  (low * scale, value * scale, (value + 2) * scale, 4 <<< (-x.power).toNat)

/-- The power of ten of the first digit of a positive quotient: the largest `k` for which
`10 ^ k` is not above it, sought downwards from a `k` that is too large. -/
def leadingPower (num den : Nat) : Nat → Int → Int
  | 0, k => k
  | fuel + 1, k =>
    if (if 0 ≤ k then den * Nat.pow 10 k.toNat ≤ num else den ≤ num * Nat.pow 10 (-k).toNat) then k
    else leadingPower num den fuel (k - 1)

/-- The multiple of `10 ^ grid` that lies in the interval and is nearest to the fraction, if there
is one. Only the two multiples next to the fraction come into question. -/
def onGrid (x : Binary) (grid : Int) : Option Nat :=
  let (low, value, high, den) := interval x
  let up := Nat.pow 10 (-grid).toNat
  let unit := den * Nat.pow 10 grid.toNat
  let below := value * up / unit
  let inside (count : Nat) : Bool :=
    let point := count * unit
    if x.mantissa % 2 = 0 then low * up ≤ point ∧ point ≤ high * up
    else low * up < point ∧ point < high * up
  let distanceBelow := value * up - below * unit
  let distanceAbove := (below + 1) * unit - value * up
  match inside below, inside (below + 1) with
  | true, true =>
    if distanceBelow < distanceAbove ∨ (distanceBelow = distanceAbove ∧ below % 2 = 0) then
      some below
    else some (below + 1)
  | true, false => some below
  | false, true => some (below + 1)
  | false, false => none

/-- Drops the zeros at the end of a count into the exponent. -/
def normal (negative : Bool) : Nat → Nat → Int → Decimal
  | 0, digits, exponent => ⟨negative, digits, exponent⟩
  | fuel + 1, digits, exponent =>
    if digits ≠ 0 ∧ digits % 10 = 0 then normal negative fuel (digits / 10) (exponent + 1)
    else ⟨negative, digits, exponent⟩

/-- The shortest decimal of a binary fraction: grids are tried from the coarsest to the finest. -/
def ofBinary (negative : Bool) (x : Binary) : Decimal :=
  let (_, value, _, den) := interval x
  let estimate : Int := ((value.log2 : Int) - (den.log2 : Int)) * 30103 / 100000 + 1
  let leading := leadingPower value den 4 estimate
  let grids := (List.range 18).map fun (n : Nat) => leading + 1 - (n : Int)
  match grids.findSome? fun grid => (onGrid x grid).bind fun count =>
      if count = 0 then none else some (count, grid) with
  | some (count, grid) => normal negative 20 count grid
  | none => ⟨negative, 0, 0⟩

/-- The decimal that the quotient `num / den` is written as. -/
def ofRatio (negative : Bool) (num den : Nat) : Decimal :=
  if den = 0 then ⟨negative, 0, 0⟩ else ofBinary negative (.ofRatio num den)

/-- The decimal that `digits · 10 ^ exponent` is kept as. Numbers beyond the range of binary
fractions have none; those too small for it are zero. -/
def nearest? (negative : Bool) (digits : Nat) (exponent : Int) : Option Decimal :=
  let size : Int := (digitChars digits).length + exponent
  if digits = 0 ∨ size < -330 then some ⟨negative, 0, 0⟩
  else if 309 < size then none
  else
    let number := Binary.ofRatio (digits * Nat.pow 10 exponent.toNat) (Nat.pow 10 (-exponent).toNat)
    if number.isBeyondRange then none else some (ofBinary negative number)

end ComicCatalogue.Decimal
