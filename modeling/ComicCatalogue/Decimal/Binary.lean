/-!
# Binary fractions

Numbers with a fraction are kept in binary with 53 significant bits. Calculations round to the
nearest such number; of two that are equally near, to the one with the even mantissa. All
arithmetic is exact up to that rounding.
-/

namespace ComicCatalogue

/-- The number `mantissa · 2 ^ power`. The mantissa has 53 bits, and fewer only where the power
cannot be lowered any more. -/
structure Binary where
  mantissa : Nat
  power : Int
  deriving DecidableEq, Repr

namespace Binary

/-- The integer nearest to `num / den`; a half goes to the even neighbour. -/
def roundHalfEven (num den : Nat) : Nat :=
  let quotient := num / den
  let twice := 2 * (num % den)
  if twice < den ∨ (twice = den ∧ quotient % 2 = 0) then quotient else quotient + 1

/-- A quotient scaled by a power of two: numerator and denominator of `num / den / 2 ^ power`. -/
def scaleDown (num den : Nat) (power : Int) : Nat × Nat :=
  if 0 ≤ power then (num, den <<< power.toNat) else (num <<< (-power).toNat, den)

/-- The lowest power of two that is counted in. -/
def minPower : Int := -1074

/-- The highest power of two that is counted in. -/
def maxPower : Int := 971

/-- The quotient `num / den` rounded to a multiple of a power of two. -/
def rounded (num den : Nat) (power : Int) : Binary :=
  let (n, d) := scaleDown num den power
  let mantissa := roundHalfEven n d
  if mantissa = 1 <<< 53 then ⟨1 <<< 52, power + 1⟩ else ⟨mantissa, power⟩

/-- The binary fraction nearest to a quotient. -/
def ofRatio (num den : Nat) : Binary :=
  let estimate : Int := (num.log2 : Int) - (den.log2 : Int) - 53
  let power := max minPower estimate
  let (n, d) := scaleDown num den power
  if n / d < 1 <<< 53 then rounded num den power else rounded num den (power + 1)

/-- The binary fraction nearest to a whole number. -/
def ofNat (n : Nat) : Binary :=
  ofRatio n 1

/-- Whether the number is larger than every number of the highest power. -/
def isBeyondRange (x : Binary) : Bool :=
  x.mantissa ≠ 0 ∧ maxPower < x.power

/-- The binary fraction nearest to a product. -/
def mul (x y : Binary) : Binary :=
  let power := x.power + y.power
  ofRatio ((x.mantissa * y.mantissa) <<< power.toNat) (1 <<< (-power).toNat)

/-- The binary fraction nearest to a quotient. -/
def div (x y : Binary) : Binary :=
  let power := x.power - y.power
  ofRatio (x.mantissa <<< power.toNat) (y.mantissa <<< (-power).toNat)

/-- The highest power of ten in range. -/
def maxTens : Nat := 308

/-- A number divided by a power of ten, in steps of the highest one. -/
def divTens (x : Binary) (tens : Nat) : Binary :=
  if tens ≤ maxTens then x.div (ofNat (Nat.pow 10 tens))
  else if x.mantissa = 0 then x
  else divTens (x.div (ofNat (Nat.pow 10 maxTens))) (tens - maxTens)
termination_by tens
decreasing_by
  unfold maxTens at *
  omega

/-- A number multiplied by a power of ten, if the product is in range. -/
def mulTens? (x : Binary) (tens : Nat) : Option Binary :=
  if x.mantissa = 0 then some x
  else if maxTens < tens then none
  else
    let product := x.mul (ofNat (Nat.pow 10 tens))
    if product.isBeyondRange then none else some product

end Binary

end ComicCatalogue
