/-!
# Decimals

A decimal is a signed count of some power of ten. `text` writes it with a point, and with an
exponent where the form without one would be long.
-/

namespace ComicCatalogue

/-- The number `digits · 10 ^ exponent`, negated if `negative`. -/
structure Decimal where
  negative : Bool
  digits : Nat
  exponent : Int
  deriving DecidableEq, Repr

namespace Decimal

/-- The decimal digits of a number, the highest first. -/
def digitChars (n : Nat) : List Char :=
  Nat.toDigits 10 n

/-- The digits of a positive count and the place of the point: how many digits stand before it. -/
def scientific (d : Decimal) : List Char × Int :=
  let shown := digitChars d.digits
  (shown, shown.length + d.exponent)

/-- Digits with a point behind the first `point` of them, filled up with zeros on either side. -/
def withPoint (shown : List Char) (point : Int) : List Char :=
  if point ≤ 0 then ['0', '.'] ++ List.replicate (-point).toNat '0' ++ shown
  else if shown.length ≤ point.toNat then
    shown ++ List.replicate (point.toNat - shown.length) '0' ++ ['.', '0']
  else shown.take point.toNat ++ ['.'] ++ shown.drop point.toNat

/-- Digits with a point behind the first of them, and an exponent with its sign. -/
def withExponent (shown : List Char) (point : Int) : List Char :=
  let mantissa :=
    match shown with
    | [] => []
    | [digit] => [digit]
    | digit :: more => digit :: '.' :: more
  let exponent := point - 1
  mantissa ++ ['e', if exponent < 0 then '-' else '+'] ++ digitChars exponent.natAbs

/-- The text of a decimal: with an exponent from `1e+16` on and below `0.00001`, and without one
between, with at least one digit on either side of the point. -/
def text (d : Decimal) : List Char :=
  let sign := if d.negative then ['-'] else []
  if d.digits = 0 then sign ++ ['0', '.', '0']
  else
    let (shown, point) := d.scientific
    sign ++ if -5 < point ∧ point ≤ 16 then withPoint shown point else withExponent shown point

end Decimal

end ComicCatalogue
