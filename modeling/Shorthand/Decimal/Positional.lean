/-
This file writes decimal fractions: with a point, rounded to given places or with an exponent.
-/

import Shorthand.Decimal.Shortest

namespace Shorthand

/-- A natural number in decimal digits. -/
def digitsOf (number : Nat) : List Char := Nat.toDigits 10 number

/-- The digits with a point before the last `places`, and zeros in front where they are
needed. -/
def withPoint (digits : List Char) (places : Nat) : List Char :=
  if places = 0 then digits
  else
    let padded := List.replicate (places + 1 - digits.length) '0' ++ digits
    padded.take (padded.length - places) ++ '.' :: padded.drop (padded.length - places)

namespace Decimal

/-- The digits of a fraction with zeros after them or a point among them, without an
exponent. -/
def positional (decimal : Decimal) : List Char :=
  if 0 ≤ decimal.exponent then
    digitsOf decimal.digits ++ List.replicate decimal.exponent.toNat '0'
  else withPoint (digitsOf decimal.digits) (-decimal.exponent).toNat

/-- The power of ten of the first digit. -/
def leadingExponent (decimal : Decimal) : Int :=
  (digitsOf decimal.digits).length - 1 + decimal.exponent

/-- The digits with a point after the first and the power of ten of that digit, whose sign is
written in either case. -/
def scientific (decimal : Decimal) : List Char :=
  let exponent := decimal.leadingExponent
  let sign := if exponent < 0 then '-' else '+'
  let rest := (digitsOf decimal.digits).drop 1
  (digitsOf decimal.digits).take 1 ++ (if rest.isEmpty then [] else '.' :: rest) ++
    'e' :: sign :: digitsOf exponent.natAbs

end Decimal

/-- A quotient rounded to an integer. -/
def roundQuotient (rule : Halfway) (dividend divisor : Nat) : Nat :=
  let whole := dividend / divisor
  let rest := dividend % divisor
  if divisor < 2 * rest then whole + 1
  else if 2 * rest = divisor ∧ rule.goesUp whole then whole + 1
  else whole

/-- The fraction without its sign, rounded to a number of decimal places. A half goes to the
even digit. -/
def Binary.fixed (fraction : Binary) (places : Nat) : List Char :=
  withPoint
    (digitsOf (roundQuotient .toEven (fraction.numerator * Nat.pow 10 places) fraction.denominator))
    places

end Shorthand
