/-
This file chooses the decimal digits that stand for a floating-point number.

A number owns the interval of fractions that are rounded to it. Its shortest decimal is the
point of the coarsest decimal grid that meets this interval, and of two such points the one
nearer to the number. All comparisons are between integers, so nothing is lost to rounding.
-/

import Shorthand.Decimal.Binary

namespace Shorthand

/-- A decimal fraction: the digits read as a natural number, times ten to the exponent. -/
structure Decimal where
  digits : Nat
  exponent : Int
deriving DecidableEq

/-- What happens to a fraction halfway between two points of a grid. -/
inductive Halfway where
  /-- It goes to the point further from zero. -/
  | away
  /-- It goes to the point whose last digit is even. -/
  | toEven
deriving DecidableEq

namespace Halfway

/-- Whether a fraction halfway between a point and the next goes to the next. -/
def goesUp (rule : Halfway) (point : Nat) : Bool :=
  match rule with
  | .away => true
  | .toEven => point % 2 == 1

end Halfway

/-- The fractions that are rounded to a number, in units of a common size. The ends belong to
the interval if `closed`. -/
structure Owned where
  low : Nat
  value : Nat
  high : Nat
  /-- The unit is two to this power. -/
  exponent : Int
  closed : Bool

namespace Owned

/-- The interval of a positive number, in quarters of its last binary place. It reaches halfway
to both neighbours, and the neighbour below the least mantissa of a power of two is at half
the usual distance. Halfway points are rounded to the even mantissa. -/
def ofBinary (fraction : Binary) : Owned where
  low := 4 * fraction.mantissa -
    (if fraction.mantissa = hiddenBit ∧ -1074 < fraction.exponent then 1 else 2)
  value := 4 * fraction.mantissa
  high := 4 * fraction.mantissa + 2
  exponent := fraction.exponent - 2
  closed := fraction.mantissa % 2 == 0

/-- The point of the grid of multiples of ten to a power that stands for the number, if the
interval holds one. Only the two points around the number can be the one. -/
def point? (owned : Owned) (rule : Halfway) (power : Int) : Option Nat :=
  let unit := Nat.pow 2 owned.exponent.toNat * Nat.pow 10 (-power).toNat
  let step := Nat.pow 2 (-owned.exponent).toNat * Nat.pow 10 power.toNat
  let value := owned.value * unit
  let below := value / step
  let least := if owned.closed then owned.low * unit else owned.low * unit + 1
  let greatest := if owned.closed then owned.high * unit else owned.high * unit - 1
  let fitsBelow := decide (least ≤ below * step)
  let fitsAbove := decide ((below + 1) * step ≤ greatest)
  let toBelow := value - below * step
  let toAbove := (below + 1) * step - value
  if fitsBelow && fitsAbove then
    if toBelow < toAbove then some below
    else if toAbove < toBelow then some (below + 1)
    else some (if rule.goesUp below then below + 1 else below)
  else if fitsBelow then some below
  else if fitsAbove then some (below + 1)
  else none

/-- All digits of the number, which has finitely many because two divides ten. -/
def exactly (owned : Owned) : Decimal :=
  if 0 ≤ owned.exponent then ⟨owned.value * Nat.pow 2 owned.exponent.toNat, 0⟩
  else ⟨owned.value * Nat.pow 5 (-owned.exponent).toNat, owned.exponent⟩

/-- The point of the first grid that has one, going down from a power of ten. -/
def search (owned : Owned) (rule : Halfway) : Nat → Int → Decimal
  | 0, _ => owned.exactly
  | attempts + 1, power =>
    match owned.point? rule power with
    | some digits => ⟨digits, power⟩
    | none => owned.search rule attempts (power - 1)

end Owned

/-- A power of ten that is not below the number and at most about a hundred times it. The ratio
is the decimal logarithm of two, a little rounded down. -/
def Binary.decimalCeiling (fraction : Binary) : Int :=
  ((fraction.mantissa.log2 : Int) + fraction.exponent + 1) * 1233 / 4096 + 1

/-- The shortest decimal that reads back as the number, and among these the nearest to it.
Seventeen digits are always enough, and three grids more make up for the estimate at the
start. -/
def Binary.shortest (fraction : Binary) (rule : Halfway) : Decimal :=
  if fraction.mantissa = 0 then ⟨0, 0⟩
  else (Owned.ofBinary fraction).search rule 24 fraction.decimalCeiling

end Shorthand
