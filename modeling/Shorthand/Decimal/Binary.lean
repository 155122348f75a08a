/-
This file reads a floating-point number as the exact binary fraction that it stands for.

Every finite number is a natural number below `2 ^ 53` times a power of two, with a sign.
Whatever has to be exact, from rounding to an integer to printing digits, is computed on that
fraction with natural numbers and not by floating-point operations.
-/

namespace Shorthand

/-- A binary fraction: the mantissa times two to the exponent, negative if so marked. Zero keeps
its sign. -/
structure Binary where
  negative : Bool
  mantissa : Nat
  exponent : Int

/-- The least mantissa of a number with full precision, two to the 52. The mantissa of a number
in its bits leaves it out. -/
def hiddenBit : Nat := 0x10000000000000

namespace Binary

/-- The fraction that a finite number stands for. Infinities and what is not a number stand for
none. -/
def ofFloat? (number : Float) : Option Binary :=
  let bits := number.toBits.toNat
  let negative := bits / 0x8000000000000000 == 1
  let biased := bits / hiddenBit % 0x800
  let fraction := bits % hiddenBit
  if biased = 2047 then none
  else if biased = 0 then some ⟨negative, fraction, -1074⟩
  else some ⟨negative, hiddenBit + fraction, Int.ofNat biased - 1075⟩

/-- The numerator of the fraction without its sign, over the power of two `denominator`. -/
def numerator (fraction : Binary) : Nat := fraction.mantissa * Nat.pow 2 fraction.exponent.toNat

/-- The denominator of the fraction, a power of two. -/
def denominator (fraction : Binary) : Nat := Nat.pow 2 (-fraction.exponent).toNat

/-- The integer between the fraction and zero that is nearest to it. -/
def truncate (fraction : Binary) : Int :=
  let whole : Int := fraction.numerator / fraction.denominator
  if fraction.negative then -whole else whole

/-- Whether the fraction is an integer. -/
def isWhole (fraction : Binary) : Bool := fraction.numerator % fraction.denominator == 0

/-- The greatest integer that is not above the fraction. -/
def floor (fraction : Binary) : Int :=
  if fraction.negative && !fraction.isWhole then fraction.truncate - 1 else fraction.truncate

/-- The least integer that is not below the fraction. -/
def ceiling (fraction : Binary) : Int :=
  if !fraction.negative && !fraction.isWhole then fraction.truncate + 1 else fraction.truncate

/-- What is left of the fraction after taking off the other as often as it goes, without looking
at signs. The sign of the fraction is kept. -/
def remainder (fraction other : Binary) : Binary :=
  let exponent := min fraction.exponent other.exponent
  let scaled (operand : Binary) : Nat :=
    operand.mantissa * Nat.pow 2 (operand.exponent - exponent).toNat
  ⟨fraction.negative, scaled fraction % scaled other, exponent⟩

/-- Two to a power that a number can have, from `-1074` to `1023`. -/
def powerOfTwo (exponent : Int) : Float :=
  if exponent < -1022 then Float.ofBits (Nat.pow 2 (exponent + 1074).toNat).toUInt64
  else Float.ofBits ((exponent + 1023).toNat * hiddenBit).toUInt64

/-- The number that stands for the fraction. It is exact when the mantissa is below `2 ^ 53`
and the exponent is one of a finite number: the mantissa and the power are then numbers
themselves, and so is their product. -/
def toFloat (fraction : Binary) : Float :=
  let size := Float.ofNat fraction.mantissa * powerOfTwo fraction.exponent
  if fraction.negative then -size else size

end Binary

end Shorthand
