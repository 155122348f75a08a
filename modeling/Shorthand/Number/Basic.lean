/-
This file holds the numbers of the expression language and their arithmetic.

A number is an integer of 64 bits or a floating-point number. Arithmetic on two integers stays
exact as long as the result is an integer of 64 bits, and is done in floating point otherwise,
so no operation wraps around. Integers and floating-point numbers are compared as
floating-point numbers.
-/

import Shorthand.Decimal.Binary

namespace Shorthand

/-- An integer of 64 bits or a floating-point number. -/
inductive Number where
  | integer (value : Int64)
  | float (value : Float)

/-- The integer of 64 bits with the value, if there is one. -/
def wordOf? (value : Int) : Option Int64 :=
  if Int64.minValue.toInt ≤ value ∧ value ≤ Int64.maxValue.toInt then some (Int64.ofInt value)
  else none

/-- The integer of 64 bits nearest to a floating-point number after dropping its fraction. What
is not a number goes to zero. -/
def wordNear (number : Float) : Int64 :=
  match Binary.ofFloat? number with
  | some fraction =>
    let whole := fraction.truncate
    match wordOf? whole with
    | some word => word
    | none => if whole < 0 then Int64.minValue else Int64.maxValue
  | none =>
    if number.isNaN then 0 else if number < 0 then Int64.minValue else Int64.maxValue

namespace Number

/-- The floating-point number nearest to the number. -/
def toFloat : Number → Float
  | .integer value => Float.ofInt value.toInt
  | .float value => value

/-- The integer nearest to the number after dropping its fraction. -/
def toWord : Number → Int64
  | .integer value => value
  | .float value => wordNear value

/-- The bound below which whole floating-point numbers become integers. They are all still
apart there. -/
def wholeBound : Nat := 9000000000000000

/-- A floating-point number as an integer if it is a whole number below the bound. -/
def ofFloat (value : Float) : Number :=
  match Binary.ofFloat? value with
  | some fraction =>
    if fraction.isWhole ∧ fraction.truncate.natAbs < wholeBound then
      .integer (Int64.ofInt fraction.truncate)
    else .float value
  | none => .float value

/-- Like `ofFloat`, but the negative zero stays what it is. -/
def ofSignedFloat (value : Float) : Number :=
  match Binary.ofFloat? value with
  | some ⟨true, 0, _⟩ => .float value
  | _ => ofFloat value

/-! ### Arithmetic -/

/-- The exact result of an operation on two integers, if it has one of 64 bits, and the rounded
result of the operation on floating-point numbers otherwise. -/
def combine (exact : Int → Int → Option Int) (rounded : Float → Float → Float) :
    Number → Number → Number
  | .integer left, .integer right =>
    match (exact left.toInt right.toInt).bind wordOf? with
    | some result => .integer result
    | none => .float (rounded (Float.ofInt left.toInt) (Float.ofInt right.toInt))
  | left, right => .float (rounded left.toFloat right.toFloat)

/-- The sum of two numbers. -/
def add : Number → Number → Number := combine (fun left right => some (left + right)) (· + ·)

/-- The difference of two numbers. -/
def subtract : Number → Number → Number := combine (fun left right => some (left - right)) (· - ·)

/-- The product of two numbers. -/
def multiply : Number → Number → Number := combine (fun left right => some (left * right)) (· * ·)

/-- The quotient of two integers, if there is one without a remainder. -/
def exactQuotient? (dividend divisor : Int) : Option Int :=
  if divisor ≠ 0 ∧ dividend.tmod divisor = 0 then some (dividend.tdiv divisor) else none

/-- The quotient of two numbers. -/
def divide : Number → Number → Number := combine exactQuotient? (· / ·)

/-- The remainder of two integers with the sign of the dividend, if the quotient has 64 bits. -/
def exactRemainder? (dividend divisor : Int) : Option Int :=
  if divisor ≠ 0 ∧ (wordOf? (dividend.tdiv divisor)).isSome then some (dividend.tmod divisor)
  else none

/-- The remainder of two floating-point numbers, exact and with the sign of the dividend. There
is none of an infinity or by zero, and an infinite divisor leaves all of the dividend. -/
def floatRemainder (dividend divisor : Float) : Float :=
  match Binary.ofFloat? dividend, Binary.ofFloat? divisor with
  | some fraction, some other =>
    if other.mantissa = 0 then 0.0 / 0.0 else (fraction.remainder other).toFloat
  | some _, none => if divisor.isNaN then divisor else dividend
  | none, _ => 0.0 / 0.0

/-- The remainder of two numbers. -/
def remainder : Number → Number → Number := combine exactRemainder? floatRemainder

/-- The number with the other sign. Zero becomes the negative zero, which no integer is. -/
def negate : Number → Number
  | .integer value =>
    if value = 0 then .float (-0.0)
    else
      match wordOf? (-value.toInt) with
      | some result => .integer result
      | none => .float (-Float.ofInt value.toInt)
  | .float value => .float (-value)

/-! ### Comparison -/

/-- The order of two floating-point numbers. What is not a number has none. -/
def compareFloats (left right : Float) : Option Ordering :=
  if left < right then some .lt
  else if left == right then some .eq
  else if right < left then some .gt
  else none

/-- The order of two numbers after rounding both to floating point. -/
def compare (left right : Number) : Option Ordering := compareFloats left.toFloat right.toFloat

/-- Whether two numbers are the same: integers exactly, all others after rounding to floating
point. -/
def same : Number → Number → Bool
  | .integer left, .integer right => left == right
  | left, right => left.toFloat == right.toFloat

/-! ### Whole numbers -/

/-- A floating-point function of a whole number computed from a fraction. Infinities and what is
not a number stay, and zero keeps its sign. -/
def roundBy (rule : Binary → Int) (value : Float) : Float :=
  match Binary.ofFloat? value with
  | some fraction =>
    let whole := rule fraction
    if whole = 0 ∧ fraction.negative then -0.0 else Float.ofInt whole
  | none => value

/-- The greatest whole number that is not above. -/
def floor : Float → Float := roundBy Binary.floor

/-- The least whole number that is not below. -/
def ceiling : Float → Float := roundBy Binary.ceiling

/-- The nearest whole number, and of two the upper one. The half is added in floating point. -/
def roundHalfUp (value : Float) : Float := floor (value + 0.5)

end Number

end Shorthand
