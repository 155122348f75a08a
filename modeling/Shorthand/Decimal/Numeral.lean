/-
This file reads decimal numerals: a sign, digits with a point among them, and an exponent.

A numeral needs a digit before or after its point, and one after the letter of its exponent.
It denotes an exact decimal fraction, and the floating-point number it stands for is the one
nearest to that fraction.
-/

import Shorthand.Decimal.Positional

namespace Shorthand

/-- A decimal numeral: the digits before and after the point, and the power of ten they are
multiplied by. -/
structure Numeral where
  negative : Bool
  whole : List Char
  fraction : List Char
  exponent : Int

namespace Numeral

/-- Whether a sign in front is a minus, and the characters after it. -/
def readSign : List Char → Bool × List Char
  | '-' :: rest => (true, rest)
  | '+' :: rest => (false, rest)
  | characters => (false, characters)

/-- The exponent of a numeral: nothing at all, or a letter with a sign and digits up to the
end. -/
def readExponent? : List Char → Option Int
  | [] => some 0
  | letter :: rest =>
    if letter = 'e' ∨ letter = 'E' then
      let (negative, digits) := readSign rest
      if digits.isEmpty || !digits.all Char.isDigit then none
      else
        let size : Int := Nat.ofDigitChars 10 digits 0
        some (if negative then -size else size)
    else none

/-- The numeral that is written by all of the characters. -/
def read? (characters : List Char) : Option Numeral :=
  let (negative, unsigned) := readSign characters
  let whole := unsigned.takeWhile Char.isDigit
  let (fraction, rest) :=
    match unsigned.dropWhile Char.isDigit with
    | '.' :: rest => (rest.takeWhile Char.isDigit, rest.dropWhile Char.isDigit)
    | rest => ([], rest)
  if whole.isEmpty && fraction.isEmpty then none
  else (readExponent? rest).map fun exponent => ⟨negative, whole, fraction, exponent⟩

/-- All digits, read as one natural number. -/
def digits (numeral : Numeral) : Nat :=
  Nat.ofDigitChars 10 (numeral.whole ++ numeral.fraction) 0

/-- The power of ten of the last digit. -/
def lastExponent (numeral : Numeral) : Int := numeral.exponent - numeral.fraction.length

end Numeral

/-- The floating-point number nearest to the digits times ten to the exponent. A fraction from
`10 ^ 310` on is beyond all finite numbers and one below `10 ^ (-400)` is nearest to zero,
so exponents without bound need no powers without bound. -/
def nearestFloat (digits : Nat) (exponent : Int) : Float :=
  let leading := (digitsOf digits).length + exponent
  if digits = 0 then 0.0
  else if 310 < leading then 1.0 / 0.0
  else if leading < -400 then 0.0
  else if exponent < 0 then Float.ofScientific digits true exponent.natAbs
  else Float.ofScientific digits false exponent.natAbs

/-- The floating-point number nearest to the fraction that a numeral denotes. Zero keeps the
sign. -/
def Numeral.toFloat (numeral : Numeral) : Float :=
  let size := nearestFloat numeral.digits numeral.lastExponent
  if numeral.negative then -size else size

end Shorthand
