/-
This file writes numbers as text and reads text as numbers.

A whole number below `10 ^ 21` is written with all its digits, any other finite number with
the shortest digits that read back, always without an exponent. Reading is more generous: it
ignores blanks around the number, takes the empty text as zero, knows hexadecimal digits and
exponents, and yields what is not a number for every other text.
-/

import Shorthand.Number.Basic
import Shorthand.Decimal.Numeral
import Shorthand.Text.Blank

namespace Shorthand

/-! ### Writing -/

/-- The decimal digits of an integer, with its sign. -/
def integerText (value : Int) : String := toString value

/-- The bound below which whole numbers are written with all their digits, ten to the 21. -/
def digitsBound : Nat := 1000000000000000000000

/-- The text of a floating-point number. The negative zero has no sign. -/
def floatText (number : Float) : String :=
  match Binary.ofFloat? number with
  | some fraction =>
    let digits :=
      if fraction.isWhole ∧ fraction.truncate.natAbs < digitsBound then
        digitsOf fraction.truncate.natAbs
      else (fraction.shortest .away).positional
    String.ofList (if fraction.negative && fraction.mantissa != 0 then '-' :: digits else digits)
  | none =>
    if number.isNaN then "NaN" else if number < 0 then "-Infinity" else "Infinity"

namespace Number

/-- The text of a number. -/
def text : Number → String
  | .integer value => integerText value.toInt
  | .float value => floatText value

/-- The number with a fixed count of decimal places. The sign of a negative number stays even
when all digits are zero. -/
def fixedText (number : Float) (places : Nat) : String :=
  match Binary.ofFloat? number with
  | some fraction =>
    let digits := fraction.fixed places
    String.ofList (if fraction.negative then '-' :: digits else digits)
  | none => if number.isNaN then "NaN" else if number < 0 then "-inf" else "inf"

end Number

/-! ### Reading -/

/-- The value of a hexadecimal digit. -/
def hexDigit? (character : Char) : Option Nat :=
  if character.isDigit then some (character.toNat - '0'.toNat)
  else if 'a' ≤ character ∧ character ≤ 'f' then some (character.toNat - 'a'.toNat + 10)
  else if 'A' ≤ character ∧ character ≤ 'F' then some (character.toNat - 'A'.toNat + 10)
  else none

/-- The value of hexadecimal digits, of which there must be one at least. -/
def hexValue? (characters : List Char) : Option Nat :=
  if characters.isEmpty then none
  else characters.foldlM (fun value character => (hexDigit? character).map (16 * value + ·)) 0

/-- The integer of 64 bits written by hexadecimal digits with an optional sign. -/
def hexWord? (characters : List Char) : Option Int64 :=
  let (negative, digits) := Numeral.readSign characters
  (hexValue? digits).bind fun size => wordOf? (if negative then -(size : Int) else size)

/-- The number that a text stands for. -/
def numberOfText (text : String) : Float :=
  match Text.trim text.toList with
  | [] => 0.0
  | '0' :: 'x' :: digits | '0' :: 'X' :: digits =>
    match hexWord? digits with
    | some value => Float.ofInt value.toInt
    | none => 0.0 / 0.0
  | characters =>
    if characters = "Infinity".toList ∨ characters = "+Infinity".toList then 1.0 / 0.0
    else if characters = "-Infinity".toList then -1.0 / 0.0
    else
      match Numeral.read? characters with
      | some numeral => numeral.toFloat
      | none => 0.0 / 0.0

end Shorthand
