/-
This file reads the numbers of JSON documents.

A number of digits alone is an integer if it has 64 bits. For all others the digits are taken
up into one natural number of 64 bits for as long as it has room, the digits that are left
count only by their places, and the power of ten is applied in floating point. The result can
differ from the nearest number in its last bit.
-/

import Shorthand.Json.Basic

namespace Shorthand.Json

/-! ### The shape of a number -/

/-- A number as it is written. -/
structure Written where
  negative : Bool
  whole : List Char
  /-- The digits after the point, if there is one. -/
  fraction : Option (List Char)
  /-- The power of ten after the letter, if there is one. -/
  exponent : Option Int

/-- The digits that begin a text, one at least. -/
def digitsAt? (characters : List Char) : Option (List Char) :=
  let digits := characters.takeWhile Char.isDigit
  if digits.isEmpty then none else some digits

/-- The digits before the point that begin a text. Zero is a number of its own. -/
def wholeAt? : List Char → Option (List Char)
  | '0' :: _ => some ['0']
  | characters => digitsAt? characters

/-- The digits after the point that begins a text, if there is one, and the count of the
characters of both. -/
def fractionAt? : List Char → Option (Option (List Char) × Nat)
  | '.' :: rest => (digitsAt? rest).map fun digits => (some digits, digits.length + 1)
  | _ => some (none, 0)

/-- The exponent that begins a text, if there is one, and the count of its characters. -/
def exponentAt? : List Char → Option (Option Int × Nat)
  | [] => some (none, 0)
  | letter :: rest =>
    if letter = 'e' ∨ letter = 'E' then
      let (negative, unsigned) := Numeral.readSign rest
      let signCount := if rest.head? = some '-' ∨ rest.head? = some '+' then 1 else 0
      (digitsAt? unsigned).map fun digits =>
        let size : Int := Nat.ofDigitChars 10 digits 0
        (some (if negative then -size else size), signCount + digits.length + 1)
    else some (none, 0)

/-- The number that begins a text, and the count of its characters. -/
def writtenAt? (characters : List Char) : Option (Written × Nat) := do
  let negative := characters.head? = some '-'
  let signCount := if negative then 1 else 0
  let whole ← wholeAt? (characters.drop signCount)
  let rest := characters.drop (signCount + whole.length)
  let (fraction, fractionCount) ← fractionAt? rest
  let (exponent, exponentCount) ← exponentAt? (rest.drop fractionCount)
  some (⟨negative, whole, fraction, exponent⟩,
    signCount + whole.length + fractionCount + exponentCount)

/-! ### The value of a number -/

/-- Takes digits up into a natural number of 64 bits for as long as it has room. Yields the
digits that are left, the first of which had none. -/
def takeUp (significand : Nat) : List Char → Nat × List Char
  | [] => (significand, [])
  | digit :: rest =>
    let next := 10 * significand + (digit.toNat - '0'.toNat)
    if next < UInt64.size then takeUp next rest else (significand, digit :: rest)

/-- The greatest power of ten that is a finite number. -/
def greatestPower : Nat := 308

/-- A number times ten to an exponent, by one operation if the power is a number. There is no
result beyond the finite numbers. -/
def scaled? (exponent : Int) (value : Float) : Option Float :=
  if exponent.natAbs ≤ greatestPower then
    if 0 ≤ exponent then
      let product := value * nearestFloat 1 exponent.natAbs
      if product.isFinite then some product else none
    else some (value / nearestFloat 1 exponent.natAbs)
  else if value == 0.0 then some value
  else if 0 ≤ exponent then none
  else scaled? (exponent + greatestPower) (value / nearestFloat 1 greatestPower)
termination_by exponent.natAbs
decreasing_by
  simp only [greatestPower] at *
  omega

/-- The floating-point number of a written number. -/
def Written.toFloat? (written : Written) : Option Float :=
  let (significand, rest) := takeUp 0 written.whole
  let fraction := written.fraction.getD []
  let (significand, dropped) := takeUp significand fraction
  let places : Int := rest.length - (fraction.length - dropped.length : Nat)
  (scaled? (written.exponent.getD 0 + places) (Float.ofNat significand)).map fun size =>
    if written.negative then -size else size

/-- The number that is written. The negative zero is no integer. -/
def Written.number? (written : Written) : Option Number :=
  let size : Int := Nat.ofDigitChars 10 written.whole 0
  let word? :=
    if written.fraction.isSome || written.exponent.isSome then none
    else if written.negative then if size = 0 then none else wordOf? (-size)
    else wordOf? size
  match word? with
  | some word => some (.integer word)
  | none => written.toFloat?.map .float

end Shorthand.Json
