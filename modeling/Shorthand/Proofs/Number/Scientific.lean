/-
This file shows that no decimal numeral becomes what is not a number.

The digits of a numeral are converted and multiplied by a power of ten or divided by one. A power of
ten is finite and not zero, so it makes no number out of what is none and nothing else out of a
number. Numerals beyond all powers are infinite or zero.
-/

import Mathlib
import Shorthand.Decimal.Numeral
import Shorthand.Proofs.Number.Whole

namespace Shorthand

open Float.Model Float.Model.UnpackedFloat

theorem isNaN_normalize (mantissa exponent : ℤ) (zeroSign : Sign) :
    (UnpackedFloat.normalize .binary64 mantissa exponent zeroSign).isNaN = false := by
  rw [UnpackedFloat.normalize]
  split
  · exact isNaN_roundWithAccuracy ..
  · rfl
  · exact isNaN_roundWithAccuracy ..

theorem isNaN_toFloat (word : UInt64) : word.toFloat.isNaN = false := by
  show (UnpackedFloat.unpack .binary64 (UnpackedFloat.pack .binary64
    (UnpackedFloat.normalize .binary64 word.toNat 0 .positive))).isNaN = false
  rw [isNaN_unpack_pack, isNaN_normalize]

/-- Whether a number is finite and not zero. -/
def hasMantissa (number : Float) : Bool :=
  match number.toModel.unpack with
  | .finite .. => true
  | _ => false

theorem unpack_of_hasMantissa {number : Float} (holds : hasMantissa number = true) :
    ∃ sign mantissa exponent positive,
      number.toModel.unpack = .finite sign mantissa exponent positive := by
  rw [hasMantissa] at holds
  split at holds
  · exact ⟨_, _, _, _, ‹_›⟩
  · cases holds

section

variable (number : Float) {other : Float} (holds : hasMantissa other = true)
include holds

theorem isNaN_mul : (number * other).isNaN = number.isNaN := by
  obtain ⟨sign, mantissa, exponent, positive, unpacked⟩ := unpack_of_hasMantissa holds
  show (UnpackedFloat.unpack .binary64 (UnpackedFloat.pack .binary64
    (UnpackedFloat.mul .binary64 number.toModel.unpack other.toModel.unpack))).isNaN =
      number.toModel.unpack.isNaN
  rw [isNaN_unpack_pack, unpacked]
  cases number.toModel.unpack with
  | finite => exact isNaN_mul_finite ..
  | _ => rfl

theorem isNaN_div : (number / other).isNaN = number.isNaN := by
  obtain ⟨sign, mantissa, exponent, positive, unpacked⟩ := unpack_of_hasMantissa holds
  show (UnpackedFloat.unpack .binary64 (UnpackedFloat.pack .binary64
    (UnpackedFloat.div .binary64 number.toModel.unpack other.toModel.unpack))).isNaN =
      number.toModel.unpack.isNaN
  rw [isNaN_unpack_pack, unpacked]
  cases number.toModel.unpack with
  | finite => exact isNaN_roundWithAccuracy ..
  | _ => rfl

end

theorem hasMantissa_power : ∀ power ∈ Float.exactlyRepresentablePowersOfTen,
    hasMantissa power = true := by decide

theorem isNaN_scientific (digits : ℕ) (negative : Bool) (exponent : ℕ) :
    (Float.ofScientific digits negative exponent).isNaN = false := by
  rw [Float.ofScientific]
  by_cases small : digits < 2 ^ 53 ∧ exponent ≤ 22
  · rw [dif_pos small]
    have power := hasMantissa_power _ (Array.getElem_mem (Nat.lt_succ_of_le small.2))
    cases negative with
    | true => exact (isNaN_div _ power).trans (isNaN_toFloat _)
    | false => exact (isNaN_mul _ power).trans (isNaN_toFloat _)
  · rw [dif_neg small]
    exact (isNaN_unpack_pack _).trans (isNaN_ofScientific ..)

theorem isNaN_nearestFloat (digits : ℕ) (exponent : ℤ) :
    (nearestFloat digits exponent).isNaN = false := by
  rw [nearestFloat]
  split_ifs
  · rfl
  · rfl
  · rfl
  · exact isNaN_scientific ..
  · exact isNaN_scientific ..

theorem Numeral.isNaN_toFloat (numeral : Numeral) : numeral.toFloat.isNaN = false := by
  rw [Numeral.toFloat]
  split_ifs
  · rw [isNaN_neg, isNaN_nearestFloat]
  · exact isNaN_nearestFloat ..

end Shorthand
