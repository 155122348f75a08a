/-
This file places floating-point numbers on a line.

The rank of a number is its sign, with infinities further out than all others, then its exponent
and then its mantissa, both counted downwards below zero. Ranks are compared one part after the
other, and that is how floating-point numbers are compared: unless one of them is not a number,
two numbers stand to each other as their ranks do.
-/

import Mathlib
import Shorthand.Number.Basic

namespace Shorthand

open Float.Model (UnpackedFloat)

/-! ### Ranks of numbers taken apart -/

/-- The place of a number among all others. Both zeros have the same. What is not a number is in no
order with others, so its rank says nothing. -/
def rankOf : UnpackedFloat → ℤ ×ₗ ℤ ×ₗ ℤ
  | .infinity .negative => toLex (-2, toLex (0, 0))
  | .finite .negative mantissa exponent _ => toLex (-1, toLex (-exponent, -mantissa))
  | .zero _ | .notANumber => toLex (0, toLex (0, 0))
  | .finite .positive mantissa exponent _ => toLex (1, toLex (exponent, mantissa))
  | .infinity .positive => toLex (2, toLex (0, 0))

theorem compare_toLex (sign exponent mantissa otherSign otherExponent otherMantissa : ℤ) :
    compare (toLex (sign, toLex (exponent, mantissa)))
        (toLex (otherSign, toLex (otherExponent, otherMantissa))) =
      (compare sign otherSign).then
        ((compare exponent otherExponent).then (compare mantissa otherMantissa)) := by
  rw [Prod.Lex.compare_def]
  simp only [compareLex, compareOn, ofLex_toLex]
  rfl

theorem compare_neg (left right : ℤ) : compare (-left) (-right) = compare right left := by
  rcases lt_trichotomy left right with less | equal | greater
  · rw [compare_gt_iff_gt.mpr less, compare_gt_iff_gt.mpr (Int.neg_lt_neg less)]
  · rw [equal, compare_eq_iff_eq.mpr rfl, compare_eq_iff_eq.mpr rfl]
  · rw [compare_lt_iff_lt.mpr greater, compare_lt_iff_lt.mpr (Int.neg_lt_neg greater)]

theorem compare_natCast (left right : ℕ) : compare (left : ℤ) right = compare left right := by
  rcases lt_trichotomy left right with less | equal | greater
  · rw [compare_lt_iff_lt.mpr less, compare_lt_iff_lt.mpr (Int.ofNat_lt.mpr less)]
  · rw [equal, compare_eq_iff_eq.mpr rfl, compare_eq_iff_eq.mpr rfl]
  · rw [compare_gt_iff_gt.mpr greater, compare_gt_iff_gt.mpr (Int.ofNat_lt.mpr greater)]

/-- Numbers taken apart are compared as their ranks are. -/
theorem compare_eq_rankOf {left right : UnpackedFloat} (isLeft : left ≠ .notANumber)
    (isRight : right ≠ .notANumber) :
    left.compare right = some (compare (rankOf left) (rankOf right)) := by
  cases left with
  | notANumber => exact absurd rfl isLeft
  | infinity sign =>
    cases right with
    | notANumber => exact absurd rfl isRight
    | infinity other => cases sign <;> cases other <;> rfl
    | zero other => cases sign <;> rfl
    | finite other => cases sign <;> cases other <;> rfl
  | zero sign =>
    cases right with
    | notANumber => exact absurd rfl isRight
    | infinity other => cases other <;> rfl
    | zero other => rfl
    | finite other => cases other <;> rfl
  | finite sign mantissa exponent =>
    cases right with
    | notANumber => exact absurd rfl isRight
    | infinity other => cases sign <;> cases other <;> rfl
    | zero other => cases sign <;> rfl
    | finite other otherMantissa otherExponent =>
      -- Only numbers with the same sign are compared by more than it.
      cases sign <;> cases other
      · rw [rankOf, rankOf, compare_toLex, compare_neg exponent, compare_neg mantissa,
          compare_natCast, UnpackedFloat.compare, Ordering.swap_then, ← Std.OrientedOrd.eq_swap,
          ← Std.OrientedOrd.eq_swap]
        rfl
      · rfl
      · rfl
      · rw [rankOf, rankOf, compare_toLex, compare_natCast, UnpackedFloat.compare]
        rfl

/-! ### Ranks of floating-point numbers -/

/-- The place of a floating-point number among all others. -/
def floatRank (number : Float) : ℤ ×ₗ ℤ ×ₗ ℤ := rankOf number.toModel.unpack

theorem unpack_ne_of_not_isNaN {number : Float} (isNumber : number.isNaN = false) :
    number.toModel.unpack ≠ .notANumber := by
  intro same
  have isNaN : number.isNaN = number.toModel.unpack.isNaN := rfl
  rw [isNaN, same] at isNumber
  cases isNumber

/-- A floating-point number is less than another one if it is so when both are taken apart. -/
theorem float_lt_iff_compare {left right : Float} :
    left < right ↔ left.toModel.unpack.compare right.toModel.unpack = some .lt := by
  have less : left < right ↔
      (left.toModel.unpack.compare right.toModel.unpack == some .lt) = true := by
    show decide _ = true ↔ _
    exact decide_eq_true_iff
  rw [less, beq_iff_eq]

theorem float_beq_eq_compare (left right : Float) :
    (left == right) = (left.toModel.unpack.compare right.toModel.unpack == some .eq) := rfl

section

variable {left right : Float} (isLeft : left.isNaN = false) (isRight : right.isNaN = false)

include isLeft isRight

theorem float_compare : left.toModel.unpack.compare right.toModel.unpack =
    some (compare (floatRank left) (floatRank right)) :=
  compare_eq_rankOf (unpack_ne_of_not_isNaN isLeft) (unpack_ne_of_not_isNaN isRight)

theorem float_lt_iff : left < right ↔ floatRank left < floatRank right := by
  rw [float_lt_iff_compare, float_compare isLeft isRight, Option.some_inj, compare_lt_iff_lt]

theorem float_beq_iff : (left == right) = true ↔ floatRank left = floatRank right := by
  rw [float_beq_eq_compare, float_compare isLeft isRight, beq_iff_eq, Option.some_inj,
    compare_eq_iff_eq]

/-- Two floating-point numbers are in the order of their ranks. -/
theorem compareFloats_eq_rank :
    Number.compareFloats left right = some (compare (floatRank left) (floatRank right)) := by
  rw [Number.compareFloats]
  simp only [float_lt_iff isLeft isRight, float_beq_iff isLeft isRight,
    float_lt_iff isRight isLeft]
  rcases lt_trichotomy (floatRank left) (floatRank right) with less | equal | greater
  · rw [if_pos less, compare_lt_iff_lt.mpr less]
  · rw [if_neg equal.not_lt, if_pos equal, compare_eq_iff_eq.mpr equal]
  · rw [if_neg greater.not_gt, if_neg greater.ne', if_pos greater, compare_gt_iff_gt.mpr greater]

end

end Shorthand
