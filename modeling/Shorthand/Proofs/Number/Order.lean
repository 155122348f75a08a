/-
This file shows how numbers are ordered by the operators of the expression language.

Every number stands on the line of the floating-point numbers, integers at the place of the
nearest one. The relational operators compare places. Equality without conversion does so too,
except that it tells two integers apart even when they have one place. Two such integers are
blurred: neither is less than the other and they are not the same, and yet each is less than or
the same as the other. Apart from them the operators describe one order, and integers of up to
53 bits are never blurred.
-/

import Mathlib
import Shorthand.Proofs.Number.Whole
import Shorthand.Value.Operate

namespace Shorthand

namespace Number

/-- Whether the number is one. Every integer is. -/
def IsReal : Number → Prop
  | .integer _ => True
  | .float value => value.isNaN = false

/-- The place of the number on the line. -/
def rank (number : Number) : ℤ ×ₗ ℤ ×ₗ ℤ := floatRank number.toFloat

/-- Two integers which the floating-point numbers do not tell apart. -/
def Blurred (left right : Number) : Prop :=
  ∃ word other : Int64, left = .integer word ∧ right = .integer other ∧ word ≠ other ∧
    (Float.ofInt word.toInt == Float.ofInt other.toInt) = true

/-- Whether the operator finds the two numbers to be as it says. -/
def Holds (heap : Heap) (operator : BinaryOperator) (left right : Number) : Prop :=
  Value.binary heap operator (.number left) (.number right) = .boolean true

/-- Exactly one of the two numbers is less than the other, or both are the same. -/
def Trichotomous (heap : Heap) (left right : Number) : Prop :=
  Holds heap .less left right ∧ ¬Holds heap .same left right ∧ ¬Holds heap .less right left ∨
  ¬Holds heap .less left right ∧ Holds heap .same left right ∧ ¬Holds heap .less right left ∨
  ¬Holds heap .less left right ∧ ¬Holds heap .same left right ∧ Holds heap .less right left

/-! ### Operators as relations between places -/

theorem isReal_integer (word : Int64) : (integer word).IsReal := trivial

theorem IsReal.isNaN {number : Number} (real : number.IsReal) : number.toFloat.isNaN = false := by
  cases number with
  | integer value => exact isNaN_ofInt value.toInt
  | float value => exact real

theorem holds_ordered (heap : Heap) (orders : Ordering → Bool) (left right : Number) :
    Value.ordered heap orders (.number left) (.number right) = .boolean true ↔
      (left.compare right).any orders = true := by
  show Value.boolean _ = Value.boolean true ↔ _
  rw [Value.boolean.injEq]
  rfl

theorem holds_same (heap : Heap) (left right : Number) :
    Holds heap .same left right ↔ left.same right = true := by
  show Value.boolean _ = Value.boolean true ↔ _
  rw [Value.boolean.injEq]
  rfl

section

variable {heap : Heap} {left right : Number} (isLeft : left.IsReal) (isRight : right.IsReal)

include isLeft isRight

theorem compare_eq_rank : left.compare right = some (Ord.compare left.rank right.rank) :=
  compareFloats_eq_rank isLeft.isNaN isRight.isNaN

theorem holds_less_iff : Holds heap .less left right ↔ left.rank < right.rank := by
  refine (holds_ordered heap _ left right).trans ?_
  rw [compare_eq_rank isLeft isRight, Option.any_some, beq_iff_eq, compare_lt_iff_lt]

theorem holds_greater_iff : Holds heap .greater left right ↔ right.rank < left.rank := by
  refine (holds_ordered heap _ left right).trans ?_
  rw [compare_eq_rank isLeft isRight, Option.any_some, beq_iff_eq, compare_gt_iff_gt]

theorem holds_lessEqual_iff : Holds heap .lessEqual left right ↔ left.rank ≤ right.rank := by
  refine (holds_ordered heap _ left right).trans ?_
  rw [compare_eq_rank isLeft isRight, Option.any_some, bne_iff_ne, compare_le_iff_le]

theorem holds_greaterEqual_iff :
    Holds heap .greaterEqual left right ↔ right.rank ≤ left.rank := by
  refine (holds_ordered heap _ left right).trans ?_
  rw [compare_eq_rank isLeft isRight, Option.any_some, bne_iff_ne, compare_ge_iff_ge]

theorem beq_toFloat_iff : (left.toFloat == right.toFloat) = true ↔ left.rank = right.rank :=
  float_beq_iff isLeft.isNaN isRight.isNaN

/-- Numbers are the same if they have one place and are not blurred there. -/
theorem holds_same_iff :
    Holds heap .same left right ↔ left.rank = right.rank ∧ ¬Blurred left right := by
  rw [holds_same, ← beq_toFloat_iff isLeft isRight]
  cases left with
  | float value =>
    refine (and_iff_left ?_).symm
    rintro ⟨word, other, isWord, -⟩
    cases isWord
  | integer word =>
    cases right with
    | float value =>
      refine (and_iff_left ?_).symm
      rintro ⟨word, other, -, isOther, -⟩
      cases isOther
    | integer other =>
      show (word == other) = true ↔ _
      rw [beq_iff_eq]
      constructor
      · rintro rfl
        refine ⟨(beq_toFloat_iff isLeft isLeft).mpr rfl, ?_⟩
        rintro ⟨first, second, isFirst, isSecond, different, -⟩
        cases isFirst
        cases isSecond
        exact different rfl
      · rintro ⟨equal, apart⟩
        by_contra different
        exact apart ⟨word, other, rfl, rfl, different, equal⟩

end

/-! ### Blurred numbers -/

theorem Blurred.rank_eq {left right : Number} (blurred : Blurred left right) :
    left.rank = right.rank := by
  obtain ⟨word, other, rfl, rfl, -, equal⟩ := blurred
  exact (float_beq_iff (isNaN_ofInt _) (isNaN_ofInt _)).mp equal

/-- Integers of up to 53 bits, and the next ones, are compared exactly. -/
theorem holds_less_integer (heap : Heap) {left right : Int64}
    (insideLeft : left.toInt.natAbs ≤ 2 * hiddenBit)
    (insideRight : right.toInt.natAbs ≤ 2 * hiddenBit) :
    Holds heap .less (.integer left) (.integer right) ↔ left.toInt < right.toInt := by
  rw [holds_less_iff (isReal_integer left) (isReal_integer right)]
  constructor
  · intro less
    by_contra notLess
    rcases lt_or_eq_of_le (not_lt.mp notLess) with greater | equal
    · exact less.not_gt (floatRank_ofInt_lt greater insideRight insideLeft)
    · exact less.ne (congrArg (floatRank <| Float.ofInt ·) equal.symm)
  · exact fun less => floatRank_ofInt_lt less insideLeft insideRight

theorem not_blurred_of_natAbs_le {left right : Int64}
    (insideLeft : left.toInt.natAbs ≤ 2 * hiddenBit)
    (insideRight : right.toInt.natAbs ≤ 2 * hiddenBit) :
    ¬Blurred (.integer left) (.integer right) := by
  intro blurred
  have equal := blurred.rank_eq
  obtain ⟨word, other, isWord, isOther, different, -⟩ := blurred
  cases isWord
  cases isOther
  have integers : left.toInt ≠ right.toInt := fun same => different (Int64.toInt_inj.mp same)
  rcases lt_or_gt_of_ne integers with less | greater
  · exact (floatRank_ofInt_lt less insideLeft insideRight).ne equal
  · exact (floatRank_ofInt_lt greater insideRight insideLeft).ne equal.symm

/-! ### The order of numbers -/

/-- The numbers are in one order up to blurred ones. Of two numbers that are not blurred exactly
one is less than the other or both are the same, and the operators that allow for both say so.
Blurred numbers are not in any of these relations, and yet each is less than or the same as the
other. What is less than a lesser number is less, and what is the same as the same number is the
same or blurred. Integers of up to 53 bits, and the next ones, are not blurred and stand to each
other as integers do. -/
theorem numbers_ordered_up_to_blur (heap : Heap) {first second third : Number}
    (isFirst : first.IsReal) (isSecond : second.IsReal) (isThird : third.IsReal) :
    (¬Blurred first second → Trichotomous heap first second ∧
      (Holds heap .lessEqual first second ↔
        Holds heap .less first second ∨ Holds heap .same first second)) ∧
    (Blurred first second →
      ¬Holds heap .less first second ∧ ¬Holds heap .same first second ∧
        ¬Holds heap .less second first ∧
      Holds heap .lessEqual first second ∧ Holds heap .lessEqual second first) ∧
    (Holds heap .greater first second ↔ Holds heap .less second first) ∧
    (Holds heap .greaterEqual first second ↔ Holds heap .lessEqual second first) ∧
    (Holds heap .less first second → Holds heap .less second third →
      Holds heap .less first third) ∧
    (Holds heap .same first second → Holds heap .same second third →
      Holds heap .same first third ∨ Blurred first third) ∧
    ∀ word other : Int64, word.toInt.natAbs ≤ 2 * hiddenBit →
      other.toInt.natAbs ≤ 2 * hiddenBit →
        ¬Blurred (.integer word) (.integer other) ∧
          (Holds heap .less (.integer word) (.integer other) ↔ word.toInt < other.toInt) := by
  rw [Trichotomous, holds_less_iff isFirst isSecond, holds_less_iff isSecond isFirst,
    holds_less_iff isSecond isThird, holds_less_iff isFirst isThird,
    holds_greater_iff isFirst isSecond, holds_lessEqual_iff isFirst isSecond,
    holds_lessEqual_iff isSecond isFirst, holds_greaterEqual_iff isFirst isSecond,
    holds_same_iff isFirst isSecond, holds_same_iff isSecond isThird,
    holds_same_iff isFirst isThird]
  refine ⟨fun apart => ⟨?trichotomous, ?lessEqual⟩, fun blurred => ?blurred, Iff.rfl, Iff.rfl,
    lt_trans, ?same, fun word other insideWord insideOther =>
      ⟨not_blurred_of_natAbs_le insideWord insideOther,
        holds_less_integer heap insideWord insideOther⟩⟩
  case trichotomous =>
    rcases lt_trichotomy first.rank second.rank with less | equal | greater
    · exact .inl ⟨less, fun same => less.ne same.1, less.not_gt⟩
    · exact .inr (.inl ⟨equal.not_lt, ⟨equal, apart⟩, equal.not_gt⟩)
    · exact .inr (.inr ⟨greater.not_gt, fun same => greater.ne same.1.symm, greater⟩)
  case lessEqual => rw [le_iff_lt_or_eq, and_iff_left apart]
  case blurred =>
    have equal := blurred.rank_eq
    exact ⟨equal.not_lt, fun same => same.2 blurred, equal.not_gt, equal.le, equal.ge⟩
  case same =>
    rintro ⟨equal, -⟩ ⟨equalNext, -⟩
    by_cases blurred : Blurred first third
    · exact .inr blurred
    · exact .inl ⟨equal.trans equalNext, blurred⟩

/-- Two integers and a floating-point number at one place. -/
theorem neighbours_ordered_up_to_blur :
    (integer 9007199254740992).IsReal ∧ (integer 9007199254740993).IsReal ∧
    (float (Float.ofInt 9007199254740992)).IsReal ∧
    Blurred (integer 9007199254740992) (integer 9007199254740993) ∧
    ¬Holds Heap.empty .less (integer 9007199254740992) (integer 9007199254740993) := by
  have isFirst : (integer 9007199254740992).IsReal := trivial
  have isSecond : (integer 9007199254740993).IsReal := trivial
  have isThird : (float (Float.ofInt 9007199254740992)).IsReal := isNaN_ofInt _
  have blurred : Blurred (integer 9007199254740992) (integer 9007199254740993) :=
    ⟨_, _, rfl, rfl, by decide, by decide +kernel⟩
  exact ⟨isFirst, isSecond, isThird, blurred,
    ((numbers_ordered_up_to_blur Heap.empty isFirst isSecond isThird).2.1 blurred).1⟩

/-- Blurred numbers break both that one of three relations holds and that being the same carries
over. -/
theorem neighbours_in_no_relation :
    ¬Holds Heap.empty .less (integer 9007199254740992) (integer 9007199254740993) ∧
    ¬Holds Heap.empty .same (integer 9007199254740992) (integer 9007199254740993) ∧
    ¬Holds Heap.empty .less (integer 9007199254740993) (integer 9007199254740992) ∧
    Holds Heap.empty .lessEqual (integer 9007199254740992) (integer 9007199254740993) ∧
    Holds Heap.empty .same (integer 9007199254740992) (float (Float.ofInt 9007199254740992)) ∧
    Holds Heap.empty .same (float (Float.ofInt 9007199254740992)) (integer 9007199254740993) := by
  refine ⟨fun less => ?_, fun same => ?_, fun greater => ?_, ?_, ?_, ?_⟩
  · exact absurd ((holds_ordered ..).mp less) (by decide +kernel)
  · exact absurd ((holds_same ..).mp same) (by decide)
  · exact absurd ((holds_ordered ..).mp greater) (by decide +kernel)
  · exact (holds_ordered ..).mpr (by decide +kernel)
  · exact (holds_same ..).mpr (by decide +kernel)
  · exact (holds_same ..).mpr (by decide +kernel)

end Number

end Shorthand
