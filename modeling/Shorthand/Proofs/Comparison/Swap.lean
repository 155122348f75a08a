/-
This file shows that equality and order are consistent when the operands are swapped.

Equality without conversion is symmetric, and an order turns around. Equality after conversion
replaces one operand at a time: a boolean by its number, and a list or a map by its plain text.
Nothing is replaced twice, so this ends after two replacements at the latest, and what it ends
with does not depend on which operand stands first.
-/

import Mathlib
import Shorthand.Proofs.Number.Rank
import Shorthand.Value.Operate

namespace Shorthand

/-! ### Floating-point numbers -/

open Float.Model (UnpackedFloat)

/-- Numbers taken apart are in the opposite order when they are swapped, or in none. -/
theorem unpacked_compare_swap (left right : UnpackedFloat) :
    right.compare left = (left.compare right).map Ordering.swap := by
  by_cases isLeft : left = .notANumber
  · subst isLeft
    cases right <;> rfl
  · by_cases isRight : right = .notANumber
    · subst isRight
      cases left <;> rfl
    · rw [compare_eq_rankOf isLeft isRight, compare_eq_rankOf isRight isLeft, Option.map_some,
        ← Std.OrientedOrd.eq_swap]

theorem float_beq_comm (left right : Float) : (left == right) = (right == left) := by
  rw [float_beq_eq_compare, float_beq_eq_compare, unpacked_compare_swap left.toModel.unpack]
  rcases left.toModel.unpack.compare right.toModel.unpack with _ | order
  · rfl
  · cases order <;> rfl

/-- Floating-point numbers are compared by taking them apart. -/
theorem Number.compareFloats_eq_compare (left right : Float) :
    compareFloats left right = left.toModel.unpack.compare right.toModel.unpack := by
  have swapped := unpacked_compare_swap left.toModel.unpack right.toModel.unpack
  rw [compareFloats]
  simp only [float_lt_iff_compare, float_beq_eq_compare, swapped]
  rcases left.toModel.unpack.compare right.toModel.unpack with _ | order
  · rfl
  · cases order <;> rfl

theorem Number.compareFloats_swap (left right : Float) :
    compareFloats right left = (compareFloats left right).map Ordering.swap := by
  rw [compareFloats_eq_compare, compareFloats_eq_compare, unpacked_compare_swap]

theorem Number.same_comm (left right : Number) : left.same right = right.same left := by
  cases left with
  | float value => cases right <;> exact float_beq_comm _ _
  | integer word =>
    cases right with
    | float value => exact float_beq_comm _ _
    | integer other => exact BEq.comm

namespace Value

/-! ### Equality without conversion, and order -/

/-- Whether the operator finds the two values to be as it says. -/
def Holds (heap : Heap) (operator : BinaryOperator) (left right : Value) : Prop :=
  left.binary heap operator right = .boolean true

/-- Apart from numbers, only a value itself is the same as it. -/
theorem same_cases {left right : Value} (same : left.same right = true) :
    left = right ∨
      ∃ value other, left = .number value ∧ right = .number other ∧ value.same other = true := by
  fun_cases left.same right with
  | case1 => exact .inl rfl
  | case2 => exact .inl rfl
  | case3 value other => exact .inl (congrArg boolean (beq_iff_eq.mp same))
  | case4 value other => exact .inr ⟨value, other, rfl, rfl, same⟩
  | case5 value other => exact .inl (congrArg string (beq_iff_eq.mp same))
  | case6 cell other => exact .inl (congrArg list (beq_iff_eq.mp same))
  | case7 cell other => exact .inl (congrArg map (beq_iff_eq.mp same))
  | case8 cell other => exact .inl (congrArg function (beq_iff_eq.mp same))
  | case9 instant other =>
    exact .inl (congrArg date (beq_iff_eq.mp same))
  | case10 left right => simp_all [Value.same]

theorem same_symm {left right : Value} (same : left.same right = true) :
    right.same left = true := by
  rcases same_cases same with rfl | ⟨value, other, rfl, rfl, sameNumber⟩
  · exact same
  · exact (other.same_comm value).trans sameNumber

theorem same_comm (left right : Value) : left.same right = right.same left :=
  Bool.eq_iff_iff.mpr ⟨same_symm, same_symm⟩

/-- Without floating-point numbers only a value itself is the same as it. -/
theorem eq_of_same {left right : Value} (noFloatLeft : ∀ float, left ≠ .number (.float float))
    (noFloatRight : ∀ float, right ≠ .number (.float float)) (same : left.same right = true) :
    left = right := by
  rcases same_cases same with same | ⟨value, other, rfl, rfl, sameNumber⟩
  · exact same
  · cases value with
    | float float => exact absurd rfl (noFloatLeft float)
    | integer value =>
      cases other with
      | float float => exact absurd rfl (noFloatRight float)
      | integer other => rw [beq_iff_eq.mp sameNumber]

/-- A value that is no floating-point number is the same as itself. -/
theorem same_self {value : Value} (noFloat : ∀ float, value ≠ .number (.float float)) :
    value.same value = true := by
  cases value with
  | number number =>
    cases number with
    | float float => exact absurd rfl (noFloat float)
    | integer word => exact beq_self_eq_true word
  | date instant => exact beq_self_eq_true instant
  | undefined => rfl
  | null => rfl
  | _ => exact beq_self_eq_true _

theorem compareTexts_swap (left right : String) :
    compareTexts right left = (compareTexts left right).swap := by
  rw [compareTexts, compareTexts]
  rcases lt_trichotomy left right with less | equal | greater
  · rw [if_neg less.not_gt, if_neg less.ne', if_pos less]
    rfl
  · rw [equal, if_neg (lt_irrefl right), if_pos rfl]
    rfl
  · rw [if_pos greater, if_neg greater.not_gt, if_neg greater.ne']
    rfl

/-- Two values are in the opposite order when they are swapped, or in none. -/
theorem compare_swap (heap : Heap) (left right : Value) :
    right.compare heap left = (left.compare heap right).map Ordering.swap := by
  rw [compare, compare]
  cases left.toPrimitive heap .number with
  | string text =>
    cases right.toPrimitive heap .number with
    | string other => exact congrArg some (compareTexts_swap text other)
    | _ => exact Number.compareFloats_swap _ _
  | _ => cases right.toPrimitive heap .number <;> exact Number.compareFloats_swap _ _

theorem holds_ordered_iff {heap : Heap} {orders : Ordering → Bool} {left right : Value} :
    left.ordered heap orders right = .boolean true ↔
      ∃ order, left.compare heap right = some order ∧ orders order = true := by
  rw [ordered, boolean.injEq, Option.any_eq_true]

/-- An order of values holds of the operands swapped if the opposite order holds of them. -/
theorem ordered_swap (heap : Heap) {orders opposite : Ordering → Bool}
    (turned : ∀ order, opposite order.swap = orders order) (left right : Value) :
    left.ordered heap orders right = right.ordered heap opposite left := by
  rw [ordered, ordered, compare_swap heap left right, Option.any_map]
  exact congrArg (fun test => boolean ((left.compare heap right).any test))
    (funext fun order => (turned order).symm)

/-! ### Equality after conversion -/

theorem equalPrimitives_comm (left right : Value) :
    equalPrimitives left right = equalPrimitives right left := by
  fun_cases equalPrimitives left right with
  | case1 text value => exact float_beq_comm _ _
  | case2 value text => exact float_beq_comm _ _
  | case3 left right notText notNumber =>
    rw [equalPrimitives]
    · exact same_comm left right
    · exact fun text value isText isNumber => notNumber _ _ isNumber isText
    · exact fun value text isNumber isText => notText _ _ isText isNumber

theorem looselyEqual_comm (heap : Heap) (left right : Value) :
    looselyEqual heap left right = looselyEqual heap right left := by
  rw [looselyEqual, looselyEqual, Bool.or_comm, Bool.and_comm]
  simp only [equalPrimitives_comm]

/-- A missing value equals missing values and nothing else. -/
theorem looselyEqual_of_isNone (heap : Heap) {missing : Value} (isMissing : missing.isNone = true)
    (value : Value) : looselyEqual heap missing value = value.isNone := by
  rw [looselyEqual, isMissing, Bool.true_or, if_pos rfl, Bool.true_and]

theorem isNone_iff {value : Value} : value.isNone = true ↔ value = .undefined ∨ value = .null := by
  cases value <;> simp [isNone]

theorem looselyEqual_of_same (heap : Heap) {left right : Value} (same : left.same right = true) :
    looselyEqual heap left right = true := by
  rcases same_cases same with rfl | ⟨value, other, rfl, rfl, sameNumber⟩
  · cases left with
    | boolean value => cases value <;> rfl
    | _ => exact same
  · exact sameNumber

/-! ### Conversions

Equality after conversion can also be told one conversion at a time. -/

/-- Whether a value meets text and numbers as its plain text. -/
def hasParts : Value → Bool
  | .list _ | .map _ => true
  | _ => false

theorem not_isTextOrNumber {value : Value} (parts : value.hasParts = true) :
    ¬value.isTextOrNumber = true := by
  cases value with
  | list | map => exact Bool.false_ne_true
  | _ => cases parts

/-- One conversion in the comparison of two values. A boolean becomes its number before anything
else, and a list or a map becomes its plain text where it meets text or a number. Nothing becomes
anything beside a missing value. -/
inductive Converts (heap : Heap) : Value × Value → Value × Value → Prop where
  | booleanLeft {value : Bool} {right : Value} (present : right.isNone = false) :
    Converts heap (.boolean value, right) (.number ((Value.boolean value).toNumber heap), right)
  | booleanRight {left : Value} {value : Bool} (present : left.isNone = false)
      (notBoolean : ∀ other, left ≠ .boolean other) :
    Converts heap (left, .boolean value) (left, .number ((Value.boolean value).toNumber heap))
  | partsLeft {left right : Value} (parts : left.hasParts = true)
      (meets : right.isTextOrNumber = true) :
    Converts heap (left, right) (left.toPrimitive heap .number, right)
  | partsRight {left right : Value} (meets : left.isTextOrNumber = true)
      (parts : right.hasParts = true) :
    Converts heap (left, right) (left, right.toPrimitive heap .number)

/-- Whether two values are equal without any conversion but that of text to a number. Missing
values equal each other only. -/
def settledEqual (left right : Value) : Bool :=
  if left.isNone || right.isNone then left.isNone && right.isNone else equalPrimitives left right

/-- How often a value can be converted. -/
def conversions : Value → ℕ
  | .boolean _ | .list _ | .map _ => 1
  | _ => 0

namespace Converts

variable {heap : Heap} {before after : Value × Value}

/-- A conversion leaves the answer as it is. -/
theorem looselyEqual_eq (converts : Converts heap before after) :
    looselyEqual heap before.1 before.2 = looselyEqual heap after.1 after.2 := by
  cases converts with
  | booleanLeft present => rfl
  | booleanRight present notBoolean => rfl
  | @partsLeft left right parts meets =>
    cases left with
    | list | map => cases right <;> first | rfl | cases meets
    | _ => cases parts
  | @partsRight left right meets parts =>
    cases right with
    | list | map => cases left <;> first | rfl | cases meets
    | _ => cases parts

/-- Each conversion is one of the few that there can be. -/
theorem conversions_eq (converts : Converts heap before after) :
    before.1.conversions + before.2.conversions =
      after.1.conversions + after.2.conversions + 1 := by
  cases converts with
  | booleanLeft present => simp only [conversions]; omega
  | booleanRight present notBoolean => rfl
  | @partsLeft left right parts meets =>
    cases left with
    | list | map => simp only [conversions, toPrimitive]; omega
    | _ => cases parts
  | @partsRight left right meets parts =>
    cases right with
    | list | map => rfl
    | _ => cases parts

/-- There is at most one conversion. -/
theorem unique {other : Value × Value} (converts : Converts heap before after)
    (further : Converts heap before other) : after = other := by
  cases converts with
  | booleanLeft present =>
    cases further with
    | booleanLeft => rfl
    | booleanRight _ notBoolean => exact absurd rfl (notBoolean _)
    | partsLeft parts => cases parts
    | partsRight meets => cases meets
  | booleanRight present notBoolean =>
    cases further with
    | booleanLeft => exact absurd rfl (notBoolean _)
    | booleanRight => rfl
    | partsLeft _ meets => cases meets
    | partsRight _ parts => cases parts
  | @partsLeft left right parts meets =>
    cases further with
    | booleanLeft => cases parts
    | booleanRight => cases meets
    | partsLeft => rfl
    | partsRight _ otherParts => exact absurd meets (not_isTextOrNumber otherParts)
  | @partsRight left right meets parts =>
    cases further with
    | booleanLeft => cases meets
    | booleanRight => cases parts
    | partsLeft otherParts => exact absurd meets (not_isTextOrNumber otherParts)
    | partsRight => rfl

end Converts

/-- The answer for two values that are not converted any more. -/
theorem looselyEqual_of_settled {heap : Heap} {left right : Value}
    (settled : ∀ after, ¬Converts heap (left, right) after) :
    looselyEqual heap left right = settledEqual left right := by
  rw [looselyEqual, settledEqual]
  by_cases missing : (left.isNone || right.isNone) = true
  · rw [if_pos missing, if_pos missing]
  · rw [if_neg missing, if_neg missing]
    obtain ⟨isLeft, isRight⟩ := Bool.or_eq_false_iff.mp (Bool.eq_false_of_not_eq_true missing)
    have leftKept : left.withoutBoolean = left := by
      cases left with
      | boolean value => exact absurd (.booleanLeft isRight) (settled _)
      | _ => rfl
    have rightKept : right.withoutBoolean = right := by
      cases right with
      | boolean value =>
        refine absurd (.booleanRight isLeft fun other same => ?_) (settled _)
        subst same
        exact settled _ (.booleanLeft isRight)
      | _ => rfl
    have leftWhole (meets : right.isTextOrNumber = true) : left.withoutParts heap = left := by
      cases left with
      | list | map => exact absurd (.partsLeft rfl meets) (settled _)
      | _ => rfl
    have rightWhole (meets : left.isTextOrNumber = true) : right.withoutParts heap = right := by
      cases right with
      | list | map => exact absurd (.partsRight meets rfl) (settled _)
      | _ => rfl
    simp only [leftKept, rightKept]
    rw [ite_eq_right_iff.mpr leftWhole, ite_eq_right_iff.mpr rightWhole]

/-- Conversions end, and what they end with has the answer. -/
theorem exists_settled (heap : Heap) (left right : Value) :
    ∃ settled : Value × Value, Relation.ReflTransGen (Converts heap) (left, right) settled ∧
      (∀ after, ¬Converts heap settled after) ∧
      looselyEqual heap left right = settledEqual settled.1 settled.2 := by
  induction count : left.conversions + right.conversions generalizing left right with
  | zero =>
    have settled (after) : ¬Converts heap (left, right) after := fun converts => by
      have fewer := converts.conversions_eq
      simp only [count] at fewer
      omega
    exact ⟨_, .refl, settled, looselyEqual_of_settled settled⟩
  | succ count inductionHypothesis =>
    by_cases settled : ∀ after, ¬Converts heap (left, right) after
    · exact ⟨_, .refl, settled, looselyEqual_of_settled settled⟩
    · obtain ⟨⟨newLeft, newRight⟩, converts⟩ := not_forall_not.mp settled
      have fewer := converts.conversions_eq
      obtain ⟨last, path, isLast, answer⟩ := inductionHypothesis newLeft newRight (by
        simp only at fewer
        omega)
      exact ⟨last, .head converts path, isLast, converts.looselyEqual_eq.trans answer⟩

/-- There are at most two conversions one after the other. -/
theorem Converts.not_third {heap : Heap} {first second third fourth : Value × Value}
    (converts : Converts heap first second) (further : Converts heap second third) :
    ¬Converts heap third fourth := by
  intro last
  have atMost (value : Value) : value.conversions ≤ 1 := by
    cases value <;> simp [conversions]
  have counts := converts.conversions_eq
  have moreCounts := further.conversions_eq
  have lastCounts := last.conversions_eq
  have left := atMost first.1
  have right := atMost first.2
  omega

/-! ### Swapped operands -/

/-- Equality and order are consistent under swapping for values of any kinds. What equality without
conversion holds of, equality after conversion holds of as well. Missing values equal each other
after conversion and nothing else. Comparing after conversion ends: of the conversions that it
makes there are at most two, there is never a choice between two of them, and what they lead to
has the answer. -/
theorem comparisons_swap (heap : Heap) (left right : Value) :
    left.binary heap .equal right = right.binary heap .equal left ∧
    left.binary heap .same right = right.binary heap .same left ∧
    (Holds heap .same left right → Holds heap .equal left right) ∧
    (left = .undefined ∨ left = .null →
      (Holds heap .equal left right ↔ right = .undefined ∨ right = .null)) ∧
    left.binary heap .less right = right.binary heap .greater left ∧
    left.binary heap .lessEqual right = right.binary heap .greaterEqual left ∧
    (Holds heap .less left right → Holds heap .lessEqual left right) ∧
    ¬(Holds heap .less left right ∧ Holds heap .less right left) ∧
    (∃ settled : Value × Value, Relation.ReflTransGen (Converts heap) (left, right) settled ∧
      (∀ after, ¬Converts heap settled after) ∧
      left.binary heap .equal right = .boolean (settledEqual settled.1 settled.2)) ∧
    (∀ second third, Converts heap (left, right) second → Converts heap second third →
      ∀ fourth, ¬Converts heap third fourth) ∧
    ∀ second other, Converts heap (left, right) second → Converts heap (left, right) other →
      second = other := by
  refine ⟨congrArg boolean (looselyEqual_comm heap left right),
    congrArg boolean (same_comm left right), fun same => ?same, fun missing => ?missing,
    ordered_swap heap (by decide) left right, ordered_swap heap (by decide) left right,
    fun less => ?weaken, fun both => ?asymm, ?settles, fun second third converts further fourth =>
      converts.not_third further, fun second other => Converts.unique⟩
  case same =>
    exact congrArg boolean (looselyEqual_of_same heap (boolean.inj same))
  case missing =>
    show boolean _ = boolean true ↔ _
    rw [boolean.injEq, looselyEqual_of_isNone heap (isNone_iff.mpr missing), isNone_iff]
  case weaken =>
    obtain ⟨order, isOrder, isLess⟩ := holds_ordered_iff.mp less
    refine holds_ordered_iff.mpr ⟨order, isOrder, ?_⟩
    rw [beq_iff_eq.mp isLess]
    rfl
  case asymm =>
    obtain ⟨order, isOrder, isLess⟩ := holds_ordered_iff.mp both.1
    obtain ⟨opposite, isOpposite, isGreater⟩ := holds_ordered_iff.mp both.2
    rw [compare_swap heap left right, isOrder, beq_iff_eq.mp isLess, beq_iff_eq.mp isGreater]
      at isOpposite
    cases isOpposite
  case settles =>
    obtain ⟨settled, path, isLast, answer⟩ := exists_settled heap left right
    exact ⟨settled, path, isLast, congrArg boolean answer⟩

end Value

end Shorthand
