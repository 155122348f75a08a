/-
This file shows which keys denote an index of a sequence.

These are the integers from zero on, the floating-point numbers that equal one, and its decimal
digits, all up to the greatest index. A text of digits is the decimal text of a number just if it
does not begin with a zero that more digits follow.
-/

import Mathlib
import Shorthand.Property
import Shorthand.Proofs.Literal.Scan
import Shorthand.Proofs.Number.Integral

namespace Shorthand

/-! ### Decimal digits -/

theorem digitChar_of_isDigit {digit : Char} (isDigit : digit.isDigit = true) :
    digit.toNat - '0'.toNat < 10 ∧ (digit.toNat - '0'.toNat).digitChar = digit := by
  have values : ∀ value < 10, (Char.ofNat (48 + value)) = value.digitChar := by decide
  obtain ⟨lower, upper⟩ := Char.isDigit_iff_toNat.mp isDigit
  have first : '0'.toNat = 48 := rfl
  have last : '9'.toNat = 57 := rfl
  have small : digit.toNat - '0'.toNat < 10 := by omega
  refine ⟨small, ?_⟩
  rw [← values _ small, first, Nat.add_sub_cancel' (by omega), Char.ofNat_toNat]

/-- Digits without a needless zero in front are the decimal text of their value. -/
theorem toDigits_ofDigitChars {digits : List Char}
    (areDigits : ∀ digit ∈ digits, digit.isDigit = true) (some_ : digits ≠ [])
    (noZero : digits.head? = some '0' → digits = ['0']) :
    Nat.toDigits 10 (Nat.ofDigitChars 10 digits 0) = digits := by
  induction digits using List.reverseRecOn with
  | nil => exact absurd rfl some_
  | append_singleton front digit inductionHypothesis =>
    obtain ⟨frontDigits, lastDigit⟩ := List.forall_mem_append.mp areDigits
    obtain ⟨small, same⟩ := digitChar_of_isDigit (lastDigit digit (List.mem_singleton_self _))
    rw [Nat.ofDigitChars_append, Nat.ofDigitChars_cons, Nat.ofDigitChars_nil]
    cases front with
    | nil =>
      rw [Nat.ofDigitChars_nil, Nat.mul_zero, Nat.zero_add, Nat.toDigits_of_lt_base small, same]
      rfl
    | cons first others =>
      have notZero : (first :: others).head? ≠ some '0' := by
        intro isZero
        have single := noZero isZero
        simp at single
      have front := inductionHypothesis frontDigits (List.cons_ne_nil _ _)
        fun isZero => absurd isZero notZero
      generalize Nat.ofDigitChars 10 (first :: others) 0 = value at front
      have positive : 0 < value := by
        refine Nat.pos_of_ne_zero fun zero => notZero ?_
        rw [← front, zero]
        rfl
      rw [Nat.toDigits_of_base_le (by decide) (by omega), Nat.mul_add_div (by decide),
        Nat.div_eq_of_lt small, Nat.add_zero, front, Nat.mul_add_mod, Nat.mod_eq_of_lt small, same]

theorem indexOfDigits?_eq_some {digits : List Char} {index : ℕ} :
    indexOfDigits? digits = some index ↔ digits = Nat.toDigits 10 index := by
  constructor
  · intro found
    cases digits with
    | nil => cases found
    | cons first rest =>
      rw [indexOfDigits?] at found
      simp only [Option.ite_none_left_eq_some, Bool.not_eq_true', Bool.not_eq_false,
        List.all_eq_true, not_and, List.isEmpty_iff, Option.some.injEq] at found
      obtain ⟨areDigits, noZero, rfl⟩ := found
      refine (toDigits_ofDigitChars areDigits (List.cons_ne_nil _ _) fun isZero => ?_).symm
      rw [Option.some.inj isZero, noZero (Option.some.inj isZero)]
  · rintro rfl
    have areDigits : ∀ digit ∈ Nat.toDigits 10 index, digit.isDigit = true := fun _ member =>
      Nat.isDigit_of_mem_toDigits (by decide) (by decide) member
    have value : Nat.ofDigitChars 10 (Nat.toDigits 10 index) 0 = index :=
      Nat.ofDigitChars_ten_toDigits
    obtain ⟨first, rest, begins, -⟩ := Literal.toDigits_begins index
    have noZero : ¬(first = '0' ∧ (!rest.isEmpty) = true) := by
      rintro ⟨rfl, more⟩
      rcases Nat.eq_zero_or_pos index with rfl | positive
      · cases begins
        exact absurd more (by decide)
      · exact Literal.head?_toDigits positive (by rw [begins]; rfl)
    rw [begins] at areDigits value ⊢
    rw [indexOfDigits?, if_neg (by simpa using areDigits), if_neg noZero, value]

namespace Value

/-- The key is an integer, a floating-point number that equals it, or its decimal text. -/
inductive Denotes (index : ℕ) : Value → Prop where
  | integer {word : Int64} (isIndex : word.toInt = index) :
    Denotes index (.number (.integer word))
  | float {number : Float} (isIndex : (number == Float.ofNat index) = true) :
    Denotes index (.number (.float number))
  | decimal : Denotes index (.string (toString index))

/-- The key denotes an index of a sequence. -/
def IsIndex (key : Value) (index : ℕ) : Prop := index ≤ 2 ^ 32 - 2 ∧ key.Denotes index

theorem naturalKey?_float {number : Float} {index : ℕ} (small : index < 2 * hiddenBit) :
    (Value.number (.float number)).naturalKey? = some index ↔
      (number == Float.ofNat index) = true := by
  rw [beq_ofNat_iff small, naturalKey?]
  cases finite : Binary.ofFloat? number with
  | none => exact iff_of_false nofun fun ⟨_, found, _⟩ => nomatch found
  | some fraction =>
    simp only [Option.ite_none_right_eq_some, Option.some.injEq, exists_eq_left', IsNatural,
      and_assoc]
    exact and_congr_right fun _ => by omega

/-- The natural number that a key is found to be is the one that it denotes. -/
theorem naturalKey?_eq_some {key : Value} {index : ℕ} (small : index < 2 * hiddenBit) :
    key.naturalKey? = some index ↔ key.Denotes index := by
  constructor
  · intro found
    cases key with
    | number number =>
      cases number with
      | integer word =>
        rw [naturalKey?, Option.ite_none_right_eq_some, Option.some.injEq,
          Int64.le_iff_toInt_le] at found
        have zero : (0 : Int64).toInt = 0 := rfl
        exact .integer (by omega)
      | float number => exact .float ((naturalKey?_float small).mp found)
    | string text =>
      have digits : text.toList = Nat.toDigits 10 index := indexOfDigits?_eq_some.mp found
      have decimal : text = toString index := by
        rw [← String.toList_inj, digits]
        exact Nat.toList_repr.symm
      rw [decimal]
      exact .decimal
    | _ => cases found
  · intro denotes
    cases denotes with
    | @integer word isIndex =>
      rw [naturalKey?, Option.ite_none_right_eq_some, Option.some.injEq, Int64.le_iff_toInt_le]
      have zero : (0 : Int64).toInt = 0 := rfl
      omega
    | float isIndex => exact (naturalKey?_float small).mpr isIndex
    | decimal => exact indexOfDigits?_eq_some.mpr Nat.toList_repr

/-- What the program takes for the index of a key is the index that the key denotes. -/
theorem index?_eq_some {key : Value} {index : ℕ} :
    key.index? = some index ↔ key.IsIndex index := by
  have greatest : greatestIndex = 2 ^ 32 - 2 := rfl
  rw [index?, Option.filter_eq_some_iff, decide_eq_true_iff, IsIndex, ← greatest, and_comm]
  exact and_congr_right fun small =>
    naturalKey?_eq_some (Nat.lt_of_le_of_lt small (by decide))

end Value

end Shorthand
