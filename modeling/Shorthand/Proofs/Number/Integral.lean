/-
This file shows which floating-point numbers are natural numbers.

A finite number is read as a fraction from its bits, and these are what it is taken apart into. The
parts are normal: a mantissa with fewer than 53 bits belongs to the least exponent. So a natural
number of up to 53 bits has only one mantissa and one exponent, and the numbers that equal it are
those whose fraction is whole and has its value.
-/

import Mathlib
import Shorthand.Proofs.Number.Whole

namespace Shorthand

open Float.Model Float.Model.UnpackedFloat

/-! ### Bits and parts -/

/-- Whether a sign is the one of numbers below zero. -/
def isNegative : Sign → Bool
  | .negative => true
  | .positive => false

/-- The fraction that a number taken apart stands for. -/
def fractionOf? : UnpackedFloat → Option Binary
  | .zero sign => some ⟨isNegative sign, 0, -1074⟩
  | .finite sign mantissa exponent _ => some ⟨isNegative sign, mantissa, exponent⟩
  | .infinity _ | .notANumber => none

section

variable (bits : BitVec Format.binary64.numBits)

theorem toNat_unpackExponent :
    (unpackExponent bits).toNat = bits.toNat / hiddenBit % 0x800 := by
  rw [unpackExponent, BitVec.toNat_cast, BitVec.extractLsb_toNat, Nat.shiftRight_eq_div_pow]
  rfl

theorem toNat_unpackMantissa : (unpackMantissa bits).toNat = bits.toNat % hiddenBit := by
  rw [unpackMantissa, BitVec.toNat_cast, BitVec.extractLsb_toNat]
  rfl

theorem isNegative_unpackSign :
    isNegative (Sign.ofBitVec (unpackSign bits)) = (bits.toNat / 0x8000000000000000 == 1) := by
  have small : bits.toNat / 0x8000000000000000 < 2 := Nat.div_lt_of_lt_mul bits.isLt
  have size : (unpackSign bits).toNat = bits.toNat / 0x8000000000000000 := by
    rw [unpackSign, BitVec.toNat_cast, BitVec.extractLsb_toNat, Nat.shiftRight_eq_div_pow]
    exact Nat.mod_eq_of_lt small
  rw [← size, Sign.ofBitVec]
  by_cases zero : unpackSign bits = 0#1
  · rw [if_pos zero, zero]
    rfl
  · have one : unpackSign bits = 1#1 := by
      rw [← BitVec.toNat_inj] at zero ⊢
      have isZero : (0#1).toNat = 0 := rfl
      have isOne : (1#1).toNat = 1 := rfl
      omega
    rw [if_neg zero, one]
    rfl

theorem toNat_append_unpackMantissa :
    (1#1 ++ unpackMantissa bits).toNat = hiddenBit + bits.toNat % hiddenBit := by
  rw [BitVec.toNat_append, ← Nat.shiftLeft_add_eq_or_of_lt (unpackMantissa bits).isLt,
    toNat_unpackMantissa]
  rfl

/-- The parts of a number stand for the fraction that its bits do. -/
theorem fractionOf?_unpack :
    fractionOf? (UnpackedFloat.unpack .binary64 bits) =
      if bits.toNat / hiddenBit % 0x800 = 2047 then none
      else if bits.toNat / hiddenBit % 0x800 = 0 then
        some ⟨bits.toNat / 0x8000000000000000 == 1, bits.toNat % hiddenBit, -1074⟩
      else some ⟨bits.toNat / 0x8000000000000000 == 1, hiddenBit + bits.toNat % hiddenBit,
        Int.ofNat (bits.toNat / hiddenBit % 0x800) - 1075⟩ := by
  have greatest : unpackExponent bits = -1#11 ↔ bits.toNat / hiddenBit % 0x800 = 2047 := by
    rw [← toNat_unpackExponent, ← BitVec.toNat_inj]
    rfl
  have least : unpackExponent bits = 0#11 ↔ bits.toNat / hiddenBit % 0x800 = 0 := by
    rw [← toNat_unpackExponent, ← BitVec.toNat_inj]
    rfl
  rw [UnpackedFloat.unpack]
  simp only [greatest, least]
  by_cases isGreatest : bits.toNat / hiddenBit % 0x800 = 2047
  · rw [if_pos isGreatest, if_pos isGreatest]
    split <;> rfl
  rw [if_neg isGreatest, if_neg isGreatest]
  by_cases isLeast : bits.toNat / hiddenBit % 0x800 = 0
  · rw [if_pos isLeast, if_pos isLeast, ← isNegative_unpackSign, ← toNat_unpackMantissa]
    split
    · rename_i noMantissa
      rw [noMantissa]
      rfl
    · rw [toNat_unpackExponent, isLeast]
      rfl
  · rw [if_neg isLeast, if_neg isLeast, ← isNegative_unpackSign, ← toNat_append_unpackMantissa,
      ← toNat_unpackExponent]
    rfl

end

/-- The fraction read from the bits of a number is the one of its parts. -/
theorem ofFloat?_eq (number : Float) :
    Binary.ofFloat? number = fractionOf? number.toModel.unpack :=
  (fractionOf?_unpack number.toModel.toBits.toBitVec).symm

/-- A finite number has a full mantissa, or a smaller one with the least exponent. -/
def IsNormal (mantissa : ℕ) (exponent : ℤ) : Prop :=
  IsFull mantissa ∨ exponent = -1074 ∧ mantissa < hiddenBit

theorem isNormal_of_ofFloat? {number : Float} {fraction : Binary}
    (found : Binary.ofFloat? number = some fraction) :
    IsNormal fraction.mantissa fraction.exponent := by
  have small : number.toBits.toNat % hiddenBit < hiddenBit := Nat.mod_lt _ (by decide)
  rw [Binary.ofFloat?] at found
  split at found
  · cases found
  · split at found
    · cases found
      exact .inr ⟨rfl, small⟩
    · cases found
      exact .inl ⟨Nat.le_add_right _ _, by rw [Nat.two_mul]; exact Nat.add_lt_add_left small _⟩

/-! ### Whole fractions -/

theorem log2_mul_pow {number : ℕ} (positive : 0 < number) (shift : ℕ) :
    (number * Nat.pow 2 shift).log2 = number.log2 + shift := by
  have power : 0 < Nat.pow 2 shift := Nat.pow_pos Nat.two_pos
  refine (Nat.log2_eq_iff (Nat.mul_pos positive power).ne').mpr ⟨?_, ?_⟩
  · rw [Nat.pow_add]
    exact Nat.mul_le_mul_right _ (Nat.log2_self_le positive.ne')
  · rw [Nat.add_right_comm, Nat.pow_add]
    exact Nat.mul_lt_mul_of_pos_right Nat.lt_log2_self power

/-- A natural number of up to 53 bits has one mantissa and one exponent. -/
theorem IsNormal.eq_iff {mantissa number : ℕ} {exponent : ℤ} (normal : IsNormal mantissa exponent)
    (positive : 0 < number) (small : number < 2 * hiddenBit) :
    mantissa * Nat.pow 2 exponent.toNat = number * Nat.pow 2 (-exponent).toNat ↔
      exponent = (number.log2 : ℤ) - 52 ∧ mantissa = number * Nat.pow 2 (52 - number.log2) := by
  have bits : number.log2 < 53 := (Nat.log2_lt positive.ne').mpr small
  have one (power : ℕ) : power * Nat.pow 2 0 = power := Nat.mul_one power
  constructor
  · intro same
    rcases normal with full | ⟨rfl, tiny⟩
    · -- The lengths of both sides show the exponent.
      have log : mantissa.log2 = 52 := by simpa using full.log2_shifted 0
      have lengths := congrArg Nat.log2 same
      rw [log2_mul_pow full.positive, log2_mul_pow positive, log] at lengths
      have exponent_eq : exponent = (number.log2 : ℤ) - 52 := by omega
      have above : exponent.toNat = 0 := by omega
      have below : (-exponent).toNat = 52 - number.log2 := by omega
      rw [above, below, one] at same
      exact ⟨exponent_eq, same⟩
    · have above : (-1074 : ℤ).toNat = 0 := rfl
      have large : ∀ shift, 52 ≤ shift → hiddenBit ≤ number * Nat.pow 2 shift := fun shift least =>
        (Nat.pow_le_pow_right Nat.two_pos least).trans (Nat.le_mul_of_pos_left _ positive)
      rw [above, one] at same
      rw [same] at tiny
      exact absurd tiny (Nat.not_lt.mpr (large _ (by decide)))
  · rintro ⟨rfl, rfl⟩
    have above : ((number.log2 : ℤ) - 52).toNat = 0 := by omega
    have below : (-((number.log2 : ℤ) - 52)).toNat = 52 - number.log2 := by omega
    rw [above, below, one]

/-- The fraction is whole and has the value of a natural number. -/
def IsNatural (fraction : Binary) (number : ℕ) : Prop :=
  fraction.isWhole = true ∧ fraction.truncate = number

theorem isNatural_iff {fraction : Binary} {number : ℕ} :
    IsNatural fraction number ↔ fraction.numerator = number * fraction.denominator ∧
      (fraction.negative = true → number = 0) := by
  have whole : fraction.isWhole = true ↔ fraction.denominator ∣ fraction.numerator :=
    beq_iff_eq.trans (Nat.dvd_iff_mod_eq_zero ..).symm
  have positive : 0 < fraction.denominator := Nat.pow_pos Nat.two_pos
  rw [IsNatural, whole, Binary.truncate]
  constructor
  · rintro ⟨⟨quotient, product⟩, value⟩
    rw [product, ← Int.natCast_ediv, Nat.mul_div_cancel_left _ positive] at value
    rw [product, Nat.mul_comm]
    cases negative : fraction.negative <;>
      simp only [negative, if_true, Bool.false_eq_true, if_false] at value
    · exact ⟨by rw [Int.ofNat_inj.mp value], nofun⟩
    · have zero : quotient = 0 ∧ number = 0 := by omega
      exact ⟨by rw [zero.1, zero.2], fun _ => zero.2⟩
  · rintro ⟨product, sign⟩
    rw [product, ← Int.natCast_ediv, Nat.mul_div_cancel _ positive]
    refine ⟨Nat.dvd_mul_left .., ?_⟩
    split
    · rename_i negative
      rw [sign negative]
      rfl
    · rfl

theorem not_isNatural_infinity {sign : Sign} {natural : ℕ} :
    ¬∃ fraction, fractionOf? (.infinity sign) = some fraction ∧ IsNatural fraction natural := by
  rintro ⟨fraction, found, -⟩
  cases found

theorem isNatural_zero_iff {sign : Sign} {natural : ℕ} :
    (∃ fraction, fractionOf? (.zero sign) = some fraction ∧ IsNatural fraction natural) ↔
      natural = 0 := by
  have positive : 0 < (⟨isNegative sign, 0, -1074⟩ : Binary).denominator := Nat.pow_pos Nat.two_pos
  have none : (⟨isNegative sign, 0, -1074⟩ : Binary).numerator = 0 := Nat.zero_mul _
  rw [fractionOf?]
  simp only [Option.some.injEq, exists_eq_left', isNatural_iff, none]
  constructor
  · rintro ⟨product, -⟩
    exact (Nat.mul_eq_zero.mp product.symm).resolve_right positive.ne'
  · rintro rfl
    exact ⟨(Nat.zero_mul _).symm, fun _ => rfl⟩

theorem isNatural_finite_iff {sign : Sign} {mantissa : ℕ} {exponent : ℤ} {positive : 0 < mantissa}
    {natural : ℕ} :
    (∃ fraction, fractionOf? (.finite sign mantissa exponent positive) = some fraction ∧
        IsNatural fraction natural) ↔
      sign = .positive ∧ 0 < natural ∧
        mantissa * Nat.pow 2 exponent.toNat = natural * Nat.pow 2 (-exponent).toNat := by
  rw [fractionOf?]
  simp only [Option.some.injEq, exists_eq_left', isNatural_iff]
  have numerator : 0 < mantissa * Nat.pow 2 exponent.toNat :=
    Nat.mul_pos positive (Nat.pow_pos Nat.two_pos)
  constructor
  · rintro ⟨product, isZero⟩
    have isPositive : 0 < natural := by
      refine Nat.pos_of_ne_zero fun zero => numerator.ne' ?_
      rw [zero] at product
      exact product.trans (Nat.zero_mul _)
    cases sign with
    | positive => exact ⟨rfl, isPositive, product⟩
    | negative => exact absurd (isZero rfl) isPositive.ne'
  · rintro ⟨rfl, -, product⟩
    exact ⟨product, nofun⟩

/-- Numbers taken apart that stand where a natural number of up to 53 bits does are those whose
fraction is whole and has its value. -/
theorem rankOf_eq_iff {parts : UnpackedFloat} {natural : ℕ} (small : natural < 2 * hiddenBit)
    (isNumber : parts ≠ .notANumber)
    (normal : ∀ fraction ∈ fractionOf? parts, IsNormal fraction.mantissa fraction.exponent) :
    rankOf parts = floatRank (Float.ofNat natural) ↔
      ∃ fraction, fractionOf? parts = some fraction ∧ IsNatural fraction natural := by
  rcases Nat.eq_zero_or_pos natural with rfl | positive
  · have rank : floatRank (Float.ofNat 0) = toLex (0, toLex (0, 0)) := rfl
    rw [rank]
    cases parts with
    | notANumber => exact absurd rfl isNumber
    | infinity sign =>
      refine iff_of_false ?_ not_isNatural_infinity
      cases sign <;> exact fun same => by cases same
    | zero sign => exact iff_of_true rfl (isNatural_zero_iff.mpr rfl)
    | finite sign mantissa exponent =>
      rw [isNatural_finite_iff]
      refine iff_of_false ?_ fun ⟨_, positive, _⟩ => Nat.lt_irrefl _ positive
      cases sign <;> exact fun same => by cases same
  · rw [floatRank_ofNat positive small]
    cases parts with
    | notANumber => exact absurd rfl isNumber
    | infinity sign =>
      refine iff_of_false ?_ not_isNatural_infinity
      cases sign <;> exact fun same => by cases same
    | zero sign =>
      rw [isNatural_zero_iff]
      exact iff_of_false (fun same => by cases same) positive.ne'
    | finite sign mantissa exponent =>
      rw [isNatural_finite_iff, (normal _ rfl).eq_iff positive small]
      cases sign with
      | negative => exact iff_of_false (fun same => by cases same) fun same => nomatch same.1
      | positive =>
        rw [and_iff_right rfl, and_iff_right positive, rankOf, toLex_inj, Prod.mk.injEq,
          and_iff_right rfl, toLex_inj, Prod.mk.injEq, Int.ofNat_inj]

/-- The numbers that equal a natural number of up to 53 bits are those whose fraction is whole and
has its value. -/
theorem beq_ofNat_iff {number : Float} {natural : ℕ} (small : natural < 2 * hiddenBit) :
    (number == Float.ofNat natural) = true ↔
      ∃ fraction, Binary.ofFloat? number = some fraction ∧ IsNatural fraction natural := by
  have normal : ∀ fraction ∈ fractionOf? number.toModel.unpack,
      IsNormal fraction.mantissa fraction.exponent := fun fraction found =>
    isNormal_of_ofFloat? ((ofFloat?_eq number).trans found)
  rw [ofFloat?_eq]
  by_cases isNumber : number.isNaN = true
  · have parts : number.toModel.unpack = .notANumber := by
      have unpacked : number.toModel.unpack.isNaN = true := isNumber
      cases found : number.toModel.unpack with
      | notANumber => rfl
      | _ => rw [found] at unpacked; cases unpacked
    have apart : (number == Float.ofNat natural) = false := by
      show (number.toModel.unpack.compare _ == some .eq) = false
      rw [parts]
      rfl
    rw [apart, parts]
    exact iff_of_false Bool.false_ne_true fun ⟨_, found, _⟩ => nomatch found
  · have real := eq_false_of_ne_true isNumber
    rw [float_beq_iff real (isNaN_ofNat natural)]
    exact rankOf_eq_iff small (unpack_ne_of_not_isNaN real) normal

end Shorthand
