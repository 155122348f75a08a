/-
This file shows what integers become as floating-point numbers.

A finite number has full precision if its mantissa has all its bits. Rounding leaves such a number
as it is, and packing it into bits and unpacking it again gives it back. An integer of up to 53
bits is such a number, so these integers stay apart and in their order. No integer becomes what
is not a number.
-/

import Mathlib
import Shorthand.Proofs.Number.Rank

namespace Shorthand

open Float.Model Float.Model.UnpackedFloat

/-! ### Packing into bits -/

theorem unpackSign_packComponents {format : Format} (sign : Sign)
    (exponent : BitVec format.exponentBits)
    (mantissa : BitVec format.mantissaBitsWithoutImplicit) :
    unpackSign (packComponents format sign exponent mantissa) = sign.toBitVec := by
  ext index bound
  have first : index = 0 := by omega
  subst first
  simp [unpackSign, packComponents, BitVec.getLsbD_eq_getElem, BitVec.getLsbD_append,
    BitVec.getElem_append]

theorem Sign.ofBitVec_toBitVec (sign : Sign) : Sign.ofBitVec sign.toBitVec = sign := by
  cases sign <;> rfl

/-- Bits that are packed give a number, unless what they were packed from was none. -/
theorem isNaN_unpack_pack (number : UnpackedFloat) :
    (UnpackedFloat.unpack .binary64 (UnpackedFloat.pack .binary64 number)).isNaN =
      number.isNaN := by
  cases number with
  | notANumber => rfl
  | infinity sign => cases sign <;> rfl
  | zero sign => cases sign <;> rfl
  | finite sign mantissa exponent positive =>
    have finite {bits : BitVec 11} {rest : BitVec 52} (inside : bits ≠ -1#11) :
        (UnpackedFloat.unpack .binary64 (packComponents .binary64 sign bits rest)).isNaN =
          false := by
      rw [UnpackedFloat.unpack]
      simp only [unpackExponent_packComponents, if_neg inside]
      split
      · split <;> rfl
      · rfl
    rw [UnpackedFloat.pack]
    simp only
    split
    · cases sign <;> rfl
    · rename_i inside
      split
      · refine finite fun same => ?_
        have size := congrArg BitVec.toNat same
        rw [BitVec.toNat_ofNat] at size
        have greatest : (-1#11).toNat = 2047 := rfl
        have outside : ¬2048 ≤ _ + 1 := inside
        omega
      · exact finite (by decide)

/-- A mantissa of 53 bits. -/
def IsFull (mantissa : ℕ) : Prop := hiddenBit ≤ mantissa ∧ mantissa < 2 * hiddenBit

namespace IsFull

variable {mantissa : ℕ} (full : IsFull mantissa)

include full

theorem positive : 0 < mantissa := Nat.lt_of_lt_of_le (by decide) full.1

theorem log2_shifted (shift : ℕ) : (mantissa * Nat.pow 2 shift).log2 = 52 + shift := by
  have bits : 2 * hiddenBit = 2 ^ 53 := rfl
  have power : 0 < Nat.pow 2 shift := Nat.pow_pos Nat.two_pos
  refine (Nat.log2_eq_iff (Nat.mul_pos full.positive power).ne').mpr ⟨?_, ?_⟩
  · rw [Nat.pow_add]
    exact Nat.mul_le_mul_right _ full.1
  · rw [Nat.add_right_comm, Nat.pow_add, ← bits]
    exact Nat.mul_lt_mul_of_pos_right full.2 power

theorem toNat_append : (1#1 ++ BitVec.ofNat 52 mantissa).toNat = mantissa := by
  have high : (1#1 : BitVec 1).toNat <<< 52 = hiddenBit := rfl
  have size : 2 ^ 52 = hiddenBit := rfl
  rw [BitVec.toNat_append, BitVec.toNat_ofNat mantissa,
    ← Nat.shiftLeft_add_eq_or_of_lt (Nat.mod_lt _ (Nat.two_pow_pos 52)), high, size]
  obtain ⟨lower, upper⟩ := full
  rw [Nat.mod_eq_sub_mod lower, Nat.mod_eq_of_lt (by omega), Nat.add_sub_cancel' lower]

section

variable (sign : Sign) {exponent : ℤ} (least : -1074 ≤ exponent) (greatest : exponent ≤ 971)

include least greatest

theorem pack_eq :
    UnpackedFloat.pack .binary64 (.finite sign mantissa exponent full.positive) =
      packComponents .binary64 sign (BitVec.ofNat 11 (exponent + 1075).toNat)
        (BitVec.ofNat 52 mantissa) := by
  have bias : exponent + (Format.binary64.exponentBias : ℤ) +
      (Format.binary64.mantissaBitsWithoutImplicit : ℤ) = exponent + 1075 :=
    Int.add_assoc exponent 1023 52
  have log : mantissa.log2 = 52 := by simpa using full.log2_shifted 0
  have inside : ¬2 ^ Format.binary64.exponentBits ≤ (exponent + 1075).toNat + 1 := by
    show ¬2048 ≤ _
    omega
  rw [UnpackedFloat.pack]
  simp only [bias, log]
  rw [if_neg inside, if_pos (by rfl)]

/-- A number of full precision is given back by its bits. -/
theorem unpack_pack :
    UnpackedFloat.unpack .binary64
        (UnpackedFloat.pack .binary64 (.finite sign mantissa exponent full.positive)) =
      .finite sign mantissa exponent full.positive := by
  have size : (BitVec.ofNat 11 (exponent + 1075).toNat).toNat = (exponent + 1075).toNat := by
    rw [BitVec.toNat_ofNat]
    exact Nat.mod_eq_of_lt (by omega)
  -- The greatest and the least exponent have a meaning of their own.
  have notGreatest : BitVec.ofNat 11 (exponent + 1075).toNat ≠ -1#11 := by
    intro same
    rw [same] at size
    have isGreatest : (-1#11).toNat = 2047 := rfl
    omega
  have notLeast : BitVec.ofNat 11 (exponent + 1075).toNat ≠ 0#11 := by
    intro same
    rw [same] at size
    have isLeast : (0#11).toNat = 0 := rfl
    omega
  have back : ((exponent + 1075).toNat : ℤ) -
      (Format.binary64.exponentBias + Format.binary64.mantissaBitsWithoutImplicit) = exponent := by
    show _ - (1023 + 52) = _
    omega
  rw [full.pack_eq sign least greatest, UnpackedFloat.unpack]
  simp only [unpackMantissa_packComponents, unpackExponent_packComponents,
    unpackSign_packComponents, Sign.ofBitVec_toBitVec, if_neg notGreatest, if_neg notLeast, size,
    back, full.toNat_append]

end

end IsFull

/-! ### Rounding -/

/-- Shifting zeros out of a mantissa loses nothing. -/
theorem repeat_shiftRightOne (mantissa shift : ℕ) :
    Nat.repeat ExtendedMantissa.shiftRightOne shift ⟨mantissa * Nat.pow 2 shift, false, false⟩ =
      ⟨mantissa, false, false⟩ := by
  induction shift generalizing mantissa with
  | zero => simp [Nat.repeat]
  | succ shift inductionHypothesis =>
    have next : mantissa * Nat.pow 2 (shift + 1) = mantissa * 2 * Nat.pow 2 shift := by
      rw [Nat.pow_eq, Nat.pow_eq, Nat.pow_succ]
      ring
    rw [Nat.repeat, next, inductionHypothesis]
    simp [ExtendedMantissa.shiftRightOne]

namespace IsFull

variable {mantissa : ℕ} (full : IsFull mantissa) {exponent : ℤ} (least : -1074 ≤ exponent)

include full least

theorem shiftToTargetExponent (shift : ℕ) :
    UnpackedFloat.shiftToTargetExponent .binary64 (mantissa * Nat.pow 2 shift) (exponent - shift)
        .exact = (⟨mantissa, false, false⟩, exponent) := by
  have target : Format.binary64.targetExponent
      (totalExponent (mantissa * Nat.pow 2 shift) (exponent - shift)) = exponent := by
    have bits : (Format.binary64.mantissaBits : ℤ) = 53 := rfl
    have lowest : Format.binary64.minExponent = -1074 := rfl
    rw [Format.targetExponent, totalExponent, full.log2_shifted, bits, lowest]
    push_cast
    omega
  have amount : (exponent - (exponent - (shift : ℤ))).toNat = shift := by omega
  rw [UnpackedFloat.shiftToTargetExponent]
  simp only [target]
  rw [shiftToExponent]
  simp only [amount, sub_add_cancel]
  exact congrArg (·, exponent) (repeat_shiftRightOne mantissa shift)

/-- Rounding a number of full precision with zeros behind its mantissa takes the zeros away. -/
theorem roundWithAccuracy (sign : Sign) (shift : ℕ) :
    UnpackedFloat.roundWithAccuracy .binary64 sign (mantissa * Nat.pow 2 shift)
        (exponent - shift) .exact = .finite sign mantissa exponent full.positive := by
  have again := full.shiftToTargetExponent least 0
  have plain : mantissa * Nat.pow 2 0 = mantissa := Nat.mul_one mantissa
  have same : exponent - ((0 : ℕ) : ℤ) = exponent := Int.sub_zero exponent
  rw [plain, same] at again
  rw [UnpackedFloat.roundWithAccuracy, full.shiftToTargetExponent least shift]
  simp only [ExtendedMantissa.roundedMantissa, ExtendedMantissa.accuracy,
    Accuracy.roundToNearestEven, again, dif_neg full.positive.ne']

end IsFull

/-! ### Natural numbers -/

/-- A natural number of up to 53 bits with zeros behind it has full precision. -/
theorem isFull_of_lt {number : ℕ} (positive : 0 < number) (small : number < 2 * hiddenBit) :
    IsFull (number * Nat.pow 2 (52 - number.log2)) := by
  have lower := Nat.log2_self_le positive.ne'
  have upper := @Nat.lt_log2_self number
  have bits : number.log2 < 53 := (Nat.log2_lt positive.ne').mpr small
  have split : hiddenBit = 2 ^ number.log2 * Nat.pow 2 (52 - number.log2) := by
    rw [Nat.pow_eq, ← Nat.pow_add, Nat.add_sub_cancel' (by omega)]
    rfl
  refine ⟨?_, ?_⟩
  · rw [split]
    exact Nat.mul_le_mul_right _ lower
  · rw [split, ← Nat.mul_assoc, Nat.mul_comm 2, ← Nat.pow_succ]
    exact Nat.mul_lt_mul_of_pos_right upper (Nat.pow_pos Nat.two_pos)

theorem unpack_one : (Float.ofBits 0x3FF0000000000000).toModel.unpack =
    .finite .positive hiddenBit (-52) (by decide) := rfl

/-- Small natural numbers are converted as words and large ones by rounding. -/
theorem ofNat_of_lt {number : ℕ} (small : number < 2 * hiddenBit) :
    Float.ofNat number = number.toUInt64.toFloat * Float.ofBits 0x3FF0000000000000 := by
  show Float.ofScientific number false 0 = _
  rw [Float.ofScientific, dif_pos ⟨small, Nat.zero_le _⟩]
  rfl

theorem ofNat_of_le {number : ℕ} (large : 2 * hiddenBit ≤ number) :
    Float.ofNat number = ⟨Float.Model.ofScientific number 0⟩ := by
  show Float.ofScientific number false 0 = _
  rw [Float.ofScientific, dif_neg fun small => absurd small.1 (Nat.not_lt.mpr large)]
  rfl

section

variable {number : ℕ} (positive : 0 < number) (small : number < 2 * hiddenBit)

/-- Rounding a natural number of up to 53 bits fills its mantissa up with zeros. -/
theorem normalize_natCast :
    UnpackedFloat.normalize .binary64 number 0 .positive =
      .finite .positive (number * Nat.pow 2 (52 - number.log2)) (number.log2 - 52)
        (isFull_of_lt positive small).positive := by
  have bits : number.log2 < 53 := (Nat.log2_lt positive.ne').mpr small
  have target : Format.binary64.targetExponent (totalExponent number 0) = number.log2 - 52 := by
    have size : (Format.binary64.mantissaBits : ℤ) = 53 := rfl
    have lowest : Format.binary64.minExponent = -1074 := rfl
    rw [Format.targetExponent, totalExponent, size, lowest]
    omega
  have amount : (0 - ((number.log2 : ℤ) - 52)).toNat = 52 - number.log2 := by omega
  have exponent : (0 : ℤ) - ((52 - number.log2 : ℕ) : ℤ) = number.log2 - 52 := by omega
  have least : (-1074 : ℤ) ≤ (number.log2 : ℤ) - 52 := by omega
  have exact := (isFull_of_lt positive small).roundWithAccuracy least .positive 0
  rw [UnpackedFloat.normalize, compare_gt_iff_gt.mpr (Int.natCast_pos.mpr positive)]
  simp only [Int.toNat_natCast, UnpackedFloat.round, target, decreaseExponent, amount, exponent,
    Nat.shiftLeft_eq]
  simpa using exact

/-- A natural number of up to 53 bits becomes a number of just its size. -/
theorem unpack_ofNat :
    (Float.ofNat number).toModel.unpack =
      .finite .positive (number * Nat.pow 2 (52 - number.log2)) (number.log2 - 52)
        (isFull_of_lt positive small).positive := by
  have full := isFull_of_lt positive small
  have bits : number.log2 < 53 := (Nat.log2_lt positive.ne').mpr small
  have word : (number.toUInt64.toNat : ℤ) = number := by
    rw [Nat.toUInt64_eq, UInt64.toNat_ofNat', Nat.mod_eq_of_lt]
    exact Nat.lt_trans small (by decide)
  have converted : number.toUInt64.toFloat.toModel.unpack =
      .finite .positive (number * Nat.pow 2 (52 - number.log2)) (number.log2 - 52)
        full.positive := by
    show UnpackedFloat.unpack .binary64 (UnpackedFloat.pack .binary64
      (UnpackedFloat.normalize .binary64 number.toUInt64.toNat 0 .positive)) = _
    rw [word, normalize_natCast positive small]
    exact full.unpack_pack .positive (by omega) (by omega)
  have product : UnpackedFloat.mul .binary64
      (.finite .positive (number * Nat.pow 2 (52 - number.log2)) (number.log2 - 52) full.positive)
      (.finite .positive hiddenBit (-52) (by decide)) =
        .finite .positive (number * Nat.pow 2 (52 - number.log2)) (number.log2 - 52)
          full.positive :=
    full.roundWithAccuracy (by omega) .positive 52
  rw [ofNat_of_lt small]
  show UnpackedFloat.unpack .binary64 (UnpackedFloat.pack .binary64
    (UnpackedFloat.mul .binary64 number.toUInt64.toFloat.toModel.unpack
      (Float.ofBits 0x3FF0000000000000).toModel.unpack)) = _
  rw [converted, unpack_one, product]
  exact full.unpack_pack .positive (by omega) (by omega)

end

/-- Every natural number of up to 53 bits, and the next one too, has full precision. -/
theorem exists_isFull_ofNat {number : ℕ} (positive : 0 < number)
    (inside : number ≤ 2 * hiddenBit) :
    ∃ (mantissa : ℕ) (exponent : ℤ) (full : IsFull mantissa), -1074 ≤ exponent ∧ exponent ≤ 971 ∧
      (Float.ofNat number).toModel.unpack = .finite .positive mantissa exponent full.positive := by
  rcases Nat.lt_or_eq_of_le inside with small | last
  · have bits : number.log2 < 53 := (Nat.log2_lt positive.ne').mpr small
    exact ⟨_, _, isFull_of_lt positive small, by omega, by omega, unpack_ofNat positive small⟩
  · subst last
    exact ⟨hiddenBit, 1, ⟨Nat.le_refl _, by decide⟩, by omega, by omega, rfl⟩

theorem floatRank_ofNat {number : ℕ} (positive : 0 < number) (small : number < 2 * hiddenBit) :
    floatRank (Float.ofNat number) =
      toLex ((1 : ℤ), toLex ((number.log2 : ℤ) - 52,
        ((number * Nat.pow 2 (52 - number.log2) : ℕ) : ℤ))) := by
  rw [floatRank, unpack_ofNat positive small]
  rfl

theorem floatRank_ofNat_last :
    floatRank (Float.ofNat (2 * hiddenBit)) =
      toLex ((1 : ℤ), toLex ((1 : ℤ), (hiddenBit : ℤ))) := rfl

theorem floatRank_ofNat_pos {number : ℕ} (positive : 0 < number)
    (inside : number ≤ 2 * hiddenBit) : 0 < floatRank (Float.ofNat number) := by
  obtain ⟨mantissa, exponent, full, -, -, unpacked⟩ := exists_isFull_ofNat positive inside
  rw [floatRank, unpacked]
  exact Prod.Lex.toLex_lt_toLex.mpr (.inl Int.one_pos)

/-- Natural numbers of up to 53 bits, and the next one too, keep their order. -/
theorem floatRank_ofNat_lt {left right : ℕ} (less : left < right)
    (inside : right ≤ 2 * hiddenBit) :
    floatRank (Float.ofNat left) < floatRank (Float.ofNat right) := by
  rcases Nat.eq_zero_or_pos left with zero | positive
  · subst zero
    exact floatRank_ofNat_pos less inside
  rw [floatRank_ofNat positive (Nat.lt_of_lt_of_le less inside)]
  rcases Nat.lt_or_eq_of_le inside with small | last
  · rw [floatRank_ofNat (positive.trans less) small]
    refine Prod.Lex.toLex_lt_toLex.mpr (.inr ⟨rfl, Prod.Lex.toLex_lt_toLex.mpr ?_⟩)
    have length : left.log2 ≤ right.log2 := by
      rw [Nat.log2_eq_log_two, Nat.log2_eq_log_two]
      exact Nat.log_mono_right less.le
    rcases Nat.lt_or_eq_of_le length with shorter | sameLength
    · exact .inl (by simpa using shorter)
    · refine .inr ⟨by rw [sameLength], ?_⟩
      rw [sameLength]
      exact Int.ofNat_lt.mpr (Nat.mul_lt_mul_of_pos_right less (Nat.pow_pos Nat.two_pos))
  · subst last
    have bits : left.log2 < 53 := (Nat.log2_lt positive.ne').mpr less
    rw [floatRank_ofNat_last]
    refine Prod.Lex.toLex_lt_toLex.mpr (.inr ⟨rfl, Prod.Lex.toLex_lt_toLex.mpr (.inl ?_)⟩)
    show (left.log2 : ℤ) - 52 < 1
    omega

theorem isNaN_roundWithAccuracy (sign : Sign) (mantissa : ℕ) (exponent : ℤ)
    (accuracy : Accuracy) :
    (UnpackedFloat.roundWithAccuracy .binary64 sign mantissa exponent accuracy).isNaN = false := by
  rw [UnpackedFloat.roundWithAccuracy]
  simp only
  split <;> rfl

theorem isNaN_mul_finite (sign other : Sign) {mantissa otherMantissa : ℕ}
    (exponent otherExponent : ℤ) (positive : 0 < mantissa) (otherPositive : 0 < otherMantissa) :
    (UnpackedFloat.mul .binary64 (.finite sign mantissa exponent positive)
      (.finite other otherMantissa otherExponent otherPositive)).isNaN = false :=
  isNaN_roundWithAccuracy ..

theorem isNaN_ofScientific (number : ℕ) (exponent : ℤ) :
    (UnpackedFloat.ofScientific .binary64 number exponent).isNaN = false := by
  rw [UnpackedFloat.ofScientific]
  split_ifs
  · rfl
  · rfl
  · rfl
  · exact isNaN_mul_finite ..
  · exact isNaN_roundWithAccuracy ..

theorem isNaN_ofNat (number : ℕ) : (Float.ofNat number).isNaN = false := by
  rcases Nat.lt_or_ge number (2 * hiddenBit) with small | large
  · rcases Nat.eq_zero_or_pos number with zero | positive
    · rw [zero]
      rfl
    · show (Float.ofNat number).toModel.unpack.isNaN = false
      rw [unpack_ofNat positive small]
      rfl
  · rw [ofNat_of_le large]
    show (UnpackedFloat.unpack .binary64 (UnpackedFloat.pack .binary64
      (UnpackedFloat.ofScientific .binary64 number 0))).isNaN = false
    rw [isNaN_unpack_pack]
    exact isNaN_ofScientific number 0

/-! ### Integers -/

theorem isNaN_neg (number : Float) : (-number).isNaN = number.isNaN := by
  show (UnpackedFloat.unpack .binary64 (UnpackedFloat.pack .binary64
    number.toModel.unpack.neg)).isNaN = number.toModel.unpack.isNaN
  rw [isNaN_unpack_pack]
  cases number.toModel.unpack <;> rfl

/-- The negative of a number of full precision is as far on the other side of zero. -/
theorem floatRank_neg_ofNat {number : ℕ} (positive : 0 < number)
    (inside : number ≤ 2 * hiddenBit) :
    floatRank (-Float.ofNat number) = -floatRank (Float.ofNat number) := by
  obtain ⟨mantissa, exponent, full, least, greatest, unpacked⟩ :=
    exists_isFull_ofNat positive inside
  show rankOf (UnpackedFloat.unpack .binary64 (UnpackedFloat.pack .binary64
    (Float.ofNat number).toModel.unpack.neg)) = -rankOf (Float.ofNat number).toModel.unpack
  rw [unpacked]
  show rankOf (UnpackedFloat.unpack .binary64 (UnpackedFloat.pack .binary64
    (.finite .negative mantissa exponent full.positive))) = _
  rw [full.unpack_pack .negative least greatest]
  rfl

/-- No integer becomes what is not a number. -/
theorem isNaN_ofInt (number : ℤ) : (Float.ofInt number).isNaN = false := by
  cases number with
  | ofNat size => exact isNaN_ofNat size
  | negSucc size => exact (isNaN_neg _).trans (isNaN_ofNat _)

/-- Integers of up to 53 bits, and the next ones too, keep their order. -/
theorem floatRank_ofInt_lt {left right : ℤ} (less : left < right)
    (insideLeft : left.natAbs ≤ 2 * hiddenBit) (insideRight : right.natAbs ≤ 2 * hiddenBit) :
    floatRank (Float.ofInt left) < floatRank (Float.ofInt right) := by
  cases left with
  | ofNat size =>
    cases right with
    | ofNat other => exact floatRank_ofNat_lt (Int.ofNat_lt.mp less) insideRight
    | negSucc other => exact absurd (Int.lt_trans less (Int.negSucc_lt_zero other)) (by simp)
  | negSucc size =>
    have negative : floatRank (Float.ofInt (.negSucc size)) =
        -floatRank (Float.ofNat size.succ) := floatRank_neg_ofNat size.succ_pos insideLeft
    rw [negative]
    cases right with
    | ofNat other =>
      refine (neg_neg_of_pos (floatRank_ofNat_pos size.succ_pos insideLeft)).trans_le ?_
      rcases Nat.eq_zero_or_pos other with zero | positive
      · rw [zero]
        exact le_rfl
      · exact (floatRank_ofNat_pos positive insideRight).le
    | negSucc other =>
      have negativeRight : floatRank (Float.ofInt (.negSucc other)) =
          -floatRank (Float.ofNat other.succ) := floatRank_neg_ofNat other.succ_pos insideRight
      rw [negativeRight]
      exact neg_lt_neg (floatRank_ofNat_lt (by omega) insideLeft)

end Shorthand
