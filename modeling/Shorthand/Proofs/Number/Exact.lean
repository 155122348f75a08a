/-
This file shows that integer results are exact.

An operation of two integers yields an integer only if that is the exact result, and an operand
in floating point makes the result one too. So an integer that comes out of a tree of operations
has never been rounded on its way. The exact values are rational numbers, as quotients need not
be whole, and there is none where something is divided by zero.
-/

import Mathlib
import Shorthand.Proofs.Literal.ReadBack

namespace Shorthand

/-! ### Integers of 64 bits -/

theorem wordOf?_eq_some {value : ℤ} {word : Int64} :
    wordOf? value = some word ↔ value = word.toInt := by
  rw [wordOf?]
  constructor
  · intro found
    split at found
    · rename_i inRange
      cases found
      exact (Int64.toInt_ofInt_of_le inRange.1 (Int.lt_add_one_of_le inRange.2)).symm
    · cases found
  · rintro rfl
    rw [if_pos ⟨word.minValue_le_toInt, word.toInt_le⟩, Int64.ofInt_toInt]

theorem isSome_wordOf? {value : ℤ} : (wordOf? value).isSome = true ↔
    Int64.minValue.toInt ≤ value ∧ value ≤ Int64.maxValue.toInt := by
  rw [wordOf?]
  split_ifs with inside
  · exact iff_of_true rfl inside
  · exact iff_of_false Bool.false_ne_true inside

namespace Number

/-- An integer comes of integers only, and only as their exact result. -/
theorem combine_eq_integer {exact : ℤ → ℤ → Option ℤ} {rounded : Float → Float → Float}
    {left right : Number} {result : Int64} :
    combine exact rounded left right = .integer result ↔
      ∃ word other, left = .integer word ∧ right = .integer other ∧
        exact word.toInt other.toInt = some result.toInt := by
  constructor
  · intro combined
    cases left with
    | float value => cases combined
    | integer word =>
      cases right with
      | float value => cases combined
      | integer other =>
        refine ⟨word, other, rfl, rfl, ?_⟩
        rw [combine] at combined
        split at combined
        · rename_i found
          cases combined
          obtain ⟨value, isExact, isWord⟩ := Option.bind_eq_some_iff.mp found
          rw [isExact, wordOf?_eq_some.mp isWord]
        · cases combined
  · rintro ⟨word, other, rfl, rfl, isExact⟩
    rw [combine, isExact, Option.bind_some, wordOf?_eq_some.mpr rfl]

theorem negate_eq_integer {number : Number} {result : Int64} :
    number.negate = .integer result ↔
      ∃ word, number = .integer word ∧ word ≠ 0 ∧ -word.toInt = result.toInt := by
  constructor
  · intro negated
    cases number with
    | float value => cases negated
    | integer word =>
      rw [negate] at negated
      split at negated
      · cases negated
      · rename_i notZero
        split at negated
        · rename_i isWord
          cases negated
          exact ⟨word, rfl, notZero, wordOf?_eq_some.mp isWord⟩
        · cases negated
  · rintro ⟨word, rfl, notZero, negated⟩
    rw [negate, if_neg notZero, wordOf?_eq_some.mpr negated]

end Number

/-! ### Truncated quotients -/

/-- The integer that is left of a rational number when its fraction is dropped. -/
def truncate (number : ℚ) : ℤ := if 0 ≤ number then ⌊number⌋ else ⌈number⌉

theorem truncate_neg (number : ℚ) : truncate (-number) = -truncate number := by
  rw [truncate, truncate]
  rcases lt_trichotomy number 0 with negative | zero | positive
  · rw [if_pos (by linarith), if_neg (by linarith), Int.floor_neg]
  · subst zero
    simp
  · rw [if_neg (by linarith), if_pos (by linarith), Int.ceil_neg]

theorem truncate_natCast_div (dividend divisor : ℕ) :
    truncate ((dividend : ℚ) / divisor) = (dividend : ℤ).tdiv divisor := by
  have positive : (0 : ℚ) ≤ dividend / divisor := by positivity
  rw [truncate, if_pos positive, Rat.floor_natCast_div_natCast]
  rfl

/-- Integers are divided by dropping the fraction of their quotient. -/
theorem truncate_div (dividend divisor : ℤ) :
    truncate ((dividend : ℚ) / divisor) = dividend.tdiv divisor := by
  obtain ⟨size, rfl | rfl⟩ := dividend.eq_nat_or_neg <;>
    obtain ⟨other, rfl | rfl⟩ := divisor.eq_nat_or_neg <;>
    push_cast <;>
    simp only [neg_div, div_neg, truncate_neg, truncate_natCast_div, Int.neg_tdiv, Int.tdiv_neg]

/-! ### Operators -/

/-- The operators of arithmetic between two operands. -/
inductive ArithmeticOperator where
  | add | subtract | multiply | divide | remainder

namespace ArithmeticOperator

/-- The operator of the language for it. -/
def operator : ArithmeticOperator → BinaryOperator
  | add => .add
  | subtract => .subtract
  | multiply => .multiply
  | divide => .divide
  | remainder => .remainder

/-- The result for numbers of the expression language. -/
def apply : ArithmeticOperator → Number → Number → Number
  | add => Number.add
  | subtract => Number.subtract
  | multiply => Number.multiply
  | divide => Number.divide
  | remainder => Number.remainder

/-- The result for integers that need not be rounded. -/
def whole? : ArithmeticOperator → ℤ → ℤ → Option ℤ
  | add, left, right => some (left + right)
  | subtract, left, right => some (left - right)
  | multiply, left, right => some (left * right)
  | divide, left, right => Number.exactQuotient? left right
  | remainder, left, right => Number.exactRemainder? left right

/-- The result for rational numbers. A remainder is what a truncated quotient leaves. -/
def exactResult? : ArithmeticOperator → ℚ → ℚ → Option ℚ
  | add, left, right => some (left + right)
  | subtract, left, right => some (left - right)
  | multiply, left, right => some (left * right)
  | divide, left, right => if right = 0 then none else some (left / right)
  | remainder, left, right =>
    if right = 0 then none else some (left - right * truncate (left / right))

theorem apply_eq_combine (operator : ArithmeticOperator) :
    ∃ rounded, operator.apply = Number.combine operator.whole? rounded := by
  cases operator <;> exact ⟨_, rfl⟩

theorem apply_eq_integer {operator : ArithmeticOperator} {left right : Number}
    {result : Int64} :
    operator.apply left right = .integer result ↔
      ∃ word other, left = .integer word ∧ right = .integer other ∧
        operator.whole? word.toInt other.toInt = some result.toInt := by
  obtain ⟨rounded, combines⟩ := operator.apply_eq_combine
  rw [combines]
  exact Number.combine_eq_integer

/-- The value of an operator applied to two numbers. -/
theorem binary_number (operator : ArithmeticOperator) (heap : Heap) (left right : Number) :
    Value.binary heap operator.operator (.number left) (.number right) =
      .number (operator.apply left right) := by
  cases operator <;> rfl

/-- What need not be rounded is exact. -/
theorem exactResult?_of_whole? {operator : ArithmeticOperator} {left right result : ℤ}
    (whole : operator.whole? left right = some result) :
    operator.exactResult? left right = some (result : ℚ) := by
  cases operator with
  | add | subtract | multiply =>
    cases whole
    simp [exactResult?]
  | divide =>
    rw [whole?, Number.exactQuotient?] at whole
    split at whole
    · rename_i possible
      cases whole
      have divides : right ∣ left := Int.dvd_of_tmod_eq_zero possible.2
      have notZero : (right : ℚ) ≠ 0 := Int.cast_ne_zero.mpr possible.1
      rw [exactResult?, if_neg notZero, Int.tdiv_eq_ediv_of_dvd divides,
        Int.cast_div divides notZero]
    · cases whole
  | remainder =>
    rw [whole?, Number.exactRemainder?] at whole
    split at whole
    · rename_i possible
      cases whole
      have notZero : (right : ℚ) ≠ 0 := Int.cast_ne_zero.mpr possible.1
      rw [exactResult?, if_neg notZero, truncate_div, Int.tmod_def]
      push_cast
      rfl
    · cases whole

/-- The quotient of two integers of 64 bits has 64 bits except for one pair of them. -/
theorem isSome_wordOf?_tdiv {left right : Int64}
    (notExtreme : ¬(left = Int64.minValue ∧ right = -1)) :
    (wordOf? (left.toInt.tdiv right.toInt)).isSome := by
  have least : Int64.minValue.toInt = -9223372036854775808 := rfl
  have greatest : Int64.maxValue.toInt = 9223372036854775807 := rfl
  have lower := left.minValue_le_toInt
  have upper := left.toInt_le
  have size := Int.natAbs_tdiv left.toInt right.toInt
  rw [isSome_wordOf?]
  by_cases negates : right.toInt = -1
  · have notLeast : left.toInt ≠ Int64.minValue.toInt := fun same =>
      notExtreme ⟨Int64.toInt_inj.mp same, Int64.toInt_inj.mp negates⟩
    rw [negates, Int.tdiv_neg, Int.tdiv_one]
    omega
  · by_cases halves : right.toInt.natAbs ≤ 1
    · have cases : right.toInt = 0 ∨ right.toInt = 1 := by omega
      rcases cases with zero | one
      · rw [zero, Int.tdiv_zero]
        omega
      · rw [one, Int.tdiv_one]
        omega
    · have half : left.toInt.natAbs / right.toInt.natAbs ≤ left.toInt.natAbs / 2 :=
        Nat.div_le_div_left (by omega) (by decide)
      change _ = left.toInt.natAbs / right.toInt.natAbs at size
      omega

/-- What is exact and an integer need not be rounded. The remainder is the exception, as it is
found by a division. -/
theorem whole?_of_exactResult? {operator : ArithmeticOperator} {left right : Int64} {result : ℤ}
    (notExtreme : operator = .remainder → ¬(left = Int64.minValue ∧ right = -1))
    (exact : operator.exactResult? left.toInt right.toInt = some (result : ℚ)) :
    operator.whole? left.toInt right.toInt = some result := by
  cases operator with
  | add | subtract | multiply =>
    rw [exactResult?, Option.some_inj] at exact
    rw [whole?, Option.some_inj]
    exact_mod_cast exact
  | divide =>
    rw [exactResult?] at exact
    split at exact
    · cases exact
    · rename_i notZero
      rw [Option.some_inj, div_eq_iff notZero] at exact
      have product : left.toInt = result * right.toInt := by exact_mod_cast exact
      have integer : right.toInt ≠ 0 := Int.cast_ne_zero.mp notZero
      rw [whole?, Number.exactQuotient?, product, if_pos ⟨integer, Int.mul_tmod_left ..⟩,
        Int.mul_tdiv_cancel _ integer]
  | remainder =>
    rw [exactResult?] at exact
    split at exact
    · cases exact
    · rename_i notZero
      have integer : right.toInt ≠ 0 := Int.cast_ne_zero.mp notZero
      rw [Option.some_inj, truncate_div] at exact
      have remains : left.toInt - right.toInt * left.toInt.tdiv right.toInt = result := by
        exact_mod_cast exact
      rw [whole?, Number.exactRemainder?,
        if_pos ⟨integer, isSome_wordOf?_tdiv (notExtreme rfl)⟩, Int.tmod_def, remains]

end ArithmeticOperator

/-! ### Trees of operations -/

/-- A tree of operations on integers. -/
inductive Arithmetic where
  | constant (word : Int64)
  | negate (operand : Arithmetic)
  | combine (operator : ArithmeticOperator) (left right : Arithmetic)

namespace Arithmetic

/-- The tree as an expression. -/
def expr : Arithmetic → Expr
  | constant word => .literal (.number (.integer word))
  | negate operand => .unary .negate operand.expr
  | combine operator left right => .binary operator.operator left.expr right.expr

/-- The expression after the resolution of names, of which it has none. -/
def code : Arithmetic → Code
  | constant word => .value (.number (.integer word))
  | negate operand => .unary .negate operand.code
  | combine operator left right => .binary operator.operator left.code right.code

/-- The number that comes out of the tree. -/
def number : Arithmetic → Number
  | constant word => .integer word
  | negate operand => operand.number.negate
  | combine operator left right => operator.apply left.number right.number

/-- The exact value of the tree, unless something in it is divided by zero. -/
def exactValue? : Arithmetic → Option ℚ
  | constant word => some word.toInt
  | negate operand => operand.exactValue?.map (-·)
  | combine operator left right => do
    operator.exactResult? (← left.exactValue?) (← right.exactValue?)

/-- Whether the exact value is an integer of 64 bits. -/
def IsWord (tree : Arithmetic) : Prop := ∃ word : Int64, tree.exactValue? = some (word.toInt : ℚ)

/-- Whether every part has an integer of 64 bits for its exact value, and no part is the negative
of zero or the remainder of the least integer by minus one. -/
def StaysWhole : Arithmetic → Prop
  | constant _ => True
  | negate operand =>
    operand.StaysWhole ∧ operand.exactValue? ≠ some 0 ∧ (negate operand).IsWord
  | combine operator left right =>
    left.StaysWhole ∧ right.StaysWhole ∧
      (operator = .remainder →
        ¬(left.exactValue? = some (Int64.minValue.toInt : ℚ) ∧ right.exactValue? = some (-1))) ∧
      (combine operator left right).IsWord

theorem resolve_expr (tree : Arithmetic) (source : String) :
    tree.expr.resolve source = pure tree.code := by
  induction tree with
  | constant word => rfl
  | negate operand inductionHypothesis =>
    rw [expr, Expr.resolve, inductionHypothesis, pure_bind]
    rfl
  | combine operator left right leftHypothesis rightHypothesis =>
    rw [expr, Expr.resolve, leftHypothesis, pure_bind, rightHypothesis, pure_bind]
    cases operator <;> rfl

theorem evaluate_code (tree : Arithmetic) {Closure : Type} (machine : Machine Closure)
    (frame : Frame) (world : World Closure) :
    tree.code.evaluate machine frame world = (.value (.number tree.number), world) := by
  induction tree with
  | constant word => rfl
  | negate operand inductionHypothesis =>
    have ends : (Value.number operand.number).unaryEnds world.heap .negate = true :=
      Value.unaryEnds_of_hasText (Value.hasText_number _) _
    rw [code, Code.evaluate, Action.bind_value inductionHypothesis]
    exact if_pos ends
  | combine operator left right leftHypothesis rightHypothesis =>
    rw [code, Code.evaluate, Action.bind_value leftHypothesis, Action.bind_value rightHypothesis]
    have ends : (Value.number left.number).binaryEnds world.heap operator.operator
        (.number right.number) = true :=
      Value.binaryEnds_of_hasText (Value.hasText_number _) (Value.hasText_number _) _
    refine (if_pos ends).trans ?_
    exact congrArg (fun value => (Outcome.value value, world)) (operator.binary_number ..)

/-- An integer that comes out of a tree is its exact value. -/
theorem exactValue?_of_number {tree : Arithmetic} {word : Int64}
    (isInteger : tree.number = .integer word) : tree.exactValue? = some (word.toInt : ℚ) := by
  induction tree generalizing word with
  | constant other =>
    cases isInteger
    rfl
  | negate operand inductionHypothesis =>
    obtain ⟨inner, isInner, -, negated⟩ := Number.negate_eq_integer.mp isInteger
    rw [exactValue?, inductionHypothesis isInner, ← negated]
    simp
  | combine operator left right leftHypothesis rightHypothesis =>
    obtain ⟨first, second, isFirst, isSecond, whole⟩ :=
      ArithmeticOperator.apply_eq_integer.mp isInteger
    rw [exactValue?, leftHypothesis isFirst, rightHypothesis isSecond]
    exact ArithmeticOperator.exactResult?_of_whole? whole

/-- A tree that stays whole yields an integer. -/
theorem number_of_staysWhole {tree : Arithmetic} (stays : tree.StaysWhole) :
    ∃ word, tree.number = .integer word := by
  induction tree with
  | constant word => exact ⟨word, rfl⟩
  | negate operand inductionHypothesis =>
    obtain ⟨inner, notZero, word, isWord⟩ := stays
    obtain ⟨first, isFirst⟩ := inductionHypothesis inner
    rw [exactValue?_of_number isFirst, Ne, Option.some_inj] at notZero
    rw [exactValue?, exactValue?_of_number isFirst, Option.map_some, Option.some_inj] at isWord
    have nonzero : first ≠ 0 := by
      rintro rfl
      exact notZero (by simp)
    exact ⟨word, Number.negate_eq_integer.mpr ⟨first, isFirst, nonzero, by exact_mod_cast isWord⟩⟩
  | combine operator left right leftHypothesis rightHypothesis =>
    obtain ⟨leftStays, rightStays, notExtreme, word, isWord⟩ := stays
    obtain ⟨first, isFirst⟩ := leftHypothesis leftStays
    obtain ⟨second, isSecond⟩ := rightHypothesis rightStays
    rw [exactValue?_of_number isFirst, exactValue?_of_number isSecond] at notExtreme
    rw [exactValue?, exactValue?_of_number isFirst, exactValue?_of_number isSecond] at isWord
    have words : operator = .remainder → ¬(first = Int64.minValue ∧ second = -1) := by
      rintro isRemainder ⟨rfl, rfl⟩
      exact notExtreme isRemainder ⟨rfl, by simp⟩
    exact ⟨word, ArithmeticOperator.apply_eq_integer.mpr
      ⟨first, second, isFirst, isSecond, ArithmeticOperator.whole?_of_exactResult? words isWord⟩⟩

/-- A tree of operations yields a number. If that is an integer, it is the exact value of the
tree, and if the tree stays whole, it is an integer. -/
theorem integer_results_exact (tree : Arithmetic) (label : String) (world : World SlotClosure)
    (context : Value) (arguments : List Value) :
    ∃ function made number after,
      Definition.compile ⟨[], .expression tree.expr, label⟩ world = (.value function, made) ∧
      call function context arguments made = (.value (.number number), after) ∧
      (∀ word, number = .integer word → tree.exactValue? = some (word.toInt : ℚ)) ∧
      (tree.StaysWhole → ∃ word, number = .integer word ∧
        tree.exactValue? = some (word.toInt : ℚ)) := by
  obtain ⟨function, made, frame, heap, compiled, called⟩ :=
    call_expression tree.resolve_expr label world context arguments
  refine ⟨function, made, tree.number, ⟨heap, made.closures⟩, compiled, ?_,
    fun word isInteger => exactValue?_of_number isInteger, fun stays => ?_⟩
  · rw [called, tree.evaluate_code]
  · obtain ⟨word, isInteger⟩ := number_of_staysWhole stays
    exact ⟨word, isInteger, exactValue?_of_number isInteger⟩

end Arithmetic

end Shorthand
