/-
This file converts values to numbers and to primitive values, and holds the operators.

Conversion reads lists through their plain text, so it depends on the heap but never changes it. It
ends if these texts do, which is said beside each operator. Addition joins text as soon as one
operand has no number of its own; all other arithmetic is on numbers.
-/

import Shorthand.Value.Text

namespace Shorthand.Value

/-! ### Conversions -/

/-- The floating-point number of a value. -/
def toFloat (heap : Heap) : Value → Float
  | .undefined => 0.0 / 0.0
  | .null => 0.0
  | .boolean value => if value then 1.0 else 0.0
  | .number value => value.toFloat
  | .string value => numberOfText value
  | .list cell => numberOfText (rawText heap (.list cell))
  | .map _ | .function _ => 0.0 / 0.0
  | .date instant => Float.ofInt instant.milliseconds

/-- The integer of a value after dropping a fraction. What is not a number counts as zero. -/
def toWord (heap : Heap) : Value → Int64
  | .number (.integer value) => value
  | value => wordNear (value.toFloat heap)

/-- The number of a value, an integer where that is possible. Numbers are themselves. -/
def toNumber (heap : Heap) : Value → Number
  | .number value => value
  | .boolean value => .integer (if value then 1 else 0)
  | .null => .integer 0
  | value => .ofFloat (value.toFloat heap)

/-- What a date is to an operator. -/
inductive DatePreference where
  | text | number
deriving DecidableEq

/-- A value that refers to no cell: lists, maps and functions become their plain text. -/
def toPrimitive (heap : Heap) (preference : DatePreference) : Value → Value
  | .date instant =>
    match preference with
    | .text => .string (heap.dateText instant)
    | .number => ofInt instant.milliseconds
  | .list cell => .string (rawText heap (.list cell))
  | .map cell => .string (rawText heap (.map cell))
  | .function cell => .string (rawText heap (.function cell))
  | value => value

/-! ### Equality after conversion -/

/-- Booleans as numbers, other values as they are. -/
def withoutBoolean : Value → Value
  | .boolean value => .number (.integer (if value then 1 else 0))
  | value => value

/-- Equality where text meets a number as a number. -/
def equalPrimitives : Value → Value → Bool
  | .string left, .number right => numberOfText left == right.toFloat
  | .number left, .string right => left.toFloat == numberOfText right
  | left, right => left.same right

/-- Whether a value is text or a number, which lists and maps meet as their plain text. -/
def isTextOrNumber : Value → Bool
  | .string _ | .number _ => true
  | _ => false

/-- The plain text of a list or map in place of it. -/
def withoutParts (heap : Heap) : Value → Value
  | .list cell => .string (rawText heap (.list cell))
  | .map cell => .string (rawText heap (.map cell))
  | value => value

/-- Equality after conversion. Missing values equal each other only, booleans count as
numbers, and lists and maps meet text and numbers as their plain text. -/
def looselyEqual (heap : Heap) (left right : Value) : Bool :=
  if left.isNone || right.isNone then left.isNone && right.isNone
  else
    let left := left.withoutBoolean
    let right := right.withoutBoolean
    equalPrimitives (if right.isTextOrNumber then left.withoutParts heap else left)
      (if left.isTextOrNumber then right.withoutParts heap else right)

/-- Whether equality after conversion can be decided: what meets text or a number needs its plain
text. -/
def looselyEqualEnds (heap : Heap) (left right : Value) : Bool :=
  left.isNone || right.isNone ||
    (!right.withoutBoolean.isTextOrNumber || left.hasText heap) &&
      (!left.withoutBoolean.isTextOrNumber || right.hasText heap)

/-! ### Order -/

/-- The order of two texts by code points. -/
def compareTexts (left right : String) : Ordering :=
  if left < right then .lt else if left = right then .eq else .gt

/-- The order of two values: of texts as such, and of the numbers of all others, which may have
none. -/
def compare (heap : Heap) (left right : Value) : Option Ordering :=
  match left.toPrimitive heap .number, right.toPrimitive heap .number with
  | .string left, .string right => some (compareTexts left right)
  | left, right => Number.compareFloats (left.toFloat heap) (right.toFloat heap)

/-! ### Operators -/

/-- The sum of two values, or their texts one after the other if one of them is text. -/
def add (heap : Heap) (left right : Value) : Value :=
  match left.toPrimitive heap .text, right.toPrimitive heap .text with
  | .string left, right => .string (left ++ right.leafText heap)
  | left, .string right => .string (left.leafText heap ++ right)
  | left, right => .number ((left.toNumber heap).add (right.toNumber heap))

/-- The value of an operation on the numbers of two values. -/
def arithmetic (heap : Heap) (operation : Number → Number → Number) (left right : Value) : Value :=
  .number (operation (left.toNumber heap) (right.toNumber heap))

/-- Whether two values are in one of some orders. -/
def ordered (heap : Heap) (orders : Ordering → Bool) (left right : Value) : Value :=
  .boolean ((left.compare heap right).any orders)

/-- The value of a binary operator when both operands are known. -/
def binary (heap : Heap) : BinaryOperator → Value → Value → Value
  | .add, left, right => add heap left right
  | .subtract, left, right => arithmetic heap Number.subtract left right
  | .multiply, left, right => arithmetic heap Number.multiply left right
  | .divide, left, right => arithmetic heap Number.divide left right
  | .remainder, left, right => arithmetic heap Number.remainder left right
  | .less, left, right => ordered heap (· == .lt) left right
  | .greater, left, right => ordered heap (· == .gt) left right
  | .lessEqual, left, right => ordered heap (· != .gt) left right
  | .greaterEqual, left, right => ordered heap (· != .lt) left right
  | .equal, left, right => .boolean (looselyEqual heap left right)
  | .notEqual, left, right => .boolean (!looselyEqual heap left right)
  | .same, left, right => .boolean (left.same right)
  | .notSame, left, right => .boolean (!left.same right)
  | .and, left, right => if left.truthy then right else left
  | .or, left, right => if left.truthy then left else right

/-- Whether the value of a binary operator can be found. All but those on truth and on equality
without conversion convert both operands. -/
def binaryEnds (heap : Heap) (operator : BinaryOperator) (left right : Value) : Bool :=
  match operator with
  | .same | .notSame | .and | .or => true
  | .equal | .notEqual => looselyEqualEnds heap left right
  | _ => left.hasText heap && right.hasText heap

/-- The value of an operator in front of an operand. -/
def unary (heap : Heap) : UnaryOperator → Value → Value
  | .not, operand => .boolean (!operand.truthy)
  | .negate, operand => .number (operand.toNumber heap).negate
  | .plus, operand => .number (operand.toNumber heap)
  | .typeOf, operand => .string operand.typeOf

/-- Whether the value of an operator in front of an operand can be found. -/
def unaryEnds (heap : Heap) (operator : UnaryOperator) (operand : Value) : Bool :=
  match operator with
  | .not | .typeOf => true
  | .negate | .plus => operand.hasText heap

end Shorthand.Value
