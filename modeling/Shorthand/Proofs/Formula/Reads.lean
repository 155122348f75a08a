/-
This file shows what conversions and operators read of a heap.

They look at the items of lists, at the labels of functions and at how instants are written. So they
come to the same in heaps that differ in nothing but variables, maps and memos.
-/

import Shorthand.Proofs.Method.Names
import Shorthand.Proofs.World.Ends

namespace Shorthand

/-- Two heaps with the same lists and functions in the same surroundings. -/
structure Heap.Agrees (heap other : Heap) : Prop where
  lists : other.lists = heap.lists
  functions : other.functions = heap.functions
  surroundings : other.surroundings = heap.surroundings

variable {heap other : Heap}

theorem Value.leafText_agrees (agrees : heap.Agrees other) :
    Value.leafText other = Value.leafText heap := by
  funext value
  cases value with
  | function cell =>
    rw [leafText, leafText, Heap.labelOf, Heap.labelOf, Heap.readFunction, Heap.readFunction,
      agrees.functions]
  | date instant => rw [leafText, leafText, Heap.dateText, Heap.dateText, agrees.surroundings]
  | _ => rfl

namespace Nested

mutual

theorem text_agrees (agrees : heap.Agrees other) :
    ∀ tree : Nested, tree.text other = tree.text heap
  | .leaf value => congrFun (Value.leafText_agrees agrees) value
  | .list items => by rw [text, text, itemTexts_agrees agrees]

theorem itemTexts_agrees (agrees : heap.Agrees other) :
    ∀ (items : List Nested) (before : List String),
      itemTexts other before items = itemTexts heap before items
  | [], _ => rfl
  | item :: rest, before => by
    rw [itemTexts, itemTexts, text_agrees agrees item, itemTexts_agrees agrees rest]

end

end Nested

namespace Value

variable (agrees : heap.Agrees other)

include agrees

theorem rawText_agrees : Value.rawText other = Value.rawText heap := by
  funext value
  rw [rawText, rawText, Nested.text_agrees agrees, Nested.ofValue, Nested.ofValue, agrees.lists,
    Nested.unfold_congr agrees.lists]

theorem toFloat_agrees : Value.toFloat other = Value.toFloat heap := by
  funext value
  cases value with
  | list cell => rw [toFloat, toFloat, rawText_agrees agrees]
  | _ => rfl

theorem toNumber_agrees : Value.toNumber other = Value.toNumber heap := by
  funext value
  cases value <;> simp only [toNumber, toFloat_agrees agrees]

theorem toPrimitive_agrees : Value.toPrimitive other = Value.toPrimitive heap := by
  funext preference value
  cases value <;> simp only [toPrimitive, rawText_agrees agrees, Heap.dateText, agrees.surroundings]

theorem withoutParts_agrees : Value.withoutParts other = Value.withoutParts heap := by
  funext value
  cases value <;> simp only [withoutParts, rawText_agrees agrees]

theorem compare_agrees : Value.compare other = Value.compare heap := by
  funext left right
  simp only [compare, toPrimitive_agrees agrees, toFloat_agrees agrees]

theorem add_agrees : Value.add other = Value.add heap := by
  funext left right
  simp only [add, toPrimitive_agrees agrees, toNumber_agrees agrees, leafText_agrees agrees]

theorem looselyEqual_agrees : Value.looselyEqual other = Value.looselyEqual heap := by
  funext left right
  simp only [looselyEqual, withoutParts_agrees agrees]

theorem binary_agrees : Value.binary other = Value.binary heap := by
  funext operator left right
  cases operator <;> simp only [binary, add_agrees agrees, arithmetic, toNumber_agrees agrees,
    ordered, compare_agrees agrees, looselyEqual_agrees agrees]

theorem binaryEnds_agrees : Value.binaryEnds other = Value.binaryEnds heap := by
  funext operator left right
  cases operator <;> simp only [binaryEnds, looselyEqualEnds, hasText_congr agrees.lists]

theorem unary_agrees : Value.unary other = Value.unary heap := by
  funext operator operand
  cases operator <;> simp only [unary, toNumber_agrees agrees]

theorem unaryEnds_agrees : Value.unaryEnds other = Value.unaryEnds heap := by
  funext operator operand
  cases operator <;> simp only [unaryEnds, hasText_congr agrees.lists]

end Value

end Shorthand
