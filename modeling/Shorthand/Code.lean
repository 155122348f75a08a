/-
This file holds functions whose names have been resolved.

Every function numbers its variables: parameters, declared names, and the variables of
functions around it that it uses. Such a variable is captured: when the function is made, its
slot is given the cell of the outer variable. Global names have become values.
-/

import Shorthand.Heap

namespace Shorthand

mutual

/-- An expression with slots in place of names. -/
inductive Code where
  | value (value : Value)
  | slot (slot : Nat)
  | this
  | arguments
  | array (items : List Code)
  | object (entries : List (String × Code))
  | property (base key : Code)
  | call (callee : Code) (operands : List Code)
  | callMethod (receiver key : Code) (operands : List Code)
  | unary (operator : UnaryOperator) (operand : Code)
  | binary (operator : BinaryOperator) (left right : Code)
  /-- The right operand counts if the left one is truthy. -/
  | and (left right : Code)
  /-- The right operand counts if the left one is not truthy. -/
  | or (left right : Code)
  | conditional (condition positive negative : Code)
  | assignSlot (operator : Option BinaryOperator) (slot : Nat) (value : Code)
  | assignProperty (operator : Option BinaryOperator) (base key value : Code)
  /-- A function with the slots of its parameters, the number of its slots, the pairs of an
  outer slot and the own slot that captures it, its body and its label. -/
  | function (parameterSlots : List Nat) (slotCount : Nat) (captures : List (Nat × Nat))
      (body : CodeBody) (label : String)

/-- A statement with slots in place of names. -/
inductive Step where
  | define (values : List (Nat × Code))
  | return (value : Option Code)
  | if (condition : Code) (positive : Step) (negative : Option Step)
  | block (steps : List Step)
  | evaluate (value : Code)

/-- The body of a compiled function: an expression that is its value, or steps. -/
inductive CodeBody where
  | expression (value : Code)
  | steps (steps : List Step)

end

/-- A function ready to be made with the cells that it captures. -/
structure Routine where
  parameterSlots : List Nat
  slotCount : Nat
  /-- Pairs of a slot of the function around and the own slot that captures it. -/
  captures : List (Nat × Nat)
  body : CodeBody
  label : String

/-- A routine with the variables that it has captured, by its own slots for them. -/
structure SlotClosure where
  routine : Routine
  captured : List (Nat × VariableRef)

end Shorthand
