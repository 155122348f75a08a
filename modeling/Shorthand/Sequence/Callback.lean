/-
This file prepares the traversal of a list: the list, whose length is taken once at the start,
and the function that is called for its elements.

A function may be given as the source of a shorthand, which is compiled before the first element
is read. Elements are read from the list right before they are used, so a function that changes
the list is seen at once; an element that is gone reads as `undefined`.
-/

import Shorthand.Machine
import Shorthand.Property

namespace Shorthand.Sequence

variable {Closure : Type}

/-- The list that an operation works on, with its length. Other values fail. -/
def enter (operation : String) (list : Value) : Action Closure (ListRef × Nat) := do
  match list with
  | .list cell => return (cell, ← Action.read fun heap => (heap.readList cell).size)
  | _ => Action.typeFault (.notASequence operation (← Action.readIf list.hasLiteral list.literal))

/-- The element of a list at an index right now. -/
@[inline]
def element (cell : ListRef) (index : Nat) : Action Closure Value :=
  Action.read fun heap => heap.elementAt cell index

/-- The items of a list right now. -/
@[inline]
def items (cell : ListRef) : Action Closure (Array Value) :=
  Action.read fun heap => heap.readList cell

/-- A list with its length at the start, a function and a context for it. -/
structure Traversal where
  cell : ListRef
  length : Nat
  function : Value
  context : Value

/-- Begins a traversal. The list is looked at before the function is compiled. -/
def begin (machine : Machine Closure) (operation : String) (list callback : Value)
    (context : Option Value) : Action Closure Traversal := do
  let (cell, length) ← Sequence.enter operation list
  let function ← machine.toFunction callback
  return ⟨cell, length, function, context.getD .undefined⟩

namespace Traversal

/-- The indices of the elements from the first to the last. -/
def forwards (traversal : Traversal) : List Nat := List.range traversal.length

/-- The indices of the elements from the last to the first. -/
def backwards (traversal : Traversal) : List Nat := traversal.forwards.reverse

/-- Calls the function with the element at an index and the index. -/
@[inline]
def visit (traversal : Traversal) (machine : Machine Closure) (index : Nat) :
    Action Closure Value := do
  machine.invoke traversal.function traversal.context
    [← element traversal.cell index, .ofInt index]

end Traversal

end Shorthand.Sequence
