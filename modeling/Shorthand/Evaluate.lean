/-
This file evaluates resolved functions.

Operands are evaluated from left to right, a receiver and its key before the arguments. Whatever
an expression calls is left to a parameter, so evaluation itself follows the expression and
always ends.
-/

import Shorthand.Method.Call

namespace Shorthand

variable {Closure : Type}

/-- One call of a function: its context, its arguments and the cells of its variables. -/
structure Frame where
  context : Value
  arguments : List Value
  slots : Array VariableRef

namespace Frame

/-- The cell of a slot. -/
def cell (frame : Frame) (slot : Nat) : VariableRef := frame.slots.getD slot ⟨0⟩

/-- The cells that a new function captures, with its own slots for them. -/
def captured (frame : Frame) (captures : List (Nat × Nat)) : List (Nat × VariableRef) :=
  captures.map fun (outer, own) => (own, frame.cell outer)

end Frame

/-- Whether the value to assign can be found. -/
def assignedEnds (heap : Heap) (operator : Option BinaryOperator) (old value : Value) : Bool :=
  match operator with
  | some operator => old.binaryEnds heap operator value
  | none => true

/-- The value to assign: a value, or the result of an operator on the old value and it. -/
def assigned (heap : Heap) (operator : Option BinaryOperator) (old value : Value) : Value :=
  match operator with
  | some operator => old.binary heap operator value
  | none => value

mutual

/-- The value of an expression. -/
def Code.evaluate (machine : Machine Closure) (frame : Frame) : Code → Action Closure Value
  | .value value => Action.done value
  | .slot slot => Action.read fun heap => heap.readVariable (frame.cell slot)
  | .this => Action.done frame.context
  | .arguments => Action.newList frame.arguments.toArray
  | .array items => do Action.newList (← evaluateAll machine frame items).toArray
  | .object entries => do Action.newMap (← evaluateEntries machine frame Table.empty entries)
  | .property base key => do
    let base ← base.evaluate machine frame
    let key ← key.evaluate machine frame
    readProperty base key
  | .call callee operands => do
    let function ← callee.evaluate machine frame
    let arguments ← evaluateAll machine frame operands
    machine.invoke function .undefined arguments
  | .callMethod receiver key operands => do
    let receiver ← receiver.evaluate machine frame
    let key ← key.evaluate machine frame
    let arguments ← evaluateAll machine frame operands
    let name ← Action.readIf key.hasText key.rawText
    Method.call machine receiver name arguments
  | .unary operator operand => do
    let operand ← operand.evaluate machine frame
    Action.readIf (operand.unaryEnds · operator) (operand.unary · operator)
  | .binary operator left right => do
    let left ← left.evaluate machine frame
    let right ← right.evaluate machine frame
    Action.readIf (left.binaryEnds · operator right) (left.binary · operator right)
  | .and left right => do
    let left ← left.evaluate machine frame
    if left.truthy then right.evaluate machine frame else Action.done left
  | .or left right => do
    let left ← left.evaluate machine frame
    if left.truthy then Action.done left else right.evaluate machine frame
  | .conditional condition positive negative => do
    let condition ← condition.evaluate machine frame
    if condition.truthy then positive.evaluate machine frame
    else negative.evaluate machine frame
  | .assignSlot operator slot value => do
    let old ← Action.read fun heap => heap.readVariable (frame.cell slot)
    let value ← value.evaluate machine frame
    let value ← Action.readIf (assignedEnds · operator old value) (assigned · operator old value)
    Action.writeVariable (frame.cell slot) value
    Action.done value
  | .assignProperty operator base key value => do
    let base ← base.evaluate machine frame
    let key ← key.evaluate machine frame
    let old ← if operator.isSome then readProperty base key else Action.done .undefined
    let value ← value.evaluate machine frame
    let value ← Action.readIf (assignedEnds · operator old value) (assigned · operator old value)
    writeProperty base key value
    Action.done value
  | .function parameterSlots slotCount captures body label =>
    Action.newClosure
      (machine.keep
        ⟨⟨parameterSlots, slotCount, captures, body, label⟩, frame.captured captures⟩)
      parameterSlots.length label

/-- The values of expressions, in order. -/
def evaluateAll (machine : Machine Closure) (frame : Frame) :
    List Code → Action Closure (List Value)
  | [] => Action.done []
  | item :: rest => do
    let value ← item.evaluate machine frame
    let values ← evaluateAll machine frame rest
    Action.done (value :: values)

/-- The table with the values of entries added to it, in order. -/
def evaluateEntries (machine : Machine Closure) (frame : Frame) (table : Table Value) :
    List (String × Code) → Action Closure (Table Value)
  | [] => Action.done table
  | (key, value) :: rest => do
    let value ← value.evaluate machine frame
    evaluateEntries machine frame (table.insert key value) rest

end

/-- Gives variables their initial values, in order. -/
def initializeSlots (machine : Machine Closure) (frame : Frame) :
    List (Nat × Code) → Action Closure Unit
  | [] => Action.done ()
  | (slot, value) :: rest => do
    let value ← value.evaluate machine frame
    Action.writeVariable (frame.cell slot) value
    initializeSlots machine frame rest

mutual

/-- Runs a statement and yields the value that it returns, if it returns one. -/
def Step.run (machine : Machine Closure) (frame : Frame) : Step → Action Closure (Option Value)
  | .define values => do
    initializeSlots machine frame values
    Action.done none
  | .return none => Action.done (some .undefined)
  | .return (some value) => do
    let value ← value.evaluate machine frame
    Action.done (some value)
  | .if condition positive negative => do
    let condition ← condition.evaluate machine frame
    if condition.truthy then positive.run machine frame
    else runAlternative machine frame negative
  | .block steps => runBlock machine frame steps
  | .evaluate value => do
    let _ ← value.evaluate machine frame
    Action.done none

/-- Runs what stands after `else`. -/
def runAlternative (machine : Machine Closure) (frame : Frame) :
    Option Step → Action Closure (Option Value)
  | none => Action.done none
  | some step => step.run machine frame

/-- Runs statements until one returns. -/
def runBlock (machine : Machine Closure) (frame : Frame) : List Step → Action Closure (Option Value)
  | [] => Action.done none
  | step :: rest => do
    match ← step.run machine frame with
    | some value => Action.done (some value)
    | none => runBlock machine frame rest

end

/-- The result of a function body. Statements that do not return give `undefined`. -/
def CodeBody.run (machine : Machine Closure) (frame : Frame) : CodeBody → Action Closure Value
  | .expression value => value.evaluate machine frame
  | .steps block => do return (← runBlock machine frame block).getD .undefined

end Shorthand
