/-
This file evaluates resolved functions and checks every access to a slot.

Evaluation itself takes some cell where a frame has no slot of a number. Here an action comes in
that place which never ends with a value: whatever it does and however it ends, what came before it
goes no further. All else is as in evaluation without checks, so where the two differ for any such
action, an access was out of range.
-/

import Shorthand.Call

namespace Shorthand

variable {Closure : Type}

/-- The cell at a position. Where there is none, a stray access ends the evaluation. -/
def Action.cellAt (stray : Action Closure Empty) (cells : Array VariableRef) (position : Nat) :
    Action Closure VariableRef :=
  match cells[position]? with
  | some cell => Action.done cell
  | none => do nomatch ← stray

namespace Frame

variable (stray : Action Closure Empty)

/-- The cell of a slot. -/
def guardedCell (frame : Frame) (slot : Nat) : Action Closure VariableRef :=
  Action.cellAt stray frame.slots slot

/-- The cells that a new function captures, with its own slots for them. -/
def guardedCaptured (frame : Frame) : List (Nat × Nat) → Action Closure (List (Nat × VariableRef))
  | [] => Action.done []
  | (outer, own) :: rest => do
    let cell ← frame.guardedCell stray outer
    let captured ← frame.guardedCaptured rest
    Action.done ((own, cell) :: captured)

end Frame

section

variable (stray : Action Closure Empty)

mutual

/-- The value of an expression. -/
def Code.guarded (machine : Machine Closure) (frame : Frame) : Code → Action Closure Value
  | .value value => Action.done value
  | .slot slot => do
    let cell ← frame.guardedCell stray slot
    Action.read fun heap => heap.readVariable cell
  | .this => Action.done frame.context
  | .arguments => Action.newList frame.arguments.toArray
  | .array items => do Action.newList (← guardedAll machine frame items).toArray
  | .object entries => do Action.newMap (← guardedEntries machine frame Table.empty entries)
  | .property base key => do
    let base ← base.guarded machine frame
    let key ← key.guarded machine frame
    readProperty base key
  | .call callee operands => do
    let function ← callee.guarded machine frame
    let arguments ← guardedAll machine frame operands
    machine.invoke function .undefined arguments
  | .callMethod receiver key operands => do
    let receiver ← receiver.guarded machine frame
    let key ← key.guarded machine frame
    let arguments ← guardedAll machine frame operands
    let name ← Action.readIf key.hasText key.rawText
    Method.call machine receiver name arguments
  | .unary operator operand => do
    let operand ← operand.guarded machine frame
    Action.readIf (operand.unaryEnds · operator) (operand.unary · operator)
  | .binary operator left right => do
    let left ← left.guarded machine frame
    let right ← right.guarded machine frame
    Action.readIf (left.binaryEnds · operator right) (left.binary · operator right)
  | .and left right => do
    let left ← left.guarded machine frame
    if left.truthy then right.guarded machine frame else Action.done left
  | .or left right => do
    let left ← left.guarded machine frame
    if left.truthy then Action.done left else right.guarded machine frame
  | .conditional condition positive negative => do
    let condition ← condition.guarded machine frame
    if condition.truthy then positive.guarded machine frame
    else negative.guarded machine frame
  | .assignSlot operator slot value => do
    let cell ← frame.guardedCell stray slot
    let old ← Action.read fun heap => heap.readVariable cell
    let value ← value.guarded machine frame
    let value ← Action.readIf (assignedEnds · operator old value) (assigned · operator old value)
    Action.writeVariable cell value
    Action.done value
  | .assignProperty operator base key value => do
    let base ← base.guarded machine frame
    let key ← key.guarded machine frame
    let old ← if operator.isSome then readProperty base key else Action.done .undefined
    let value ← value.guarded machine frame
    let value ← Action.readIf (assignedEnds · operator old value) (assigned · operator old value)
    writeProperty base key value
    Action.done value
  | .function parameterSlots slotCount captures body label => do
    let captured ← frame.guardedCaptured stray captures
    Action.newClosure
      (machine.keep ⟨⟨parameterSlots, slotCount, captures, body, label⟩, captured⟩)
      parameterSlots.length label

/-- The values of expressions, in order. -/
def guardedAll (machine : Machine Closure) (frame : Frame) :
    List Code → Action Closure (List Value)
  | [] => Action.done []
  | item :: rest => do
    let value ← item.guarded machine frame
    let values ← guardedAll machine frame rest
    Action.done (value :: values)

/-- The table with the values of entries added to it, in order. -/
def guardedEntries (machine : Machine Closure) (frame : Frame) (table : Table Value) :
    List (String × Code) → Action Closure (Table Value)
  | [] => Action.done table
  | (key, value) :: rest => do
    let value ← value.guarded machine frame
    guardedEntries machine frame (table.insert key value) rest

end

/-- Gives variables their initial values, in order. -/
def guardedInitials (machine : Machine Closure) (frame : Frame) :
    List (Nat × Code) → Action Closure Unit
  | [] => Action.done ()
  | (slot, value) :: rest => do
    let value ← value.guarded stray machine frame
    let cell ← frame.guardedCell stray slot
    Action.writeVariable cell value
    guardedInitials machine frame rest

mutual

/-- Runs a statement and yields the value that it returns, if it returns one. -/
def Step.guarded (machine : Machine Closure) (frame : Frame) :
    Step → Action Closure (Option Value)
  | .define values => do
    guardedInitials stray machine frame values
    Action.done none
  | .return none => Action.done (some .undefined)
  | .return (some value) => do
    let value ← value.guarded stray machine frame
    Action.done (some value)
  | .if condition positive negative => do
    let condition ← condition.guarded stray machine frame
    if condition.truthy then positive.guarded machine frame
    else guardedAlternative machine frame negative
  | .block steps => guardedBlock machine frame steps
  | .evaluate value => do
    let _ ← value.guarded stray machine frame
    Action.done none

/-- Runs what stands after `else`. -/
def guardedAlternative (machine : Machine Closure) (frame : Frame) :
    Option Step → Action Closure (Option Value)
  | none => Action.done none
  | some step => step.guarded machine frame

/-- Runs statements until one returns. -/
def guardedBlock (machine : Machine Closure) (frame : Frame) :
    List Step → Action Closure (Option Value)
  | [] => Action.done none
  | step :: rest => do
    match ← step.guarded machine frame with
    | some value => Action.done (some value)
    | none => guardedBlock machine frame rest

end

/-- The result of a function body. Statements that do not return give `undefined`. -/
def CodeBody.guarded (machine : Machine Closure) (frame : Frame) : CodeBody → Action Closure Value
  | .expression value => value.guarded stray machine frame
  | .steps block => do return (← guardedBlock stray machine frame block).getD .undefined

end

/-! ### Calls -/

section

variable (stray : Action Closure Empty)

/-- Writes arguments to the slots of parameters, which have to be among some cells. -/
def guardedParameters (own : Array VariableRef) :
    List Nat → List Value → Action Closure Unit
  | [], _ => Action.done ()
  | slot :: rest, arguments => do
    let cell ← Action.cellAt stray own slot
    Action.writeVariable cell (arguments.headD .undefined)
    guardedParameters own rest arguments.tail

/-- Puts captured cells into their slots, which have to be there. -/
def guardedSlots (slots : Array VariableRef) :
    List (Nat × VariableRef) → Action Closure (Array VariableRef)
  | [] => Action.done slots
  | (slot, cell) :: rest => do
    let _ ← Action.cellAt stray slots slot
    guardedSlots (slots.setIfInBounds slot cell) rest

/-- Begins a call in a frame with as many slots as the routine has. Parameters have to be own
variables of the call. -/
def SlotClosure.guardedEnter (closure : SlotClosure) (context : Value) (arguments : List Value) :
    Action Closure Frame := do
  let own ← Action.change fun heap =>
    heap.newVariables (closure.routine.slotCount - closure.captured.length)
  guardedParameters stray own closure.routine.parameterSlots arguments
  let free := Array.replicate (closure.routine.slotCount - own.size) ⟨0⟩
  let slots ← guardedSlots stray (own ++ free) closure.captured
  Action.done ⟨context, arguments, slots⟩

/-- Runs the routine of a closure. -/
def SlotClosure.guardedRun (machine : Machine Closure) (closure : SlotClosure) (context : Value)
    (arguments : List Value) : Action Closure Value := do
  let frame ← closure.guardedEnter stray context arguments
  closure.routine.body.guarded stray machine frame

end

/-- Functions with slots whose accesses are checked. -/
def guardedEngine (stray : Action SlotClosure Empty) : Engine SlotClosure :=
  ⟨Definition.compile, id, SlotClosure.guardedRun stray⟩

end Shorthand
