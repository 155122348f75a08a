/-
This file calls functions.

Functions call each other without any measure that shrinks, so a call takes a bound on how many
calls may be inside one another. It is used up by calls alone: within it every evaluation ends,
and an evaluation that exhausts it says so. An evaluation that looks through a value which holds
itself exhausts every bound.
-/

import Shorthand.Evaluate
import Shorthand.Resolve

namespace Shorthand

/-! ### Mathematics and dates -/

/-- The floating-point number of the argument at a position. -/
def floatArgument (heap : Heap) (arguments : List Value) (position : Nat) : Float :=
  (Method.argument arguments position).toFloat heap

/-- The number in front of others in an order, from a number on. One that is not a number is in
front of all. -/
def extreme (before : Float → Float → Bool) (start : Float) (numbers : List Float) : Float :=
  if numbers.any (·.isNaN) then 0.0 / 0.0
  else numbers.foldl (fun best number => if before number best then number else best) start

namespace MathFunction

/-- The value of a function of mathematics. -/
def value (function : MathFunction) (heap : Heap) (arguments : List Value) : Value :=
  let first := floatArgument heap arguments 0
  let result :=
    match function with
    | absolute => first.abs
    | floor => Number.floor first
    | ceiling => Number.ceiling first
    | round => Number.roundHalfUp first
    | squareRoot => first.sqrt
    | power => first.pow (floatArgument heap arguments 1)
    | maximum =>
      extreme (fun number best => best < number) (-1.0 / 0.0) (arguments.map (·.toFloat heap))
    | minimum =>
      extreme (fun number best => number < best) (1.0 / 0.0) (arguments.map (·.toFloat heap))
  .number (Number.ofSignedFloat result)

/-- Whether the numbers of values can be found, up to the first that is not a number. -/
def numbersEnd (heap : Heap) : List Value → Bool
  | [] => true
  | value :: rest => value.hasText heap && ((value.toFloat heap).isNaN || numbersEnd heap rest)

/-- Whether the value of a function of mathematics can be found. -/
def ends (function : MathFunction) (heap : Heap) (arguments : List Value) : Bool :=
  match function with
  | maximum | minimum => numbersEnd heap arguments
  | power => Method.hasArgument arguments 0 heap && Method.hasArgument arguments 1 heap
  | _ => Method.hasArgument arguments 0 heap

end MathFunction

/-- The date of a number of milliseconds. There is none beyond the calendar. -/
def dateAt (milliseconds : Int) : Value :=
  match Instant.ofMilliseconds? milliseconds with
  | some instant => .date instant
  | none => .undefined

/-- The date of the milliseconds in the first argument, or without an argument what the clock
shows. -/
def dateOf {Closure : Type} (arguments : List Value) : Action Closure Value := do
  match arguments with
  | [] => return .date (← Action.readClock)
  | first :: _ => return dateAt (← Action.readIf first.hasText first.toWord).toInt

/-! ### Variables -/

/-- The heap with new variables that are `undefined`, and their cells. -/
def Heap.newVariables (heap : Heap) (count : Nat) : Array VariableRef × Heap :=
  let start := heap.locals.size
  ((Array.range count).map fun index => ⟨start + index⟩,
    { heap with locals := heap.locals ++ Array.replicate count .undefined })

/-- Writes arguments to the slots of parameters. Missing arguments are `undefined`, and of equal
parameters the last counts. -/
def Heap.writeParameters (heap : Heap) (slots : Array VariableRef) :
    List Nat → List Value → Heap
  | [], _ => heap
  | slot :: rest, arguments =>
    (heap.writeVariable (slots.getD slot ⟨0⟩) (arguments.headD .undefined)).writeParameters slots
      rest arguments.tail

/-! ### Closures -/

/-- A way to make closures of a kind, to keep them and to run them. -/
structure Engine (Closure : Type) where
  close : Definition → Action Closure Value
  keep : SlotClosure → Closure
  run : Machine Closure → Closure → Value → List Value → Action Closure Value

namespace SlotClosure

variable {Closure : Type}

/-- Begins a call: own slots have new variables, the parameters among them have the arguments, and
captured slots have the cells that were captured. The captured slots come after the own ones. -/
def enter (closure : SlotClosure) (context : Value) (arguments : List Value) :
    Action Closure Frame :=
  Action.change fun heap =>
    let (own, heap) := heap.newVariables (closure.routine.slotCount - closure.captured.length)
    let heap := heap.writeParameters own closure.routine.parameterSlots arguments
    let slots := closure.captured.foldl (fun slots (slot, cell) => slots.setIfInBounds slot cell)
      (own ++ Array.replicate closure.captured.length ⟨0⟩)
    (⟨context, arguments, slots⟩, heap)

/-- Runs the routine of a closure. -/
def run (machine : Machine Closure) (closure : SlotClosure) (context : Value)
    (arguments : List Value) : Action Closure Value := do
  let frame ← closure.enter context arguments
  closure.routine.body.run machine frame

end SlotClosure

/-- Functions whose names are resolved when they are compiled. -/
def slotEngine : Engine SlotClosure := ⟨Definition.compile, id, SlotClosure.run⟩

/-! ### Calls -/

namespace Engine

variable {Closure : Type} (engine : Engine Closure)

/-- What a function does with a context and arguments. -/
def perform (machine : Machine Closure) (context : Value) (arguments : List Value) :
    Behaviour → Action Closure Value
  | .closure cell => fun world =>
    match world.closures[cell.index]? with
    | some closure => engine.run machine closure context arguments world
    | none => (.value .undefined, world)
  | .method receiver name => Method.call machine receiver name arguments
  | .bound function context first => machine.invoke function context (first ++ arguments)
  | .negated function => do
    return .boolean (!(← machine.invoke function context arguments).truthy)
  | .memoized memo => Combine.answer machine.invoke memo context arguments
  | .memoizing function slot => Combine.install machine.invoke function slot context arguments
  | .mathematics function => Action.readIf (function.ends · arguments) (function.value · arguments)
  | .date => dateOf arguments
  | .truncating list length => do
    match list with
    | .list cell => Action.changeList cell fun items => items.take length
    | _ => Action.done ()
    return Method.argument arguments 0
  | .failing message => Action.typeFault (.raised message)

/-- The machine that has at most so many calls inside one another. -/
def machineWithin : Nat → Machine Closure
  | 0 => ⟨fun _ _ _ => Action.exhausted, engine.close, engine.keep⟩
  | depth + 1 =>
    { invoke := fun function context arguments => do
        match function with
        | .function cell =>
          engine.perform (machineWithin depth) context arguments
            (← Action.read fun heap => (heap.readFunction cell).behaviour)
        | value =>
          Action.typeFault (.notAFunction (← Action.readIf value.hasLiteral value.literal))
      close := engine.close
      keep := engine.keep }

end Engine

/-- How many calls may be inside one another. -/
def callDepth : Nat := 1000000

/-- The machine that programs run on. -/
def machine : Machine SlotClosure := slotEngine.machineWithin callDepth

/-- Calls a function with a context and arguments. -/
def call : Invoke SlotClosure := machine.invoke

/-- Calls a method of a receiver. -/
def callMethod (receiver key : Value) (arguments : List Value) : Action SlotClosure Value := do
  Method.call machine receiver (← Action.readIf key.hasText key.rawText) arguments

/-- Evaluates a program. -/
def evaluate (code : String) : Action SlotClosure Value := do
  call (← machine.compileProgram code) .undefined []

end Shorthand
