/-
This file holds the operations that call a function for each element of a list.
-/

import Shorthand.Sequence.Callback

namespace Shorthand.Sequence

variable {Closure : Type} (machine : Machine Closure)

/-- Calls a function for every element. -/
def forEach (list callback : Value) (context : Option Value) : Action Closure Unit := do
  let traversal ← begin machine "forEach" list callback context
  Action.fold (fun _ index => do let _ ← traversal.visit machine index) traversal.forwards ()

/-- A new list of the answers for all elements. -/
def map (list callback : Value) (context : Option Value) : Action Closure Value := do
  let traversal ← begin machine "map" list callback context
  Action.newList (← Action.collect (traversal.visit machine) traversal.forwards)

/-- What a function makes of an initial value and all elements, one after the other. -/
def reduce (list callback initial : Value) : Action Closure Value := do
  let traversal ← begin machine "reduce" list callback none
  Action.fold
    (fun state index => do
      machine.invoke traversal.function .undefined [state, ← element traversal.cell index])
    traversal.forwards initial

/-- A new list of the elements for which the answer is truthy. -/
def filter (list callback : Value) (context : Option Value) : Action Closure Value := do
  let traversal ← begin machine "filter" list callback context
  let kept ← Action.fold
    (fun kept index => do
      let value ← element traversal.cell index
      let answer ← machine.invoke traversal.function traversal.context [value, .ofInt index]
      return if answer.truthy then kept.push value else kept)
    traversal.forwards #[]
  Action.newList kept

/-- Whether the answers for all elements are truthy. The first other one decides. -/
def every (list callback : Value) (context : Option Value) : Action Closure Bool := do
  let traversal ← begin machine "every" list callback context
  let failing ← Action.first?
    (fun index => do return !(← traversal.visit machine index).truthy) traversal.forwards
  return failing.isNone

/-- Whether the answer for some element is truthy. The first one decides. -/
def any (list callback : Value) (context : Option Value) : Action Closure Bool := do
  let traversal ← begin machine "some" list callback context
  let found ← Action.first?
    (fun index => do return (← traversal.visit machine index).truthy) traversal.forwards
  return found.isSome

/-- The index of the first element for which the answer is truthy, or of the last one if the
search goes backwards. -/
def find (list callback : Value) (context : Option Value) (backwards : Bool) :
    Action Closure (Option Nat) := do
  let traversal ← begin machine "find" list callback context
  Action.first? (fun index => do return (← traversal.visit machine index).truthy)
    (if backwards then traversal.backwards else traversal.forwards)

/-- A new list of the answers for the elements of two lists at the same indices. It is as long
as the first list, which is also the context where none is given. -/
def zipWith (list other callback : Value) (context : Option Value) : Action Closure Value := do
  let traversal ← begin machine "zipWith" list callback (some (context.getD list))
  let answers ← Action.collect
    (fun index => do
      let right ← match other with
        | .list cell => element cell index
        | _ => readProperty other (.ofInt index)
      machine.invoke traversal.function traversal.context [← element traversal.cell index, right])
    traversal.forwards
  Action.newList answers

/-- A new list without the elements that equal the one before them. -/
def uniq (list : Value) (equality context : Option Value) : Action Closure Value := do
  let traversal ← begin machine "uniq" list (equality.getD (.string "===")) context
  let kept ← Action.fold
    (fun kept index => do
      let value ← element traversal.cell index
      if index = 0 then return kept.push value
      else
        let answer ← machine.invoke traversal.function traversal.context
          [← element traversal.cell (index - 1), value]
        return if answer.truthy then kept else kept.push value)
    traversal.forwards #[]
  Action.newList kept

/-! ### Operations written as shorthands -/

/-- The sum of the numbers of all elements. -/
def sum (list : Value) : Action Closure Value :=
  reduce machine list (.string "a, b -> (+a) + (+b)") (.ofInt 0)

/-- The first element, and null where there is none. -/
def firstOrNull (operation : String) (list : Value) : Action Closure Value := do
  let (cell, length) ← Sequence.enter operation list
  if length = 0 then return .null else element cell 0

/-- The greatest element, and null where there is none. -/
def greatest (list : Value) : Action Closure Value := do
  reduce machine list (.string "max, x -> (x > max) ? x : max") (← firstOrNull "max" list)

/-- The least element, and null where there is none. -/
def least (list : Value) : Action Closure Value := do
  reduce machine list (.string "min, x -> (x < min) ? x : min") (← firstOrNull "min" list)

/-- A new list without missing values. -/
def compact (list : Value) : Action Closure Value :=
  filter machine list (.string "x -> x !== null && x !== undefined") none

/-! ### Properties of elements -/

/-- A new list of the properties of all elements with a key. -/
def pluck (list key : Value) : Action Closure Value := do
  let (cell, length) ← Sequence.enter "map" list
  Action.newList (← Action.collect
    (fun index => do readProperty (← element cell index) key) (List.range length))

end Shorthand.Sequence
