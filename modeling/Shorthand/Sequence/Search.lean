/-
This file looks for values in lists by equality without conversion.
-/

import Shorthand.Sequence.Callback

namespace Shorthand.Sequence

variable {Closure : Type}

/-- Where a search forwards begins. A negative start counts from the end of the list. -/
def searchStart (length : Nat) : Option Int → Nat
  | none => 0
  | some start => if start < 0 then (length + start).toNat else start.toNat

/-- How many elements a search backwards covers. A negative start counts from the end of the
list. -/
def searchReach (length : Nat) : Option Int → Nat
  | none => length
  | some start => min (if start < 0 then (length + start + 1).toNat else start.toNat + 1) length

/-- The index of the first element that is a value, from a start on. -/
def indexOf (list value : Value) (start : Option Int) : Action Closure (Option Nat) := do
  let (cell, length) ← Sequence.enter "indexOf" list
  Action.read fun heap =>
    ((List.range length).drop (searchStart length start)).find? fun index =>
      (heap.elementAt cell index).same value

/-- The index of the last element that is a value, up to a start. -/
def lastIndexOf (list value : Value) (start : Option Int) : Action Closure (Option Nat) := do
  let (cell, length) ← Sequence.enter "lastIndexOf" list
  Action.read fun heap =>
    (List.range (searchReach length start)).reverse.find? fun index =>
      (heap.elementAt cell index).same value

/-- Whether some element is a value. -/
def contains (list value : Value) : Action Closure Bool := do
  return (← indexOf list value none).isSome

end Shorthand.Sequence
