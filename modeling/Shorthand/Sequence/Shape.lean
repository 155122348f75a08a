/-
This file takes lists apart and puts them together without calling functions.
-/

import Shorthand.Sequence.Callback
import Shorthand.Text.Search

namespace Shorthand.Sequence

variable {Closure : Type}

/-- A new list of the leaves of nested lists. -/
def flatten (list : Value) : Action Closure Value := do
  let _ ← Sequence.enter "flatten" list
  Action.newList (← Action.readIf list.hasText fun heap => (Nested.ofValue heap list).leaves)

/-- Whether values are equal one by one, decided by the first that are not. -/
def allEqual (equal : Value → Value → Option Bool) : List Value → List Value → Option Bool
  | left :: lefts, right :: rights =>
    match equal left right with
    | some true => allEqual equal lefts rights
    | answer => answer
  | lefts, rights => some (lefts.isEmpty && rights.isEmpty)

/-- Whether two values are of the same nested shape with the same leaves, as far as this is decided
within a depth. The items of lists are looked at only if there are as many of them. -/
def equalWithin (heap : Heap) : Nat → Value → Value → Option Bool
  | depth + 1, .list left, .list right =>
    if (heap.readList left).size = (heap.readList right).size then
      allEqual (equalWithin heap depth) (heap.readList left).toList (heap.readList right).toList
    else some false
  | 0, .list _, .list _ => none
  | _, left, right => some (left.same right)

/-- Whether two values are lists of the same nested shape with the same leaves, if this is ever
decided. Lists that hold themselves can be compared without end, and then two of them meet again
before there have been more comparisons in each other than there are pairs of lists. -/
def equals? (heap : Heap) (list other : Value) : Option Bool :=
  match list, other with
  | .list _, .list _ => equalWithin heap (heap.lists.size * heap.lists.size) list other
  | _, _ => some false

/-- Whether two values are found to be lists of the same nested shape with the same leaves. -/
def equals (heap : Heap) (list other : Value) : Bool := (equals? heap list other).getD false

/-- Consecutive parts of some items, all of a size but the last, which may be shorter. -/
def parts (size : Nat) (items : Array Value) : List (Array Value) :=
  (List.range ((items.size + size - 1) / size)).map fun index =>
    items.extract (index * size) (index * size + size)

/-- A new list of new lists with the parts of a list. -/
def chunk (list : Value) (size : Nat) : Action Closure Value := do
  let (cell, _) ← Sequence.enter "chunk" list
  if size = 0 then Action.fail (.argument .chunkSize)
  else
    let parts := (parts size (← items cell)).toArray
    Action.newList (← Action.collect (fun index => Action.newList (parts.getD index #[]))
      (List.range parts.size))

/-- A new list of the numbers from zero up to a limit. -/
def range (limit : Int) : Action Closure Value :=
  Action.newList ((Array.range limit.toNat).map fun number => .ofInt (Int.ofNat number))

/-- The first element of a list. -/
def first (heap : Heap) : Value → Value
  | .list cell => heap.elementAt cell 0
  | _ => .undefined

/-- The last element of a list. -/
def last (heap : Heap) : Value → Value
  | .list cell =>
    let items := heap.readList cell
    if items.size = 0 then .undefined else items.getD (items.size - 1) .undefined
  | _ => .undefined

/-- A new list of the items with arguments after them. An argument that is a list gives its
items. -/
def concat (cell : ListRef) (arguments : List Value) : Action Closure Value := do
  Action.newList (← Action.read fun heap =>
    arguments.foldl
      (fun joined argument =>
        match argument with
        | .list other => joined ++ heap.readList other
        | other => joined.push other)
      (heap.readList cell))

/-- The texts of the items with a separator between them. -/
def join (heap : Heap) (cell : ListRef) (separator : String) : String :=
  separator.intercalate ((heap.readList cell).toList.map (·.itemText heap))

/-- The position that a bound of a slice denotes. A negative one counts from the end, and none is
beyond either end. -/
def sliceBound (length : Nat) (bound : Int) : Nat :=
  if bound < 0 then (length + bound).toNat else min bound.toNat length

/-- Where a slice begins and ends. -/
def sliceBounds (length : Nat) (start finish : Option Int) : Nat × Nat :=
  let first := sliceBound length (start.getD 0)
  (first, max first (sliceBound length (finish.getD length)))

/-- A new list of the items between two bounds. -/
def slice (cell : ListRef) (start finish : Option Int) : Action Closure Value := do
  let items ← items cell
  let (first, last) := sliceBounds items.size start finish
  Action.newList (items.extract first last)

end Shorthand.Sequence
