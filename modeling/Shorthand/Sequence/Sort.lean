/-
This file sorts lists by keys.

The halves of a list are sorted and then merged. An element of the right half goes first only if
its key is less than the key on the left, so elements with equal keys, and with keys that have
no order, stay in their places.
-/

import Shorthand.Sequence.Callback

namespace Shorthand.Sequence

/-- Items in the order of a relation, found by sorting both halves and merging them. -/
def mergeSort {α : Type} (less : α → α → Bool) (items : List α) : List α :=
  if items.length ≤ 1 then items
  else
    let half := items.length / 2
    List.merge (mergeSort less (items.take half)) (mergeSort less (items.drop half))
      fun left right => !less right left
termination_by items.length
decreasing_by
  · simp only [List.length_take]
    omega
  · simp only [List.length_drop]
    omega

/-- Whether the key of an item is less than that of another. -/
def keyLess (heap : Heap) (left right : Value × Value) : Bool :=
  left.1.compare heap right.1 == some .lt

/-- Whether keys can be compared. Merging compares each of them with some other, if there is one. -/
def comparable (heap : Heap) (keys : Array Value) : Bool :=
  keys.size ≤ 1 || keys.all (·.hasText heap)

/-- Sorts a list in its place by the answers for its elements, and yields the list. All answers
are there before the list is changed. -/
def sortByValue {Closure : Type} (machine : Machine Closure) (list callback : Value)
    (context : Option Value) : Action Closure Value := do
  let traversal ← begin machine "sortByValue" list callback context
  let values ← items traversal.cell
  let keys ← Action.collect
    (fun index =>
      machine.invoke traversal.function traversal.context [values.getD index .undefined])
    (List.range values.size)
  let sorted ← Action.readIf (comparable · keys) fun heap =>
    mergeSort (keyLess heap) (keys.zip values).toList
  Action.changeList traversal.cell fun _ => (sorted.map (·.2)).toArray
  return list

end Shorthand.Sequence
