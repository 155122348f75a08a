/-
This file unfolds lists into trees of lists whose leaves are the other values.

Flattening nested lists and the plain text of a value look through lists and at nothing else, so
they are functions of this tree. A list that holds itself has no finite tree, and
looking through it never ends: an evaluation that tries to exhausts every depth. For the others no
path is longer than the number of lists in the heap, which bounds the unfolding.
-/

import Shorthand.Heap

namespace Shorthand

/-! ### Looking into values -/

namespace Value

/-- Whether looking from a value at the values inside of it, at those inside of these and so on
comes to an end within a depth. -/
def endsWithin (inside : Value → List Value) : Nat → Value → Bool
  | 0, value => (inside value).isEmpty
  | depth + 1, value => (inside value).all (endsWithin inside depth)

/-- Whether looking through the lists in a value comes to an end. A path that does not go round in
a circle meets no list twice. -/
def hasText (heap : Heap) (value : Value) : Bool :=
  value.endsWithin heap.items heap.lists.size

/-- Whether looking through the lists and maps in a value comes to an end. -/
def hasLiteral (heap : Heap) (value : Value) : Bool :=
  value.endsWithin heap.parts (heap.lists.size + heap.maps.size)

end Value

/-! ### Trees of lists -/

/-- A tree of lists. -/
inductive Nested where
  | leaf (value : Value)
  | list (items : List Nested)

namespace Nested

/-- Unfolds a value down to a depth, below which lists are left as they are. -/
def unfold (heap : Heap) : Nat → Value → Nested
  | depth + 1, .list cell => .list ((heap.readList cell).toList.map (unfold heap depth))
  | _, value => .leaf value

/-- The tree of a value. -/
def ofValue (heap : Heap) (value : Value) : Nested := unfold heap heap.lists.size value

mutual

/-- The leaves from left to right, after those found before. -/
def gather (found : Array Value) : Nested → Array Value
  | .leaf value => found.push value
  | .list items => gatherAll found items

/-- The leaves of trees one after the other, after those found before. -/
def gatherAll (found : Array Value) : List Nested → Array Value
  | [] => found
  | item :: rest => gatherAll (item.gather found) rest

end

/-- The leaves from left to right. -/
def leaves (tree : Nested) : Array Value := tree.gather #[]

/-- Whether the tree is nothing but a missing value. -/
def isNone : Nested → Bool
  | .leaf value => value.isNone
  | .list _ => false

end Nested

end Shorthand
