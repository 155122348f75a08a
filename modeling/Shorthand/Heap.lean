/-
This file holds the heap: the cells that values refer to.

Cells are only ever added, so a reference stays valid. Variables, lists, maps, functions and
memos have stores of their own, and writing to one leaves all others as they are. The heap knows
which functions are closures, but not what these consist of. It also carries what a program takes
from its surroundings, which nothing but reading the clock changes.
-/

import Shorthand.Table
import Shorthand.Value

namespace Shorthand

/-- A variable in the heap. -/
structure VariableRef where
  index : Nat
deriving DecidableEq

/-- A memo in the heap. -/
structure MemoRef where
  index : Nat
deriving DecidableEq

/-- A closure, which is kept apart from the heap. -/
structure ClosureRef where
  index : Nat
deriving DecidableEq

/-- The functions of the global object for mathematics. -/
inductive MathFunction where
  | absolute | floor | ceiling | round | squareRoot | power | maximum | minimum
deriving DecidableEq

/-- What a function does when it is called. -/
inductive Behaviour where
  /-- Runs a closure. -/
  | closure (cell : ClosureRef)
  /-- Calls a method of a receiver. -/
  | method (receiver : Value) (name : String)
  /-- Calls a function with a context and some arguments in front of the given ones. -/
  | bound (function context : Value) (first : List Value)
  /-- Calls a function and negates its answer. -/
  | negated (function : Value)
  /-- Answers through a memo. -/
  | memoized (memo : MemoRef)
  /-- Puts a memo of a function into a slot of its context and answers through it. -/
  | memoizing (function : Value) (slot : String)
  | mathematics (function : MathFunction)
  /-- Makes a date of milliseconds, or of what the clock shows. -/
  | date
  /-- Cuts a list down to a length and answers with the first argument. -/
  | truncating (list : Value) (length : Nat)
  /-- Fails with a message. -/
  | failing (message : String)

/-- A callable: what it does, how many parameters it declares, and the label that it shows. -/
structure Callable where
  behaviour : Behaviour
  arity : Nat
  label : String

/-- The results of a function by the text of their arguments. -/
structure Memo where
  function : Value
  results : Table Value

/-- What a program takes from its surroundings: how an instant is written as text, and what the
clock shows at each reading. -/
structure Surroundings where
  dateText : Instant → String
  clock : Nat → Instant

/-- Instants in their usual form, and a clock that stands still. -/
def Surroundings.still : Surroundings := ⟨Instant.text, fun _ => .epoch⟩

/-- All cells, each kind in a store of its own, and what is taken from the surroundings. -/
structure Heap where
  /-- The values of variables. -/
  locals : Array Value
  /-- The items of lists. -/
  lists : Array (Array Value)
  /-- The entries of maps. -/
  maps : Array (Table Value)
  functions : Array Callable
  memos : Array Memo
  surroundings : Surroundings
  /-- How often the clock has been read. -/
  readings : Nat

namespace Heap

/-- The heap without cells in some surroundings. -/
def begin (surroundings : Surroundings) : Heap := ⟨#[], #[], #[], #[], #[], surroundings, 0⟩

/-- The heap without cells where the clock stands still. -/
def empty : Heap := begin .still

/-! ### Reading

A reference that no cell belongs to reads as an empty cell. -/

/-- The value of a variable. -/
def readVariable (heap : Heap) (cell : VariableRef) : Value :=
  heap.locals.getD cell.index .undefined

/-- The items of a list. -/
def readList (heap : Heap) (cell : ListRef) : Array Value := heap.lists.getD cell.index #[]

/-- The entries of a map. -/
def readMap (heap : Heap) (cell : MapRef) : Table Value := heap.maps.getD cell.index Table.empty

/-- The callable that a function is. -/
def readFunction (heap : Heap) (cell : FunctionRef) : Callable :=
  heap.functions.getD cell.index ⟨.failing "", 0, ""⟩

/-- The function of a memo and its results. -/
def readMemo (heap : Heap) (cell : MemoRef) : Memo :=
  heap.memos.getD cell.index ⟨.undefined, Table.empty⟩

/-- The element of a list at an index, and `undefined` beyond its end. -/
def elementAt (heap : Heap) (cell : ListRef) (index : Nat) : Value :=
  (heap.readList cell).getD index .undefined

/-- The values right inside of a list. -/
def items (heap : Heap) : Value → List Value
  | .list cell => (heap.readList cell).toList
  | _ => []

/-- The values right inside of a list or a map. -/
def parts (heap : Heap) : Value → List Value
  | .map cell => (heap.readMap cell).entries.map (·.2)
  | value => heap.items value

/-! ### Adding cells -/

/-- A new variable. -/
def newVariable (heap : Heap) (value : Value) : VariableRef × Heap :=
  (⟨heap.locals.size⟩, { heap with locals := heap.locals.push value })

/-- A new list. -/
def newList (heap : Heap) (items : Array Value) : ListRef × Heap :=
  (⟨heap.lists.size⟩, { heap with lists := heap.lists.push items })

/-- A new map. -/
def newMap (heap : Heap) (entries : Table Value) : MapRef × Heap :=
  (⟨heap.maps.size⟩, { heap with maps := heap.maps.push entries })

/-- A new function. -/
def newFunction (heap : Heap) (callable : Callable) : FunctionRef × Heap :=
  (⟨heap.functions.size⟩, { heap with functions := heap.functions.push callable })

/-- A new memo. -/
def newMemo (heap : Heap) (memo : Memo) : MemoRef × Heap :=
  (⟨heap.memos.size⟩, { heap with memos := heap.memos.push memo })

/-! ### Writing -/

/-- Gives a variable another value. -/
def writeVariable (heap : Heap) (cell : VariableRef) (value : Value) : Heap :=
  { heap with locals := heap.locals.setIfInBounds cell.index value }

/-- Changes the items of a list. -/
def changeList (heap : Heap) (cell : ListRef) (change : Array Value → Array Value) : Heap :=
  { heap with lists := heap.lists.modify cell.index change }

/-- Changes the entries of a map. -/
def changeMap (heap : Heap) (cell : MapRef) (change : Table Value → Table Value) : Heap :=
  { heap with maps := heap.maps.modify cell.index change }

/-- Changes a memo. -/
def changeMemo (heap : Heap) (cell : MemoRef) (change : Memo → Memo) : Heap :=
  { heap with memos := heap.memos.modify cell.index change }

/-! ### Reading the clock -/

/-- What the clock shows, which it may not show again at the next reading. -/
def readClock (heap : Heap) : Instant × Heap :=
  (heap.surroundings.clock heap.readings, { heap with readings := heap.readings + 1 })

end Heap

end Shorthand
