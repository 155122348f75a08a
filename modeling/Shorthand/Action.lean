/-
This file holds actions: evaluations that read and change a world.

A world is a heap with the closures that functions in it refer to. What a closure consists of is
left open here, so nothing but making and running one can depend on it. An action ends with a
value, with a failure, or because it exhausts the depth that it may go to: too many calls are
inside one another, or it looks through a value that holds itself. In each case the changes that
it made to the world remain.
-/

import Shorthand.Failure
import Shorthand.Heap

namespace Shorthand

/-- A heap and the closures of its functions. -/
structure World (Closure : Type) where
  heap : Heap
  closures : Array Closure

/-- The world in some surroundings in which nothing has been made yet. -/
def World.begin {Closure : Type} (surroundings : Surroundings) : World Closure :=
  ⟨Heap.begin surroundings, #[]⟩

/-- The world in which nothing has been made yet and the clock stands still. -/
def World.empty {Closure : Type} : World Closure := ⟨Heap.empty, #[]⟩

/-- How an evaluation ends. -/
inductive Outcome (α : Type) where
  | value (value : α)
  | failure (failure : Failure)
  /-- No depth is enough for it. -/
  | exhausted

/-- An evaluation that reads and changes a world. -/
def Action (Closure α : Type) : Type := World Closure → Outcome α × World Closure

/-- How a function is called: with a context and arguments. -/
abbrev Invoke (Closure : Type) : Type := Value → Value → List Value → Action Closure Value

namespace Action

variable {Closure α β : Type}

/-- The action that changes nothing. -/
@[inline]
def done (value : α) : Action Closure α := fun world => (.value value, world)

/-- One action after the other, as long as they end with values. -/
@[inline]
def andThen (first : Action Closure α) (second : α → Action Closure β) : Action Closure β :=
  fun world =>
    match first world with
    | (.value value, world) => second value world
    | (.failure failure, world) => (.failure failure, world)
    | (.exhausted, world) => (.exhausted, world)

/-- Actions follow one another as long as they end with values. -/
@[inline]
instance : Monad (Action Closure) where
  pure := done
  bind := andThen

/-- The action that only fails. -/
@[inline]
def fail (failure : Failure) : Action Closure α := fun world => (.failure failure, world)

/-- The failure of a value that is used in a way its kind does not support. -/
@[inline]
def typeFault (fault : TypeFault) : Action Closure α := fail (.type fault)

/-- The action that goes too deep. -/
@[inline]
def exhausted : Action Closure α := fun world => (.exhausted, world)

/-- What a function of the heap yields. -/
@[inline]
def read (view : Heap → α) : Action Closure α := fun world => (.value (view world.heap), world)

/-- What a function of the heap yields if finding it comes to an end. Otherwise no depth is enough
for it. -/
@[inline]
def readIf (ends : Heap → Bool) (view : Heap → α) : Action Closure α := fun world =>
  if ends world.heap then (.value (view world.heap), world) else (.exhausted, world)

/-- A change of the heap that yields a value. -/
@[inline]
def change (step : Heap → α × Heap) : Action Closure α := fun ⟨heap, closures⟩ =>
  let (value, heap) := step heap
  (.value value, ⟨heap, closures⟩)

/-! ### Cells -/

/-- A new variable with a value. -/
@[inline]
def newVariable (value : Value) : Action Closure VariableRef :=
  change fun heap => heap.newVariable value

/-- A new list with the items. -/
@[inline]
def newList (items : Array Value) : Action Closure Value := change fun heap =>
  let (cell, heap) := heap.newList items
  (.list cell, heap)

/-- A new map with the entries. -/
@[inline]
def newMap (entries : Table Value) : Action Closure Value := change fun heap =>
  let (cell, heap) := heap.newMap entries
  (.map cell, heap)

/-- A new function. -/
@[inline]
def newFunction (behaviour : Behaviour) (arity : Nat) (label : String) : Action Closure Value :=
  change fun heap =>
    let (cell, heap) := heap.newFunction ⟨behaviour, arity, label⟩
    (.function cell, heap)

/-- A new function that runs a new closure. -/
@[inline]
def newClosure (closure : Closure) (arity : Nat) (label : String) : Action Closure Value :=
  fun ⟨heap, closures⟩ =>
    let (cell, heap) := heap.newFunction ⟨.closure ⟨closures.size⟩, arity, label⟩
    (.value (.function cell), ⟨heap, closures.push closure⟩)

/-- A new memo of a function. -/
@[inline]
def newMemo (function : Value) : Action Closure MemoRef :=
  change fun heap => heap.newMemo ⟨function, Table.empty⟩

/-- Gives a variable another value. -/
@[inline]
def writeVariable (cell : VariableRef) (value : Value) : Action Closure Unit :=
  change fun heap => ((), heap.writeVariable cell value)

/-- Changes the items of a list. -/
@[inline]
def changeList (cell : ListRef) (step : Array Value → Array Value) : Action Closure Unit :=
  change fun heap => ((), heap.changeList cell step)

/-- Changes the entries of a map. -/
@[inline]
def changeMap (cell : MapRef) (step : Table Value → Table Value) : Action Closure Unit :=
  change fun heap => ((), heap.changeMap cell step)

/-- Changes a memo. -/
@[inline]
def changeMemo (cell : MemoRef) (step : Memo → Memo) : Action Closure Unit :=
  change fun heap => ((), heap.changeMemo cell step)

/-- What the clock shows. -/
@[inline]
def readClock : Action Closure Instant := change Heap.readClock

/-! ### Repetition -/

/-- Carries a state through the steps of all indices, in order. -/
@[specialize]
def fold {σ : Type} (step : σ → Nat → Action Closure σ) : List Nat → σ → Action Closure σ
  | [], state, world => (.value state, world)
  | index :: rest, state, world =>
    match step state index world with
    | (.value state, world) => fold step rest state world
    | (.failure failure, world) => (.failure failure, world)
    | (.exhausted, world) => (.exhausted, world)

/-- The first index for which a test holds. The indices after it are not tested. -/
@[specialize]
def first? (test : Nat → Action Closure Bool) : List Nat → Action Closure (Option Nat)
  | [], world => (.value none, world)
  | index :: rest, world =>
    match test index world with
    | (.value true, world) => (.value (some index), world)
    | (.value false, world) => first? test rest world
    | (.failure failure, world) => (.failure failure, world)
    | (.exhausted, world) => (.exhausted, world)

/-- The values of the steps of all indices, in order. -/
@[inline]
def collect (step : Nat → Action Closure Value) (indices : List Nat) :
    Action Closure (Array Value) :=
  fold (fun values index => andThen (step index) fun value => done (values.push value)) indices #[]

end Action

end Shorthand
