/-
This file makes functions out of functions: with a context and arguments bound, with the answer
negated, and with answers remembered.
-/

import Shorthand.Property

namespace Shorthand

/-- The label of a function, and the literal of any other value. -/
def Value.label (heap : Heap) : Value → String
  | .function cell => heap.labelOf cell
  | value => value.literal heap

/-- The number of parameters of a function, and zero for any other value. -/
def Value.arity (heap : Heap) : Value → Nat
  | .function cell => (heap.readFunction cell).arity
  | _ => 0

namespace Combine

variable {Closure : Type}

/-- A function that calls another one with a context, and with some arguments before its own. -/
def bind (function context : Value) (first : List Value) : Action Closure Value := do
  let (arity, label) ← Action.readIf function.hasLiteral fun heap =>
    (function.arity heap, function.label heap)
  Action.newFunction (.bound function context first) (arity - first.length)
    ("bind(" ++ label ++ ")")

/-- A function that negates the answers of another one. -/
def negate (function : Value) : Action Closure Value := do
  let (arity, label) ← Action.readIf function.hasLiteral fun heap =>
    (function.arity heap, function.label heap)
  Action.newFunction (.negated function) arity ("not(" ++ label ++ ")")

/-- A function that answers through a memo. -/
def memoized (memo : MemoRef) : Action Closure Value := do
  let function ← Action.read fun heap => (heap.readMemo memo).function
  let (arity, label) ← Action.readIf function.hasLiteral fun heap =>
    (function.arity heap, function.label heap)
  Action.newFunction (.memoized memo) arity ("cached(" ++ label ++ ")")

/-- A function that gives each map it is called on a memo of its own. -/
def memoizing (function : Value) (slot : String) : Action Closure Value := do
  let arity ← Action.read function.arity
  Action.newFunction (.memoizing function slot) arity ("cacheMethod(" ++ slot ++ ")")

/-! ### Memos -/

/-- The text under which a memo keeps the answer for some arguments: their plain texts with
commas between, where missing values leave an empty place. -/
def memoKey (heap : Heap) (arguments : List Value) : String :=
  ",".intercalate (arguments.map (·.itemText heap))

/-- Whether the texts of some arguments can be found. -/
def haveTexts (heap : Heap) (arguments : List Value) : Bool := arguments.all (·.hasText heap)

/-- The answer of a memo. It is computed at the first call for a key and kept if that call
succeeds. -/
def answer (invoke : Invoke Closure) (memo : MemoRef) (context : Value) (arguments : List Value) :
    Action Closure Value := do
  let key ← Action.readIf (haveTexts · arguments) (memoKey · arguments)
  match ← Action.read fun heap => (heap.readMemo memo).results.get? key with
  | some value => return value
  | none =>
    let function ← Action.read fun heap => (heap.readMemo memo).function
    let value ← invoke function context arguments
    Action.changeMemo memo fun kept => { kept with results := kept.results.insert key value }
    return value

/-- Puts a new memo of a function into a slot of the map it is called on and answers through
it. -/
def install (invoke : Invoke Closure) (function : Value) (slot : String) (context : Value)
    (arguments : List Value) : Action Closure Value := do
  match context with
  | .map cell =>
    let memo ← Action.newMemo function
    let wrapper ← memoized memo
    Action.changeMap cell fun table => table.insert slot wrapper
    answer invoke memo context arguments
  | _ => Action.typeFault (.memoReceiver slot context.typeName)

end Combine

end Shorthand
