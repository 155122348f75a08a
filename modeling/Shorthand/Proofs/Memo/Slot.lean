/-
This file follows a slot that holds a memoizing function.

The first call on a map puts a function with a memo of its own into the slot, and from then on
the slot leads to this memo. Either way a call asks one memo, and the slots of some maps are tied
to a table if these memos hold what the table says. Changes that stay away from the slots keep
them tied, and so do the two things that a call does itself.
-/

import Shorthand.Proofs.Memo.Reference
import Shorthand.Proofs.Method.Dispatch
import Shorthand.Proofs.World.Adds
import Shorthand.Proofs.World.Ends

namespace Shorthand

variable {Closure : Type}

/-! ### Functions and slots -/

namespace Heap

/-- The slot of a map holds a function that makes memos of another function. -/
def Holds (heap : Heap) (function : Value) (slot : String) (receiver : MapRef) : Prop :=
  ∃ method, (heap.readMap receiver).get? slot = some (.function method) ∧
    (heap.readFunction method).behaviour = .memoizing function slot

/-- The slot of a map holds a function that answers through a memo. -/
def Leads (heap : Heap) (slot : String) (receiver : MapRef) (memo : MemoRef) : Prop :=
  ∃ wrapper, (heap.readMap receiver).get? slot = some (.function wrapper) ∧
    (heap.readFunction wrapper).behaviour = .memoized memo

variable {heap : Heap} {function : Value} {slot : String} {receiver : MapRef}
  {memo other : MemoRef}

theorem Leads.unique (leads : heap.Leads slot receiver memo)
    (leadsToo : heap.Leads slot receiver other) : memo = other := by
  obtain ⟨wrapper, isThere, behaves⟩ := leads
  obtain ⟨second, isThereToo, behavesToo⟩ := leadsToo
  rw [isThere] at isThereToo
  cases isThereToo
  rw [behaves] at behavesToo
  exact Behaviour.memoized.inj behavesToo

theorem Leads.not_holds (leads : heap.Leads slot receiver memo) :
    ¬heap.Holds function slot receiver := by
  rintro ⟨method, isThere, behaves⟩
  obtain ⟨wrapper, isThereToo, behavesToo⟩ := leads
  rw [isThere] at isThereToo
  cases isThereToo
  rw [behaves] at behavesToo
  cases behavesToo

end Heap

/-! ### Asking a memo -/

/-- The function that answers through the next memo of a heap. -/
def Heap.wrapper (heap : Heap) (function : Value) : Callable :=
  let grown := (heap.newMemo ⟨function, Table.empty⟩).2
  ⟨.memoized ⟨heap.memos.size⟩, function.arity grown, "cached(" ++ function.label grown ++ ")"⟩

/-- The heap after a new memo has been put into the slot of a map. -/
def Heap.installed (heap : Heap) (function : Value) (slot : String) (receiver : MapRef) : Heap :=
  ((heap.newMemo ⟨function, Table.empty⟩).2.newFunction (heap.wrapper function)).2.changeMap
    receiver fun table => table.insert slot (.function ⟨heap.functions.size⟩)

/-- The memo that a call asks, and the world in which it is asked. A new one is labelled like its
function, so it is not made if that holds itself. -/
inductive Opens (function : Value) (slot : String) (receiver : MapRef) (world : World Closure) :
    MemoRef → World Closure → Prop where
  | kept {memo : MemoRef} (leads : world.heap.Leads slot receiver memo) :
    Opens function slot receiver world memo world
  | installed (holds : world.heap.Holds function slot receiver)
    (hasLabel : function.hasLiteral world.heap = true) :
    Opens function slot receiver world ⟨world.heap.memos.size⟩
      ⟨world.heap.installed function slot receiver, world.closures⟩

/-- The world with an answer kept in a memo. -/
def World.keep (world : World Closure) (memo : MemoRef) (key : String) (value : Value) :
    World Closure :=
  ⟨world.heap.changeMemo memo fun kept => { kept with results := kept.results.insert key value },
    world.closures⟩

namespace Combine

variable {invoke : Invoke Closure} {function context : Value} {arguments : List Value}
  {memo : MemoRef} {world ended : World Closure} {value : Value}

theorem install_eq (hasLabel : function.hasLiteral world.heap = true) (slot : String)
    (receiver : MapRef) :
    install invoke function slot (.map receiver) arguments world =
      answer invoke ⟨world.heap.memos.size⟩ (.map receiver) arguments
        ⟨world.heap.installed function slot receiver, world.closures⟩ := by
  have made : Action.newMemo function world =
      (.value ⟨world.heap.memos.size⟩,
        ⟨(world.heap.newMemo ⟨function, Table.empty⟩).2, world.closures⟩) := rfl
  have kept : ((world.heap.newMemo ⟨function, Table.empty⟩).2.readMemo
      ⟨world.heap.memos.size⟩).function = function := by
    rw [Heap.readMemo, Heap.newMemo, Array.getD_eq_getD_getElem?, Array.getElem?_push_size]
    rfl
  have stillLabel : function.hasLiteral (world.heap.newMemo ⟨function, Table.empty⟩).2 = true := by
    rw [Value.hasLiteral_congr rfl rfl]
    exact hasLabel
  have wraps : memoized ⟨world.heap.memos.size⟩
      (⟨(world.heap.newMemo ⟨function, Table.empty⟩).2, world.closures⟩ : World Closure) =
        Action.newFunction (.memoized ⟨world.heap.memos.size⟩)
          (function.arity (world.heap.newMemo ⟨function, Table.empty⟩).2)
          ("cached(" ++ function.label (world.heap.newMemo ⟨function, Table.empty⟩).2 ++ ")")
          ⟨(world.heap.newMemo ⟨function, Table.empty⟩).2, world.closures⟩ := by
    rw [memoized, Action.read_bind, kept]
    exact Action.readIf_bind stillLabel _ _
  rw [install, Action.bind_value made, Action.bind_value wraps]
  rfl

/-- For arguments without texts a memo has no key, and asking it comes to no end. -/
theorem answer_endless (noKey : haveTexts world.heap arguments = false) :
    answer invoke memo context arguments world = (.exhausted, world) :=
  Action.bind_exhausted (Action.readIf_exhausted noKey _) _

section

variable (hasKey : haveTexts world.heap arguments = true)

include hasKey

/-- A memo looks for the key of the arguments. -/
theorem answer_eq :
    answer invoke memo context arguments world =
      (match (world.heap.readMemo memo).results.get? (memoKey world.heap arguments) with
      | some value => Action.done value
      | none => do
        let value ← invoke (world.heap.readMemo memo).function context arguments
        Action.changeMemo memo fun kept =>
          { kept with results := kept.results.insert (memoKey world.heap arguments) value }
        Action.done value) world := by
  rw [answer, Action.readIf_bind hasKey, Action.read_bind]
  cases (world.heap.readMemo memo).results.get? (memoKey world.heap arguments) <;> rfl

theorem answer_kept
    (found : (world.heap.readMemo memo).results.get? (memoKey world.heap arguments) = some value) :
    answer invoke memo context arguments world = (.value value, world) := by
  rw [answer_eq hasKey, found]
  rfl

variable (missing :
  (world.heap.readMemo memo).results.get? (memoKey world.heap arguments) = none)

include missing

theorem answer_value
    (gives : invoke (world.heap.readMemo memo).function context arguments world =
      (.value value, ended)) :
    answer invoke memo context arguments world =
      (.value value, ended.keep memo (memoKey world.heap arguments) value) := by
  rw [answer_eq hasKey, missing]
  exact Action.bind_value gives

theorem answer_failure {failure : Failure}
    (gives : invoke (world.heap.readMemo memo).function context arguments world =
      (.failure failure, ended)) :
    answer invoke memo context arguments world = (.failure failure, ended) := by
  rw [answer_eq hasKey, missing]
  exact Action.bind_failure gives _

theorem answer_exhausted
    (gives : invoke (world.heap.readMemo memo).function context arguments world =
      (.exhausted, ended)) :
    answer invoke memo context arguments world = (.exhausted, ended) := by
  rw [answer_eq hasKey, missing]
  exact Action.bind_exhausted gives _

end

end Combine

/-- A call of the slot asks the memo that it opens. -/
theorem Machine.callMethod_opens (engine : Engine Closure) (depth : Nat) {function : Value}
    {slot : String} {receiver : MapRef} {world begun : World Closure} {memo : MemoRef}
    (opens : Opens function slot receiver world memo begun) (arguments : List Value) :
    (engine.machineWithin (depth + 1)).callMethod (.map receiver) (.string slot) arguments world =
      Combine.answer (engine.machineWithin depth).invoke memo (.map receiver) arguments begun := by
  have isFunction (cell : FunctionRef) : (Value.function cell).isFunction = true := rfl
  rw [callMethod_map (Value.hasText_string slot),
    Value.rawText_leaf fun _ => Value.noConfusion, Value.leafText]
  cases opens with
  | kept leads =>
    obtain ⟨wrapper, isThere, behaves⟩ := leads
    rw [isThere, Option.getD_some, if_pos (isFunction _), engine.invoke_function, behaves]
    rfl
  | installed holds hasLabel =>
    obtain ⟨method, isThere, behaves⟩ := holds
    rw [isThere, Option.getD_some, if_pos (isFunction _), engine.invoke_function, behaves]
    exact Combine.install_eq hasLabel slot receiver

/-- A memoizing function called on anything but a map fails and changes nothing. -/
theorem Engine.invoke_memoizing (engine : Engine Closure) (depth : Nat) {function : Value}
    {slot : String} {method : FunctionRef} {context : Value} {world : World Closure}
    (behaves : (world.heap.readFunction method).behaviour = .memoizing function slot)
    (notMap : ∀ cell, context ≠ .map cell) (arguments : List Value) :
    (engine.machineWithin (depth + 1)).invoke (.function method) context arguments world =
      (.failure (.type (.memoReceiver slot context.typeName)), world) := by
  rw [engine.invoke_function, behaves]
  cases context with
  | map cell => exact absurd rfl (notMap cell)
  | _ => rfl

end Shorthand
