/-
This file shows what making the function of a traversal does to the world.

A function is used as it is, a text is compiled, and everything else is refused. Compiling adds
the values of global names and the new function to the heap. It changes no cell, and a text that
is refused leaves the world as it was.
-/

import Shorthand.Proofs.Alike.Basic
import Shorthand.Proofs.Free.Parameters
import Shorthand.Proofs.World.Ends

namespace Shorthand

/-! ### Growth -/

/-- A heap with maps and functions added, and with no cell changed. -/
structure Heap.Grows (old new : Heap) : Prop where
  locals : new.locals = old.locals
  lists : new.lists = old.lists
  maps : old.maps.toList <+: new.maps.toList
  functions : old.functions.toList <+: new.functions.toList
  memos : new.memos = old.memos

namespace Heap.Grows

theorem refl (heap : Heap) : heap.Grows heap :=
  ⟨rfl, rfl, List.prefix_refl _, List.prefix_refl _, rfl⟩

theorem trans {first second third : Heap} (grows : first.Grows second)
    (further : second.Grows third) : first.Grows third :=
  ⟨further.locals.trans grows.locals, further.lists.trans grows.lists,
    grows.maps.trans further.maps, grows.functions.trans further.functions,
    further.memos.trans grows.memos⟩

theorem newFunction (heap : Heap) (callable : Callable) :
    heap.Grows (heap.newFunction callable).2 :=
  ⟨rfl, rfl, List.prefix_refl _, ⟨[callable], Array.toList_push.symm⟩, rfl⟩

theorem newMap (heap : Heap) (entries : Table Value) : heap.Grows (heap.newMap entries).2 :=
  ⟨rfl, rfl, ⟨[entries], Array.toList_push.symm⟩, List.prefix_refl _, rfl⟩

theorem addMathematics (heap : Heap) (table : Table Value) (functions : List MathFunction) :
    heap.Grows (heap.addMathematics table functions).2 := by
  induction functions generalizing heap table with
  | nil => exact refl heap
  | cons function rest inductionHypothesis =>
    rw [Heap.addMathematics]
    exact (newFunction heap _).trans (inductionHypothesis _ _)

theorem newGlobal {heap new : Heap} {name : String} {value : Value}
    (made : heap.newGlobal? name = some (value, new)) : heap.Grows new := by
  rw [Heap.newGlobal?] at made
  split at made
  · cases made
    exact (addMathematics heap Table.empty MathFunction.all).trans (newMap _ _)
  · split at made
    · cases made
      exact newFunction heap _
    · cases made

theorem supply {code : String} {uses : List Use} {heap new : Heap} {values : List Value}
    (supplied : Shorthand.supply code uses heap = .ok (values, new)) : heap.Grows new := by
  induction uses generalizing heap values with
  | nil =>
    cases supplied
    exact refl _
  | cons use rest inductionHypothesis =>
    cases use with
    | assign name => cases supplied
    | read name =>
      cases made : heap.newGlobal? name with
      | none =>
        simp only [Shorthand.supply, made] at supplied
        cases supplied
      | some pair =>
        obtain ⟨value, middle⟩ := pair
        simp only [Shorthand.supply, made] at supplied
        obtain ⟨⟨others, last⟩, further, same⟩ := except_bind_eq_ok.mp supplied
        cases same
        exact (newGlobal made).trans (inductionHypothesis further)

end Heap.Grows

/-! ### Making functions -/

theorem Definition.compile_grows {definition : Definition} {world start : World SlotClosure}
    {function : Value} (made : definition.compile world = (.value function, start)) :
    world.heap.Grows start.heap := by
  have resolved := definition.resolves world.heap
  rw [Definition.compile] at made
  cases supplied : supply definition.label definition.uses world.heap with
  | error error =>
    rw [supplied] at resolved
    simp only [resolved] at made
    cases made
  | ok pair =>
    obtain ⟨values, heap⟩ := pair
    rw [supplied] at resolved
    obtain ⟨routine, same, _⟩ := resolved
    simp only [same] at made
    cases made
    exact (Heap.Grows.supply supplied).trans (.newFunction heap _)

/-- The machine that compiles functions and leaves to its surroundings what calling them does. -/
def Machine.calling (invoke : Invoke SlotClosure) : Machine SlotClosure :=
  ⟨invoke, slotEngine.close, slotEngine.keep⟩

theorem Engine.machineWithin_calling (depth : Nat) :
    slotEngine.machineWithin depth = Machine.calling (slotEngine.machineWithin depth).invoke := by
  cases depth <;> rfl

/-- What is neither a function nor a text is refused with a message that shows it. -/
theorem Machine.toFunction_refused {Closure : Type} (machine : Machine Closure) {callback : Value}
    (notFunction : ∀ cell, callback ≠ .function cell)
    (notText : ∀ code, callback ≠ .string code) :
    machine.toFunction callback =
      (Action.readIf callback.hasLiteral callback.literal >>= fun text =>
        Action.typeFault (.notAFunction text)) := by
  cases callback with
  | function cell => exact absurd rfl (notFunction cell)
  | string code => exact absurd rfl (notText code)
  | _ => rfl

/-- A callback becomes a function, or it is refused and the world stays as it is. If it is neither
a function nor a text and holds itself, not even the message is ever there. -/
theorem Machine.toFunction_cases (invoke : Invoke SlotClosure) (callback : Value)
    (world : World SlotClosure) :
    (∃ failure, (calling invoke).toFunction callback world = (.failure failure, world) ∧
        ∀ code, callback = .string code → ∃ error, failure = .compile error) ∨
      (callback.hasLiteral world.heap = false ∧
        (calling invoke).toFunction callback world = (.exhausted, world)) ∨
      ∃ function start, (calling invoke).toFunction callback world = (.value function, start) ∧
        world.heap.Grows start.heap := by
  cases callback with
  | function cell => exact .inr (.inr ⟨.function cell, world, rfl, .refl _⟩)
  | string code =>
    have compiled : (calling invoke).toFunction (.string code) =
        (calling invoke).compile code true := rfl
    rw [compiled, Machine.compile]
    cases Form.parse code true with
    | error error => exact .inl ⟨.compile error, rfl, fun _ _ => ⟨error, rfl⟩⟩
    | ok form =>
      rcases (form.definition code).compile_cases world with
        ⟨_, function, start, made⟩ | ⟨use, _, _, refused⟩
      · exact .inr (.inr ⟨function, start, made, Definition.compile_grows made⟩)
      · exact .inl ⟨_, refused, fun _ _ => ⟨_, rfl⟩⟩
  | _ =>
    rw [toFunction_refused _ (fun _ => Value.noConfusion) (fun _ => Value.noConfusion)]
    cases shown : Value.hasLiteral world.heap _ with
    | true => exact .inl ⟨_, Action.readIf_bind shown _ _, fun _ => Value.noConfusion⟩
    | false => exact .inr (.inl ⟨rfl, Action.bind_exhausted (Action.readIf_exhausted shown _) _⟩)

end Shorthand
