/-
This file follows functions that run a closure.

Such a function runs its closure in every world that has all cells of the one it was made in.
-/

import Shorthand.Proofs.Method.Dispatch
import Shorthand.Proofs.World.Adds

namespace Shorthand

variable {Closure : Type}

/-- A value is a function that runs a closure. -/
def World.Runs (world : World Closure) (function : Value) (closure : Closure) : Prop :=
  ∃ cell running, function = .function cell ∧
    (world.heap.readFunction cell).behaviour = .closure running ∧
    world.closures[running.index]? = some closure

namespace World.Runs

variable {world later : World Closure} {function : Value} {closure : Closure}

theorem mono (runs : world.Runs function closure) (adds : world.Adds later) :
    later.Runs function closure := by
  obtain ⟨cell, running, isFunction, behaves, found⟩ := runs
  have noFailure : (world.heap.readFunction cell).behaviour ≠ .failing "" := by
    rw [behaves]
    exact Behaviour.noConfusion
  refine ⟨cell, running, isFunction, ?_, ?_⟩
  · rw [Heap.readFunction_of_prefix adds.functions noFailure, behaves]
  · rw [← Array.getElem?_toList] at found ⊢
    obtain ⟨more, same⟩ := adds.closures
    rw [← same, List.getElem?_append_left (List.getElem?_eq_some_iff.mp found).1, found]

/-- A new function runs its closure. -/
theorem ofNew {arity : ℕ} {label : String}
    (made : Action.newClosure closure arity label world = (.value function, later)) :
    later.Runs function closure := by
  obtain ⟨heap, closures⟩ := world
  cases made
  refine ⟨_, ⟨closures.size⟩, rfl, ?_, Array.getElem?_push_size⟩
  rw [Heap.readFunction, Array.getD_eq_getD_getElem?, Array.getElem?_push_size, Option.getD_some]

theorem invoke (runs : world.Runs function closure) (engine : Engine Closure) (depth : ℕ)
    (context : Value) (arguments : List Value) :
    (engine.machineWithin (depth + 1)).invoke function context arguments world =
      engine.run (engine.machineWithin depth) closure context arguments world := by
  obtain ⟨cell, running, rfl, behaves, found⟩ := runs
  rw [engine.invoke_function, behaves]
  simp only [Engine.perform, found]

end World.Runs

end Shorthand
