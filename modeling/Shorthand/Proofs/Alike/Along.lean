/-
This file follows what calls do to a world.

A path is a relation of worlds to later ones that can be put together and that has every change
which leaves the memos alone and takes no list away. An action goes along a path if it leads to a
later world from wherever it begins and in whichever way it ends. This is a case of being parallel:
an action is parallel to itself for worlds that are later than one they have come from. So all calls
of a machine go along a path as soon as asking memos does.
-/

import Shorthand.Proofs.Alike.Evaluate
import Shorthand.Proofs.Traverse.Callback

namespace Shorthand

variable {Closure α : Type}

/-- A relation of worlds to later ones. Adding memos is part of it, changing them need not be. -/
class IsPath (Path : World Closure → World Closure → Prop) : Prop where
  step {old new : World Closure} : old.heap.Keeps new.heap → Path old new
  trans {first second third : World Closure} : Path first second → Path second third →
    Path first third

/-- An action that ends in a world later than the one in which it begins. -/
def Along (Path : World Closure → World Closure → Prop) (work : Action Closure α) : Prop :=
  ∀ world, Path world (work world).2

/-- One world twice that is later than another one. -/
def Later (Path : World Closure → World Closure → Prop) (origin left right : World Closure) :
    Prop :=
  left = right ∧ Path origin left

section

variable {Path : World Closure → World Closure → Prop} [IsPath Path]

theorem IsPath.refl (world : World Closure) : Path world world :=
  IsPath.step (.refl world.heap)

theorem Along.ofKeeps {work : Action Closure α}
    (keeps : ∀ world : World Closure, world.heap.Keeps (work world).2.heap) : Along Path work :=
  fun world => IsPath.step (keeps world)

/-- Changing the heap prolongs a path. -/
instance (origin : World Closure) : HeapRelation (Later Path origin) where
  heap later := congrArg World.heap later.1
  change := by
    rintro heap new closures others ⟨same, path⟩ keeps
    cases same
    exact ⟨rfl, IsPath.trans path (IsPath.step keeps)⟩

theorem Along.parallel {work : Action Closure α} (along : Along Path work)
    (origin : World Closure) : Parallel (Later Path origin) work work := by
  rintro world _ ⟨rfl, path⟩
  exact ⟨rfl, rfl, IsPath.trans path (along world)⟩

theorem Parallel.along {work : Action Closure α}
    (parallel : ∀ origin, Parallel (Later Path origin) work work) : Along Path work :=
  fun world => (parallel world world world ⟨rfl, IsPath.refl world⟩).2.2

end

/-- Asking a memo goes along a path if writing to memos and calling functions does. -/
theorem Combine.answer_along_of_changes {invoke : Invoke Closure}
    {Path : World Closure → World Closure → Prop} [IsPath Path]
    (changes : ∀ memo step, Along Path (Action.changeMemo memo step : Action Closure Unit))
    (along : ∀ function context arguments, Along Path (invoke function context arguments))
    (memo : MemoRef) (context : Value) (arguments : List Value) :
    Along Path (Combine.answer invoke memo context arguments) :=
  Parallel.along fun origin => .answer (fun memo step => (changes memo step).parallel origin)
    (fun function context arguments => (along function context arguments).parallel origin)
    memo context arguments

/-- Compiling leaves memos and lists alone. -/
theorem Definition.compile_keeps (definition : Definition) (world : World SlotClosure) :
    world.heap.Keeps (definition.compile world).2.heap := by
  rcases definition.compile_cases world with ⟨_, function, start, made⟩ | ⟨use, _, _, refused⟩
  · rw [made]
    have grows := Definition.compile_grows made
    exact ⟨grows.functions, grows.memos ▸ List.prefix_refl _, grows.lists ▸ Nat.le_refl _⟩
  · rw [refused]
    exact .refl _

variable {Path : World SlotClosure → World SlotClosure → Prop} [IsPath Path]

/-- All calls of a machine go along a path if asking memos does. -/
theorem slotEngine_along
    (answer : ∀ {invoke : Invoke SlotClosure},
      (∀ function context arguments, Along Path (invoke function context arguments)) →
        ∀ memo context arguments, Along Path (Combine.answer invoke memo context arguments))
    (depth : Nat) (function context : Value) (arguments : List Value) :
    Along Path ((slotEngine.machineWithin depth).invoke function context arguments) := by
  induction depth generalizing function context arguments with
  | zero => exact Parallel.along fun _ => .exhausted
  | succ depth inductionHypothesis =>
    refine Parallel.along fun origin => ?_
    have machines : (slotEngine.machineWithin depth).Parallel (Later Path origin)
        (slotEngine.machineWithin depth) := by
      rw [Engine.machineWithin_calling]
      exact {
        invoke := fun function context arguments =>
          (inductionHypothesis function context arguments).parallel origin
        answer := fun memo context arguments =>
          (answer inductionHypothesis memo context arguments).parallel origin
        close := fun definition =>
          (Along.ofKeeps definition.compile_keeps).parallel origin
        newClosure := fun closure arity label =>
          (Along.ofKeeps fun _ => .newFunction _ _).parallel origin }
    refine Parallel.invokeWithin machines.toCallsParallel (fun cell context arguments => ?_)
      function context arguments
    rintro world _ ⟨rfl, path⟩
    cases found : world.closures[cell.index]? with
    | none =>
      have stays : slotEngine.perform (slotEngine.machineWithin depth) context arguments
          (.closure cell) world = (.value .undefined, world) := by
        simp only [Engine.perform, found]
      rw [stays]
      exact ⟨rfl, rfl, path⟩
    | some closure =>
      have runs : slotEngine.perform (slotEngine.machineWithin depth) context arguments
          (.closure cell) world =
            closure.run (slotEngine.machineWithin depth) context arguments world := by
        simp only [Engine.perform, found]
        rfl
      rw [runs]
      exact closure.parallel machines context arguments world world ⟨rfl, path⟩

end Shorthand
