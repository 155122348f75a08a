/-
This file shows that traversals write no more than the functions that they call.

If every visit leaves the lists and maps alone that it finds, so does the whole operation, and a
list that it makes is a new one. A function leaves them alone if its calls do so in every world that
the visits can come to, as those of a formula do.
-/

import Mathlib
import Shorthand.Proofs.Formula.Compute
import Shorthand.Proofs.Traverse.Result
import Shorthand.Proofs.World.Spares

namespace Shorthand

variable {Closure : Type}

/-! ### Visits -/

namespace Course

variable {invoke : Invoke Closure} {function : Value} {operation : Traverse} {list : ListRef}
  {indices : List Nat} {carried : Value} {world last : World Closure}
  {visits : List (Visit Closure)} {ending : Conclusion}

/-- Nothing happens between the visits. -/
theorem spares
    (course : Course invoke function operation list indices carried world visits ending last)
    (spare : ∀ visit ∈ visits, visit.before.heap.Spares visit.after.heap) :
    world.heap.Spares last.heap := by
  induction course with
  | finished => exact .refl _
  | answered passes answers goesOn further inductionHypothesis =>
    obtain ⟨first, others⟩ := List.forall_mem_cons.mp spare
    exact first.trans (inductionHypothesis others)
  | decided | failed | exhausted => exact spare _ (List.mem_singleton_self _)
  | unread fails => exact .refl _

/-- Visits begin in good worlds if calls end in such. -/
theorem visits_spare (Good : World Closure → Prop)
    (course : Course invoke function operation list indices carried world visits ending last)
    (calls : ∀ before context arguments, Good before →
      (invoke function context arguments).Spares before ∧
        Good (invoke function context arguments before).2) (good : Good world) :
    ∀ visit ∈ visits, visit.before.heap.Spares visit.after.heap := by
  have call {before after : World Closure} {context : Value} {arguments : List Value}
      {outcome : Outcome Value} (runs : invoke function context arguments before = (outcome, after))
      (isGood : Good before) : before.heap.Spares after.heap ∧ Good after := by
    have both := calls before context arguments isGood
    rwa [Action.Spares, runs] at both
  induction course with
  | finished => exact List.forall_mem_nil _
  | answered passes answers goesOn further inductionHypothesis =>
    obtain ⟨spares, goodAfter⟩ := call answers good
    exact List.forall_mem_cons.mpr ⟨spares, inductionHypothesis goodAfter⟩
  | decided passes answers => exact List.forall_mem_singleton.mpr (call answers good).1
  | failed passes fails => exact List.forall_mem_singleton.mpr (call fails good).1
  | exhausted passes exhausts => exact List.forall_mem_singleton.mpr (call exhausts good).1
  | unread fails => exact List.forall_mem_nil _

end Course

/-! ### Operations -/

/-- No visit of an operation writes to the lists and maps that it finds. -/
def VisitsSpare (invoke : Invoke SlotClosure) (operation : Traverse) (list : ListRef)
    (callback : Value) (world : World SlotClosure) : Prop :=
  ∀ function start visits ending last,
    Traversed invoke operation list callback world function start visits ending last →
      ∀ visit ∈ visits, visit.before.heap.Spares visit.after.heap

/-- Operations whose result is a list of their own. -/
def Traverse.makesList : Traverse → Bool
  | map _ | filter _ | zipWith _ _ | uniq _ => true
  | _ => false

section

variable {invoke : Invoke SlotClosure} {operation : Traverse} {list : ListRef} {callback : Value}
  {world : World SlotClosure}

theorem Traversed.spares {function : Value} {start last : World SlotClosure}
    {visits : List (Visit SlotClosure)} {ending : Conclusion}
    (traversed : Traversed invoke operation list callback world function start visits ending last)
    (spare : VisitsSpare invoke operation list callback world) :
    world.heap.Spares last.heap :=
  (Heap.Spares.ofGrows traversed.grows).trans
    (traversed.course.spares (spare _ _ _ _ _ traversed))

theorem VisitsSpare.run (spare : VisitsSpare invoke operation list callback world) :
    (operation.run (.calling invoke) (.list list) callback).Spares world := by
  rcases Machine.toFunction_cases invoke callback world with
    ⟨failure, fails, _⟩ | ⟨_, endless⟩ | ⟨function, start, made, grows⟩
  · rw [Action.Spares, operation.run_failure fails]
    exact .refl _
  · rw [Action.Spares, operation.run_exhausted endless]
    exact .refl _
  · obtain ⟨visits, ending, last, traversed⟩ := operation.traversed made grows
    have spares := traversed.spares spare
    rw [Action.Spares, traversed.result]
    rcases traversed.adds with same | ⟨items, same⟩
    · rwa [same]
    · rw [same]
      exact spares.trans (.newList _ _)

theorem VisitsSpare.run_yields (spare : VisitsSpare invoke operation list callback world)
    (makes : operation.makesList = true) :
    (operation.run (.calling invoke) (.list list) callback).YieldsNewList world := by
  rcases Machine.toFunction_cases invoke callback world with
    ⟨failure, fails, _⟩ | ⟨_, endless⟩ | ⟨function, start, made, grows⟩
  · intro value after yields
    rw [operation.run_failure fails] at yields
    cases yields
  · intro value after yields
    rw [operation.run_exhausted endless] at yields
    cases yields
  · obtain ⟨visits, ending, last, traversed⟩ := operation.traversed made grows
    have spares := traversed.spares spare
    have yieldsResult : (operation.result start.heap list visits ending).YieldsNewList last := by
      cases operation <;> first | exact Action.yieldsNewList_newList _ _ | cases makes
    have isResult : ending = .finished ∨ ending = .decided →
        operation.conclude start.heap list visits ending =
          operation.result start.heap list visits ending := by
      rintro (rfl | rfl) <;> rfl
    intro value after yields
    rw [traversed.result] at yields
    cases ending with
    | failed failure => cases yields
    | exhausted => cases yields
    | _ =>
      rw [isResult (by simp)] at yields
      exact (yieldsResult value after yields).after spares

end

/-! ### Formulas -/

/-- Calls of a source that is a formula add variables only. -/
theorem ReadsAs.visitsSpare {source : String} {count : ℕ} {code : Code}
    (reads : ReadsAs source count code) (depth : ℕ) (operation : Traverse) (list : ListRef)
    (world : World SlotClosure) :
    VisitsSpare (slotEngine.machineWithin depth).invoke operation list (.string source) world := by
  intro function start visits ending last traversed
  obtain ⟨made, first, toFunction, runs, -, -⟩ := reads.toFunction depth world
  have same := traversed.made
  rw [← Engine.machineWithin_calling, toFunction] at same
  cases same
  cases depth with
  | zero =>
    exact traversed.course.visits_spare (fun _ => True) (fun _ _ _ _ => ⟨.refl _, trivial⟩) trivial
  | succ depth =>
    refine traversed.course.visits_spare
      (·.Runs function (SlotClosure.ofFormula count code source))
      (fun before context arguments runsBefore => ?_) runs
    obtain ⟨after, gives, adds⟩ :=
      runsBefore.invoke_formula reads.isFormula rfl depth context
    rw [Action.Spares, gives]
    exact ⟨adds.adds.spares, runsBefore.mono adds.adds⟩

end Shorthand
