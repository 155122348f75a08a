/-
This file shows that resolved code, run on machines that are parallel, is parallel itself in related
worlds. Only function literals make closures, and the machines make these in parallel.
-/

import Shorthand.Proofs.Alike.Operations

namespace Shorthand

variable {First Second : Type} {Rel : World First → World Second → Prop} [HeapRelation Rel]
  {machine : Machine First} {other : Machine Second}

-- Theorems about lists and blocks need the instance only for what is mutual with them.
set_option linter.unusedSectionVars false

mutual

theorem Code.parallel (machines : machine.Parallel Rel other) (frame : Frame) : ∀ code : Code,
    Parallel Rel (code.evaluate machine frame) (code.evaluate other frame)
  | .value _ => .done _
  | .slot _ => .read _
  | .this => .done _
  | .arguments => .newList _
  | .array items => .bind (evaluateAll_parallel machines frame items) fun _ => .newList _
  | .object entries => .bind (evaluateEntries_parallel machines frame entries _) fun _ => .newMap _
  | .property base key =>
    .bind (base.parallel machines frame) fun _ => .bind (key.parallel machines frame) fun _ =>
      .readProperty _ _
  | .call callee operands =>
    .bind (callee.parallel machines frame) fun _ =>
      .bind (evaluateAll_parallel machines frame operands) fun _ => machines.invoke _ _ _
  | .callMethod receiver key operands =>
    .bind (receiver.parallel machines frame) fun _ => .bind (key.parallel machines frame) fun _ =>
      .bind (evaluateAll_parallel machines frame operands) fun _ => .bind (.readIf _ _) fun _ =>
        .callMethod machines.toCallsParallel _ _ _
  | .unary _ operand => .bind (operand.parallel machines frame) fun _ => .readIf _ _
  | .binary _ left right =>
    .bind (left.parallel machines frame) fun _ =>
      .bind (right.parallel machines frame) fun _ => .readIf _ _
  | .and left right =>
    .bind (left.parallel machines frame) fun _ => .ite (right.parallel machines frame) (.done _)
  | .or left right =>
    .bind (left.parallel machines frame) fun _ => .ite (.done _) (right.parallel machines frame)
  | .conditional condition positive negative =>
    .bind (condition.parallel machines frame) fun _ =>
      .ite (positive.parallel machines frame) (negative.parallel machines frame)
  | .assignSlot _ _ value =>
    .bind (.read _) fun _ => .bind (value.parallel machines frame) fun _ =>
      .bind (.readIf _ _) fun _ => .bind (.writeVariable _ _) fun _ => .done _
  | .assignProperty _ base key value => by
    refine .bind (base.parallel machines frame) fun _ =>
      .bind (key.parallel machines frame) fun _ =>
        .ite (.bind (.readProperty _ _) fun _ => ?_) (.bind (.done _) fun _ => ?_)
    all_goals
      exact .bind (value.parallel machines frame) fun _ => .bind (.readIf _ _) fun _ =>
        .bind (.writeProperty _ _ _) fun _ => .done _
  | .function _ _ _ _ _ => machines.newClosure _ _ _

theorem evaluateAll_parallel (machines : machine.Parallel Rel other) (frame : Frame) :
    ∀ items : List Code,
      Parallel Rel (evaluateAll machine frame items) (evaluateAll other frame items)
  | [] => .done _
  | item :: rest =>
    .bind (item.parallel machines frame) fun _ =>
      .bind (evaluateAll_parallel machines frame rest) fun _ => .done _

theorem evaluateEntries_parallel (machines : machine.Parallel Rel other) (frame : Frame) :
    ∀ (entries : List (String × Code)) (table : Table Value),
      Parallel Rel (evaluateEntries machine frame table entries)
        (evaluateEntries other frame table entries)
  | [], _ => .done _
  | (_, value) :: rest, _ =>
    .bind (value.parallel machines frame) fun _ => evaluateEntries_parallel machines frame rest _

end

theorem initializeSlots_parallel (machines : machine.Parallel Rel other) (frame : Frame) :
    ∀ values : List (Nat × Code),
      Parallel Rel (initializeSlots machine frame values) (initializeSlots other frame values)
  | [] => .done _
  | (_, value) :: rest =>
    .bind (value.parallel machines frame) fun _ => .bind (.writeVariable _ _) fun _ =>
      initializeSlots_parallel machines frame rest

mutual

theorem Step.parallel (machines : machine.Parallel Rel other) (frame : Frame) : ∀ step : Step,
    Parallel Rel (step.run machine frame) (step.run other frame)
  | .define values => .bind (initializeSlots_parallel machines frame values) fun _ => .done _
  | .return none => .done _
  | .return (some value) => .bind (value.parallel machines frame) fun _ => .done _
  | .if condition positive negative =>
    .bind (condition.parallel machines frame) fun _ =>
      .ite (positive.parallel machines frame) (runAlternative_parallel machines frame negative)
  | .block steps => runBlock_parallel machines frame steps
  | .evaluate value => .bind (value.parallel machines frame) fun _ => .done _

theorem runAlternative_parallel (machines : machine.Parallel Rel other) (frame : Frame) :
    ∀ step : Option Step,
      Parallel Rel (runAlternative machine frame step) (runAlternative other frame step)
  | none => .done _
  | some step => step.parallel machines frame

theorem runBlock_parallel (machines : machine.Parallel Rel other) (frame : Frame) :
    ∀ steps : List Step,
      Parallel Rel (runBlock machine frame steps) (runBlock other frame steps)
  | [] => .done _
  | step :: rest => by
    refine .bind (step.parallel machines frame) fun returned => ?_
    cases returned with
    | some _ => exact .done _
    | none => exact runBlock_parallel machines frame rest

end

theorem CodeBody.parallel (machines : machine.Parallel Rel other) (frame : Frame)
    (body : CodeBody) :
    Parallel Rel (body.run machine frame) (body.run other frame) := by
  cases body with
  | expression value => exact value.parallel machines frame
  | steps block => exact .bind (runBlock_parallel machines frame block) fun _ => .done _

/-! ### Closures -/

theorem Heap.writeParameters_functions (slots : Array VariableRef) (parameters : List Nat)
    (arguments : List Value) (heap : Heap) :
    (heap.writeParameters slots parameters arguments).functions = heap.functions := by
  induction parameters generalizing heap arguments with
  | nil => rfl
  | cons slot rest inductionHypothesis =>
    rw [Heap.writeParameters, inductionHypothesis]
    rfl

theorem Heap.writeParameters_memos (slots : Array VariableRef) (parameters : List Nat)
    (arguments : List Value) (heap : Heap) :
    (heap.writeParameters slots parameters arguments).memos = heap.memos := by
  induction parameters generalizing heap arguments with
  | nil => rfl
  | cons slot rest inductionHypothesis =>
    rw [Heap.writeParameters, inductionHypothesis]
    rfl

theorem Heap.writeParameters_lists (slots : Array VariableRef) (parameters : List Nat)
    (arguments : List Value) (heap : Heap) :
    (heap.writeParameters slots parameters arguments).lists = heap.lists := by
  induction parameters generalizing heap arguments with
  | nil => rfl
  | cons slot rest inductionHypothesis =>
    rw [Heap.writeParameters, inductionHypothesis]
    rfl

/-- A closure with slots does the same on machines that are parallel. -/
theorem SlotClosure.parallel (machines : machine.Parallel Rel other) (closure : SlotClosure)
    (context : Value) (arguments : List Value) :
    Parallel Rel (closure.run machine context arguments)
      (closure.run other context arguments) :=
  .bind (.change fun _ => .ofSame (Heap.writeParameters_functions ..)
      (Heap.writeParameters_memos ..) (Heap.writeParameters_lists ..))
    fun frame => closure.routine.body.parallel machines frame

/-- A closure with slots does the same on machines that are alike. -/
theorem SlotClosure.alike {Related : First → Second → Prop}
    (alike : machine.Alike Related other) (closure : SlotClosure) (context : Value)
    (arguments : List Value) :
    Alike Related (closure.run machine context arguments)
      (closure.run other context arguments) :=
  closure.parallel alike.parallel context arguments

end Shorthand
