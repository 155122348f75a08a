/-
This file shows that no access to a slot is out of range.

A world is kept in which every closure has a routine that some source has been lowered to, and a
cell for each of its captures. In such worlds checking accesses makes no difference, since the slots
of the code are those of names and a frame has one for every name. What a call makes of a world is
such a world again, so all runs are covered.
-/

import Shorthand.Proofs.Alike.Operations
import Shorthand.Proofs.Lexical.Refinement
import Shorthand.Proofs.Slots.Guarded
import Shorthand.Proofs.Slots.Mention

namespace Shorthand

/-! ### Cells of a frame -/

variable {stray : Action SlotClosure Empty}

theorem Action.cellAt_of_lt {cells : Array VariableRef} {position : ℕ}
    (inside : position < cells.size) :
    Action.cellAt stray cells position = Action.done (cells.getD position ⟨0⟩) := by
  rw [Action.cellAt, Array.getElem?_eq_getElem inside, Array.getD_eq_getD_getElem?,
    Array.getElem?_eq_getElem inside]
  rfl

namespace Frame

variable {frame : Frame} {names : List String}

theorem guardedCell_of_lt {slot : ℕ} (inside : slot < frame.slots.size) :
    frame.guardedCell stray slot = Action.done (frame.cell slot) :=
  Action.cellAt_of_lt inside

/-- A slot with a name is in range, if the frame has one for every name. -/
theorem guardedCell_of_found (sized : names.length = frame.slots.size) {slot : ℕ} {name : String}
    (found : names[slot]? = some name) :
    frame.guardedCell stray slot = Action.done (frame.cell slot) :=
  guardedCell_of_lt (sized ▸ (List.getElem?_eq_some_iff.mp found).1)

theorem guardedCaptured_of_lt {captures : List (ℕ × ℕ)}
    (inside : ∀ capture ∈ captures, capture.1 < frame.slots.size) :
    frame.guardedCaptured stray captures = Action.done (frame.captured captures) := by
  induction captures with
  | nil => rfl
  | cons capture rest inductionHypothesis =>
    obtain ⟨first, further⟩ := List.forall_mem_cons.mp inside
    rw [guardedCaptured, guardedCell_of_lt first, inductionHypothesis further]
    rfl

end Frame

/-! ### Closures that sources have been lowered to -/

/-- A closure whose routine a source has been lowered to, with a cell for every capture. -/
structure SlotClosure.IsLowered (closure : SlotClosure) : Prop where
  routine : ∃ names bound parameters body globals,
    FunctionLowers names bound parameters body globals closure.routine
  captured : closure.captured.map Prod.fst = closure.routine.captures.map Prod.snd

/-- A world with such closures only. -/
def World.IsLowered (world : World SlotClosure) : Prop :=
  ∀ closure ∈ world.closures, closure.IsLowered

/-- One world twice, with closures that sources have been lowered to. -/
def Lowered (left right : World SlotClosure) : Prop := left = right ∧ left.IsLowered

/-- Changing the heap leaves the closures as they are. -/
instance : HeapRelation Lowered where
  heap lowered := congrArg World.heap lowered.1
  change := by
    rintro heap new closures others ⟨same, lowered⟩ -
    cases same
    exact ⟨rfl, lowered⟩

theorem World.IsLowered.newClosure {world : World SlotClosure} (lowered : world.IsLowered)
    {closure : SlotClosure} (isLowered : closure.IsLowered) (arity : ℕ) (label : String) :
    (Action.newClosure closure arity label world).2.IsLowered := by
  obtain ⟨heap, closures⟩ := world
  intro other member
  rcases Array.mem_push.mp member with member | rfl
  · exact lowered other member
  · exact isLowered

theorem Lowered.newClosure {closure : SlotClosure} (isLowered : closure.IsLowered) (arity : ℕ)
    (label : String) :
    Parallel Lowered (Action.newClosure closure arity label)
      (Action.newClosure closure arity label) := by
  rintro world _ ⟨rfl, lowered⟩
  exact ⟨rfl, rfl, lowered.newClosure isLowered arity label⟩

/-- The slots around that a lowered function captures have names. -/
theorem FunctionLowers.outer {names bound parameters : List String} {body : Body}
    {globals : List Value} {routine : Routine}
    (lowered : FunctionLowers names bound parameters body globals routine) :
    ∀ capture ∈ routine.captures, capture.1 < names.length := by
  cases lowered with
  | intro extension lowered =>
    have outer := extension.outer
    generalize Scope.captures _ = captures at outer
    intro capture member
    obtain ⟨name, -, found⟩ := exists_beside outer member
    exact (List.getElem?_eq_some_iff.mp found).1

/-- A function with the cells that its captures have in a frame. -/
theorem FunctionLowers.closure {names bound parameters : List String} {body : Body}
    {globals : List Value} {routine : Routine}
    (lowered : FunctionLowers names bound parameters body globals routine) (frame : Frame) :
    SlotClosure.IsLowered ⟨routine, frame.captured routine.captures⟩ where
  routine := ⟨_, _, _, _, _, lowered⟩
  captured := by
    rw [Frame.captured, List.map_map]
    rfl

/-! ### Trees -/

section

variable {machine other : Machine SlotClosure} (machines : machine.CallsParallel Lowered other)
  (kept : machine.keep = id) (keptToo : other.keep = id)

include machines kept keptToo

-- Theorems about lists and blocks need the hypotheses only for what is mutual with them.
set_option linter.unusedSectionVars false

mutual

/-- Code that an expression has been lowered to does not stray in a frame with a slot for every
name. -/
theorem Expr.Lowers.guarded {names bound : List String} {globals : List Value} {frame : Frame}
    (sized : names.length = frame.slots.size) {expr : Expr} {code : Code} :
    expr.Lowers names bound globals code →
      Parallel Lowered (code.evaluate machine frame) (code.guarded stray other frame)
  | .literal => .done _
  | .bound _ found => by
    rw [Code.guarded, Frame.guardedCell_of_found sized found]
    exact .read _
  | .global _ => .done _
  | .this => .done _
  | .arguments => .newList _
  | .array lowered => .bind (lowered.guarded sized) fun _ => .newList _
  | .object lowered => .bind (lowered.guarded sized _) fun _ => .newMap _
  | .member lowered =>
    .bind (lowered.guarded sized) fun _ => .bind (.done _) fun _ => .readProperty _ _
  | .index baseLowered keyLowered =>
    .bind (baseLowered.guarded sized) fun _ => .bind (keyLowered.guarded sized) fun _ =>
      .readProperty _ _
  | .callMember operandsLowered lowered =>
    .bind (lowered.guarded sized) fun _ => .bind (.done _) fun _ =>
      .bind (operandsLowered.guarded sized) fun _ => .bind (.readIf _ _) fun _ =>
        .callMethod machines _ _ _
  | .callIndex operandsLowered baseLowered keyLowered =>
    .bind (baseLowered.guarded sized) fun _ => .bind (keyLowered.guarded sized) fun _ =>
      .bind (operandsLowered.guarded sized) fun _ => .bind (.readIf _ _) fun _ =>
        .callMethod machines _ _ _
  | .call _ _ operandsLowered lowered =>
    .bind (lowered.guarded sized) fun _ => .bind (operandsLowered.guarded sized) fun _ =>
      machines.invoke _ _ _
  | .unary lowered => .bind (lowered.guarded sized) fun _ => .readIf _ _
  | @Expr.Lowers.binary _ _ operator _ _ _ _ _ _ leftLowered rightLowered => by
    have left := leftLowered.guarded sized
    have right := rightLowered.guarded sized
    cases operator with
    | and => exact .bind left fun _ => .ite right (.done _)
    | or => exact .bind left fun _ => .ite (.done _) right
    | _ => exact .bind left fun _ => .bind right fun _ => .readIf _ _
  | .conditional conditionLowered positiveLowered negativeLowered =>
    .bind (conditionLowered.guarded sized) fun _ =>
      .ite (positiveLowered.guarded sized) (negativeLowered.guarded sized)
  | .assignVariable lowered _ found => by
    rw [Code.guarded, Frame.guardedCell_of_found sized found]
    exact .bind (.read _) fun _ => .bind (lowered.guarded sized) fun _ =>
      .bind (.readIf _ _) fun _ => .bind (.writeVariable _ _) fun _ => .done _
  | .assignMember lowered baseLowered => by
    refine .bind (baseLowered.guarded sized) fun _ => .bind (.done _) fun _ =>
      .ite (.bind (.readProperty _ _) fun _ => ?_) (.bind (.done _) fun _ => ?_)
    all_goals
      exact .bind (lowered.guarded sized) fun _ => .bind (.readIf _ _) fun _ =>
        .bind (.writeProperty _ _ _) fun _ => .done _
  | .assignIndex lowered baseLowered keyLowered => by
    refine .bind (baseLowered.guarded sized) fun _ => .bind (keyLowered.guarded sized) fun _ =>
      .ite (.bind (.readProperty _ _) fun _ => ?_) (.bind (.done _) fun _ => ?_)
    all_goals
      exact .bind (lowered.guarded sized) fun _ => .bind (.readIf _ _) fun _ =>
        .bind (.writeProperty _ _ _) fun _ => .done _
  | .function lowered => by
    rw [Code.guarded, Frame.guardedCaptured_of_lt (sized ▸ lowered.outer), Code.evaluate, kept,
      keptToo]
    exact Lowered.newClosure (lowered.closure frame) _ _

theorem AllLower.guarded {names bound : List String} {globals : List Value} {frame : Frame}
    (sized : names.length = frame.slots.size) {items : List Expr} {codes : List Code} :
    AllLower names bound items globals codes →
      Parallel Lowered (evaluateAll machine frame codes) (guardedAll stray other frame codes)
  | .nil => .done _
  | .cons lowered restLowered =>
    .bind (lowered.guarded sized) fun _ => .bind (restLowered.guarded sized) fun _ => .done _

theorem EntriesLower.guarded {names bound : List String} {globals : List Value} {frame : Frame}
    (sized : names.length = frame.slots.size) {entries : List (String × Expr)}
    {codes : List (String × Code)} :
    EntriesLower names bound entries globals codes → ∀ table : Table Value,
      Parallel Lowered (evaluateEntries machine frame table codes)
        (guardedEntries stray other frame table codes)
  | .nil, _ => .done _
  | .cons lowered restLowered, _ =>
    .bind (lowered.guarded sized) fun _ => restLowered.guarded sized _

theorem InitialsLower.guarded {names bound : List String} {globals : List Value} {frame : Frame}
    (sized : names.length = frame.slots.size) {declarations : List (String × Option Expr)}
    {codes : List (ℕ × Code)} : InitialsLower names bound declarations globals codes →
      Parallel Lowered (initializeSlots machine frame codes)
        (guardedInitials stray other frame codes)
  | .nil => .done _
  | .absent restLowered => restLowered.guarded sized
  | .present _ found lowered restLowered => by
    rw [guardedInitials, Frame.guardedCell_of_found sized found]
    exact .bind (lowered.guarded sized) fun _ =>
      .bind (.writeVariable _ _) fun _ => restLowered.guarded sized

end

mutual

/-- A step that a statement has been lowered to does not stray. -/
theorem Statement.Lowers.guarded {names bound : List String} {globals : List Value} {frame : Frame}
    (sized : names.length = frame.slots.size) {statement : Statement} {step : Step} :
    statement.Lowers names bound globals step →
      Parallel Lowered (step.run machine frame) (step.guarded stray other frame)
  | .declare lowered => .bind (lowered.guarded machines kept keptToo sized) fun _ => .done _
  | .returnNothing => .done _
  | .return lowered => .bind (lowered.guarded machines kept keptToo sized) fun _ => .done _
  | .if conditionLowered positiveLowered negativeLowered =>
    .bind (conditionLowered.guarded machines kept keptToo sized) fun _ =>
      .ite (positiveLowered.guarded sized) (negativeLowered.guarded sized)
  | .block lowered => lowered.guarded sized
  | .expression lowered => .bind (lowered.guarded machines kept keptToo sized) fun _ => .done _
  | .empty => .done _

theorem AlternativeLowers.guarded {names bound : List String} {globals : List Value}
    {frame : Frame} (sized : names.length = frame.slots.size) {alternative : Option Statement}
    {step : Option Step} : AlternativeLowers names bound alternative globals step →
      Parallel Lowered (runAlternative machine frame step)
        (guardedAlternative stray other frame step)
  | .none => .done _
  | .some lowered => lowered.guarded sized

theorem BlockLowers.guarded {names bound : List String} {globals : List Value} {frame : Frame}
    (sized : names.length = frame.slots.size) {block : List Statement} {steps : List Step} :
    BlockLowers names bound block globals steps →
      Parallel Lowered (runBlock machine frame steps) (guardedBlock stray other frame steps)
  | .nil => .done _
  | .cons lowered restLowered => by
    refine .bind (lowered.guarded sized) fun returned => ?_
    cases returned with
    | some _ => exact .done _
    | none => exact restLowered.guarded sized

end

theorem Body.Lowers.guarded {names bound : List String} {globals : List Value} {frame : Frame}
    (sized : names.length = frame.slots.size) {body : Body} {code : CodeBody}
    (lowered : body.Lowers names bound globals code) :
    Parallel Lowered (code.run machine frame) (code.guarded stray other frame) := by
  cases lowered with
  | expression lowered => exact lowered.guarded machines kept keptToo sized
  | statements lowered =>
    exact .bind (lowered.guarded machines kept keptToo sized) fun _ => .done _

end

/-! ### The beginning of a call -/

/-- Parameters that are own variables get their arguments. -/
theorem guardedParameters_of_lt {own : Array VariableRef} {slots : List ℕ}
    (inside : ∀ slot ∈ slots, slot < own.size) (arguments : List Value) :
    guardedParameters stray own slots arguments =
      Action.change fun heap => ((), heap.writeParameters own slots arguments) := by
  induction slots generalizing arguments with
  | nil => rfl
  | cons slot rest inductionHypothesis =>
    obtain ⟨first, further⟩ := List.forall_mem_cons.mp inside
    rw [guardedParameters, Action.cellAt_of_lt first, inductionHypothesis further]
    rfl

/-- Captured cells get their slots if these are there. -/
theorem guardedSlots_of_lt {slots : Array VariableRef} {captured : List (ℕ × VariableRef)}
    (inside : ∀ pair ∈ captured, pair.1 < slots.size) :
    guardedSlots stray slots captured =
      Action.done (captured.foldl (fun slots (slot, cell) => slots.setIfInBounds slot cell)
        slots) := by
  induction captured generalizing slots with
  | nil => rfl
  | cons pair rest inductionHypothesis =>
    obtain ⟨first, further⟩ := List.forall_mem_cons.mp inside
    rw [guardedSlots, Action.cellAt_of_lt first]
    refine inductionHypothesis fun pair member => ?_
    rw [Array.size_setIfInBounds]
    exact further pair member

theorem Heap.size_newVariables (heap : Heap) (count : ℕ) :
    (heap.newVariables count).1.size = count := by
  rw [Heap.newVariables, Array.size_map, Array.size_range]

theorem size_foldl_setIfInBounds (slots : Array VariableRef) (captured : List (ℕ × VariableRef)) :
    (captured.foldl (fun slots (slot, cell) => slots.setIfInBounds slot cell) slots).size =
      slots.size := by
  induction captured generalizing slots with
  | nil => rfl
  | cons pair rest inductionHypothesis =>
    rw [List.foldl_cons, inductionHypothesis, Array.size_setIfInBounds]

namespace SlotClosure

/-- The slots of a closure are in range: its parameters are among its own variables, and it has a
slot for every captured cell. -/
structure Fits (closure : SlotClosure) : Prop where
  count : closure.captured.length ≤ closure.routine.slotCount
  parameters : ∀ slot ∈ closure.routine.parameterSlots,
    slot < closure.routine.slotCount - closure.captured.length
  captured : ∀ pair ∈ closure.captured, pair.1 < closure.routine.slotCount

variable {closure : SlotClosure}

/-- A call of a closure begins in a frame with as many slots as its routine has. -/
theorem Fits.enter (fits : closure.Fits) (context : Value) (arguments : List Value)
    (world : World SlotClosure) :
    ∃ frame heap, closure.enter context arguments world = (.value frame, ⟨heap, world.closures⟩) ∧
      frame.slots.size = closure.routine.slotCount := by
  refine ⟨_, _, rfl, ?_⟩
  show (closure.captured.foldl _ ((world.heap.newVariables _).1 ++ _)).size = _
  rw [size_foldl_setIfInBounds, Array.size_append, Array.size_replicate, Heap.size_newVariables]
  exact Nat.sub_add_cancel fits.count

/-- A call of a closure whose slots are in range begins without straying. -/
theorem Fits.guardedEnter (fits : closure.Fits) (context : Value) (arguments : List Value) :
    closure.guardedEnter stray context arguments = closure.enter context arguments := by
  funext world
  obtain ⟨heap, closures⟩ := world
  have count := fits.count
  have own := heap.size_newVariables (closure.routine.slotCount - closure.captured.length)
  generalize made : heap.newVariables
    (closure.routine.slotCount - closure.captured.length) = reply at own
  obtain ⟨cells, middle⟩ := reply
  replace own : cells.size = closure.routine.slotCount - closure.captured.length := own
  have begins : Action.change (fun heap => heap.newVariables
      (closure.routine.slotCount - closure.captured.length)) ⟨heap, closures⟩ =
        (.value cells, ⟨middle, closures⟩) := by
    simp only [Action.change, made]
  have free : closure.routine.slotCount - cells.size = closure.captured.length := by omega
  have sized : (cells ++ Array.replicate closure.captured.length (VariableRef.mk 0)).size =
      closure.routine.slotCount := by
    rw [Array.size_append, Array.size_replicate]
    omega
  rw [SlotClosure.guardedEnter, Action.bind_value begins,
    guardedParameters_of_lt (own ▸ fits.parameters), free]
  simp only [guardedSlots_of_lt (sized ▸ fits.captured), SlotClosure.enter, Action.change, made]
  rfl

/-- The slots of a closure that a source has been lowered to are in range. -/
theorem IsLowered.fits (lowered : closure.IsLowered) : closure.Fits := by
  obtain ⟨⟨_, _, parameters, body, _, lowered⟩, captured⟩ := lowered
  obtain ⟨routine, cells⟩ := closure
  cases lowered with
  | @intro _ _ _ names _ _ scope code label extension lowered =>
    have count : cells.length = names.length := by
      rw [← List.length_map, captured, List.length_map, extension.outer.length_eq]
    have total : scope.names.length = (ownNames parameters body).length + names.length := by
      rw [extension.names, List.length_append]
    refine ⟨?_, ?_, ?_⟩
    · show cells.length ≤ scope.names.length
      omega
    · intro slot member
      obtain ⟨parameter, isParameter, rfl⟩ := List.mem_map.mp member
      have declared : (ownNames parameters body).idxOf parameter <
          (ownNames parameters body).length :=
        List.idxOf_lt_length_of_mem (mem_ownNames.mpr (.inl isParameter))
      show _ < scope.names.length - cells.length
      omega
    · intro pair member
      have isSlot : pair.1 ∈ scope.captures.map Prod.snd := captured ▸ List.mem_map_of_mem member
      rw [extension.slots, List.mem_range'_1] at isSlot
      show pair.1 < scope.names.length
      omega

end SlotClosure

/-- A closure that a source has been lowered to runs without straying. -/
theorem SlotClosure.IsLowered.guarded {machine other : Machine SlotClosure}
    (machines : machine.CallsParallel Lowered other) (kept : machine.keep = id)
    (keptToo : other.keep = id) {closure : SlotClosure} (lowered : closure.IsLowered)
    (context : Value) (arguments : List Value) :
    Parallel Lowered (closure.run machine context arguments)
      (closure.guardedRun stray other context arguments) := by
  rintro world _ ⟨rfl, isLowered⟩
  obtain ⟨frame, heap, begins, sized⟩ := lowered.fits.enter context arguments world
  rw [SlotClosure.run, SlotClosure.guardedRun, lowered.fits.guardedEnter,
    Action.bind_value begins, Action.bind_value begins]
  obtain ⟨_, _, _, _, _, function⟩ := lowered.routine
  generalize closure.routine = routine at function sized
  cases function with
  | intro _ body => exact body.guarded machines kept keptToo sized.symm _ _ ⟨rfl, isLowered⟩

/-! ### Calls -/

/-- The routine of a function that stands alone is one that its definition has been lowered to. -/
theorem Definition.lowers_of_resolve {definition : Definition} {heap after : Heap}
    {routine : Routine} (resolved : definition.resolve heap = .ok (routine, after)) :
    ∃ globals, FunctionLowers [] [] definition.parameters definition.body globals routine := by
  have resolves := definition.resolves heap
  cases supplied : supply definition.label definition.uses heap with
  | error error =>
    simp only [supplied] at resolves
    cases resolved.symm.trans resolves
  | ok pair =>
    simp only [supplied] at resolves
    obtain ⟨_, same, _, lowered⟩ := resolves
    cases resolved.symm.trans same
    exact ⟨_, lowered⟩

/-- Compiling adds a closure that the definition has been lowered to, or none. -/
theorem World.IsLowered.compile {world : World SlotClosure} (lowered : world.IsLowered)
    (definition : Definition) : (definition.compile world).2.IsLowered := by
  rw [Definition.compile]
  cases resolved : definition.resolve world.heap with
  | error error => exact lowered
  | ok pair =>
    obtain ⟨routine, heap⟩ := pair
    obtain ⟨_, function⟩ := Definition.lowers_of_resolve resolved
    have isLowered : SlotClosure.IsLowered ⟨routine, []⟩ :=
      ⟨⟨_, _, _, _, _, function⟩, by rw [function.captures_eq_nil]; rfl⟩
    have lowered : World.IsLowered ⟨heap, world.closures⟩ := lowered
    exact lowered.newClosure isLowered _ _

namespace Lowered

/-- A change of the heap leaves the closures alone. -/
theorem change {α : Type} (step : Heap → α × Heap) :
    Parallel Lowered (Action.change step) (Action.change step) := by
  rintro world _ ⟨rfl, lowered⟩
  exact ⟨rfl, rfl, lowered⟩

theorem close (definition : Definition) :
    Parallel Lowered definition.compile definition.compile := by
  rintro world _ ⟨rfl, lowered⟩
  exact ⟨rfl, rfl, lowered.compile definition⟩

variable {machine other : Machine SlotClosure}

/-- Closures are run without straying. -/
theorem run (machines : machine.CallsParallel Lowered other) (kept : machine.keep = id)
    (keptToo : other.keep = id) (cell : ClosureRef) (context : Value) (arguments : List Value) :
    Parallel Lowered (slotEngine.perform machine context arguments (.closure cell))
      ((guardedEngine stray).perform other context arguments (.closure cell)) := by
  rintro world _ ⟨rfl, lowered⟩
  simp only [Engine.perform]
  cases found : world.closures[cell.index]? with
  | none => exact ⟨rfl, rfl, lowered⟩
  | some closure =>
    have isLowered := lowered closure (Array.mem_of_getElem? found)
    exact isLowered.guarded machines kept keptToo context arguments _ _ ⟨rfl, lowered⟩

end Lowered

/-- At every depth, calls with their accesses checked do what calls without checks do. -/
theorem guardedEngine_parallel (stray : Action SlotClosure Empty) (depth : ℕ) :
    (slotEngine.machineWithin depth).CallsParallel Lowered
      ((guardedEngine stray).machineWithin depth) := by
  induction depth with
  | zero =>
    have exhausted (function context : Value) (arguments : List Value) :
        Parallel Lowered ((slotEngine.machineWithin 0).invoke function context arguments)
          (((guardedEngine stray).machineWithin 0).invoke function context arguments) := .exhausted
    exact ⟨exhausted, .answer (fun _ _ => Lowered.change _) exhausted, Lowered.close⟩
  | succ depth inductionHypothesis =>
    have calls := Parallel.invokeWithin inductionHypothesis (Lowered.run inductionHypothesis
      (slotEngine.machineWithin_keep depth) ((guardedEngine stray).machineWithin_keep depth))
    exact ⟨calls, .answer (fun _ _ => Lowered.change _) calls, Lowered.close⟩

/-! ### What is made of a world -/

/-- The worlds that come out of one when definitions are compiled and values are called, in any
order, while the heap is changed in any way. -/
inductive World.Reaches (start : World SlotClosure) : World SlotClosure → Prop where
  | here : start.Reaches start
  | compiled {world : World SlotClosure} (reached : start.Reaches world)
      (definition : Definition) : start.Reaches (definition.compile world).2
  | called {world : World SlotClosure} (reached : start.Reaches world) (depth : ℕ)
      (function context : Value) (arguments : List Value) :
      start.Reaches ((slotEngine.machineWithin depth).invoke function context arguments world).2
  | changed {world : World SlotClosure} (reached : start.Reaches world) (heap : Heap) :
      start.Reaches { world with heap }

namespace World

variable {start world : World SlotClosure}

theorem IsLowered.empty : World.empty.IsLowered := fun _ member => nomatch member

/-- Every closure that comes into a world has a routine that a source has been lowered to. -/
theorem Reaches.isLowered (reached : start.Reaches world) (lowered : start.IsLowered) :
    world.IsLowered := by
  induction reached with
  | here => exact lowered
  | compiled _ definition inductionHypothesis => exact inductionHypothesis.compile definition
  | called _ depth function context arguments inductionHypothesis =>
    have parallel := (guardedEngine_parallel Action.exhausted depth).invoke function context
      arguments _ _ ⟨rfl, inductionHypothesis⟩
    exact parallel.2.2
  | changed _ _ inductionHypothesis => exact inductionHypothesis

end World

/-- Calls in a world with lowered closures do not stray: they do what calls with checks do, whatever
a stray access does. -/
theorem World.IsLowered.invoke_guarded {world : World SlotClosure} (lowered : world.IsLowered)
    (stray : Action SlotClosure Empty) (depth : ℕ) (function context : Value)
    (arguments : List Value) :
    ((guardedEngine stray).machineWithin depth).invoke function context arguments world =
      (slotEngine.machineWithin depth).invoke function context arguments world := by
  obtain ⟨outcome, same, -⟩ := (guardedEngine_parallel stray depth).invoke function context
    arguments world world ⟨rfl, lowered⟩
  exact Prod.ext outcome.symm same.symm

end Shorthand
