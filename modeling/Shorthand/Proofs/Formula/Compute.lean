/-
This file runs functions whose bodies are formulas.

A formula combines its parameters by operators and conditions. It calls nothing and makes nothing,
so its value is told by the values of the parameters alone, and a call of it adds the variables of
the parameters to the world and nothing else. It never fails. Only an operator that looks through a
list that holds itself keeps it from coming to an end.
-/

import Shorthand.Proofs.Formula.Reads
import Shorthand.Proofs.World.Runs

namespace Shorthand

variable {Closure : Type}

/-! ### Formulas -/

/-- An expression of constants and as many slots that does nothing but operate on them. -/
def Code.isFormula (count : ℕ) : Code → Bool
  | .value _ => true
  | .slot index => index < count
  | .unary _ operand => operand.isFormula count
  | .binary _ left right | .and left right | .or left right =>
    left.isFormula count && right.isFormula count
  | .conditional condition positive negative =>
    condition.isFormula count && positive.isFormula count && negative.isFormula count
  | _ => false

/-- The value of a formula by the values of its slots. There is none if an operator looks through a
value that holds itself. -/
def Code.compute (heap : Heap) (slots : List Value) : Code → Option Value
  | .value constant => some constant
  | .slot index => slots[index]?
  | .unary operator operand => do
    let operand ← operand.compute heap slots
    if operand.unaryEnds heap operator then return operand.unary heap operator else none
  | .binary operator left right => do
    let left ← left.compute heap slots
    let right ← right.compute heap slots
    if left.binaryEnds heap operator right then return left.binary heap operator right else none
  | .and left right => do
    let left ← left.compute heap slots
    if left.truthy then right.compute heap slots else return left
  | .or left right => do
    let left ← left.compute heap slots
    if left.truthy then return left else right.compute heap slots
  | .conditional condition positive negative => do
    let condition ← condition.compute heap slots
    if condition.truthy then positive.compute heap slots else negative.compute heap slots
  | _ => none

/-- The values of a formula are the same in heaps that agree in lists and functions. -/
theorem Code.compute_agrees {heap other : Heap} (agrees : heap.Agrees other) (slots : List Value) :
    ∀ code : Code, code.compute other slots = code.compute heap slots
  | .value _ | .slot _ => rfl
  | .unary _ operand => by
    simp only [compute, compute_agrees agrees slots operand, Value.unary_agrees agrees,
      Value.unaryEnds_agrees agrees]
  | .binary _ left right => by
    simp only [compute, compute_agrees agrees slots left, compute_agrees agrees slots right,
      Value.binary_agrees agrees, Value.binaryEnds_agrees agrees]
  | .and left right | .or left right => by
    simp only [compute, compute_agrees agrees slots left, compute_agrees agrees slots right]
  | .conditional condition positive negative => by
    simp only [compute, compute_agrees agrees slots condition, compute_agrees agrees slots positive,
      compute_agrees agrees slots negative]
  | .this | .arguments | .array _ | .object _ | .property _ _ | .call _ _ | .callMethod _ _ _
  | .assignSlot _ _ _ | .assignProperty _ _ _ _ | .function _ _ _ _ _ => rfl

/-- The slots of a frame have some values. -/
def Frame.Has (frame : Frame) (heap : Heap) (slots : List Value) : Prop :=
  ∀ {slot value}, slots[slot]? = some value → heap.readVariable (frame.cell slot) = value

/-- Evaluating a formula yields its value if it comes to an end, and leaves the world as it is. -/
theorem Code.evaluate_formula {machine : Machine Closure} {frame : Frame} {world : World Closure}
    {slots : List Value} (has : frame.Has world.heap slots) :
    ∀ code : Code, code.isFormula slots.length = true →
      code.evaluate machine frame world = (.ofOption (code.compute world.heap slots), world)
  | .value constant, _ => by
    rw [evaluate]
    rfl
  | .slot index, isFormula => by
    have found := List.getElem?_eq_getElem (of_decide_eq_true isFormula)
    rw [evaluate, compute, found, ← has found]
    rfl
  | .unary operator operand, isFormula => by
    rw [evaluate]
    exact Action.bind_ofOption (operand.evaluate_formula has isFormula)
      fun operand => Action.readIf_eq_ofOption ..
  | .binary operator left right, isFormula => by
    obtain ⟨isLeft, isRight⟩ := Bool.and_eq_true_iff.mp isFormula
    rw [evaluate]
    exact Action.bind_ofOption (left.evaluate_formula has isLeft) fun first =>
      Action.bind_ofOption (right.evaluate_formula has isRight)
        fun second => Action.readIf_eq_ofOption ..
  | .and left right, isFormula => by
    obtain ⟨isLeft, isRight⟩ := Bool.and_eq_true_iff.mp isFormula
    rw [evaluate]
    refine Action.bind_ofOption (left.evaluate_formula has isLeft) fun first => ?_
    cases first.truthy
    · rfl
    · exact right.evaluate_formula has isRight
  | .or left right, isFormula => by
    obtain ⟨isLeft, isRight⟩ := Bool.and_eq_true_iff.mp isFormula
    rw [evaluate]
    refine Action.bind_ofOption (left.evaluate_formula has isLeft) fun first => ?_
    cases first.truthy
    · exact right.evaluate_formula has isRight
    · rfl
  | .conditional condition positive negative, isFormula => by
    obtain ⟨both, isNegative⟩ := Bool.and_eq_true_iff.mp isFormula
    obtain ⟨isCondition, isPositive⟩ := Bool.and_eq_true_iff.mp both
    rw [evaluate]
    refine Action.bind_ofOption (condition.evaluate_formula has isCondition) fun first => ?_
    cases first.truthy
    · exact negative.evaluate_formula has isNegative
    · exact positive.evaluate_formula has isPositive

/-! ### Calls -/

/-- The values that parameters have: those of the arguments, and `undefined` without one. -/
def received : ℕ → List Value → List Value
  | 0, _ => []
  | count + 1, arguments => arguments.headD .undefined :: received count arguments.tail

theorem length_received (count : ℕ) (arguments : List Value) :
    (received count arguments).length = count := by
  induction count generalizing arguments with
  | zero => rfl
  | succ count inductionHypothesis => exact congrArg Nat.succ (inductionHypothesis _)

/-- Parameters with slots in order are written one after the other behind the variables that are
there. -/
theorem Heap.writeParameters_received (heap : Heap) (cells : Array VariableRef) {base : ℕ}
    {start count : ℕ} {before : Array Value} (size : before.size = base + start)
    (cell : ∀ slot < start + count, cells.getD slot ⟨0⟩ = ⟨base + slot⟩) (arguments : List Value) :
    { heap with locals := before ++ Array.replicate count Value.undefined }.writeParameters cells
        (List.range' start count) arguments =
      { heap with locals := before ++ (received count arguments).toArray } := by
  -- What has been written so far counts as being there before.
  induction count generalizing start before arguments with
  | zero => rfl
  | succ count inductionHypothesis =>
    have writes (value : Value) :
        (before ++ Array.replicate (count + 1) Value.undefined).setIfInBounds (base + start) value =
          before.push value ++ Array.replicate count .undefined := by
      rw [← size, Array.setIfInBounds_append_right (Nat.le_refl _), Nat.sub_self]
      apply Array.ext'
      simp [List.replicate_succ]
    rw [List.range'_succ, Heap.writeParameters, cell start (by omega), Heap.writeVariable, writes,
      inductionHypothesis (by rw [Array.size_push, size, Nat.add_assoc])
        (fun slot bound => cell slot (by omega)), received]
    congr 1
    apply Array.ext'
    simp

/-- The world with variables added. -/
def World.withVariables (world : World Closure) (values : List Value) : World Closure :=
  ⟨{ world.heap with locals := world.heap.locals ++ values.toArray }, world.closures⟩

/-- A world that differs by new variables only. -/
def World.AddsVariables (old new : World Closure) : Prop := ∃ values, new = old.withVariables values

namespace World.AddsVariables

variable {world middle last : World Closure}

theorem refl (world : World Closure) : world.AddsVariables world :=
  ⟨[], by simp only [withVariables, Array.append_empty]⟩

theorem trans (adds : world.AddsVariables middle) (further : middle.AddsVariables last) :
    world.AddsVariables last := by
  obtain ⟨first, rfl⟩ := adds
  obtain ⟨second, rfl⟩ := further
  refine ⟨first ++ second, ?_⟩
  simp only [withVariables, Array.append_assoc, List.append_toArray]

theorem adds (adds : world.AddsVariables middle) : world.Adds middle := by
  obtain ⟨values, rfl⟩ := adds
  exact { Adds.refl world with locals := ⟨values, Array.toList_append.symm⟩ }

theorem agrees (adds : world.AddsVariables middle) : world.heap.Agrees middle.heap := by
  obtain ⟨values, rfl⟩ := adds
  exact ⟨rfl, rfl, rfl⟩

end World.AddsVariables

/-- A closure whose only variables are its parameters. -/
def SlotClosure.ofParameters (count : ℕ) (body : CodeBody) (label : String) : SlotClosure where
  routine := ⟨List.range count, count, [], body, label⟩
  captured := []

namespace SlotClosure

/-- A call begins with variables for the parameters. -/
theorem enter_ofParameters (count : ℕ) (body : CodeBody) (label : String) (context : Value)
    (arguments : List Value) (world : World Closure) :
    ∃ frame, (ofParameters count body label).enter context arguments world =
        (.value frame, world.withVariables (received count arguments)) ∧
      frame.Has (world.withVariables (received count arguments)).heap
        (received count arguments) := by
  let cells : Array VariableRef := (Array.range count).map fun index =>
    ⟨world.heap.locals.size + index⟩
  have cell (slot : ℕ) (bound : slot < count) :
      cells.getD slot ⟨0⟩ = ⟨world.heap.locals.size + slot⟩ := by
    simp [cells, Array.getD_eq_getD_getElem?, bound]
  have start : world.heap.locals.size = world.heap.locals.size + 0 := rfl
  have written := world.heap.writeParameters_received cells start
    (fun slot bound => cell slot (Nat.zero_add count ▸ bound)) arguments
  refine ⟨⟨context, arguments, cells⟩, ?_, ?_⟩
  · show (Action.change fun heap => _ : Action Closure Frame) world = _
    rw [World.withVariables, ← written, ← List.range_eq_range']
    simp only [Action.change, ofParameters, Heap.newVariables, List.foldl_nil, List.length_nil,
      Nat.sub_zero, Array.replicate_zero, Array.append_empty]
    rfl
  · intro slot value found
    have bound : slot < count := by
      rw [← length_received count arguments]
      exact (List.getElem?_eq_some_iff.mp found).1
    rw [Frame.cell, cell slot bound, Heap.readVariable, World.withVariables,
      Array.getD_eq_getD_getElem?, Array.getElem?_append_right (Nat.le_add_right _ _),
      Nat.add_sub_cancel_left, List.getElem?_toArray, found, Option.getD_some]

/-- A closure of a formula. -/
def ofFormula (count : ℕ) (code : Code) (label : String) : SlotClosure :=
  ofParameters count (.expression code) label

/-- A call of a formula yields its value for the arguments, if it comes to an end. -/
theorem run_ofFormula {machine : Machine Closure} {count : ℕ} {code : Code}
    (isFormula : code.isFormula count = true) (label : String) (context : Value)
    (arguments : List Value) (world : World Closure) :
    (ofFormula count code label).run machine context arguments world =
      (.ofOption (code.compute world.heap (received count arguments)),
        world.withVariables (received count arguments)) := by
  obtain ⟨frame, enters, has⟩ :=
    enter_ofParameters count (.expression code) label context arguments world
  have adds : world.AddsVariables (world.withVariables (received count arguments)) := ⟨_, rfl⟩
  rw [← length_received count arguments] at isFormula
  rw [run, ofFormula, Action.bind_value enters, ← code.compute_agrees adds.agrees]
  exact code.evaluate_formula has isFormula

end SlotClosure

/-! ### Sources -/

/-- A source is read as a formula of its parameters. -/
structure ReadsAs (source : String) (count : ℕ) (code : Code) : Prop where
  isFormula : code.isFormula count = true
  parses : ∃ form, Form.parse source true = .ok form ∧ ∀ heap,
    (form.definition source).resolve heap =
      .ok ((SlotClosure.ofFormula count code source).routine, heap)

namespace ReadsAs

variable {source : String} {count : ℕ} {code : Code}

/-- A source becomes a function that computes the formula, and nothing else is added. -/
theorem toFunction (reads : ReadsAs source count code) (depth : ℕ) (world : World SlotClosure) :
    ∃ function start, (slotEngine.machineWithin depth).toFunction (.string source) world =
        (.value function, start) ∧
      start.Runs function (SlotClosure.ofFormula count code source) ∧
      world.Adds start ∧ start.heap.lists = world.heap.lists := by
  obtain ⟨form, parsed, resolves⟩ := reads.parses
  have closes : (slotEngine.machineWithin depth).close = Definition.compile := by
    cases depth <;> rfl
  have made : (slotEngine.machineWithin depth).toFunction (.string source) world =
      Action.newClosure (SlotClosure.ofFormula count code source) (List.range count).length source
        world := by
    show (slotEngine.machineWithin depth).compile source true world = _
    simp only [Machine.compile, parsed, closes, Definition.compile, resolves]
    rfl
  refine ⟨_, _, made, .ofNew rfl, ?_, rfl⟩
  exact { World.Adds.refl world with
    functions := ⟨_, Array.toList_push.symm⟩
    closures := ⟨_, Array.toList_push.symm⟩ }

end ReadsAs

/-- A call of a function that computes a formula adds variables only. -/
theorem World.Runs.invoke_formula {function : Value} {count : ℕ} {code : Code} {label : String}
    {world : World SlotClosure}
    (runs : world.Runs function (SlotClosure.ofFormula count code label))
    (isFormula : code.isFormula count = true) {arguments : List Value} {result : Option Value}
    (computes : code.compute world.heap (received count arguments) = result) (depth : ℕ)
    (context : Value) :
    ∃ after, (slotEngine.machineWithin (depth + 1)).invoke function context arguments world =
        (.ofOption result, after) ∧ world.AddsVariables after := by
  subst computes
  exact ⟨_, (runs.invoke slotEngine depth context arguments).trans
    (SlotClosure.run_ofFormula isFormula label context arguments world), _, rfl⟩

end Shorthand
