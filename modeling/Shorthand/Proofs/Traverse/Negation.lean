/-
This file relates operations that search by a predicate, by the calls that they make.

A negation makes one call of the function that it negates, with the same context and arguments and
in the same world, and it remains a negation whatever calls do to the world. So two searches whose
answers decide at the same visits have the same course, each with its own answers.
-/

import Mathlib
import Shorthand.Proofs.Alike.Along
import Shorthand.Proofs.Index.Search
import Shorthand.Proofs.Traverse.Result

namespace Shorthand

variable {Closure : Type}

/-! ### Functions stay -/

/-- No function of the first world is gone or changed in the second. -/
def FunctionsStay (old new : World Closure) : Prop :=
  old.heap.functions.toList <+: new.heap.functions.toList

/-- Functions stay along every path. -/
instance : IsPath (FunctionsStay : World Closure → World Closure → Prop) where
  step keeps := keeps.functions
  trans := List.IsPrefix.trans

/-- Calls of a machine take no function away and change none. -/
theorem slotEngine_functionsStay (depth : ℕ) (function context : Value) (arguments : List Value) :
    Along FunctionsStay ((slotEngine.machineWithin depth).invoke function context arguments) :=
  slotEngine_along (Combine.answer_along_of_changes fun _ _ _ => List.prefix_refl _) depth
    function context arguments

/-! ### Negations -/

/-- A truth value that is the opposite of a value. -/
def Value.opposite (value : Value) : Value := .boolean (!value.truthy)

/-- A function that negates another one. -/
def Heap.Negates (heap : Heap) (negation function : Value) : Prop :=
  ∃ cell : FunctionRef, negation = .function cell ∧
    (heap.readFunction cell).behaviour = .negated function

namespace Heap.Negates

variable {world later : World Closure} {negation function : Value}

theorem mono (negates : world.heap.Negates negation function) (stay : FunctionsStay world later) :
    later.heap.Negates negation function := by
  obtain ⟨cell, isFunction, behaves⟩ := negates
  have noFailure : (world.heap.readFunction cell).behaviour ≠ .failing "" := by
    rw [behaves]
    exact Behaviour.noConfusion
  exact ⟨cell, isFunction, by rw [Heap.readFunction_of_prefix stay noFailure, behaves]⟩

/-- Calling a negation is calling the function, and then the answer is negated. -/
theorem invoke (negates : world.heap.Negates negation function) (engine : Engine Closure)
    (depth : ℕ) (context : Value) (arguments : List Value) :
    (engine.machineWithin (depth + 1)).invoke negation context arguments world =
      (((engine.machineWithin depth).invoke function context arguments world).1.map Value.opposite,
        ((engine.machineWithin depth).invoke function context arguments world).2) := by
  obtain ⟨cell, rfl, behaves⟩ := negates
  rw [engine.invoke_function, behaves, Engine.perform]
  cases called : (engine.machineWithin depth).invoke function context arguments world with
  | mk outcome after =>
    cases outcome with
    | value answer => exact Action.bind_value called
    | failure failure => exact Action.bind_failure called _
    | exhausted => exact Action.bind_exhausted called _

end Heap.Negates

/-- The method of functions that makes a negation. -/
theorem Method.call_not (machine : Machine Closure) (function : FunctionRef)
    (world : World Closure) :
    ∃ negation made, Method.call machine (.function function) "not" [] world =
        (.value negation, made) ∧
      made.heap.Negates negation (.function function) ∧ FunctionsStay world made := by
  have labelled : (Value.function function).hasLiteral world.heap = true :=
    Value.hasLiteral_leaf (fun _ => Value.noConfusion) fun _ => Value.noConfusion
  have negates : Method.call machine (.function function) "not" [] world =
      Action.newFunction (.negated (.function function))
        ((Value.function function).arity world.heap)
        ("not(" ++ (Value.function function).label world.heap ++ ")") world :=
    Action.readIf_bind labelled _ _
  refine ⟨_, _, negates, ⟨_, rfl, ?_⟩, ⟨_, Array.toList_push.symm⟩⟩
  rw [Heap.readFunction, Array.getD_eq_getD_getElem?, Array.getElem?_push_size, Option.getD_some]

/-! ### Courses with other answers -/

/-- A visit with another answer. -/
def Visit.map (view : Value → Value) (visit : Visit Closure) : Visit Closure :=
  { visit with outcome := visit.outcome.map view }

theorem Outcome.map_id {α : Type} (outcome : Outcome α) : outcome.map id = outcome := by
  cases outcome <;> rfl

theorem Visit.map_map_id (visits : List (Visit Closure)) : visits.map (.map id) = visits := by
  have same : Visit.map id = (id : Visit Closure → Visit Closure) := by
    funext visit
    rw [Visit.map, Outcome.map_id]
    rfl
  rw [same, List.map_id]

theorem Conclusion.position_map (view : Value → Value) (visits : List (Visit Closure))
    (ending : Conclusion) : ending.position (visits.map (.map view)) = ending.position visits := by
  cases ending with
  | decided =>
    rw [position, position, List.getLast?_map, Option.map_map]
    rfl
  | _ => rfl

/-- Two operations that read the same arguments and decide at the same visits, if the answers of
one function are views of those of the other, make the same visits. -/
theorem Course.map {invoke other : Invoke Closure} {function viewed : Value}
    {operation : Traverse} {list : ListRef} {indices : List ℕ} {carried : Value}
    {world last : World Closure} {visits : List (Visit Closure)} {ending : Conclusion}
    (course : Course invoke function operation list indices carried world visits ending last)
    (further : Traverse) (view : Value → Value) (Good : World Closure → Prop)
    (calls : ∀ before, Good before → ∀ arguments,
      other viewed (further.context list) arguments before =
        ((invoke function (operation.context list) arguments before).1.map view,
          (invoke function (operation.context list) arguments before).2))
    (stays : ∀ before, Good before → ∀ arguments,
      Good (invoke function (operation.context list) arguments before).2)
    (passes : ∀ heap carried carriedToo index,
      further.passed heap list carriedToo index = operation.passed heap list carried index)
    (decides : ∀ answer, further.decides (view answer) = operation.decides answer)
    (good : Good world) (carriedToo : Value) :
    Course other viewed further list indices carriedToo world (visits.map (.map view)) ending
      last := by
  have called {arguments : List Value} {before after : World Closure} {outcome : Outcome Value}
      (isGood : Good before)
      (same : invoke function (operation.context list) arguments before = (outcome, after)) :
      other viewed (further.context list) arguments before = (outcome.map view, after) ∧
        Good after := by
    have stay := stays before isGood arguments
    rw [calls before isGood, same]
    rw [same] at stay
    exact ⟨rfl, stay⟩
  induction course generalizing carriedToo with
  | finished => exact .finished
  | answered passed answers goesOn rest inductionHypothesis =>
    obtain ⟨answersToo, goodAfter⟩ := called good answers
    exact .answered ((passes ..).trans passed) answersToo ((decides _).trans goesOn)
      (inductionHypothesis goodAfter _)
  | decided passed answers isDecided =>
    exact .decided ((passes ..).trans passed) (called good answers).1 ((decides _).trans isDecided)
  | failed passed fails => exact .failed ((passes ..).trans passed) (called good fails).1
  | exhausted passed exhausts =>
    exact .exhausted ((passes ..).trans passed) (called good exhausts).1
  | unread fails => exact .unread ((passes ..).trans fails)

/-- What decides is one of the indices. -/
theorem Course.position_mem {invoke : Invoke Closure} {function : Value} {operation : Traverse}
    {list : ListRef} {indices : List ℕ} {carried : Value} {world last : World Closure}
    {visits : List (Visit Closure)} {ending : Conclusion} {index : ℕ}
    (course : Course invoke function operation list indices carried world visits ending last)
    (found : ending.position visits = some index) : index ∈ indices := by
  cases ending with
  | decided =>
    obtain ⟨visit, isLast, rfl⟩ := Option.map_eq_some_iff.mp found
    exact course.indices_prefix.subset (List.mem_map_of_mem (List.mem_of_getLast? isLast))
  | _ => cases found

/-! ### Searches by a predicate -/

namespace Conclusion

theorem outcome_map {α β : Type} (view : α → β) (result : α) (ending : Conclusion) :
    (ending.outcome result).map view = ending.outcome (view result) := by
  cases ending <;> rfl

/-- The result of a search. -/
theorem conclude_search {heap : Heap} {list : ListRef} {visits : List (Visit Closure)}
    {operation : Traverse} {ending : Conclusion} {answer : Value}
    (yields : operation.result heap list visits ending = Action.done answer)
    (last : World Closure) :
    operation.conclude heap list visits ending last = (ending.outcome answer, last) := by
  cases ending with
  | failed failure => rfl
  | exhausted => rfl
  | _ => exact congrFun yields last

end Conclusion

theorem Traverse.Accounts.run_eq {machine : Machine Closure} {operation : Traverse}
    {list : ListRef} {callback function : Value} {world start last : World Closure}
    {visits : List (Visit Closure)} {ending : Conclusion}
    (accounts : operation.Accounts machine list callback function world start)
    (course : Course machine.invoke function operation list
      (operation.order (world.heap.readList list).size) operation.initial start visits ending
      last) :
    operation.run machine (.list list) callback world =
      operation.conclude start.heap list visits ending last := by
  obtain ⟨_, _, _, same, runs⟩ := accounts
  obtain ⟨rfl, rfl, rfl⟩ := course.unique same
  exact runs

namespace Traverse

/-- Asking whether all elements pass and whether some element passes the negation makes the same
calls of the function, and the answers are opposite unless both fail in one way. -/
def EveryOpposesAny (depth : ℕ) (list : ListRef) (context : Option Value)
    (function negation : Value) (world : World SlotClosure) : Prop :=
  ∃ visits ending last, ∃ reply : Outcome Bool,
    Course (slotEngine.machineWithin depth).invoke function (.every context) list
      (List.range (world.heap.readList list).size) .undefined world visits ending last ∧
    Course (slotEngine.machineWithin (depth + 1)).invoke negation (.any context) list
      (List.range (world.heap.readList list).size) .undefined world
      (visits.map (.map Value.opposite)) ending last ∧
    (every context).run (slotEngine.machineWithin depth) (.list list) function world =
      (reply.map fun holds => .boolean holds, last) ∧
    (any context).run (slotEngine.machineWithin (depth + 1)) (.list list) negation world =
      (reply.map fun holds => .boolean (!holds), last)

/-- Asking whether some element passes and looking for the first one makes the same calls of the
function. Some element passes just if the position is not minus one, unless both fail in one way. -/
def AnyMatchesFind (machine : Machine Closure) (list : ListRef) (context : Option Value)
    (function : Value) (world : World Closure) : Prop :=
  ∃ visits ending last, ∃ reply : Outcome Int64,
    Course machine.invoke function (.any context) list
      (List.range (world.heap.readList list).size) .undefined world visits ending last ∧
    Course machine.invoke function (.find context false) list
      (List.range (world.heap.readList list).size) .undefined world visits ending last ∧
    (any context).run machine (.list list) function world =
      (reply.map fun position => .boolean (position != -1), last) ∧
    (find context false).run machine (.list list) function world =
      (reply.map fun position => .number (.integer position), last)

theorem everyOpposesAny {world : World SlotClosure} {negation : Value} {function : FunctionRef}
    (negates : world.heap.Negates negation (.function function)) (depth : ℕ) (list : ListRef)
    (context : Option Value) :
    EveryOpposesAny depth list context (.function function) negation world := by
  have accounts : (every context).Accounts (slotEngine.machineWithin depth) list
      (.function function) (.function function) world world := every_accounts rfl context
  obtain ⟨visits, ending, last, course, runs⟩ := accounts
  have courseToo : Course (slotEngine.machineWithin (depth + 1)).invoke negation (.any context) list
      (List.range (world.heap.readList list).size) .undefined world
      (visits.map (.map Value.opposite)) ending last :=
    course.map (.any context) Value.opposite (·.heap.Negates negation (.function function))
      (fun before isNegation arguments => isNegation.invoke slotEngine depth _ arguments)
      (fun before isNegation arguments =>
        isNegation.mono (slotEngine_functionsStay depth _ _ arguments before))
      (fun _ _ _ _ => rfl) (fun _ => rfl) negates .undefined
  have made : (slotEngine.machineWithin (depth + 1)).toFunction negation world =
      (.value negation, world) := by
    obtain ⟨cell, rfl, -⟩ := negates
    rfl
  have runsToo := (any_accounts made context).run_eq courseToo
  refine ⟨visits, ending, last, ending.outcome (ending.position visits).isNone, course, courseToo,
    ?_, ?_⟩
  · rw [runs, Conclusion.conclude_search rfl, Conclusion.outcome_map]
  · rw [runsToo, Conclusion.conclude_search rfl, Conclusion.outcome_map, Conclusion.position_map,
      Option.not_isNone]

theorem anyMatchesFind (machine : Machine Closure) (list : ListRef) (function : FunctionRef)
    (context : Option Value) (world : World Closure)
    (short : (world.heap.readList list).size ≤ Int64.maxValue.toInt) :
    AnyMatchesFind machine list context (.function function) world := by
  have made : machine.toFunction (.function function) world =
      (.value (.function function), world) := rfl
  have accounts : (any context).Accounts machine list (.function function) (.function function)
      world world := any_accounts made context
  obtain ⟨visits, ending, last, course, runs⟩ := accounts
  have courseToo : Course machine.invoke (.function function) (.find context false) list
      (List.range (world.heap.readList list).size) .undefined world (visits.map (.map id)) ending
      last :=
    course.map (.find context false) id (fun _ => True)
      (fun before _ arguments => by rw [Outcome.map_id]; rfl) (fun _ _ _ => trivial)
      (fun _ _ _ _ => rfl) (fun _ => rfl) trivial .undefined
  rw [Visit.map_map_id] at courseToo
  have runsToo := (find_accounts made context false).run_eq courseToo
  refine ⟨visits, ending, last,
    ending.outcome (Word.ofPosition? (ending.position visits)), course, courseToo, ?_, ?_⟩
  · have isHit : (ending.position visits).isSome =
        (Word.ofPosition? (ending.position visits) != -1) := by
      cases found : ending.position visits with
      | none => rfl
      | some index =>
        have bound := List.mem_range.mp (course.position_mem found)
        exact (bne_iff_ne.mpr (Word.ofPosition?_ne (by omega))).symm
    rw [runs, Conclusion.conclude_search rfl, Conclusion.outcome_map, isHit]
  · rw [runsToo, Conclusion.conclude_search rfl, Conclusion.outcome_map,
      Sequence.positionAnswer_eq]

/-! ### Callbacks -/

/-- A callback does what the function does that it becomes. -/
theorem run_made {machine : Machine Closure} {list : ListRef}
    {callback function : Value} {world start : World Closure}
    (made : machine.toFunction callback world = (.value function, start))
    (again : machine.toFunction function start = (.value function, start))
    (kept : start.heap.readList list = world.heap.readList list) (operation : Traverse) :
    operation.run machine (.list list) callback world =
      operation.run machine (.list list) function start := by
  have begins (name : String) (context : Option Value) :
      Sequence.begin machine name (.list list) callback context world =
        Sequence.begin machine name (.list list) function context start := by
    rw [Sequence.begin_value made, Sequence.begin_value again, kept]
  cases operation with
  | forEach context => exact Action.bind_congr (Action.bind_congr (begins ..) _) _
  | map context => exact Action.bind_congr (begins ..) _
  | filter context => exact Action.bind_congr (begins ..) _
  | reduce initial => exact Action.bind_congr (begins ..) _
  | every context => exact Action.bind_congr (Action.bind_congr (begins ..) _) _
  | any context => exact Action.bind_congr (Action.bind_congr (begins ..) _) _
  | find context backwards => exact Action.bind_congr (Action.bind_congr (begins ..) _) _
  | zipWith other context => exact Action.bind_congr (begins ..) _
  | uniq context => exact Action.bind_congr (begins ..) _

end Traverse

theorem Definition.compile_isFunction {definition : Definition} {world start : World SlotClosure}
    {function : Value} (made : definition.compile world = (.value function, start)) :
    ∃ cell, function = .function cell := by
  rw [Definition.compile] at made
  split at made
  · cases made
    exact ⟨_, rfl⟩
  · cases made

theorem Machine.toFunction_isFunction {invoke : Invoke SlotClosure} {callback function : Value}
    {world start : World SlotClosure}
    (made : (Machine.calling invoke).toFunction callback world = (.value function, start)) :
    ∃ cell, function = .function cell := by
  cases callback with
  | function cell =>
    cases made
    exact ⟨cell, rfl⟩
  | string code =>
    have compiled : (calling invoke).toFunction (.string code) =
        (calling invoke).compile code true := rfl
    rw [compiled, Machine.compile] at made
    cases parsed : Form.parse code true with
    | error error =>
      rw [parsed] at made
      cases made
    | ok form =>
      rw [parsed] at made
      exact Definition.compile_isFunction made
  | _ =>
    rw [toFunction_refused _ (fun _ => Value.noConfusion) (fun _ => Value.noConfusion)] at made
    rcases Action.readIf_bind_cases _ _ _ world with same | same
    · cases same.symm.trans made
    · cases same.symm.trans made

/-- A callback is refused by all operations in one way, or none of them ever gets as far as to
refuse it, or all of them do with it what they do with the function that it becomes. -/
theorem Traverse.run_callback (depth : ℕ) (list : ListRef) (callback : Value)
    (world : World SlotClosure) :
    (∃ failure, ∀ operation : Traverse,
      operation.run (slotEngine.machineWithin depth) (.list list) callback world =
        (.failure failure, world)) ∨
      (callback.hasLiteral world.heap = false ∧ ∀ operation : Traverse,
        operation.run (slotEngine.machineWithin depth) (.list list) callback world =
          (.exhausted, world)) ∨
      ∃ cell start, world.heap.Grows start.heap ∧ ∀ operation : Traverse,
        operation.run (slotEngine.machineWithin depth) (.list list) callback world =
          operation.run (slotEngine.machineWithin depth) (.list list) (.function cell) start := by
  rw [Engine.machineWithin_calling]
  rcases Machine.toFunction_cases (slotEngine.machineWithin depth).invoke callback world with
    ⟨failure, fails, -⟩ | ⟨noLiteral, endless⟩ | ⟨function, start, made, grows⟩
  · exact .inl ⟨failure, fun operation => operation.run_failure fails⟩
  · exact .inr (.inl ⟨noLiteral, fun operation => operation.run_exhausted endless⟩)
  · obtain ⟨cell, rfl⟩ := Machine.toFunction_isFunction made
    have kept : start.heap.readList list = world.heap.readList list := by
      rw [Heap.readList, Heap.readList, grows.lists]
    exact .inr (.inr ⟨cell, start, grows, run_made made rfl kept⟩)

end Shorthand
