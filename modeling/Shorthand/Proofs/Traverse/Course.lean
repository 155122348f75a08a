/-
This file describes what happens when an operation calls a function for the elements of a list.

Each call is a visit of an index. Visits follow each other without anything in between: a visit
begins in the world that the one before it has left, and its arguments are read there. What a
function does to the world is left open. A course ends when all indices have been visited, at
the first answer that decides, or at the first failure.
-/

import Shorthand.Call
import Shorthand.Proofs.Alike.Basic

namespace Shorthand

variable {Closure : Type}

/-- The outcome of a computation that may fail. -/
def Outcome.ofExcept {α : Type} : Except Failure α → Outcome α
  | .ok result => .value result
  | .error reason => .failure reason

/-- A result made of the value of an outcome. -/
def Outcome.map {α β : Type} (view : α → β) : Outcome α → Outcome β
  | .value result => .value (view result)
  | .failure reason => .failure reason
  | .exhausted => .exhausted

/-- An operation that calls a function for the elements of a list, with its other operands. -/
inductive Traverse where
  | forEach (context : Option Value)
  | map (context : Option Value)
  | filter (context : Option Value)
  | reduce (initial : Value)
  | every (context : Option Value)
  | any (context : Option Value)
  | find (context : Option Value) (backwards : Bool)
  | zipWith (other : Value) (context : Option Value)
  | uniq (context : Option Value)

namespace Traverse

/-- Runs the operation on a list with a function. Without a position a search answers minus
one. -/
def run (machine : Machine Closure) (list callback : Value) : Traverse → Action Closure Value
  | forEach context => do
    Sequence.forEach machine list callback context
    return .undefined
  | map context => Sequence.map machine list callback context
  | filter context => Sequence.filter machine list callback context
  | reduce initial => Sequence.reduce machine list callback initial
  | every context => return .boolean (← Sequence.every machine list callback context)
  | any context => return .boolean (← Sequence.any machine list callback context)
  | find context backwards =>
    return Method.positionAnswer (← Sequence.find machine list callback context backwards)
  | zipWith other context => Sequence.zipWith machine list other callback context
  | uniq context => Sequence.uniq machine list (some callback) context

/-! ### What the function is called with -/

/-- The context of all calls. -/
def context (list : ListRef) : Traverse → Value
  | reduce _ => .undefined
  | zipWith _ context => context.getD (.list list)
  | forEach context | map context | filter context | every context | any context
  | find context _ | uniq context => context.getD .undefined

/-- The indices of the visits in order, if none of them is the last one. -/
def order (length : Nat) : Traverse → List Nat
  | find _ true => (List.range length).reverse
  | uniq _ => (List.range length).tail
  | _ => List.range length

/-- The property of a value with an index as its key. Missing values have none. -/
def propertyAt (heap : Heap) (key : Value) : Value → Except Failure Value
  | .undefined => .error (.type (.unreadableProperty (key.rawText heap) "undefined"))
  | .null => .error (.type (.unreadableProperty (key.rawText heap) "null"))
  | .map cell => .ok (((heap.readMap cell).get? (key.rawText heap)).getD .undefined)
  | .string text =>
    match key.index?.bind (text.toList[·]?) with
    | some character => .ok (.string character.toString)
    | none => .ok .undefined
  | _ => .ok .undefined

/-- What the second list of a pairwise operation has at an index. It may be any value that has
properties. -/
def paired (heap : Heap) (index : Nat) : Value → Except Failure Value
  | .list cell => .ok (heap.elementAt cell index)
  | other => propertyAt heap (.ofInt index) other

/-- The arguments for an index, read from the heap right before the call. Only a reduction looks
at what is carried from the call before. -/
def passed (heap : Heap) (list : ListRef) (carried : Value) (index : Nat) :
    Traverse → Except Failure (List Value)
  | reduce _ => .ok [carried, heap.elementAt list index]
  | zipWith other _ =>
    (paired heap index other).map fun right => [heap.elementAt list index, right]
  | uniq _ => .ok [heap.elementAt list (index - 1), heap.elementAt list index]
  | _ => .ok [heap.elementAt list index, .ofInt index]

/-- Whether an answer makes further visits unnecessary. -/
def decides (answer : Value) : Traverse → Bool
  | every _ => !answer.truthy
  | any _ | find _ _ => answer.truthy
  | _ => false

/-- The value in front of the first answer. -/
def initial : Traverse → Value
  | reduce initial => initial
  | _ => .undefined

end Traverse

/-! ### Visits -/

/-- A call of the function for an index. -/
structure Visit (Closure : Type) where
  index : Nat
  arguments : List Value
  before : World Closure
  outcome : Outcome Value
  after : World Closure

/-- The answer of a visit that has one. -/
def Visit.answer (visit : Visit Closure) : Value :=
  match visit.outcome with
  | .value value => value
  | _ => .undefined

/-- How the visits end. -/
inductive Conclusion where
  | finished
  | decided
  | failed (failure : Failure)
  | exhausted

/-- The outcome of an operation whose visits have ended, with its result if they did not fail. -/
def Conclusion.outcome {α : Type} (result : α) : Conclusion → Outcome α
  | finished | decided => .value result
  | failed failure => .failure failure
  | exhausted => .exhausted

/-- The index of the visit that decides. -/
def Conclusion.position (visits : List (Visit Closure)) : Conclusion → Option Nat
  | decided => visits.getLast?.map (·.index)
  | _ => none

section

variable (invoke : Invoke Closure) (function : Value) (operation : Traverse) (list : ListRef)

/-- The visits of indices from a world on, how they end and the world that they leave. -/
inductive Course : List Nat → Value → World Closure → List (Visit Closure) → Conclusion →
    World Closure → Prop where
  | finished {carried : Value} {world : World Closure} :
    Course [] carried world [] .finished world
  | answered {index : Nat} {rest : List Nat} {carried answer : Value} {arguments : List Value}
      {world after last : World Closure} {visits : List (Visit Closure)} {ending : Conclusion}
    (passes : operation.passed world.heap list carried index = .ok arguments)
    (answers : invoke function (operation.context list) arguments world = (.value answer, after))
    (goesOn : operation.decides answer = false)
    (further : Course rest answer after visits ending last) :
    Course (index :: rest) carried world
      (⟨index, arguments, world, .value answer, after⟩ :: visits) ending last
  | decided {index : Nat} {rest : List Nat} {carried answer : Value} {arguments : List Value}
      {world after : World Closure}
    (passes : operation.passed world.heap list carried index = .ok arguments)
    (answers : invoke function (operation.context list) arguments world = (.value answer, after))
    (decides : operation.decides answer = true) :
    Course (index :: rest) carried world [⟨index, arguments, world, .value answer, after⟩]
      .decided after
  | failed {index : Nat} {rest : List Nat} {carried : Value} {arguments : List Value}
      {world after : World Closure} {failure : Failure}
    (passes : operation.passed world.heap list carried index = .ok arguments)
    (fails : invoke function (operation.context list) arguments world =
      (.failure failure, after)) :
    Course (index :: rest) carried world [⟨index, arguments, world, .failure failure, after⟩]
      (.failed failure) after
  | exhausted {index : Nat} {rest : List Nat} {carried : Value} {arguments : List Value}
      {world after : World Closure}
    (passes : operation.passed world.heap list carried index = .ok arguments)
    (exhausts : invoke function (operation.context list) arguments world = (.exhausted, after)) :
    Course (index :: rest) carried world [⟨index, arguments, world, .exhausted, after⟩]
      .exhausted after
  /-- The arguments cannot be read, so the function is not called. -/
  | unread {index : Nat} {rest : List Nat} {carried : Value} {world : World Closure}
      {failure : Failure}
    (fails : operation.passed world.heap list carried index = .error failure) :
    Course (index :: rest) carried world [] (.failed failure) world

end

namespace Course

variable {invoke : Invoke Closure} {function : Value} {operation : Traverse} {list : ListRef}
  {indices : List Nat} {carried : Value} {world last : World Closure}
  {visits : List (Visit Closure)} {ending : Conclusion}

/-- The indices are visited in order, and all of them unless the visits end before. -/
theorem indices_prefix
    (course : Course invoke function operation list indices carried world visits ending last) :
    visits.map (·.index) <+: indices := by
  induction course with
  | finished => exact List.prefix_refl _
  | answered passes answers goesOn further inductionHypothesis =>
    exact (List.prefix_cons_inj _).mpr inductionHypothesis
  | decided passes answers decides => exact ⟨_, rfl⟩
  | failed passes fails => exact ⟨_, rfl⟩
  | exhausted passes exhausts => exact ⟨_, rfl⟩
  | unread fails => exact List.nil_prefix

theorem indices_eq
    (course : Course invoke function operation list indices carried world visits ending last)
    (isFinished : ending = .finished) : visits.map (·.index) = indices := by
  induction course with
  | finished => rfl
  | answered passes answers goesOn further inductionHypothesis =>
    exact congrArg (List.cons _) (inductionHypothesis isFinished)
  | decided passes answers decides => cases isFinished
  | failed passes fails => cases isFinished
  | exhausted passes exhausts => cases isFinished
  | unread fails => cases isFinished

/-- What is called and what it does determine the visits. -/
theorem unique {visitsToo : List (Visit Closure)} {endingToo : Conclusion}
    {lastToo : World Closure}
    (course : Course invoke function operation list indices carried world visits ending last)
    (other : Course invoke function operation list indices carried world visitsToo endingToo
      lastToo) : visitsToo = visits ∧ endingToo = ending ∧ lastToo = last := by
  induction course generalizing visitsToo with
  | finished =>
    cases other
    exact ⟨rfl, rfl, rfl⟩
  | answered passes answers goesOn further inductionHypothesis => cases other <;> grind
  | decided passes answers decides => cases other <;> grind
  | failed passes fails => cases other <;> grind
  | exhausted passes exhausts => cases other <;> grind
  | unread fails => cases other <;> grind

/-- Only a visit decides. -/
theorem ne_nil_of_decided
    (course : Course invoke function operation list indices carried world visits ending last)
    (isDecided : ending = .decided) : visits ≠ [] := by
  cases course with
  | finished => cases isDecided
  | unread fails => cases isDecided
  | _ => exact List.cons_ne_nil _ _

end Course

/-! ### Loops -/

/-- What a function of the world yields. -/
def Action.observe {α : Type} (view : World Closure → α) : Action Closure α :=
  fun world => (.value (view world), world)

section

variable {invoke : Invoke Closure} {function : Value} {operation : Traverse} {list : ListRef}

/-- What is carried from earlier visits. -/
def Traverse.carried (operation : Traverse) (earlier : List (Visit Closure)) : Value :=
  (earlier.getLast?.map Visit.answer).getD operation.initial

theorem Traverse.carried_concat (earlier : List (Visit Closure)) (visit : Visit Closure) :
    operation.carried (earlier ++ [visit]) = visit.answer := by
  rw [carried, List.getLast?_append_cons]
  rfl

/-- A loop whose state is a view of the visits so far, if each step makes one visit. -/
theorem fold_course {σ : Type} {step : σ → Nat → Action Closure σ}
    {view : List (Visit Closure) → σ} (undecided : ∀ answer, operation.decides answer = false)
    (indices : List Nat)
    (reads : ∀ earlier, ∀ index ∈ indices, ∀ world arguments,
      operation.passed world.heap list (operation.carried earlier) index = .ok arguments →
      step (view earlier) index world =
        (invoke function (operation.context list) arguments >>= fun answer =>
          Action.observe fun after =>
            view (earlier ++ [⟨index, arguments, world, .value answer, after⟩])) world)
    (unread : ∀ earlier index world failure,
      operation.passed world.heap list (operation.carried earlier) index = .error failure →
      step (view earlier) index world = (.failure failure, world))
    (earlier : List (Visit Closure)) (world : World Closure) :
    ∃ visits ending last, Course invoke function operation list indices
        (operation.carried earlier) world visits ending last ∧
      Action.fold step indices (view earlier) world =
        (ending.outcome (view (earlier ++ visits)), last) := by
  induction indices generalizing earlier world with
  | nil => exact ⟨[], .finished, world, .finished, by rw [List.append_nil]; rfl⟩
  | cons index rest inductionHypothesis =>
    rw [Action.fold]
    cases passes : operation.passed world.heap list (operation.carried earlier) index with
    | error failure =>
      rw [unread earlier index world failure passes]
      exact ⟨[], .failed failure, world, .unread passes, rfl⟩
    | ok arguments =>
      rw [reads earlier index List.mem_cons_self world arguments passes]
      cases called : invoke function (operation.context list) arguments world with
      | mk outcome after =>
        cases outcome with
        | failure failure =>
          rw [Action.bind_failure called]
          exact ⟨_, .failed failure, after, .failed passes called, rfl⟩
        | exhausted =>
          rw [Action.bind_exhausted called]
          exact ⟨_, .exhausted, after, .exhausted passes called, rfl⟩
        | value answer =>
          rw [Action.bind_value called]
          obtain ⟨visits, ending, last, course, same⟩ := inductionHypothesis
            (fun earlier index member => reads earlier index (List.mem_cons_of_mem _ member))
            (earlier ++ [⟨index, arguments, world, .value answer, after⟩]) after
          rw [Traverse.carried_concat] at course
          rw [List.append_assoc] at same
          exact ⟨_, ending, last, .answered passes called (undecided answer) course, same⟩

/-- A search whose test makes one visit. -/
theorem first?_course {test : Nat → Action Closure Bool}
    {arguments : World Closure → Nat → List Value}
    (passes : ∀ carried index (world : World Closure),
      operation.passed world.heap list carried index = .ok (arguments world index))
    (tests : ∀ index world, test index world =
      (invoke function (operation.context list) (arguments world index) >>= fun answer =>
        Action.done (operation.decides answer)) world)
    (indices : List Nat) (carried : Value) (world : World Closure) :
    ∃ visits ending last,
      Course invoke function operation list indices carried world visits ending last ∧
      Action.first? test indices world = (ending.outcome (ending.position visits), last) := by
  induction indices generalizing carried world with
  | nil => exact ⟨[], .finished, world, .finished, rfl⟩
  | cons index rest inductionHypothesis =>
    rw [Action.first?, tests]
    cases called : invoke function (operation.context list) (arguments world index) world with
    | mk outcome after =>
      cases outcome with
      | failure failure =>
        rw [Action.bind_failure called]
        exact ⟨_, .failed failure, after, .failed (passes ..) called, rfl⟩
      | exhausted =>
        rw [Action.bind_exhausted called]
        exact ⟨_, .exhausted, after, .exhausted (passes ..) called, rfl⟩
      | value answer =>
        rw [Action.bind_value called]
        cases decides : operation.decides answer with
        | true => exact ⟨_, .decided, after, .decided (passes ..) called decides, rfl⟩
        | false =>
          obtain ⟨visits, ending, last, course, same⟩ := inductionHypothesis answer after
          refine ⟨_, ending, last, .answered (passes ..) called decides course, ?_⟩
          show Action.first? test rest after = _
          rw [same]
          cases ending with
          | decided =>
            obtain ⟨visit, others, rfl⟩ := List.exists_cons_of_ne_nil (course.ne_nil_of_decided rfl)
            rfl
          | _ => rfl

end

end Shorthand
