/-
This file shows what the operations on the elements of a list make of the answers for them.

Every operation is a loop whose state is a view of the visits so far, or a search for the first
answer that decides. Its result is therefore told by the visits, and nothing but the visits and
the list of the result changes the world.
-/

import Shorthand.Proofs.Method.Dispatch
import Shorthand.Proofs.Traverse.Callback
import Shorthand.Proofs.Traverse.Course

namespace Shorthand

variable {Closure : Type}

namespace Traverse

/-- The element that a visit passes first, if the answer keeps it. -/
def keeps (visit : Visit Closure) : Option Value :=
  if visit.answer.truthy then visit.arguments.head? else none

/-- The element that a visit passes last, unless the answer drops it. -/
def retains (visit : Visit Closure) : Option Value :=
  if visit.answer.truthy then none else visit.arguments.getLast?

theorem keeps_concat (earlier : List (Visit Closure)) (index : Nat) (value answer : Value)
    (others : List Value) (before after : World Closure) :
    ((earlier ++ [Visit.mk index (value :: others) before (.value answer) after]).filterMap
        keeps).toArray =
      if answer.truthy then (earlier.filterMap keeps).toArray.push value
      else (earlier.filterMap keeps).toArray := by
  rw [List.filterMap_append, List.filterMap_cons, keeps, Visit.answer]
  cases answer.truthy <;> simp

theorem retains_concat (kept : List Value) (earlier : List (Visit Closure)) (index : Nat)
    (first value answer : Value) (before after : World Closure) :
    (kept ++ (earlier ++ [Visit.mk index [first, value] before (.value answer) after]).filterMap
        retains).toArray =
      if answer.truthy then (kept ++ earlier.filterMap retains).toArray
      else (kept ++ earlier.filterMap retains).toArray.push value := by
  rw [List.filterMap_append, List.filterMap_cons, retains, Visit.answer]
  cases answer.truthy <;> simp

/-- The first element of a list that has one. -/
def firstOf (heap : Heap) (list : ListRef) : List Value :=
  if (heap.readList list).size = 0 then [] else [heap.elementAt list 0]

/-- The result of an operation whose visits have not failed. New lists are made after the last
visit. The heap is that in front of the first visit. -/
def result (heap : Heap) (list : ListRef) (visits : List (Visit Closure)) (ending : Conclusion) :
    Traverse → Action Closure Value
  | forEach _ => Action.done .undefined
  | map _ | zipWith _ _ => Action.newList (visits.map Visit.answer).toArray
  | filter _ => Action.newList (visits.filterMap keeps).toArray
  | reduce initial => Action.done ((visits.getLast?.map Visit.answer).getD initial)
  | every _ => Action.done (.boolean (ending.position visits).isNone)
  | any _ => Action.done (.boolean (ending.position visits).isSome)
  | find _ _ => Action.done (Method.positionAnswer (ending.position visits))
  | uniq _ => Action.newList (firstOf heap list ++ visits.filterMap retains).toArray

/-- What an operation comes to after its visits. -/
def conclude (heap : Heap) (list : ListRef) (visits : List (Visit Closure)) (ending : Conclusion)
    (operation : Traverse) : Action Closure Value :=
  match ending with
  | .failed failure => Action.fail failure
  | .exhausted => Action.exhausted
  | _ => operation.result heap list visits ending

end Traverse

/-! ### The beginning -/

namespace Sequence

variable {machine : Machine Closure} {list : ListRef} {callback function : Value}
  {world start : World Closure}

theorem begin_list (operation : String) (list : ListRef) (callback : Value)
    (context : Option Value) (world : World Closure) :
    Sequence.begin machine operation (.list list) callback context world =
      (machine.toFunction callback >>= fun function => Action.done
        ⟨list, (world.heap.readList list).size, function, context.getD .undefined⟩) world := rfl

theorem begin_value (made : machine.toFunction callback world = (.value function, start))
    (operation : String) (context : Option Value) :
    Sequence.begin machine operation (.list list) callback context world =
      (.value ⟨list, (world.heap.readList list).size, function, context.getD .undefined⟩,
        start) := by
  rw [begin_list, Action.bind_value made]
  rfl

/-- Whatever comes after the beginning comes after making the function. -/
theorem begin_bind {α : Type} (operation : String) (context : Option Value)
    (next : Sequence.Traversal → Action Closure α) :
    ∃ further : Value → Action Closure α,
      (Sequence.begin machine operation (.list list) callback context >>= next) world =
        (machine.toFunction callback >>= further) world := by
  refine ⟨fun function => Action.done
    ⟨list, (world.heap.readList list).size, function, context.getD .undefined⟩ >>= next, ?_⟩
  rw [Action.bind_congr (begin_list ..) next, Action.bind_bind]

end Sequence

/-! ### The operations -/

/-- Visits that account for what an operation does once its function is made. -/
def Traverse.Accounts (operation : Traverse) (machine : Machine Closure) (list : ListRef)
    (callback function : Value) (world start : World Closure) : Prop :=
  ∃ visits ending last,
    Course machine.invoke function operation list
      (operation.order (world.heap.readList list).size) operation.initial start visits ending
      last ∧
    operation.run machine (.list list) callback world =
      operation.conclude start.heap list visits ending last

namespace Traverse

variable {machine : Machine Closure} {operation : Traverse} {list : ListRef}
  {callback function : Value} {world start : World Closure}

/-- An operation that is a loop whose state is a view of the visits so far. -/
theorem accounts_of_fold {σ : Type} {step : σ → Nat → Action Closure σ}
    {finish : σ → Action Closure Value} (view : List (Visit Closure) → σ)
    (runs : operation.run machine (.list list) callback world =
      (Action.fold step (operation.order (world.heap.readList list).size) (view []) >>= finish)
        start)
    (undecided : ∀ answer, operation.decides answer = false)
    (reads : ∀ earlier, ∀ index ∈ operation.order (world.heap.readList list).size,
      ∀ before arguments,
        operation.passed before.heap list (operation.carried earlier) index = .ok arguments →
      step (view earlier) index before =
        (machine.invoke function (operation.context list) arguments >>= fun answer =>
          Action.observe fun after =>
            view (earlier ++ [⟨index, arguments, before, .value answer, after⟩])) before)
    (unread : ∀ earlier index before failure,
      operation.passed before.heap list (operation.carried earlier) index = .error failure →
      step (view earlier) index before = (.failure failure, before))
    (concludes : ∀ visits ending,
      finish (view visits) = operation.result start.heap list visits ending) :
    operation.Accounts machine list callback function world start := by
  obtain ⟨visits, ending, last, course, same⟩ := fold_course undecided
    (operation.order (world.heap.readList list).size) reads unread [] start
  refine ⟨visits, ending, last, course, ?_⟩
  rw [runs]
  cases ending with
  | finished => rw [Action.bind_value same, List.nil_append, concludes visits .finished]; rfl
  | decided => rw [Action.bind_value same, List.nil_append, concludes visits .decided]; rfl
  | failed failure => rw [Action.bind_failure same]; rfl
  | exhausted => rw [Action.bind_exhausted same]; rfl

/-- An operation that searches for the first answer that decides. -/
theorem accounts_of_search {test : Nat → Action Closure Bool}
    {finish : Option Nat → Action Closure Value}
    (runs : operation.run machine (.list list) callback world =
      (Action.first? test (operation.order (world.heap.readList list).size) >>= finish) start)
    (passes : ∀ carried index (before : World Closure),
      operation.passed before.heap list carried index =
        .ok [before.heap.elementAt list index, .ofInt index])
    (tests : ∀ index before, test index before =
      (machine.invoke function (operation.context list)
        [before.heap.elementAt list index, .ofInt index] >>= fun answer =>
          Action.done (operation.decides answer)) before)
    (concludes : ∀ visits ending,
      finish (ending.position visits) = operation.result start.heap list visits ending) :
    operation.Accounts machine list callback function world start := by
  obtain ⟨visits, ending, last, course, same⟩ := first?_course passes tests
    (operation.order (world.heap.readList list).size) operation.initial start
  refine ⟨visits, ending, last, course, ?_⟩
  rw [runs]
  cases ending with
  | finished => rw [Action.bind_value same, concludes visits .finished]; rfl
  | decided => rw [Action.bind_value same, concludes visits .decided]; rfl
  | failed failure => rw [Action.bind_failure same]; rfl
  | exhausted => rw [Action.bind_exhausted same]; rfl

theorem forEach_accounts (made : machine.toFunction callback world = (.value function, start))
    (context : Option Value) :
    (forEach context).Accounts machine list callback function world start := by
  apply accounts_of_fold (fun _ => ())
  case runs =>
    rw [run, Sequence.forEach, Action.bind_bind, Action.bind_value (Sequence.begin_value made ..)]
    rfl
  case undecided => exact fun _ => rfl
  case reads =>
    intro earlier index member before arguments passes
    cases passes
    rfl
  case unread =>
    intro earlier index before failure fails
    cases fails
  case concludes => exact fun _ _ => rfl

theorem map_accounts (made : machine.toFunction callback world = (.value function, start))
    (context : Option Value) :
    (map context).Accounts machine list callback function world start := by
  apply accounts_of_fold (fun visits => (visits.map Visit.answer).toArray)
  case runs =>
    rw [run, Sequence.map, Action.bind_value (Sequence.begin_value made ..)]
    rfl
  case undecided => exact fun _ => rfl
  case reads =>
    intro earlier index member before arguments passes
    cases passes
    simp only [List.push_toArray, List.map_append, List.map_cons, List.map_nil]
    rfl
  case unread =>
    intro earlier index before failure fails
    cases fails
  case concludes => exact fun _ _ => rfl

theorem filter_accounts (made : machine.toFunction callback world = (.value function, start))
    (context : Option Value) :
    (filter context).Accounts machine list callback function world start := by
  apply accounts_of_fold (fun visits => (visits.filterMap keeps).toArray)
  case runs =>
    rw [run, Sequence.filter, Action.bind_value (Sequence.begin_value made ..)]
    rfl
  case undecided => exact fun _ => rfl
  case reads =>
    intro earlier index member before arguments passes
    cases passes
    simp only [keeps_concat]
    rfl
  case unread =>
    intro earlier index before failure fails
    cases fails
  case concludes => exact fun _ _ => rfl

theorem reduce_accounts (made : machine.toFunction callback world = (.value function, start))
    (initial : Value) :
    (reduce initial).Accounts machine list callback function world start := by
  apply accounts_of_fold (reduce initial).carried
  case runs =>
    rw [run, Sequence.reduce, Action.bind_value (Sequence.begin_value made ..),
      ← Action.bind_done (Action.fold _ _ _)]
    rfl
  case undecided => exact fun _ => rfl
  case reads =>
    intro earlier index member before arguments passes
    cases passes
    simp only [carried_concat]
    exact congrFun (Action.bind_done (machine.invoke function .undefined _)).symm before
  case unread =>
    intro earlier index before failure fails
    cases fails
  case concludes => exact fun _ _ => rfl

theorem every_accounts (made : machine.toFunction callback world = (.value function, start))
    (context : Option Value) :
    (every context).Accounts machine list callback function world start := by
  apply accounts_of_search
  case runs =>
    rw [run, Sequence.every, Action.bind_bind, Action.bind_value (Sequence.begin_value made ..),
      Action.bind_bind]
    rfl
  case passes => exact fun _ _ _ => rfl
  case tests => exact fun _ _ => rfl
  case concludes => exact fun _ _ => rfl

theorem any_accounts (made : machine.toFunction callback world = (.value function, start))
    (context : Option Value) :
    (any context).Accounts machine list callback function world start := by
  apply accounts_of_search
  case runs =>
    rw [run, Sequence.any, Action.bind_bind, Action.bind_value (Sequence.begin_value made ..),
      Action.bind_bind]
    rfl
  case passes => exact fun _ _ _ => rfl
  case tests => exact fun _ _ => rfl
  case concludes => exact fun _ _ => rfl

theorem find_accounts (made : machine.toFunction callback world = (.value function, start))
    (context : Option Value) (backwards : Bool) :
    (find context backwards).Accounts machine list callback function world start := by
  apply accounts_of_search
  case runs =>
    rw [run, Sequence.find, Action.bind_bind, Action.bind_value (Sequence.begin_value made ..)]
    cases backwards <;> rfl
  case passes => exact fun _ _ _ => rfl
  case tests => exact fun _ _ => rfl
  case concludes => exact fun _ _ => rfl

/-- A name with a digit in it is no property. -/
theorem readNamed_digit {name : String} (hasDigit : HasDigit name.toList) (base : Value)
    (world : World Closure) : readNamed base name world = (.value .undefined, world) := by
  obtain ⟨digit, member, isDigit⟩ := hasDigit
  have notAlpha := not_isAlpha_of_isDigit isDigit
  have notLength : name ≠ "length" := by
    rintro rfl
    have lettered : isLettered "length" = true := by decide +kernel
    exact Bool.false_ne_true (notAlpha.symm.trans (isAlpha_of_isLettered lettered member))
  have notMethod : base.hasMethod name = false := by
    by_contra isMethod
    have lettered := Value.hasMethod_lettered (Bool.eq_true_of_not_eq_false isMethod)
    exact Bool.false_ne_true (notAlpha.symm.trans (isAlpha_of_isLettered lettered member))
  simp only [readNamed, Action.read_bind, if_neg notLength, notMethod, Bool.false_eq_true,
    if_false]
  rfl

theorem hasDigit_ofInt (heap : Heap) (index : Int) :
    HasDigit ((Value.ofInt index).rawText heap).toList := by
  rw [Value.ofInt, Value.rawText_leaf fun _ => Value.noConfusion]
  exact hasDigit_integerText _

/-- A property with an index as its key is read without any effect. -/
theorem readProperty_propertyAt {other key : Value} {world : World Closure}
    (hasText : key.hasText world.heap = true) (notList : ∀ cell, other ≠ .list cell)
    (hasDigit : HasDigit (key.rawText world.heap).toList) :
    readProperty other key world = (.ofExcept (propertyAt world.heap key other), world) := by
  have named (present : other.isNone = false) (notMap : ∀ cell, other ≠ .map cell)
      (noElement : (key.index?.bind fun position => other.elementAt? world.heap position) = none) :
      readProperty other key world = (.value .undefined, world) := by
    rw [readProperty_eq_readNamed present hasText notMap noElement, readNamed_digit hasDigit]
  cases other with
  | list cell => exact absurd rfl (notList cell)
  | map cell => exact readProperty_map hasText cell
  | undefined =>
    rw [propertyAt, ← show Value.undefined.rawText world.heap = "undefined" from
      Value.rawText_leaf (fun _ => Value.noConfusion) world.heap]
    exact Action.readIf_bind hasText _ _
  | null =>
    rw [propertyAt, ← show Value.null.rawText world.heap = "null" from
      Value.rawText_leaf (fun _ => Value.noConfusion) world.heap]
    exact Action.readIf_bind hasText _ _
  | string text =>
    cases isIndex : key.index? with
    | none =>
      rw [named rfl (fun _ => Value.noConfusion) (by rw [isIndex]; rfl)]
      simp only [propertyAt, isIndex, Option.bind_none]
      rfl
    | some position =>
      rw [readProperty_eq_element isIndex rfl]
      simp only [propertyAt, isIndex, Option.bind_some]
      cases text.toList[position]? <;> rfl
  | _ => exact named rfl (fun _ => Value.noConfusion) (by cases key.index? <;> rfl)

theorem paired_eq_propertyAt {other : Value} (notList : ∀ cell, other ≠ .list cell) (heap : Heap)
    (index : Nat) : paired heap index other = propertyAt heap (.ofInt index) other := by
  cases other with
  | list cell => exact absurd rfl (notList cell)
  | _ => rfl

/-- What the second list of a pairwise operation has is read without any effect. -/
theorem readProperty_paired {other : Value} (notList : ∀ cell, other ≠ .list cell) (index : Nat)
    (world : World Closure) :
    readProperty other (.ofInt index) world =
      (.ofExcept (paired world.heap index other), world) := by
  rw [readProperty_propertyAt (Value.hasText_leaf fun _ => Value.noConfusion) notList
    (hasDigit_ofInt world.heap index), paired_eq_propertyAt notList]

theorem zipWith_accounts (made : machine.toFunction callback world = (.value function, start))
    (other : Value) (context : Option Value) :
    (zipWith other context).Accounts machine list callback function world start := by
  apply accounts_of_fold (fun visits => (visits.map Visit.answer).toArray)
  case runs =>
    rw [run, Sequence.zipWith, Action.bind_value (Sequence.begin_value made ..)]
    rfl
  case undecided => exact fun _ => rfl
  case reads =>
    intro earlier index member before arguments passes
    simp only [List.push_toArray, List.map_append, List.map_cons, List.map_nil]
    cases isRight : paired before.heap index other with
    | error failure =>
      rw [passed, isRight] at passes
      cases passes
    | ok right =>
      rw [passed, isRight] at passes
      cases passes
      have read (notList : ∀ cell, other ≠ .list cell) :
          readProperty other (.ofInt index) before = (.value right, before) := by
        rw [readProperty_paired notList, isRight]
        rfl
      cases other with
      | list cell =>
        cases isRight
        rfl
      | _ =>
        exact (Action.bind_congr (Action.bind_value (read fun _ => Value.noConfusion)) _).trans rfl
  case unread =>
    intro earlier index before failure fails
    cases isRight : paired before.heap index other with
    | ok right =>
      rw [passed, isRight] at fails
      cases fails
    | error reason =>
      rw [passed, isRight] at fails
      have same : reason = failure := Except.error.inj fails
      have read (notList : ∀ cell, other ≠ .list cell) :
          readProperty other (.ofInt index) before = (.failure failure, before) := by
        rw [readProperty_paired notList, isRight, same]
        rfl
      cases other with
      | list cell => cases isRight
      | _ =>
        exact Action.bind_failure (Action.bind_failure (read fun _ => Value.noConfusion) _) _
  case concludes => exact fun _ _ => rfl

/-- A loop over a range whose step for zero makes no visit. -/
theorem fold_range {σ : Type} {step : σ → Nat → Action Closure σ} {initial first : σ}
    {world : World Closure} (zero : step initial 0 world = (.value first, world)) (size : Nat) :
    Action.fold step (List.range size) initial world =
      Action.fold step (List.range size).tail (if size = 0 then initial else first) world := by
  cases size with
  | zero => rfl
  | succ size =>
    rw [List.range_succ_eq_map, Action.fold, zero]
    rfl

theorem ne_zero_of_mem_tail {size index : Nat} (member : index ∈ (List.range size).tail) :
    index ≠ 0 := by
  cases size with
  | zero => exact absurd member List.not_mem_nil
  | succ size =>
    rw [List.range_succ_eq_map, List.tail_cons] at member
    obtain ⟨before, _, rfl⟩ := List.mem_map.mp member
    exact Nat.succ_ne_zero before

theorem uniq_accounts (made : machine.toFunction callback world = (.value function, start))
    (kept : start.heap.readList list = world.heap.readList list) (context : Option Value) :
    (uniq context).Accounts machine list callback function world start := by
  apply accounts_of_fold fun visits =>
    (firstOf start.heap list ++ visits.filterMap retains).toArray
  case runs =>
    rw [run, Sequence.uniq, Option.getD_some, Action.bind_value (Sequence.begin_value made ..)]
    have seed : (if (world.heap.readList list).size = 0 then #[]
        else (#[] : Array Value).push (start.heap.elementAt list 0)) =
          (firstOf start.heap list ++ ([] : List (Visit Closure)).filterMap retains).toArray := by
      rw [firstOf, kept]
      split <;> rfl
    refine (Action.bind_congr (fold_range (by rfl) (world.heap.readList list).size) _).trans ?_
    rw [seed]
    rfl
  case undecided => exact fun _ => rfl
  case reads =>
    intro earlier index member before arguments passes
    cases passes
    simp only [retains_concat, if_neg (ne_zero_of_mem_tail member)]
    rfl
  case unread =>
    intro earlier index before failure fails
    cases fails
  case concludes => exact fun _ _ => rfl

/-- Every operation is accounted for by visits. -/
theorem accounts (operation : Traverse)
    (made : machine.toFunction callback world = (.value function, start))
    (kept : start.heap.readList list = world.heap.readList list) :
    operation.Accounts machine list callback function world start := by
  cases operation with
  | forEach context => exact forEach_accounts made context
  | map context => exact map_accounts made context
  | filter context => exact filter_accounts made context
  | reduce initial => exact reduce_accounts made initial
  | every context => exact every_accounts made context
  | any context => exact any_accounts made context
  | find context backwards => exact find_accounts made context backwards
  | zipWith other context => exact zipWith_accounts made other context
  | uniq context => exact uniq_accounts made kept context

/-- Every operation begins by making its function. -/
theorem run_begins (operation : Traverse) :
    ∃ further : Value → Action Closure Value,
      operation.run machine (.list list) callback world =
        (machine.toFunction callback >>= further) world := by
  cases operation with
  | forEach context =>
    rw [run, Sequence.forEach, Action.bind_bind]
    exact Sequence.begin_bind ..
  | every context =>
    rw [run, Sequence.every, Action.bind_bind]
    exact Sequence.begin_bind ..
  | any context =>
    rw [run, Sequence.any, Action.bind_bind]
    exact Sequence.begin_bind ..
  | find context backwards =>
    rw [run, Sequence.find, Action.bind_bind]
    exact Sequence.begin_bind ..
  | _ => exact Sequence.begin_bind ..

/-- Without a function there is no visit. -/
theorem run_failure {failure : Failure} (operation : Traverse)
    (fails : machine.toFunction callback world = (.failure failure, start)) :
    operation.run machine (.list list) callback world = (.failure failure, start) := by
  obtain ⟨further, begins⟩ : ∃ further : Value → Action Closure Value,
      operation.run machine (.list list) callback world =
        (machine.toFunction callback >>= further) world := operation.run_begins
  rw [begins, Action.bind_failure fails]

theorem run_exhausted (operation : Traverse)
    (endless : machine.toFunction callback world = (.exhausted, start)) :
    operation.run machine (.list list) callback world = (.exhausted, start) := by
  obtain ⟨further, begins⟩ : ∃ further : Value → Action Closure Value,
      operation.run machine (.list list) callback world =
        (machine.toFunction callback >>= further) world := operation.run_begins
  rw [begins, Action.bind_exhausted endless]

theorem order_nodup (operation : Traverse) (length : Nat) : (operation.order length).Nodup := by
  unfold order
  split
  · exact List.nodup_reverse.mpr List.nodup_range
  · exact List.nodup_range.tail
  · exact List.nodup_range

theorem lt_of_mem_order {operation : Traverse} {length index : Nat}
    (member : index ∈ operation.order length) : index < length := by
  unfold order at member
  split at member
  · exact List.mem_range.mp (List.mem_reverse.mp member)
  · exact List.mem_range.mp (List.mem_of_mem_tail member)
  · exact List.mem_range.mp member

/-- After the visits at most one list is made, and nothing else is done. -/
theorem conclude_adds (heap : Heap) (list : ListRef) (visits : List (Visit Closure))
    (ending : Conclusion) (operation : Traverse) (last : World Closure) :
    (operation.conclude heap list visits ending last).2 = last ∨
      ∃ items, (operation.conclude heap list visits ending last).2 =
        ⟨(last.heap.newList items).2, last.closures⟩ := by
  have added : (operation.result heap list visits ending last).2 = last ∨
      ∃ items, (operation.result heap list visits ending last).2 =
        ⟨(last.heap.newList items).2, last.closures⟩ := by
    cases operation with
    | map context => exact .inr ⟨_, rfl⟩
    | filter context => exact .inr ⟨_, rfl⟩
    | zipWith other context => exact .inr ⟨_, rfl⟩
    | uniq context => exact .inr ⟨_, rfl⟩
    | _ => exact .inl rfl
  cases ending with
  | failed failure => exact .inl rfl
  | exhausted => exact .inl rfl
  | _ => exact added

end Traverse

/-! ### Traversals as a whole -/

/-- What an operation on a list does with a callback that is a function or becomes one. -/
structure Traversed (invoke : Invoke SlotClosure) (operation : Traverse) (list : ListRef)
    (callback : Value) (world : World SlotClosure) (function : Value) (start : World SlotClosure)
    (visits : List (Visit SlotClosure)) (ending : Conclusion) (last : World SlotClosure) :
    Prop where
  made : (Machine.calling invoke).toFunction callback world = (.value function, start)
  /-- Nothing that was there before is changed until the first visit. -/
  grows : world.heap.Grows start.heap
  /-- The visits follow each other with nothing in between. -/
  course : Course invoke function operation list
    (operation.order (world.heap.readList list).size) operation.initial start visits ending last
  inOrder : visits.map (·.index) <+: operation.order (world.heap.readList list).size
  once : (visits.map (·.index)).Nodup
  bounded : ∀ visit ∈ visits, visit.index < (world.heap.readList list).size
  complete : ending = .finished →
    visits.map (·.index) = operation.order (world.heap.readList list).size
  result : operation.run (.calling invoke) (.list list) callback world =
    operation.conclude start.heap list visits ending last
  /-- After the last visit at most one list is made, and nothing else is done. -/
  adds : (operation.conclude start.heap list visits ending last).2 = last ∨
    ∃ items, (operation.conclude start.heap list visits ending last).2 =
      ⟨(last.heap.newList items).2, last.closures⟩

/-- With a function the operation goes its whole way. -/
theorem Traverse.traversed {invoke : Invoke SlotClosure} (operation : Traverse) {list : ListRef}
    {callback function : Value} {world start : World SlotClosure}
    (made : (Machine.calling invoke).toFunction callback world = (.value function, start))
    (grows : world.heap.Grows start.heap) :
    ∃ visits ending last,
      Traversed invoke operation list callback world function start visits ending last := by
  have kept : start.heap.readList list = world.heap.readList list := by
    rw [Heap.readList, Heap.readList, grows.lists]
  obtain ⟨visits, ending, last, course, result⟩ := operation.accounts made kept
  have inOrder := course.indices_prefix
  refine ⟨visits, ending, last, ?_⟩
  exact {
    made := made
    grows := grows
    course := course
    inOrder := inOrder
    once := (operation.order_nodup _).sublist inOrder.sublist
    bounded := fun visit member =>
      Traverse.lt_of_mem_order (inOrder.subset (List.mem_map_of_mem member))
    complete := course.indices_eq
    result := result
    adds := Traverse.conclude_adds _ _ _ _ _ _ }

/-- Whatever calling a function does to the world, an operation on a list of some length visits
indices below that length in its order until it is finished, decided or failed, and its result
is told by the visits. A callback that is refused is refused before the first of them. A callback
that is neither a function nor a text and holds itself is refused as well, but the message that
shows it never comes to an end. -/
theorem traversal_visits (invoke : Invoke SlotClosure) (operation : Traverse) (list : ListRef)
    (callback : Value) (world : World SlotClosure) :
    (∃ failure, (Machine.calling invoke).toFunction callback world = (.failure failure, world) ∧
        (∀ code, callback = .string code → ∃ error, failure = .compile error) ∧
        operation.run (.calling invoke) (.list list) callback world = (.failure failure, world)) ∨
      (callback.hasLiteral world.heap = false ∧
        operation.run (.calling invoke) (.list list) callback world = (.exhausted, world)) ∨
      ∃ function start visits ending last,
        Traversed invoke operation list callback world function start visits ending last := by
  rcases Machine.toFunction_cases invoke callback world with
    ⟨failure, fails, refused⟩ | ⟨noLiteral, endless⟩ | ⟨function, start, made, grows⟩
  · exact .inl ⟨failure, fails, refused, operation.run_failure fails⟩
  · exact .inr (.inl ⟨noLiteral, operation.run_exhausted endless⟩)
  · exact .inr (.inr ⟨function, start, operation.traversed made grows⟩)

end Shorthand
