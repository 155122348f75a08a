/-
This file carries a state through the elements of a list in steps without effects.

Where every step comes to what a function of the state and the index says, the whole loop is the
fold of this function, whatever cells the steps may add.
-/

import Shorthand.Proofs.Traverse.Result

namespace Shorthand

variable {Closure : Type}

/-- The values at all indices are all items. -/
theorem map_getD_range {α : Type} (items : Array α) (other : α) :
    (List.range items.size).map (items.getD · other) = items.toList := by
  refine List.ext_getElem (by simp) fun index _ inside => ?_
  have bound : index < items.size := inside
  simp [bound]

namespace Action

/-- If every step begun in a good world comes to what a function says and leaves a good world, the
loop comes to the fold of the function, up to the first step that does not end. -/
theorem fold_eq_foldlM {σ : Type} {Good : World Closure → Prop} {next : σ → ℕ → Option σ}
    {step : σ → ℕ → Action Closure σ} {indices : List ℕ}
    (steps : ∀ index ∈ indices, ∀ state world, Good world →
      ∃ after, step state index world = (.ofOption (next state index), after) ∧ Good after)
    (state : σ) {world : World Closure} (good : Good world) :
    ∃ last, Action.fold step indices state world =
      (.ofOption (indices.foldlM next state), last) ∧ Good last := by
  induction indices generalizing state world with
  | nil => exact ⟨world, rfl, good⟩
  | cons index rest inductionHypothesis =>
    obtain ⟨first, others⟩ := List.forall_mem_cons.mp steps
    obtain ⟨after, same, goodAfter⟩ := first state world good
    rw [Action.fold, same, List.foldlM_cons]
    cases next state index with
    | none => exact ⟨after, rfl, goodAfter⟩
    | some further => exact inductionHypothesis others further goodAfter

/-- Where every step yields a value, so does the loop. -/
theorem fold_eq_foldl {σ : Type} {Good : World Closure → Prop} {next : σ → ℕ → σ}
    {step : σ → ℕ → Action Closure σ} {indices : List ℕ}
    (steps : ∀ index ∈ indices, ∀ state world, Good world →
      ∃ after, step state index world = (.value (next state index), after) ∧ Good after)
    (state : σ) {world : World Closure} (good : Good world) :
    ∃ last, Action.fold step indices state world =
      (.value (indices.foldl next state), last) ∧ Good last := by
  have yields : ∀ index ∈ indices, ∀ state world, Good world → ∃ after,
      step state index world = (.ofOption (some (next state index)), after) ∧ Good after := steps
  obtain ⟨last, same, goodLast⟩ := fold_eq_foldlM yields state good
  exact ⟨last, same.trans (congrArg (Outcome.ofOption ·, last) List.foldlM_pure), goodLast⟩

/-- If every test begun in a good world comes to what a function of the index says and leaves a good
world, the search finds what passes first. -/
theorem first?_eq_find? {Good : World Closure → Prop} {holds : ℕ → Bool}
    {test : ℕ → Action Closure Bool} {indices : List ℕ}
    (tests : ∀ index ∈ indices, ∀ world, Good world →
      ∃ after, test index world = (.value (holds index), after) ∧ Good after)
    {world : World Closure} (good : Good world) :
    ∃ last, Action.first? test indices world = (.value (indices.find? holds), last) ∧
      Good last := by
  induction indices generalizing world with
  | nil => exact ⟨world, rfl, good⟩
  | cons index rest inductionHypothesis =>
    obtain ⟨first, others⟩ := List.forall_mem_cons.mp tests
    obtain ⟨after, same, goodAfter⟩ := first world good
    rw [Action.first?, same, List.find?_cons]
    cases holds index with
    | true => exact ⟨after, rfl, goodAfter⟩
    | false => exact inductionHypothesis others goodAfter

end Action

/-- Taking the indices that pass a test adds their values to those before. -/
theorem foldl_push {α : Type} (keeps : ℕ → Bool) (valueAt : ℕ → α) (indices : List ℕ)
    (kept : Array α) :
    indices.foldl (fun kept index => if keeps index then kept.push (valueAt index) else kept) kept =
      kept ++ ((indices.filter keeps).map valueAt).toArray := by
  induction indices generalizing kept with
  | nil => rw [List.foldl_nil, List.filter_nil, List.map_nil, Array.append_empty]
  | cons index rest inductionHypothesis =>
    rw [List.foldl_cons, inductionHypothesis, List.filter_cons]
    cases keeps index
    · rfl
    · apply Array.ext'
      simp

/-- If every step keeps the value of its index or not, as a test says, the loop makes a list of the
values that are kept. -/
theorem Action.fold_newList_kept {Good : World Closure → Prop} {keeps : ℕ → Bool}
    {valueAt : ℕ → Value} {step : Array Value → ℕ → Action Closure (Array Value)}
    {indices : List ℕ}
    (steps : ∀ index ∈ indices, ∀ kept world, Good world → ∃ after, step kept index world =
      (.value (if keeps index then kept.push (valueAt index) else kept), after) ∧ Good after)
    {world : World Closure} (good : Good world) :
    ∃ last, (Action.fold step indices #[] >>= Action.newList) world =
      Action.newList ((indices.filter keeps).map valueAt).toArray last ∧ Good last := by
  obtain ⟨last, same, goodLast⟩ := Action.fold_eq_foldl steps #[] good
  rw [foldl_push, Array.empty_append] at same
  exact ⟨last, Action.bind_value same, goodLast⟩

namespace Sequence

/-- Whether a value differs from the one right before it. The first one always does. -/
def isNovel (equal : Value → Value → Bool) (valueAt : ℕ → Value) : ℕ → Bool
  | 0 => true
  | earlier + 1 => !equal (valueAt earlier) (valueAt (earlier + 1))

/-- A callback has become a function, and in all good worlds the elements of a list are the same
as before. -/
structure Ready (machine : Machine Closure) (Good : World Closure → Prop) (list : ListRef)
    (callback function : Value) (world start : World Closure) : Prop where
  made : machine.toFunction callback world = (.value function, start)
  good : Good start
  elements : ∀ before, Good before → ∀ index < (world.heap.readList list).size,
    before.heap.elementAt list index = world.heap.elementAt list index

/-- Called in good worlds for an element of a list and its index, a function answers as a test of
the index says and leaves a good world. -/
def Judges (machine : Machine Closure) (Good : World Closure → Prop) (function context : Value)
    (list : ListRef) (heap : Heap) (holds : ℕ → Bool) : Prop :=
  ∀ before, Good before → ∀ index < (heap.readList list).size, ∃ answer after,
    machine.invoke function context [heap.elementAt list index, .ofInt index] before =
      (.value answer, after) ∧ answer.truthy = holds index ∧ Good after

section

variable {machine : Machine Closure} {Good : World Closure → Prop} {list : ListRef}
  {callback function : Value} {world start : World Closure}

/-- The items of a list by their indices. -/
theorem map_elementAt (heap : Heap) (list : ListRef) :
    (List.range (heap.readList list).size).map (heap.elementAt list) =
      (heap.readList list).toList :=
  map_getD_range _ _

theorem elementAt_mem {heap : Heap} {list : ListRef} {index : ℕ}
    (bound : index < (heap.readList list).size) :
    heap.elementAt list index ∈ (heap.readList list).toList := by
  rw [← map_elementAt]
  exact List.mem_map_of_mem (List.mem_range.mpr bound)

namespace Ready

variable (ready : Ready machine Good list callback function world start)

include ready

/-- What a function without effects makes of an initial value and the items, if all its calls come
to an end. -/
theorem reduce {next : Value → Value → Option Value}
    (answers : ∀ before, Good before → ∀ state, ∀ item ∈ (world.heap.readList list).toList,
      ∃ after, machine.invoke function .undefined [state, item] before =
        (.ofOption (next state item), after) ∧ Good after) (initial : Value) :
    ∃ last, Sequence.reduce machine (.list list) callback initial world =
      (.ofOption ((world.heap.readList list).toList.foldlM next initial), last) ∧ Good last := by
  rw [Sequence.reduce, Action.bind_value (begin_value ready.made ..), ← map_elementAt,
    List.foldlM_map]
  refine Action.fold_eq_foldlM (fun index member state before good => ?_) initial ready.good
  have bound := List.mem_range.mp member
  obtain ⟨after, gives, goodAfter⟩ := answers before good state _ (elementAt_mem bound)
  refine ⟨after, ?_, goodAfter⟩
  show machine.invoke function .undefined [state, before.heap.elementAt list index] before = _
  rw [ready.elements before good index bound]
  exact gives

/-- The elements at the indices that pass. -/
theorem filter_judged {holds : ℕ → Bool} (context : Option Value)
    (judges : Judges machine Good function (context.getD .undefined) list world.heap holds) :
    ∃ last, Sequence.filter machine (.list list) callback context world =
      Action.newList (((List.range (world.heap.readList list).size).filter holds).map
        (world.heap.elementAt list)).toArray last ∧ Good last := by
  rw [Sequence.filter, Action.bind_value (begin_value ready.made ..)]
  refine Action.fold_newList_kept (fun index member kept before good => ?_) ready.good
  have bound := List.mem_range.mp member
  obtain ⟨answer, after, gives, truthy, goodAfter⟩ := judges before good index bound
  refine ⟨after, ?_, goodAfter⟩
  show (machine.invoke function (context.getD .undefined)
      [before.heap.elementAt list index, .ofInt index] >>= fun answer => Action.done
        (if answer.truthy then kept.push (before.heap.elementAt list index) else kept)) before = _
  rw [ready.elements before good index bound, Action.bind_value gives, truthy]
  rfl

/-- The items for which the answer of a function without effects is truthy. -/
theorem filter {test : Value → Bool} (context : Option Value)
    (answers : ∀ before, Good before → ∀ item ∈ (world.heap.readList list).toList, ∀ index,
      ∃ answer after, machine.invoke function (context.getD .undefined) [item, index] before =
        (.value answer, after) ∧ answer.truthy = test item ∧ Good after) :
    ∃ last, Sequence.filter machine (.list list) callback context world =
      Action.newList ((world.heap.readList list).toList.filter test).toArray last ∧
      Good last := by
  rw [← map_elementAt, List.filter_map]
  exact ready.filter_judged context fun before good index bound =>
    answers before good _ (elementAt_mem bound) (.ofInt index)

/-- A test of an index by a call. -/
theorem visit_judged {holds : ℕ → Bool} {context : Value}
    (judges : Judges machine Good function context list world.heap holds) (decide : Bool → Bool)
    {index : ℕ} (bound : index < (world.heap.readList list).size) {before : World Closure}
    (good : Good before) :
    ∃ after, (Traversal.visit ⟨list, (world.heap.readList list).size, function, context⟩ machine
        index >>= fun answer => Action.done (decide answer.truthy)) before =
      (.value (decide (holds index)), after) ∧ Good after := by
  obtain ⟨answer, after, gives, truthy, goodAfter⟩ := judges before good index bound
  refine ⟨after, ?_, goodAfter⟩
  have visits : Traversal.visit ⟨list, (world.heap.readList list).size, function, context⟩ machine
      index before = machine.invoke function context
        [before.heap.elementAt list index, .ofInt index] before := rfl
  rw [ready.elements before good index bound, gives] at visits
  rw [Action.bind_value visits, truthy]
  rfl

/-- The first index that passes, or the last one. -/
theorem find_judged {holds : ℕ → Bool} (context : Option Value) (backwards : Bool)
    (judges : Judges machine Good function (context.getD .undefined) list world.heap holds) :
    ∃ last, Sequence.find machine (.list list) callback context backwards world =
      (.value ((if backwards then (List.range (world.heap.readList list).size).reverse
        else List.range (world.heap.readList list).size).find? holds), last) ∧ Good last := by
  rw [Sequence.find, Action.bind_value (begin_value ready.made ..)]
  refine Action.first?_eq_find? (fun index member before good => ?_) ready.good
  have bound : index < (world.heap.readList list).size := by
    cases backwards with
    | true => exact List.mem_range.mp (List.mem_reverse.mp member)
    | false => exact List.mem_range.mp member
  exact ready.visit_judged judges id bound good

/-- Whether all indices pass. -/
theorem every_judged {holds : ℕ → Bool} (context : Option Value)
    (judges : Judges machine Good function (context.getD .undefined) list world.heap holds) :
    ∃ last, Sequence.every machine (.list list) callback context world =
      (.value ((List.range (world.heap.readList list).size).find? fun index =>
        !holds index).isNone, last) ∧ Good last := by
  rw [Sequence.every, Action.bind_value (begin_value ready.made ..)]
  obtain ⟨last, found, goodLast⟩ := Action.first?_eq_find? (fun index member before good =>
    ready.visit_judged judges not (List.mem_range.mp member) good) ready.good
  exact ⟨last, Action.bind_value found, goodLast⟩

/-- The items that are new where they stand, for an equality without effects. -/
theorem uniq {equal : Value → Value → Bool} {equality : Option Value} (context : Option Value)
    (isEquality : callback = equality.getD (.string "==="))
    (answers : ∀ before, Good before → ∀ left ∈ (world.heap.readList list).toList,
      ∀ right ∈ (world.heap.readList list).toList,
      ∃ answer after, machine.invoke function (context.getD .undefined) [left, right] before =
        (.value answer, after) ∧ answer.truthy = equal left right ∧ Good after) :
    ∃ last, Sequence.uniq machine (.list list) equality context world =
      Action.newList (((List.range (world.heap.readList list).size).filter
        (isNovel equal (world.heap.elementAt list))).map (world.heap.elementAt list)).toArray
        last ∧
      Good last := by
  rw [Sequence.uniq, ← isEquality, Action.bind_value (begin_value ready.made ..)]
  refine Action.fold_newList_kept (fun index member kept before good => ?_) ready.good
  have bound := List.mem_range.mp member
  have current := ready.elements before good index bound
  cases index with
  | zero =>
    refine ⟨before, ?_, good⟩
    show (Outcome.value (kept.push (before.heap.elementAt list 0)), before) = _
    rw [current]
    rfl
  | succ earlier =>
    have previous := ready.elements before good earlier (Nat.lt_of_succ_lt bound)
    obtain ⟨answer, after, gives, truthy, goodAfter⟩ := answers before good _
      (elementAt_mem (Nat.lt_of_succ_lt bound)) _ (elementAt_mem bound)
    refine ⟨after, ?_, goodAfter⟩
    show (machine.invoke function (context.getD .undefined)
        [before.heap.elementAt list earlier, before.heap.elementAt list (earlier + 1)] >>=
          fun answer => Action.done (if answer.truthy then kept
            else kept.push (before.heap.elementAt list (earlier + 1)))) before = _
    rw [previous, current, Action.bind_value gives, truthy, isNovel]
    cases equal (world.heap.elementAt list earlier) (world.heap.elementAt list (earlier + 1)) <;>
      rfl

end Ready

end

end Sequence

end Shorthand
