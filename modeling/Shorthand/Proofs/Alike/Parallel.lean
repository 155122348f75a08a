/-
This file compares what two actions do to worlds that are related.

Two actions are parallel if, begun in related worlds, they end in the same way and leave related
worlds. What the relation is stays open: the worlds have one heap, and they remain related when
anything in it but a memo changes and no list is taken away. Everything built from parallel actions
is then parallel by its form. How closures are made and run, and what asking a memo does, depends on
the relation. Methods write to no variables, so for them the relation need not outlast that.
-/

import Shorthand.Call

namespace Shorthand

variable {First Second α β : Type}

/-- A heap after changes to another one. Functions, memos and lists may have been added, but none of
them is gone, and the functions and memos that were there are as they were. -/
structure Heap.Keeps (old new : Heap) : Prop where
  functions : old.functions.toList <+: new.functions.toList
  memos : old.memos.toList <+: new.memos.toList
  lists : old.lists.size ≤ new.lists.size

namespace Heap.Keeps

theorem refl (heap : Heap) : heap.Keeps heap :=
  ⟨List.prefix_refl _, List.prefix_refl _, Nat.le_refl _⟩

/-- A change of other stores. -/
theorem ofSame {old new : Heap} (functions : new.functions = old.functions)
    (memos : new.memos = old.memos) (lists : new.lists = old.lists) : old.Keeps new :=
  ⟨functions ▸ List.prefix_refl _, memos ▸ List.prefix_refl _, lists ▸ Nat.le_refl _⟩

theorem newFunction (heap : Heap) (callable : Callable) :
    heap.Keeps (heap.newFunction callable).2 :=
  ⟨⟨[callable], Array.toList_push.symm⟩, List.prefix_refl _, Nat.le_refl _⟩

end Heap.Keeps

/-- A heap after changes to another one that also leave the variables as they were. -/
structure Heap.KeepsVariables (old new : Heap) : Prop extends old.Keeps new where
  locals : new.locals = old.locals

namespace Heap.KeepsVariables

/-- A change of the maps or of what the clock has shown. -/
theorem ofSame {old new : Heap} (locals : new.locals = old.locals)
    (functions : new.functions = old.functions) (memos : new.memos = old.memos)
    (lists : new.lists = old.lists) : old.KeepsVariables new :=
  ⟨.ofSame functions memos lists, locals⟩

theorem newFunction (heap : Heap) (callable : Callable) :
    heap.KeepsVariables (heap.newFunction callable).2 := ⟨.newFunction heap callable, rfl⟩

end Heap.KeepsVariables

/-- A relation of worlds with one heap that outlasts its changes, unless they change variables. -/
class StoreRelation (Rel : World First → World Second → Prop) : Prop where
  heap {left : World First} {right : World Second} : Rel left right → left.heap = right.heap
  change {heap new : Heap} {closures : Array First} {others : Array Second} :
    Rel ⟨heap, closures⟩ ⟨heap, others⟩ → heap.KeepsVariables new →
      Rel ⟨new, closures⟩ ⟨new, others⟩

/-- A relation of worlds with one heap that outlasts its changes. -/
class HeapRelation (Rel : World First → World Second → Prop) : Prop where
  heap {left : World First} {right : World Second} : Rel left right → left.heap = right.heap
  change {heap new : Heap} {closures : Array First} {others : Array Second} :
    Rel ⟨heap, closures⟩ ⟨heap, others⟩ → heap.Keeps new →
      Rel ⟨new, closures⟩ ⟨new, others⟩

/-- What holds for every change of the heap holds for those of its stores. -/
instance (Rel : World First → World Second → Prop) [HeapRelation Rel] : StoreRelation Rel where
  heap := HeapRelation.heap
  change related keeps := HeapRelation.change related keeps.toKeeps

/-- Two actions that end in the same way and leave related worlds when they begin in such. -/
def Parallel (Rel : World First → World Second → Prop) (first : Action First α)
    (second : Action Second α) : Prop :=
  ∀ (left : World First) (right : World Second), Rel left right →
    (first left).1 = (second right).1 ∧ Rel (first left).2 (second right).2

namespace Parallel

variable {Rel : World First → World Second → Prop}

/-! ### Steps -/

theorem done (value : α) : Parallel Rel (Action.done value) (Action.done value) :=
  fun _ _ related => ⟨rfl, related⟩

theorem fail (failure : Failure) :
    Parallel Rel (Action.fail failure : Action First α) (Action.fail failure) :=
  fun _ _ related => ⟨rfl, related⟩

theorem typeFault (fault : TypeFault) :
    Parallel Rel (Action.typeFault fault : Action First α) (Action.typeFault fault) :=
  fail (.type fault)

theorem exhausted : Parallel Rel (Action.exhausted : Action First α) Action.exhausted :=
  fun _ _ related => ⟨rfl, related⟩

section

variable [StoreRelation Rel]

theorem read (view : Heap → α) : Parallel Rel (Action.read view) (Action.read view) :=
  fun _ _ related => ⟨by rw [Action.read, Action.read, StoreRelation.heap related], related⟩

theorem readIf (ends : Heap → Bool) (view : Heap → α) :
    Parallel Rel (Action.readIf ends view) (Action.readIf ends view) := by
  intro left right related
  rw [Action.readIf, Action.readIf, StoreRelation.heap related]
  split
  · exact ⟨rfl, related⟩
  · exact ⟨rfl, related⟩

theorem changeStore {step : Heap → α × Heap}
    (keeps : ∀ heap : Heap, heap.KeepsVariables (step heap).2) :
    Parallel Rel (Action.change step) (Action.change step) := by
  rintro ⟨heap, closures⟩ ⟨other, others⟩ related
  obtain rfl : heap = other := StoreRelation.heap related
  exact ⟨rfl, StoreRelation.change related (keeps heap)⟩

theorem newList (items : Array Value) :
    Parallel Rel (Action.newList items) (Action.newList items) :=
  changeStore fun _ =>
    ⟨⟨List.prefix_refl _, List.prefix_refl _, Array.size_push _ ▸ Nat.le_succ _⟩, rfl⟩

theorem newMap (entries : Table Value) :
    Parallel Rel (Action.newMap entries) (Action.newMap entries) :=
  changeStore fun _ => .ofSame rfl rfl rfl rfl

theorem newFunction (behaviour : Behaviour) (arity : Nat) (label : String) :
    Parallel Rel (Action.newFunction behaviour arity label)
      (Action.newFunction behaviour arity label) := changeStore fun _ => .newFunction _ _

theorem readClock : Parallel Rel (Action.readClock : Action First Instant) Action.readClock :=
  changeStore fun _ => .ofSame rfl rfl rfl rfl

theorem newMemo (function : Value) :
    Parallel Rel (Action.newMemo function) (Action.newMemo function) :=
  changeStore fun _ =>
    ⟨⟨List.prefix_refl _, ⟨[⟨function, Table.empty⟩], Array.toList_push.symm⟩, Nat.le_refl _⟩, rfl⟩

theorem changeList (cell : ListRef) (step : Array Value → Array Value) :
    Parallel Rel (Action.changeList cell step) (Action.changeList cell step) :=
  changeStore fun _ =>
    ⟨⟨List.prefix_refl _, List.prefix_refl _, Nat.le_of_eq Array.size_modify.symm⟩, rfl⟩

theorem changeMap (cell : MapRef) (step : Table Value → Table Value) :
    Parallel Rel (Action.changeMap cell step) (Action.changeMap cell step) :=
  changeStore fun _ => .ofSame rfl rfl rfl rfl

end

section

variable [HeapRelation Rel]

theorem change {step : Heap → α × Heap} (keeps : ∀ heap : Heap, heap.Keeps (step heap).2) :
    Parallel Rel (Action.change step) (Action.change step) := by
  rintro ⟨heap, closures⟩ ⟨other, others⟩ related
  obtain rfl : heap = other := HeapRelation.heap related
  exact ⟨rfl, HeapRelation.change related (keeps heap)⟩

theorem writeVariable (cell : VariableRef) (value : Value) :
    Parallel Rel (Action.writeVariable cell value) (Action.writeVariable cell value) :=
  change fun _ => .ofSame rfl rfl rfl

end

/-! ### Sequences of steps -/

theorem bind {first : Action First α} {second : Action Second α} {further : α → Action First β}
    {other : α → Action Second β} (parallel : Parallel Rel first second)
    (parallelAfter : ∀ value, Parallel Rel (further value) (other value)) :
    Parallel Rel (first >>= further) (second >>= other) := by
  intro left right related
  obtain ⟨sameOutcome, relatedAfter⟩ := parallel _ _ related
  show (Action.andThen first further left).1 = (Action.andThen second other right).1 ∧ _
  simp only [Bind.bind, Action.andThen]
  generalize first left = reply at sameOutcome relatedAfter
  generalize second right = answer at sameOutcome relatedAfter
  obtain ⟨outcome, left⟩ := reply
  obtain ⟨_, right⟩ := answer
  obtain rfl : outcome = _ := sameOutcome
  cases outcome with
  | value value => exact parallelAfter value _ _ relatedAfter
  | failure failure => exact ⟨rfl, relatedAfter⟩
  | exhausted => exact ⟨rfl, relatedAfter⟩

theorem ite {condition : Prop} [Decidable condition] {first further : Action First α}
    {second other : Action Second α} (parallel : Parallel Rel first second)
    (parallelOtherwise : Parallel Rel further other) :
    Parallel Rel (if condition then first else further)
      (if condition then second else other) := by
  split
  · exact parallel
  · exact parallelOtherwise

theorem fold {σ : Type} {step : σ → Nat → Action First σ} {other : σ → Nat → Action Second σ}
    (parallel : ∀ state index, Parallel Rel (step state index) (other state index))
    (indices : List Nat) (state : σ) :
    Parallel Rel (Action.fold step indices state) (Action.fold other indices state) := by
  induction indices generalizing state with
  | nil => exact done state
  | cons index rest inductionHypothesis =>
    exact bind (parallel state index) fun state => inductionHypothesis state

theorem first? {test : Nat → Action First Bool} {other : Nat → Action Second Bool}
    (parallel : ∀ index, Parallel Rel (test index) (other index)) (indices : List Nat) :
    Parallel Rel (Action.first? test indices) (Action.first? other indices) := by
  induction indices with
  | nil => exact done none
  | cons index rest inductionHypothesis =>
    intro left right related
    obtain ⟨sameOutcome, relatedAfter⟩ := parallel index _ _ related
    simp only [Action.first?]
    generalize test index left = reply at sameOutcome relatedAfter
    generalize other index right = answer at sameOutcome relatedAfter
    obtain ⟨outcome, left⟩ := reply
    obtain ⟨_, right⟩ := answer
    obtain rfl : outcome = _ := sameOutcome
    cases outcome with
    | value holds =>
      cases holds with
      | true => exact ⟨rfl, relatedAfter⟩
      | false => exact inductionHypothesis _ _ relatedAfter
    | failure failure => exact ⟨rfl, relatedAfter⟩
    | exhausted => exact ⟨rfl, relatedAfter⟩

theorem collect {step : Nat → Action First Value} {other : Nat → Action Second Value}
    (parallel : ∀ index, Parallel Rel (step index) (other index)) (indices : List Nat) :
    Parallel Rel (Action.collect step indices) (Action.collect other indices) :=
  fold (fun _ index => bind (parallel index) fun _ => done _) indices _

/-- Asking a memo is parallel if writing to memos and calling functions is. -/
theorem answer [StoreRelation Rel] {invoke : Invoke First} {other : Invoke Second}
    (changes : ∀ memo step,
      Parallel Rel (Action.changeMemo memo step : Action First Unit) (Action.changeMemo memo step))
    (parallel : ∀ function context arguments,
      Parallel Rel (invoke function context arguments) (other function context arguments))
    (memo : MemoRef) (context : Value) (arguments : List Value) :
    Parallel Rel (Combine.answer invoke memo context arguments)
      (Combine.answer other memo context arguments) := by
  refine bind (readIf _ _) fun key => bind (read _) fun found => ?_
  cases found with
  | some value => exact done _
  | none =>
    exact bind (read _) fun function => bind (parallel function context arguments) fun value =>
      bind (changes memo _) fun _ => done _

end Parallel

/-- Two machines whose calls are parallel, also those through memos, and which make functions of
definitions in parallel. -/
structure Machine.CallsParallel (Rel : World First → World Second → Prop) (first : Machine First)
    (second : Machine Second) : Prop where
  invoke : ∀ function context arguments,
    Shorthand.Parallel Rel (first.invoke function context arguments)
      (second.invoke function context arguments)
  answer : ∀ memo context arguments,
    Shorthand.Parallel Rel (Combine.answer first.invoke memo context arguments)
      (Combine.answer second.invoke memo context arguments)
  close : ∀ definition, Shorthand.Parallel Rel (first.close definition) (second.close definition)

/-- Two machines that also make closures of routines in parallel. -/
structure Machine.Parallel (Rel : World First → World Second → Prop) (first : Machine First)
    (second : Machine Second) : Prop extends first.CallsParallel Rel second where
  newClosure : ∀ closure arity label,
    Shorthand.Parallel Rel (Action.newClosure (first.keep closure) arity label)
      (Action.newClosure (second.keep closure) arity label)

end Shorthand
