/-
This file compares worlds whose closures differ in kind.

Two worlds match if their heaps are the same and their closures correspond one by one. Two actions
are alike if, begun in matching worlds, they end in the same way and leave matching worlds: they
are parallel for matching worlds. Since the heap knows no closure, only making and running one has
to be looked at.
-/

import Mathlib.Data.List.Forall2
import Shorthand.Proofs.Alike.Parallel

namespace Shorthand

theorem Action.done_bind {Closure α β : Type} (value : α) (next : α → Action Closure β) :
    (Action.done value >>= next) = next value := rfl

theorem Action.bind_value {Closure α β : Type} {work : Action Closure α}
    {next : α → Action Closure β} {world after : World Closure} {value : α}
    (same : work world = (.value value, after)) : (work >>= next) world = next value after := by
  show Action.andThen work next world = _
  rw [Action.andThen, same]

theorem Action.bind_failure {Closure α β : Type} {work : Action Closure α}
    {world after : World Closure} {failure : Failure}
    (same : work world = (.failure failure, after)) (next : α → Action Closure β) :
    (work >>= next) world = (.failure failure, after) := by
  show Action.andThen work next world = _
  rw [Action.andThen, same]

theorem Action.bind_exhausted {Closure α β : Type} {work : Action Closure α}
    {world after : World Closure} (same : work world = (.exhausted, after))
    (next : α → Action Closure β) : (work >>= next) world = (.exhausted, after) := by
  show Action.andThen work next world = _
  rw [Action.andThen, same]

theorem Action.bind_done {Closure α : Type} (work : Action Closure α) :
    (work >>= Action.done) = work := by
  funext world
  show Action.andThen work Action.done world = work world
  rw [Action.andThen]
  cases work world with
  | mk outcome after => cases outcome <;> rfl

theorem Action.bind_congr {Closure α β : Type} {work other : Action Closure α}
    {world start : World Closure} (same : work world = other start) (next : α → Action Closure β) :
    (work >>= next) world = (other >>= next) start := by
  show Action.andThen work next world = Action.andThen other next start
  rw [Action.andThen, Action.andThen, same]

theorem Action.bind_bind {Closure α β γ : Type} (work : Action Closure α)
    (next : α → Action Closure β) (last : β → Action Closure γ) :
    (work >>= next >>= last) = (work >>= fun value => next value >>= last) := by
  funext world
  show Action.andThen (Action.andThen work next) last world =
    Action.andThen work (fun value => Action.andThen (next value) last) world
  simp only [Action.andThen]
  cases work world with
  | mk outcome after => cases outcome <;> rfl

theorem Action.read_bind {Closure α β : Type} (view : Heap → α) (next : α → Action Closure β)
    (world : World Closure) : (Action.read view >>= next) world = next (view world.heap) world :=
  rfl

variable {First Second : Type}

/-- Two worlds with the same heap whose closures correspond one by one. -/
structure Matching (Related : First → Second → Prop) (first : World First)
    (second : World Second) : Prop where
  heap : first.heap = second.heap
  closures : List.Forall₂ Related first.closures.toList second.closures.toList

/-- Two actions that end in the same way and leave matching worlds when they begin in such. -/
def Alike {α : Type} (Related : First → Second → Prop) (first : Action First α)
    (second : Action Second α) : Prop :=
  ∀ (left : World First) (right : World Second), Matching Related left right →
    (first left).1 = (second right).1 ∧ Matching Related (first left).2 (second right).2

namespace Matching

variable {Related : First → Second → Prop} {left : World First} {right : World Second}

theorem size_eq (matching : Matching Related left right) :
    left.closures.size = right.closures.size :=
  matching.closures.length_eq

/-- A reference leads to corresponding closures or to none on both sides. -/
theorem closure (matching : Matching Related left right) (index : Nat) :
    Option.Rel Related left.closures[index]? right.closures[index]? := by
  have sizes := matching.size_eq
  by_cases bound : index < left.closures.size
  · rw [Array.getElem?_eq_getElem bound, Array.getElem?_eq_getElem (sizes ▸ bound)]
    exact .some ((List.forall₂_iff_get.mp matching.closures).2 index bound
      (by simpa [← sizes] using bound))
  · rw [Array.getElem?_eq_none (by omega), Array.getElem?_eq_none (by omega)]
    exact .none

end Matching

/-- Matching worlds still match after one change of both heaps. -/
instance (Related : First → Second → Prop) : HeapRelation (Matching Related) where
  heap := Matching.heap
  change matching _ := ⟨rfl, matching.closures⟩

namespace Alike

variable {α β : Type} {Related : First → Second → Prop}

/-! ### Steps -/

theorem done (value : α) : Alike Related (Action.done value) (Action.done value) :=
  Parallel.done value

theorem read (view : Heap → α) : Alike Related (Action.read view) (Action.read view) :=
  Parallel.read view

theorem readIf (ends : Heap → Bool) (view : Heap → α) :
    Alike Related (Action.readIf ends view) (Action.readIf ends view) :=
  Parallel.readIf ends view

theorem change (step : Heap → α × Heap) :
    Alike Related (Action.change step) (Action.change step) := by
  rintro ⟨heap, closures⟩ ⟨_, others⟩ ⟨rfl, corresponding⟩
  exact ⟨rfl, rfl, corresponding⟩

theorem newList (items : Array Value) :
    Alike Related (Action.newList items) (Action.newList items) := change _

theorem newMap (entries : Table Value) :
    Alike Related (Action.newMap entries) (Action.newMap entries) := change _

/-- Corresponding closures may be made on both sides. -/
theorem newClosure {first : First} {second : Second} (related : Related first second)
    (arity : Nat) (label : String) :
    Alike Related (Action.newClosure first arity label)
      (Action.newClosure second arity label) := by
  rintro ⟨heap, closures⟩ ⟨_, others⟩ matching
  obtain ⟨rfl, corresponding⟩ := matching
  have sizes : closures.size = others.size := corresponding.length_eq
  refine ⟨rfl, ?_, ?_⟩
  · show (heap.newFunction ⟨.closure ⟨closures.size⟩, arity, label⟩).2 =
      (heap.newFunction ⟨.closure ⟨others.size⟩, arity, label⟩).2
    rw [sizes]
  · show List.Forall₂ Related (closures.push first).toList (others.push second).toList
    rw [Array.toList_push, Array.toList_push]
    exact List.rel_append corresponding (.cons related .nil)

/-! ### Sequences of steps -/

theorem bind {first : Action First α} {second : Action Second α} {further : α → Action First β}
    {other : α → Action Second β} (alike : Alike Related first second)
    (alikeAfter : ∀ value, Alike Related (further value) (other value)) :
    Alike Related (first >>= further) (second >>= other) :=
  Parallel.bind alike alikeAfter

theorem ite {condition : Prop} [Decidable condition] {first further : Action First α}
    {second other : Action Second α} (alike : Alike Related first second)
    (alikeOtherwise : Alike Related further other) :
    Alike Related (if condition then first else further)
      (if condition then second else other) :=
  Parallel.ite alike alikeOtherwise

/-- Asking a memo changes it in the same way on both sides. -/
theorem answer {invoke : Invoke First} {other : Invoke Second}
    (alike : ∀ function context arguments,
      Alike Related (invoke function context arguments) (other function context arguments))
    (memo : MemoRef) (context : Value) (arguments : List Value) :
    Alike Related (Combine.answer invoke memo context arguments)
      (Combine.answer other memo context arguments) :=
  Parallel.answer (fun _ _ => change _) alike memo context arguments

end Alike

/-- Two machines whose calls are alike, which make alike functions of definitions and keep the same
routine as corresponding closures. -/
structure Machine.Alike (Related : First → Second → Prop) (first : Machine First)
    (second : Machine Second) : Prop where
  invoke : ∀ function context arguments,
    Shorthand.Alike Related (first.invoke function context arguments)
      (second.invoke function context arguments)
  close : ∀ definition, Shorthand.Alike Related (first.close definition) (second.close definition)
  keep : ∀ closure, Related (first.keep closure) (second.keep closure)

theorem Machine.Alike.parallel {Related : First → Second → Prop} {machine : Machine First}
    {other : Machine Second} (alike : machine.Alike Related other) :
    machine.Parallel (Matching Related) other where
  invoke := alike.invoke
  answer := Shorthand.Alike.answer alike.invoke
  close := alike.close
  newClosure closure := Shorthand.Alike.newClosure (alike.keep closure)

end Shorthand
