/-
This file says which actions leave the lists and maps alone that are there before.

An action may add lists and maps. Whatever it comes to, the old ones hold what they held. A list
that is made on the way is none of them, so writing to it later does not show in any of them.
-/

import Mathlib
import Shorthand.Proofs.Alike.Basic
import Shorthand.Proofs.Traverse.Callback
import Shorthand.Proofs.World.Adds

namespace Shorthand

variable {Closure α β : Type}

/-! ### Heaps -/

/-- The lists and maps of a heap are there in another one and hold what they held. -/
structure Heap.Spares (old new : Heap) : Prop where
  lists : old.lists.toList <+: new.lists.toList
  maps : old.maps.toList <+: new.maps.toList

/-- A value is a list that was not there in an old heap and is there in a new one. -/
def Heap.IsNewList (old new : Heap) (value : Value) : Prop :=
  ∃ cell, value = .list cell ∧ old.lists.size ≤ cell.index ∧ cell.index < new.lists.size

namespace Heap.Spares

variable {old middle new : Heap}

theorem refl (heap : Heap) : heap.Spares heap := ⟨List.prefix_refl _, List.prefix_refl _⟩

theorem trans (spares : old.Spares middle) (further : middle.Spares new) : old.Spares new :=
  ⟨spares.lists.trans further.lists, spares.maps.trans further.maps⟩

theorem ofGrows (grows : old.Grows new) : old.Spares new :=
  ⟨by rw [grows.lists], grows.maps⟩

theorem size_le (spares : old.Spares new) : old.lists.size ≤ new.lists.size :=
  spares.lists.length_le

theorem newList (heap : Heap) (items : Array Value) : heap.Spares (heap.newList items).2 :=
  ⟨⟨[items], Array.toList_push.symm⟩, List.prefix_refl _⟩

/-- Writing to a list that was not there before does not show in those that were. -/
theorem changeList {cell : ListRef} (spares : old.Spares new)
    (isNew : old.lists.size ≤ cell.index) (change : Array Value → Array Value) :
    old.Spares (new.changeList cell change) := by
  refine ⟨?_, spares.maps⟩
  obtain ⟨added, same⟩ := spares.lists
  rw [Heap.changeList, Array.toList_modify, ← same, List.modify_eq_take_drop, List.take_append,
    List.take_of_length_le isNew, List.append_assoc]
  exact List.prefix_append _ _

end Heap.Spares

theorem Heap.IsNewList.mono {old middle new : Heap} {value : Value}
    (isNew : old.IsNewList middle value) (spares : middle.Spares new) :
    old.IsNewList new value := by
  obtain ⟨cell, isList, bound, isCell⟩ := isNew
  exact ⟨cell, isList, bound, isCell.trans_le spares.size_le⟩

theorem Heap.IsNewList.after {old middle new : Heap} {value : Value}
    (isNew : middle.IsNewList new value) (spares : old.Spares middle) :
    old.IsNewList new value := by
  obtain ⟨cell, isList, bound, isCell⟩ := isNew
  exact ⟨cell, isList, spares.size_le.trans bound, isCell⟩

theorem World.Adds.spares {old new : World Closure} (adds : old.Adds new) :
    old.heap.Spares new.heap := ⟨adds.lists, adds.maps⟩

/-! ### Actions -/

/-- Whatever an action comes to in a world, it leaves the lists and maps of the world alone. -/
def Action.Spares (action : Action Closure α) (world : World Closure) : Prop :=
  world.heap.Spares (action world).2.heap

/-- If an action in a world succeeds, its value is a new list. -/
def Action.YieldsNewList (action : Action Closure Value) (world : World Closure) : Prop :=
  ∀ value after, action world = (.value value, after) → world.heap.IsNewList after.heap value

namespace Action

variable {world : World Closure}

theorem Spares.ofSame {action other : Action Closure α} (spares : other.Spares world)
    (same : action world = other world) : action.Spares world := by
  rw [Action.Spares, same]
  exact spares

theorem Spares.bind {work : Action Closure α} {next : α → Action Closure β}
    (spares : work.Spares world)
    (others : ∀ value middle, work world = (.value value, middle) → (next value).Spares middle) :
    (work >>= next).Spares world := by
  rcases runs : work world with ⟨value | failure | _, middle⟩
  · have through : world.heap.Spares middle.heap := by
      rw [Action.Spares, runs] at spares
      exact spares
    rw [Action.Spares, Action.bind_value runs]
    exact through.trans (others value middle runs)
  · rw [Action.Spares, Action.bind_failure runs]
    rwa [Action.Spares, runs] at spares
  · rw [Action.Spares, Action.bind_exhausted runs]
    rwa [Action.Spares, runs] at spares

theorem Spares.done (value : α) (world : World Closure) :
    (Action.done value : Action Closure α).Spares world := .refl _

theorem Spares.read (view : Heap → α) (world : World Closure) :
    (Action.read view).Spares world := .refl _

theorem readIf_world (ends : Heap → Bool) (view : Heap → α) (world : World Closure) :
    (readIf ends view world).2 = world := by
  rw [readIf]
  split <;> rfl

theorem Spares.readIf (ends : Heap → Bool) (view : Heap → α) (world : World Closure) :
    (Action.readIf ends view).Spares world := by
  rw [Action.Spares, readIf_world]
  exact .refl _

theorem Spares.newList (items : Array Value) (world : World Closure) :
    (Action.newList items).Spares world := Heap.Spares.newList world.heap items

theorem Spares.fold {σ : Type} {step : σ → Nat → Action Closure σ}
    (steps : ∀ state index world, (step state index).Spares world) (indices : List Nat) (state : σ)
    (world : World Closure) : (Action.fold step indices state).Spares world := by
  induction indices generalizing state world with
  | nil => exact .refl _
  | cons index rest inductionHypothesis =>
    exact (steps state index world).bind fun state middle _ => inductionHypothesis state middle

theorem yieldsNewList_newList (items : Array Value) (world : World Closure) :
    (Action.newList items).YieldsNewList world := by
  rintro _ _ ⟨⟩
  exact ⟨_, rfl, Nat.le_refl _, by simp⟩

/-- A list that is made after something else is new as well. -/
theorem Spares.bind_yields {work : Action Closure α} {next : α → Action Closure Value}
    (spares : work.Spares world)
    (others : ∀ value middle, work world = (.value value, middle) →
      (next value).YieldsNewList middle) : (work >>= next).YieldsNewList world := by
  intro value after yields
  rcases runs : work world with ⟨first | failure | _, middle⟩
  · rw [Action.bind_value runs] at yields
    rw [Action.Spares, runs] at spares
    exact (others first middle runs value after yields).after spares
  · rw [Action.bind_failure runs] at yields
    cases yields
  · rw [Action.bind_exhausted runs] at yields
    cases yields

/-- Lists that are made one after the other are new. -/
theorem fold_newLists {parts : Nat → Array Value} {indices : List Nat} {old : Heap}
    {earlier values : Array Value} {after : World Closure} (spares : old.Spares world.heap)
    (areNew : ∀ value ∈ earlier, old.IsNewList world.heap value)
    (runs : Action.fold (fun values index => Action.andThen (Action.newList (parts index))
      fun value => Action.done (values.push value)) indices earlier world =
        (.value values, after)) :
    ∀ value ∈ values, old.IsNewList after.heap value := by
  induction indices generalizing earlier world with
  | nil =>
    cases runs
    exact areNew
  | cons index rest inductionHypothesis =>
    have step := Heap.Spares.newList world.heap (parts index)
    refine inductionHypothesis (spares.trans step) (fun value member => ?_) runs
    rcases Array.mem_push.mp member with isEarlier | rfl
    · exact (areNew value isEarlier).mono step
    · exact (yieldsNewList_newList (parts index) world _ _ rfl).after spares

end Action

end Shorthand
