/-
This file shows that the slots of compiled functions are in range and apart.

Slots are given out while the body of a function is still being resolved, and a name in an inner
function gives slots to all functions on the way out. So the statements are about the names that a
function has in the end: each of them has one slot, own names come first, and captured ones behind
them. The slots of the code are those of names, and the functions inside have been numbered in the
same way. From this the bounds follow for every function inside a compiled one, and no call ever
strays.
-/

import Mathlib
import Shorthand.Proofs.Slots.InRange
import Shorthand.Proofs.Slots.Once

namespace Shorthand

/-! ### Numbers of names -/

/-- What stands for what, where slots have some names: a slot for its name, and a function for a
function. -/
inductive Mention.Stands (names : List String) :
    Mention String (List String × Body) → Mention Nat Routine → Prop where
  | variable {name : String} {slot : Nat} (found : names[slot]? = some name) :
      Mention.Stands names (.variable name) (.variable slot)
  | function (function : List String × Body) (routine : Routine) :
      Mention.Stands names (.function function) (.function routine)

/-- The slots of a routine are those of different names. The own names of the function come first,
and what it captures from the names around is written behind them. -/
structure Routine.Numbers (around bound names parameters : List String) (body : Body)
    (routine : Routine) : Prop where
  distinct : names.Nodup
  count : routine.slotCount = names.length
  own : ownNames parameters body <+: names
  parameterNames : List.Forall₂ (fun name slot => names[slot]? = some name) parameters
    routine.parameterSlots
  captures : ∀ capture ∈ routine.captures, (ownNames parameters body).length ≤ capture.2 ∧
    ∃ name, around[capture.1]? = some name ∧ names[capture.2]? = some name
  apart : (routine.captures.map Prod.snd).Nodup
  mentions : List.Forall₂ (Mention.Stands names) (body.mentions (ownNames parameters body ++ bound))
    routine.body.mentions

/-- A function has slots of different names, and so have all functions inside, where some names are
around and some are in sight. -/
inductive Routine.IsNumbered :
    List String → List String → List String × Body → Routine → Prop where
  | intro {around bound names parameters : List String} {body : Body} {routine : Routine}
      (numbers : routine.Numbers around bound names parameters body)
      (inner : ∀ function inner, (.function function, .function inner) ∈
        (body.mentions (ownNames parameters body ++ bound)).zip routine.body.mentions →
          inner.IsNumbered names (ownNames parameters body ++ bound) function) :
      Routine.IsNumbered around bound (parameters, body) routine

/-! ### Lowered functions -/

/-- Different slots of different names are captured as different names. -/
theorem captured_nodup {around captured : List String} {captures : List (ℕ × ℕ)}
    (distinct : around.Nodup) (once : (captures.map Prod.fst).Nodup)
    (outer : List.Forall₂ (fun name capture => around[capture.1]? = some name) captured captures) :
    captured.Nodup := by
  induction outer with
  | nil => exact List.nodup_nil
  | @cons name capture captured captures found outer inductionHypothesis =>
    obtain ⟨other, rest⟩ := List.nodup_cons.mp once
    refine List.nodup_cons.mpr ⟨fun member => other ?_, inductionHypothesis rest⟩
    obtain ⟨again, isCapture, foundAgain⟩ := exists_beside outer.flip member
    have same : again.1 = capture.1 :=
      (List.getElem?_inj (List.getElem?_eq_some_iff.mp foundAgain).1 distinct).mp
        (foundAgain.trans found.symm)
    exact same ▸ List.mem_map_of_mem (List.of_mem_zip isCapture).1

/-- A scope that captures nothing twice has different names. -/
theorem Scope.Extends.names_nodup {own around captured : List String} {scope : Scope}
    (extension : scope.Extends own around captured) (distinctOwn : own.Nodup)
    (distinct : around.Nodup) (once : (scope.captures.map Prod.fst).Nodup) :
    scope.names.Nodup := by
  rw [extension.names, List.nodup_append]
  refine ⟨distinctOwn, captured_nodup distinct once extension.outer, ?_⟩
  rintro name isOwn _ isCaptured rfl
  exact extension.fresh name isCaptured isOwn

/-- A capture is written behind the own names, to the slot of the name that it has around. -/
theorem Scope.Extends.capture_of_mem {own around captured : List String} {scope : Scope}
    (extension : scope.Extends own around captured) {capture : ℕ × ℕ}
    (member : capture ∈ scope.captures) : own.length ≤ capture.2 ∧
      ∃ name, around[capture.1]? = some name ∧ scope.names[capture.2]? = some name := by
  obtain ⟨position, bound, rfl⟩ := List.mem_iff_getElem.mp member
  have behind : scope.captures[position].2 = own.length + position := by
    have slots := congrArg (·[position]?) extension.slots
    rw [List.getElem?_map, List.getElem?_eq_getElem bound,
      List.getElem?_range' (extension.outer.length_eq ▸ bound), Nat.one_mul] at slots
    exact Option.some.inj slots
  have isCaptured : position < captured.length := extension.outer.length_eq ▸ bound
  refine ⟨behind ▸ Nat.le_add_right _ _, captured[position], ?_, ?_⟩
  · exact (List.forall₂_iff_get.mp extension.outer).2 position isCaptured bound
  · rw [behind, extension.names, List.getElem?_append_right (Nat.le_add_right _ _),
      Nat.add_sub_cancel_left, List.getElem?_eq_getElem isCaptured]

theorem Mention.Lowers.stands {names bound : List String}
    {mention : Mention String (List String × Body)} {other : Mention Nat Routine}
    (lowers : mention.Lowers names bound other) : mention.Stands names other := by
  cases lowers with
  | «variable» found => exact .variable found
  | function _ => exact .function _ _

/-- A function that has been lowered and captures nothing twice is numbered, with all functions
inside. -/
theorem FunctionLowers.isNumbered {around bound parameters : List String} {body : Body}
    {globals : List Value} {routine : Routine} (once : routine.CapturesOnce)
    (distinct : around.Nodup)
    (lowered : FunctionLowers around bound parameters body globals routine) :
    routine.IsNumbered around bound (parameters, body) := by
  induction once generalizing around bound parameters body globals with
  | @intro routine once inner inductionHypothesis =>
    cases lowered with
    | @intro _ _ _ captured _ _ scope code label extension lowered =>
      have names : scope.names.Nodup :=
        extension.names_nodup (ownNames_nodup parameters body) distinct once
      have own : ownNames parameters body <+: scope.names := ⟨_, extension.names.symm⟩
      have apart : (scope.captures.map Prod.snd).Nodup := extension.slots ▸ List.nodup_range'
      refine .intro ⟨names, rfl, own, ?_, fun _ => extension.capture_of_mem, apart, ?_⟩ ?_
      · refine List.forall₂_map_right_iff.mpr (List.forall₂_same.mpr fun name member => ?_)
        have isOwn : name ∈ ownNames parameters body := mem_ownNames.mpr (.inl member)
        exact getElem?_of_grown own (List.getElem?_idxOf isOwn)
      · exact lowered.mentions.imp fun _ _ lowers => lowers.stands
      · intro function routine beside
        have held := (List.of_mem_zip beside).2
        cases List.forall₂_zip lowered.mentions beside with
        | function isLowered => exact inductionHypothesis routine held names isLowered

/-! ### Bounds -/

namespace Routine

/-- A function stands in the body of another one. -/
def Holds (outer inner : Routine) : Prop := .function inner ∈ outer.body.mentions

/-- All slots of a routine are smaller than its number of slots, also those that the functions in it
capture. -/
structure InRange (routine : Routine) : Prop where
  parameters : ∀ slot ∈ routine.parameterSlots, slot < routine.slotCount
  mentions : ∀ slot, .variable slot ∈ routine.body.mentions → slot < routine.slotCount
  captures : ∀ capture ∈ routine.captures, capture.2 < routine.slotCount
  captured : ∀ inner, routine.Holds inner → ∀ capture ∈ inner.captures,
    capture.1 < routine.slotCount

variable {around bound names parameters : List String} {body : Body} {routine : Routine}
  {function : List String × Body}

/-- The slot of a name is in range. -/
theorem Numbers.lt_slotCount (numbers : routine.Numbers around bound names parameters body)
    {slot : ℕ} {name : String} (found : names[slot]? = some name) : slot < routine.slotCount :=
  numbers.count ▸ (List.getElem?_eq_some_iff.mp found).1

/-- A function inside a numbered one is numbered, and captures slots in range. -/
theorem IsNumbered.holds {inner : Routine} (isNumbered : routine.IsNumbered around bound function)
    (holds : routine.Holds inner) :
    (∃ around bound function, inner.IsNumbered around bound function) ∧
      ∀ capture ∈ inner.captures, capture.1 < routine.slotCount := by
  cases isNumbered with
  | intro numbers further =>
    obtain ⟨mention, beside, stands⟩ := exists_beside numbers.mentions holds
    cases stands with
    | function function _ =>
      have isNumbered := further function inner beside
      refine ⟨⟨_, _, _, isNumbered⟩, fun capture member => ?_⟩
      cases isNumbered with
      | intro numbersInner _ =>
        obtain ⟨-, name, found, -⟩ := numbersInner.captures capture member
        exact numbers.lt_slotCount found

theorem IsNumbered.inRange (isNumbered : routine.IsNumbered around bound function) :
    routine.InRange := by
  have captured (inner : Routine) (holds : routine.Holds inner) := (isNumbered.holds holds).2
  cases isNumbered with
  | intro numbers _ =>
    refine ⟨fun slot member => ?_, fun slot member => ?_, fun capture member => ?_, captured⟩
    · obtain ⟨name, -, found⟩ := exists_beside numbers.parameterNames member
      exact numbers.lt_slotCount found
    · obtain ⟨mention, -, stands⟩ := exists_beside numbers.mentions member
      cases stands with
      | «variable» found => exact numbers.lt_slotCount found
    · obtain ⟨-, name, -, found⟩ := numbers.captures capture member
      exact numbers.lt_slotCount found

/-- All functions inside a numbered one are numbered, however deep they stand. -/
theorem IsNumbered.inside {inner : Routine} (isNumbered : routine.IsNumbered around bound function)
    (inside : Relation.ReflTransGen Holds routine inner) :
    ∃ around bound function, inner.IsNumbered around bound function := by
  induction inside with
  | refl => exact ⟨_, _, _, isNumbered⟩
  | tail _ holds inductionHypothesis =>
    obtain ⟨_, _, _, isNumbered⟩ := inductionHypothesis
    exact (isNumbered.holds holds).1

end Routine

/-! ### Compiled functions -/

/-- Compiled slots are in range and apart. A definition that is accepted becomes a function which
runs its routine and has nothing to capture. The routine and all functions inside have slots of
different names, own names first and captured ones behind them, so that no capture is written over a
parameter or a declared variable. Their slots are all smaller than the number of slots, and what a
function captures is in range around it. And where the world has come about by compiling and
calling, no call strays in a later one, however functions have been made and called by then: with
accesses checked it does the same, whatever an access out of range would do. -/
theorem compiled_slots_in_range (definition : Definition) (world compiled : World SlotClosure)
    (function : Value) (accepted : definition.compile world = (.value function, compiled)) :
    ∃ routine heap, definition.resolve world.heap = .ok (routine, heap) ∧
      compiled.Runs function ⟨routine, []⟩ ∧ routine.captures = [] ∧
      routine.IsNumbered [] [] (definition.parameters, definition.body) ∧
      (∀ inner, Relation.ReflTransGen Routine.Holds routine inner → inner.InRange) ∧
      (World.empty.Reaches world →
        ∀ (stray : Action SlotClosure Empty) (later : World SlotClosure), compiled.Reaches later →
          ∀ (depth : ℕ) (callee context : Value) (arguments : List Value),
            ((guardedEngine stray).machineWithin depth).invoke callee context arguments later =
              (slotEngine.machineWithin depth).invoke callee context arguments later) := by
  have lowered (reached : World.empty.Reaches world) : compiled.IsLowered := by
    have lowered := (reached.isLowered .empty).compile definition
    rwa [accepted] at lowered
  rw [Definition.compile] at accepted
  cases resolved : definition.resolve world.heap with
  | error error =>
    simp only [resolved] at accepted
    cases accepted
  | ok pair =>
    obtain ⟨routine, heap⟩ := pair
    simp only [resolved] at accepted
    obtain ⟨_, isLowered⟩ := Definition.lowers_of_resolve resolved
    have isNumbered := isLowered.isNumbered (Definition.resolve_once resolved) List.nodup_nil
    refine ⟨routine, heap, rfl, .ofNew accepted, isLowered.captures_eq_nil, isNumbered, ?_, ?_⟩
    · intro inner inside
      obtain ⟨_, _, _, isNumbered⟩ := isNumbered.inside inside
      exact isNumbered.inRange
    · intro reached stray later reachedLater depth callee context arguments
      have lowered := reachedLater.isLowered (lowered reached)
      exact lowered.invoke_guarded stray depth callee context arguments

/-- The function that `counterMaker` makes has one slot, for the count that it captures, and calls
do not stray. -/
theorem counterMaker_slots : ∃ function compiled routine inner,
    counterMaker.compile World.empty = (.value function, compiled) ∧
      compiled.Runs function ⟨routine, []⟩ ∧ routine.Holds inner ∧ inner.InRange ∧
      inner.captures = [(0, 0)] ∧ inner.slotCount = 1 ∧
      ∀ stray context arguments,
        ((guardedEngine stray).machineWithin callDepth).invoke function context arguments compiled =
          call function context arguments compiled := by
  have accepted : counterMaker.compile World.empty =
      (.value (.function ⟨0⟩), (counterMaker.compile World.empty).2) := rfl
  obtain ⟨routine, heap, resolved, runs, -, -, inRange, guarded⟩ :=
    compiled_slots_in_range counterMaker World.empty _ _ accepted
  have holds : ∃ inner, routine.Holds inner ∧ inner.captures = [(0, 0)] ∧ inner.slotCount = 1 := by
    cases resolved
    exact ⟨_, List.mem_singleton_self _, rfl, rfl⟩
  obtain ⟨inner, holds, captures, count⟩ := holds
  exact ⟨_, _, _, _, accepted, runs, holds, inRange _ (.single holds), captures, count,
    fun stray => guarded .here stray _ .here callDepth _⟩

end Shorthand
