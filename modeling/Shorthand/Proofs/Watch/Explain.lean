/-
This file says what a record of accesses to variables tells about their values.

An evaluation finds the value that the variable holds and changes nothing, and giving a variable a
value changes no other one. So two evaluations of a variable find one value as long as it is given
none in between, whatever else the record has there.
-/

import Mathlib
import Shorthand.Proofs.Watch.Walk

namespace Shorthand

/-- Accesses lead from what variables hold to what they hold afterwards. -/
inductive Explains :
    (VariableRef → Value) → List Access → (VariableRef → Value) → Prop where
  | nil {values : VariableRef → Value} : Explains values [] values
  | evaluated {values last : VariableRef → Value} {environment : Environment} {name : String}
    {accesses : List Access} (further : Explains values accesses last) :
    Explains values (.evaluated environment name (values (environment.cell name)) :: accesses) last
  | given {values next last : VariableRef → Value} {environment : Environment} {name : String}
    {accesses : List Access}
    (others : ∀ cell, cell ≠ environment.cell name → next cell = values cell)
    (further : Explains next accesses last) :
    Explains values (.given environment name :: accesses) last

/-- A variable is given no value among some accesses. -/
def Unchanged (cell : VariableRef) (accesses : List Access) : Prop :=
  ∀ environment name, .given environment name ∈ accesses → environment.cell name ≠ cell

namespace Explains

variable {values middle last : VariableRef → Value} {accesses further : List Access}

theorem append (explains : Explains values accesses middle) (next : Explains middle further last) :
    Explains values (accesses ++ further) last := by
  induction explains with
  | nil => exact next
  | evaluated _ inductionHypothesis => exact .evaluated (inductionHypothesis next)
  | given others _ inductionHypothesis => exact .given others (inductionHypothesis next)

/-- What variables hold between two parts of a record. -/
theorem split (explains : Explains values (accesses ++ further) last) :
    ∃ middle, Explains values accesses middle ∧ Explains middle further last := by
  induction accesses generalizing values with
  | nil => exact ⟨values, .nil, explains⟩
  | cons access rest inductionHypothesis =>
    cases explains with
    | evaluated explains =>
      obtain ⟨middle, before, after⟩ := inductionHypothesis explains
      exact ⟨middle, .evaluated before, after⟩
    | given others explains =>
      obtain ⟨middle, before, after⟩ := inductionHypothesis explains
      exact ⟨middle, .given others before, after⟩

/-- A variable that is given no value holds what it held. -/
theorem of_unchanged {cell : VariableRef} (explains : Explains values accesses last)
    (unchanged : Unchanged cell accesses) : last cell = values cell := by
  induction explains with
  | nil => rfl
  | evaluated _ inductionHypothesis =>
    exact inductionHypothesis fun environment name member =>
      unchanged environment name (List.mem_cons_of_mem _ member)
  | @given values next last environment name accesses others _ inductionHypothesis =>
    have other : cell ≠ environment.cell name :=
      (unchanged environment name List.mem_cons_self).symm
    rw [← others cell other]
    exact inductionHypothesis fun environment name member =>
      unchanged environment name (List.mem_cons_of_mem _ member)

/-- Two evaluations of a variable that is given no value in between find the same. -/
theorem evaluated_eq {environment other : Environment} {name spelling : String}
    {before between after : List Access} {first second : Value}
    (explains : Explains values (before ++ .evaluated environment name first ::
      (between ++ .evaluated other spelling second :: after)) last)
    (same : other.cell spelling = environment.cell name)
    (unchanged : Unchanged (environment.cell name) between) : second = first := by
  obtain ⟨middle, -, rest⟩ := explains.split
  cases rest with
  | evaluated rest =>
    obtain ⟨held, inBetween, rest⟩ := rest.split
    cases rest with
    | evaluated rest => rw [same, inBetween.of_unchanged unchanged]

/-- Variables of some names are given values one after the other. -/
theorem given_all {environment : Environment} (names : List String)
    (others : ∀ cell, (∀ name ∈ names, environment.cell name ≠ cell) → last cell = values cell) :
    Explains values (names.map (.given environment)) last := by
  induction names generalizing values with
  | nil =>
    obtain rfl : last = values := funext fun cell => others cell (List.forall_mem_nil _)
    exact .nil
  | cons name rest inductionHypothesis =>
    let next (cell : VariableRef) := if cell = environment.cell name then last cell else values cell
    have ofRest : Explains next (rest.map (.given environment)) last := by
      refine inductionHypothesis fun cell notRest => ?_
      show last cell = if cell = environment.cell name then last cell else values cell
      split
      · rfl
      · rename_i notFirst
        exact others cell (List.forall_mem_cons.mpr ⟨Ne.symm notFirst, notRest⟩)
    exact .given (fun cell other => if_neg other) ofRest

end Explains

end Shorthand
