/-
This file proves that the name of a variable denotes one thing.

Calls of compiled functions are compared with those that keep a record of what happens to variables.
Two evaluations of a variable come to one value as long as it is given none in between, so it makes
no difference which of them a property is written or read through. A global name is no variable:
every occurrence in a source stands for an object of its own.
-/

import Mathlib
import Shorthand.Proofs.Comparison.Swap
import Shorthand.Proofs.Index.Write
import Shorthand.Proofs.Lexical.Refinement
import Shorthand.Proofs.Memo.Tied
import Shorthand.Proofs.Number.Order
import Shorthand.Proofs.Watch.Calls

namespace Shorthand

/-! ### One value -/

/-- A value that refers to a list or a map refers to one in the heap. -/
def Value.IsThere (heap : Heap) : Value → Prop
  | .list cell => cell.index < heap.lists.size
  | .map cell => cell.index < heap.maps.size
  | _ => True

/-- What is written to a property is read there. -/
theorem readProperty_of_written {Closure : Type} {base written : Value} {name : String}
    {world after : World Closure} (isThere : base.IsThere world.heap)
    (writes : writeProperty base (.string name) written world = (.value (), after)) :
    readProperty base (.string name) after = (.value written, after) := by
  cases base with
  | map cell =>
    rw [writeProperty, Action.readIf_rawText] at writes
    cases writes
    rw [readProperty_map (Value.hasText_string _),
      Heap.readMap_changeMap isThere, Value.rawText_string, Table.get?_insert, if_pos rfl]
    rfl
  | list cell =>
    cases denotes : (Value.string name).index? with
    | none =>
      simp only [writeProperty, denotes, Action.readIf_rawText] at writes
      cases writes
    | some index =>
      have isIndex := Value.index?_eq_some.mp denotes
      rw [writeProperty_index isIndex] at writes
      rcases Nat.lt_or_ge ((world.heap.readList cell).size + 65536) index with far | near
      · rw [writeElement_far far] at writes
        cases writes
      · rw [writeElement_near near] at writes
        cases writes
        rw [readProperty_list isIndex, Heap.elementAt, Array.getD_eq_getD_getElem?,
          (writtenAt isThere index written).written]
        rfl
  | _ =>
    simp only [writeProperty] at writes
    rw [Action.readIf_bind (Value.hasText_string _)] at writes
    cases writes

/-- Two values that cannot be told apart: they are the same unless they are not a number, and what
is written to a property of the first is read from the second. -/
structure Value.Interchangeable (first second : Value) : Prop where
  same : (∀ number, first = .number number → number.IsReal) → first.same second = true
  property : ∀ (name : String) (written : Value) (world after : World SlotClosure),
    first.IsThere world.heap →
      writeProperty first (.string name) written world = (.value (), after) →
        readProperty second (.string name) after = (.value written, after)

theorem Value.Interchangeable.refl (value : Value) : value.Interchangeable value where
  same real := by
    by_cases isFloat : ∃ float, value = .number (.float float)
    · obtain ⟨float, rfl⟩ := isFloat
      have isNumber : float.isNaN = false := real _ rfl
      exact (float_beq_iff isNumber isNumber).mpr rfl
    · exact Value.same_self fun float same => isFloat ⟨float, same⟩
  property _ _ _ _ := readProperty_of_written

/-- Two evaluations of a variable among some accesses come to one value if it is given none in
between. -/
def EvaluationsAgree (accesses : List Access) : Prop :=
  ∀ before between after environment other name first second,
    accesses = before ++ .evaluated environment name first ::
      (between ++ .evaluated other name second :: after) →
    other.cell name = environment.cell name → Unchanged (environment.cell name) between →
      second = first ∧ first.Interchangeable second

theorem Explains.evaluationsAgree {values last : VariableRef → Value} {accesses : List Access}
    (explains : Explains values accesses last) : EvaluationsAgree accesses := by
  rintro before between after environment other name first second rfl same unchanged
  obtain rfl := explains.evaluated_eq same unchanged
  exact ⟨rfl, .refl second⟩

/-! ### Global names -/

/-- A value is an object that was not there in a heap. -/
def Value.IsMadeAfter (heap : Heap) : Value → Prop
  | .map cell => heap.maps.size ≤ cell.index
  | .function cell => heap.functions.size ≤ cell.index
  | _ => False

theorem Value.IsMadeAfter.ofGrows {old new : Heap} {value : Value} (isMade : value.IsMadeAfter new)
    (grows : old.Grows new) : value.IsMadeAfter old := by
  cases value with
  | map cell => exact grows.maps.length_le.trans isMade
  | function cell => exact grows.functions.length_le.trans isMade
  | _ => exact isMade

/-- The value for an occurrence of a global name is a new object, and later ones are others. -/
theorem Heap.newGlobal_isMade {heap middle : Heap} {name : String} {value : Value}
    (made : heap.newGlobal? name = some (value, middle)) :
    value.IsMadeAfter heap ∧
      ∀ other : Value, other.IsMadeAfter middle → value.same other = false := by
  rw [Heap.newGlobal?] at made
  split at made
  · obtain ⟨after, isMathematics, size⟩ := heap.newMathematics_eq
    rw [isMathematics] at made
    cases made
    refine ⟨Nat.le_refl _, fun other isMade => ?_⟩
    cases other with
    | map cell =>
      refine beq_eq_false_iff_ne.mpr fun same => ?_
      obtain rfl := same
      have isMade : middle.maps.size ≤ heap.maps.size := isMade
      omega
    | _ => rfl
  · split at made
    · cases made
      refine ⟨Nat.le_refl _, fun other isMade => ?_⟩
      cases other with
      | function cell =>
        refine beq_eq_false_iff_ne.mpr fun same => ?_
        obtain rfl := same
        have isMade : (heap.functions.push _).size ≤ heap.functions.size := isMade
        rw [Array.size_push] at isMade
        omega
      | _ => rfl
    · cases made

/-- Every use of a global name is supplied with another object. -/
theorem supply_distinct {code : String} {uses : List Use} {heap new : Heap} {values : List Value}
    (supplied : supply code uses heap = .ok (values, new)) :
    (∀ value ∈ values, value.IsMadeAfter heap) ∧
      values.Pairwise fun first second => first.same second = false := by
  induction uses generalizing heap values with
  | nil =>
    cases supplied
    exact ⟨List.forall_mem_nil _, .nil⟩
  | cons use rest inductionHypothesis =>
    cases use with
    | assign name => cases supplied
    | read name =>
      cases made : heap.newGlobal? name with
      | none =>
        simp only [supply, made] at supplied
        cases supplied
      | some pair =>
        obtain ⟨value, middle⟩ := pair
        simp only [supply, made] at supplied
        obtain ⟨⟨others, last⟩, further, same⟩ := except_bind_eq_ok.mp supplied
        cases same
        obtain ⟨isMade, differs⟩ := Heap.newGlobal_isMade made
        obtain ⟨areMade, distinct⟩ := inductionHypothesis further
        refine ⟨List.forall_mem_cons.mpr ⟨isMade, fun other member =>
          (areMade other member).ofGrows (.newGlobal made)⟩, .cons (fun other member =>
          differs other (areMade other member)) distinct⟩

/-! ### Compiled functions -/

/-- A definition that becomes a function with names becomes one with a record. -/
theorem Definition.keepWatched_eq {definition : Definition} {start : World WatchedClosure}
    {function : Value} {reference : World NameClosure} (named : start.IsNamed)
    (kept : definition.keepNames start.forget = (.value function, reference)) :
    ∃ globals heap watched,
      supply definition.label definition.uses start.heap = .ok (globals, heap) ∧
      definition.keepWatched start = (.value function, watched) ∧
      Action.newClosure ⟨.names definition.parameters definition.body [] globals, []⟩
        definition.parameters.length definition.label { start with heap } =
          (.value function, watched) ∧
      watched.forget = reference ∧ watched.IsWatched := by
  obtain ⟨globals, heap, supplied, made⟩ := Definition.keepNames_eq kept
  have forgets := World.forget_newClosure
    ⟨.names definition.parameters definition.body [] globals, []⟩ definition.parameters.length
    definition.label { start with heap }
  have isWatched := (show World.IsNamed { start with heap } from named).newClosure
    definition.parameters definition.body [] globals definition.parameters.length definition.label
  generalize isMade : Action.newClosure
    ⟨.names definition.parameters definition.body [] globals, []⟩ definition.parameters.length
    definition.label { start with heap } = reply at forgets isWatched
  obtain ⟨outcome, watched⟩ := reply
  obtain ⟨sameFunction, sameWorld⟩ := Prod.mk.inj (made.symm.trans forgets)
  obtain rfl : Outcome.value function = outcome := sameFunction
  refine ⟨globals, heap, watched, supplied, ?_, isMade, sameWorld.symm, isWatched⟩
  have supplied : supply definition.label definition.uses start.heap = .ok (globals, heap) :=
    supplied
  rw [Definition.keepWatched]
  simp only [supplied]
  exact isMade

/-- The name of a variable denotes one thing. A definition that is compiled also becomes a function
that walks its tree with a record, which is the same value of the same heap. At every depth of calls
and in all matching worlds, a call of any function does the same with a record as without one, and
among the accesses that it records, all evaluations of a variable come to one value as long as the
variable is given none in between. The occurrences of global names stand for objects of which no two
are the same. -/
theorem name_denotes_one_thing (definition : Definition) (world compiled : World SlotClosure)
    (function : Value) (start : World WatchedClosure)
    (matching : Matching Represents world start.forget) (named : start.IsNamed)
    (accepted : definition.compile world = (.value function, compiled)) :
    ∃ (globals : List Value) (heap : Heap) (watched : World WatchedClosure),
      supply definition.label definition.uses start.heap = .ok (globals, heap) ∧
      globals.Pairwise (fun first second => first.same second = false) ∧
      definition.keepWatched start = (.value function, watched) ∧
      Matching Represents compiled watched.forget ∧ watched.IsWatched ∧
      (∀ (depth : ℕ) (context : Value) (arguments : List Value),
        (watchedEngine.machineWithin (depth + 1)).invoke function context arguments watched =
          (do
            let scene ← Scene.begin definition.parameters definition.body [] globals context
              arguments
            definition.body.watch (watchedEngine.machineWithin depth) scene) watched) ∧
      ∀ (depth : ℕ) (callee context : Value) (arguments : List Value) (before : World SlotClosure)
          (counterpart : World WatchedClosure), Matching Represents before counterpart.forget →
        counterpart.IsWatched →
        let reply := (slotEngine.machineWithin depth).invoke callee context arguments before
        let answer :=
          (watchedEngine.machineWithin depth).invoke callee context arguments counterpart
        reply.1 = answer.1 ∧ Matching Represents reply.2 answer.2.forget ∧ answer.2.IsWatched ∧
          ∃ accesses, answer.2.record = counterpart.record ++ accesses ∧
            EvaluationsAgree accesses := by
  obtain ⟨sameFunction, matchingAfter⟩ := definition.compile_alike _ _ matching
  rw [accepted] at sameFunction matchingAfter
  generalize kept : definition.keepNames start.forget = reply at sameFunction matchingAfter
  obtain ⟨_, reference⟩ := reply
  obtain rfl : Outcome.value function = _ := sameFunction
  obtain ⟨globals, heap, watched, supplied, keptWatched, made, rfl, isWatched⟩ :=
    Definition.keepWatched_eq named kept
  refine ⟨globals, heap, watched, supplied, (supply_distinct supplied).2, keptWatched,
    matchingAfter, isWatched, fun depth context arguments => ?_, ?_⟩
  · exact watchedEngine.invoke_newClosure made depth context arguments
  · intro depth callee context arguments before counterpart matching isWatched
    obtain ⟨sameOutcome, matchingAfter⟩ := (slotEngine_alike.machineWithin depth).invoke callee
      context arguments before counterpart.forget matching
    obtain ⟨sameToo, forget, stays, accesses, record, explains⟩ :=
      (watchedEngine_parallel counterpart depth).invoke callee context arguments _ _
        (.refl isWatched)
    exact ⟨sameOutcome.trans sameToo, forget ▸ matchingAfter, stays, accesses, record,
      explains.evaluationsAgree⟩

/-- A function that makes a list with its argument twice. -/
def pairMaker : Definition where
  parameters := ["item"]
  body := .expression (.array [.variable "item", .variable "item"])
  label := "item => [item, item]"

theorem World.forget_empty : (World.empty : World WatchedClosure).forget = World.empty :=
  congrArg (World.mk Heap.empty) Array.map_empty

/-- The record of a call says that the variable gets its value and is evaluated twice. -/
theorem pairMaker_evaluates_twice : ∃ function compiled watched accesses,
    pairMaker.compile World.empty = (.value function, compiled) ∧
      Matching Represents compiled (World.forget watched) ∧
      ((watchedEngine.machineWithin 1).invoke function .undefined [.null] watched).2.record =
        watched.record ++ accesses ∧
      accesses = [.given [("item", ⟨0⟩)] "item", .evaluated [("item", ⟨0⟩)] "item" .null,
        .evaluated [("item", ⟨0⟩)] "item" .null] ∧
      EvaluationsAgree accesses := by
  have accepted : pairMaker.compile World.empty =
      (.value (.function ⟨0⟩), (pairMaker.compile World.empty).2) := rfl
  have start : Matching Represents World.empty (World.forget World.empty) := by
    rw [World.forget_empty]
    exact ⟨rfl, .nil⟩
  have named : (World.empty : World WatchedClosure).IsNamed := by
    rw [World.IsNamed, World.forget_empty]
    exact fun _ member => absurd member (Array.not_mem_empty _)
  obtain ⟨_, _, watched, -, -, kept, matching, isWatched, -, calls⟩ :=
    name_denotes_one_thing pairMaker World.empty _ _ World.empty start named accepted
  obtain ⟨-, -, -, accesses, record, agree⟩ :=
    calls 1 (.function ⟨0⟩) .undefined [.null] _ watched matching isWatched
  obtain rfl : (pairMaker.keepWatched World.empty).2 = watched := congrArg Prod.snd kept
  exact ⟨_, _, _, accesses, accepted, matching, record, record.symm, agree⟩

/-- Whether an evaluation comes to a value that is the same as a given one. -/
def Outcome.comesTo (outcome : Outcome Value) (expected : Value) : Bool :=
  match outcome with
  | .value found => found.same expected
  | _ => false

/-- A mark on one occurrence of a global name is not seen on another one, since these are not the
same. It is seen on all occurrences of a variable. -/
theorem mark_of_global_name_lost :
    (evaluate "Math === Math" World.empty).1.comesTo (.boolean false) = true ∧
    (evaluate "Math.x = 1; return Math.x" World.empty).1.comesTo .undefined = true ∧
    (evaluate "var m = Math; m.x = 1; return m.x" World.empty).1.comesTo (.ofInt 1) = true := by
  decide +kernel

end Shorthand
