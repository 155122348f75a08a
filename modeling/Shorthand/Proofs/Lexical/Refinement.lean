/-
This file shows that functions with slots refine functions with names.

A definition becomes a function in both ways or is refused in both, with the same error. From then
on the two ways cannot be told apart: begun in matching worlds, a call ends in the same way at
every depth of calls and leaves the same heap. Only one point is a matter of choice: every
occurrence of a global name stands for an object of its own, made when the source is compiled.
-/

import Mathlib
import Shorthand.Proofs.Lexical.Resolution
import Shorthand.Proofs.Lexical.Simulation
import Shorthand.Proofs.World.Runs

namespace Shorthand

/-! ### Making functions -/

/-- A function that stands alone has nothing to capture. -/
theorem FunctionLowers.captures_eq_nil {parameters : List String} {body : Body}
    {globals : List Value} {routine : Routine}
    (lowered : FunctionLowers [] [] parameters body globals routine) : routine.captures = [] := by
  cases lowered with
  | intro extension lowered =>
    have outer := extension.outer
    generalize Scope.captures _ = captures at outer
    cases outer with
    | nil => rfl
    | cons found _ => cases found

/-- A definition becomes a function with slots and one with names, or it is refused with the same
error. -/
theorem Definition.compile_alike (definition : Definition) :
    Alike Represents definition.compile definition.keepNames := by
  rintro ⟨heap, closures⟩ ⟨_, others⟩ ⟨rfl, corresponding⟩
  have resolved := definition.resolves heap
  rw [Definition.compile, Definition.keepNames]
  cases supplied : supply definition.label definition.uses heap with
  | error error =>
    rw [supplied] at resolved
    simp only [resolved]
    exact ⟨trivial, rfl, corresponding⟩
  | ok pair =>
    obtain ⟨globals, supply⟩ := pair
    rw [supplied] at resolved
    obtain ⟨routine, same, label, lowered⟩ := resolved
    have shows : Frame.Shows [] [] globals ⟨.undefined, [], #[]⟩ ⟨.undefined, [], [], globals⟩ :=
      ⟨rfl, rfl, fun found => (nomatch found), rfl, List.prefix_refl _⟩
    have represents := Represents.names lowered shows
    rw [lowered.captures_eq_nil] at represents
    simp only [same, ← label, ← lowered.arity]
    exact Alike.newClosure represents _ _ _ _ ⟨rfl, corresponding⟩

/-- Functions with slots and functions with names are made, kept and run alike. -/
theorem slotEngine_alike : slotEngine.Alike Represents namedEngine where
  close := Definition.compile_alike
  keep := .slots
  run machines kept _ _ _ context arguments represents :=
    represents.alike machines kept context arguments

/-- A new function runs its closure. -/
theorem Engine.invoke_newClosure {Closure : Type} (engine : Engine Closure) {closure : Closure}
    {arity : Nat} {label : String} {world after : World Closure} {function : Value}
    (made : Action.newClosure closure arity label world = (.value function, after)) (depth : Nat)
    (context : Value) (arguments : List Value) :
    (engine.machineWithin (depth + 1)).invoke function context arguments after =
      engine.run (engine.machineWithin depth) closure context arguments after :=
  (World.Runs.ofNew made).invoke engine depth context arguments

/-! ### Calling them -/

/-- The world in which every closure is kept as it is. -/
def World.byNames (world : World SlotClosure) : World NameClosure :=
  ⟨world.heap, world.closures.map .slots⟩

theorem World.matching_byNames (world : World SlotClosure) :
    Matching Represents world world.byNames where
  heap := rfl
  closures := by
    rw [World.byNames, Array.toList_map, List.forall₂_map_right_iff]
    exact List.forall₂_same.mpr fun closure _ => .slots closure

/-- A function with names carries the tree of its definition and the values of the names left to
its surroundings. -/
theorem Definition.keepNames_eq {definition : Definition} {world after : World NameClosure}
    {function : Value} (kept : definition.keepNames world = (.value function, after)) :
    ∃ globals heap, supply definition.label definition.uses world.heap = .ok (globals, heap) ∧
      Action.newClosure (.names definition.parameters definition.body [] globals)
        definition.parameters.length definition.label { world with heap } =
          (.value function, after) := by
  unfold Definition.keepNames at kept
  cases supplied : supply definition.label definition.uses world.heap with
  | error error =>
    simp only [supplied, Prod.mk.injEq, reduceCtorEq, false_and] at kept
  | ok pair =>
    simp only [supplied] at kept
    exact ⟨pair.1, pair.2, rfl, kept⟩

/-- A compiled function does what its tree does. Whatever the world was before, the definition also
becomes a function with names, which is the same value of the same heap. In all matching worlds, at
every depth of calls, with every context and all arguments, calls of the two end in the same way
and leave matching worlds, so one exhausts every depth just if the other does. The function with
names walks the tree of the definition, with one value for every use of a global name. -/
theorem compiled_function_walks_tree (definition : Definition) (world compiled : World SlotClosure)
    (function : Value) (accepted : definition.compile world = (.value function, compiled)) :
    ∃ (reference : World NameClosure) (globals : List Value),
      definition.keepNames world.byNames = (.value function, reference) ∧
      Matching Represents compiled reference ∧
      (∀ (depth : Nat) (context : Value) (arguments : List Value) (before : World SlotClosure)
          (counterpart : World NameClosure), Matching Represents before counterpart →
        let reply := (slotEngine.machineWithin depth).invoke function context arguments before
        let answer :=
          (namedEngine.machineWithin depth).invoke function context arguments counterpart
        reply.1 = answer.1 ∧ reply.2.heap = answer.2.heap ∧
          Matching Represents reply.2 answer.2) ∧
      ∀ (depth : Nat) (context : Value) (arguments : List Value),
        (namedEngine.machineWithin (depth + 1)).invoke function context arguments reference =
          (do
            let scene ← Scene.enter definition.parameters definition.body [] globals context
              arguments
            definition.body.walk (namedEngine.machineWithin depth) scene) reference := by
  have made := definition.compile_alike _ _ world.matching_byNames
  rw [accepted] at made
  obtain ⟨sameFunction, matching⟩ := made
  have calls := fun (depth : Nat) (context : Value) (arguments : List Value)
      (before : World SlotClosure) (counterpart : World NameClosure) matching =>
    (slotEngine_alike.machineWithin depth).invoke function context arguments before counterpart
      matching
  generalize kept : definition.keepNames world.byNames = reply at sameFunction matching
  obtain ⟨_, reference⟩ := reply
  obtain rfl : Outcome.value function = _ := sameFunction
  obtain ⟨globals, _, _, closureMade⟩ := Definition.keepNames_eq kept
  refine ⟨reference, globals, rfl, matching, ?_, fun depth => ?_⟩
  · intro depth context arguments before counterpart matching
    obtain ⟨same, matchingAfter⟩ := calls depth context arguments before counterpart matching
    exact ⟨same, matchingAfter.heap, matchingAfter⟩
  · exact namedEngine.invoke_newClosure closureMade depth

/-- A function that makes functions which count up a shared variable. -/
def counterMaker : Definition where
  parameters := ["count"]
  body := .expression (.function [] (.expression (.assign (some .add) (.variable "count")
    (.literal (.number (.integer 1))))) "count += 1")
  label := "count => () => count += 1"

/-- It is accepted, so the engine with names makes a function that represents it. -/
theorem counterMaker_walks_tree : ∃ function compiled,
    counterMaker.compile World.empty = (.value function, compiled) ∧
      ∃ reference, counterMaker.keepNames World.empty.byNames = (.value function, reference) ∧
        Matching Represents compiled reference := by
  have accepted : counterMaker.compile World.empty =
      (.value (.function ⟨0⟩), (counterMaker.compile World.empty).2) := rfl
  obtain ⟨reference, _, kept, matching, _⟩ :=
    compiled_function_walks_tree counterMaker World.empty _ _ accepted
  exact ⟨_, _, accepted, reference, kept, matching⟩

/-! ### Global names -/

theorem Heap.addMathematics_maps (functions : List MathFunction) (heap : Heap)
    (table : Table Value) : (heap.addMathematics table functions).2.maps = heap.maps := by
  induction functions generalizing heap table with
  | nil => rfl
  | cons function rest inductionHypothesis =>
    rw [Heap.addMathematics]
    exact inductionHypothesis _ _

/-- The object of mathematics is a new map. -/
theorem Heap.newMathematics_eq (heap : Heap) :
    ∃ after, heap.newMathematics = (.map ⟨heap.maps.size⟩, after) ∧
      after.maps.size = heap.maps.size + 1 := by
  have maps := Heap.addMathematics_maps MathFunction.all heap Table.empty
  rw [Heap.newMathematics]
  generalize heap.addMathematics Table.empty MathFunction.all = made at maps
  obtain ⟨table, middle⟩ := made
  have maps : middle.maps = heap.maps := maps
  refine ⟨(middle.newMap (table.insert "PI" (.number (.float circleRatio)))).2, ?_, ?_⟩
  · rw [← maps]
    rfl
  · rw [← maps]
    exact Array.size_push _

/-- Two uses of the object of mathematics are supplied with two maps. -/
theorem supply_mathematics_twice (code : String) (heap : Heap) :
    ∃ after, supply code [.read "Math", .read "Math"] heap =
      .ok ([.map ⟨heap.maps.size⟩, .map ⟨heap.maps.size + 1⟩], after) := by
  obtain ⟨middle, first, size⟩ := heap.newMathematics_eq
  obtain ⟨after, second, _⟩ := middle.newMathematics_eq
  refine ⟨after, ?_⟩
  simp only [supply, Heap.newGlobal?, if_true, first, second, size]
  rfl

/-- A function that compares the object of mathematics with itself. -/
def sameMathematics : Definition where
  parameters := []
  body := .expression (.binary .same (.variable "Math") (.variable "Math"))
  label := "Math === Math"

theorem sameMathematics_run (machine : Machine NameClosure) (first second : MapRef)
    (world : World NameClosure) :
    (NameClosure.run machine (.names [] sameMathematics.body [] [.map first, .map second])
      .undefined [] world).1 = .value (.boolean (first == second)) := rfl

/-- Every occurrence of a global name is an object of its own: a comparison of two occurrences is
false, while it would be true of any one object that both of them denoted. -/
theorem occurrences_of_global_differ :
    ∃ definition, Definition.parseProgram "Math === Math" = .ok definition ∧
      (∃ function compiled, definition.compile World.empty = (.value function, compiled) ∧
        (call function .undefined [] compiled).1 = .value (.boolean false)) ∧
      ∀ (machine : Machine NameClosure) (math : MapRef) (world : World NameClosure),
        (NameClosure.run machine
          (.names definition.parameters definition.body [] [.map math, .map math])
          .undefined [] world).1 = .value (.boolean true) := by
  obtain ⟨after, supplied⟩ := supply_mathematics_twice "Math === Math" Heap.empty
  have supplied : supply sameMathematics.label sameMathematics.uses World.empty.byNames.heap =
      .ok ([.map ⟨0⟩, .map ⟨1⟩], after) := supplied
  obtain ⟨reference, made⟩ : ∃ reference : World NameClosure,
      Action.newClosure (.names [] sameMathematics.body [] [.map ⟨0⟩, .map ⟨1⟩]) 0 "Math === Math"
        ⟨after, World.empty.byNames.closures⟩ =
          (.value (.function ⟨after.functions.size⟩), reference) := ⟨_, rfl⟩
  have kept : sameMathematics.keepNames World.empty.byNames =
      (.value (.function ⟨after.functions.size⟩), reference) := by
    unfold Definition.keepNames
    simp only [supplied]
    exact made
  have alike := sameMathematics.compile_alike _ _ World.empty.matching_byNames
  rw [kept] at alike
  generalize accepted : sameMathematics.compile World.empty = reply at alike
  obtain ⟨_, compiled⟩ := reply
  obtain ⟨rfl, matching⟩ := alike
  refine ⟨sameMathematics, by cbv, ⟨_, compiled, accepted, ?_⟩, fun machine math world => ?_⟩
  · have same := (slotEngine_alike.machineWithin callDepth).invoke
      (.function ⟨after.functions.size⟩) .undefined [] compiled reference matching
    refine same.1.trans ?_
    rw [show callDepth = 999999 + 1 from rfl, namedEngine.invoke_newClosure made]
    exact sameMathematics_run _ _ _ _
  · rw [← beq_self_eq_true math]
    exact sameMathematics_run machine math math world

end Shorthand
