/-
This file shows that the operations that ask a predicate agree with each other.

All elements pass a predicate just if none passes its negation, and some element passes just if the
search for one finds a position. In each case both ask the same and fail alike, whatever the
predicate does to the world. What a predicate without effects keeps and what its negation keeps are
all elements together, and the searches find the first and the last one that is kept.
-/

import Shorthand.Proofs.Formula.Compute
import Shorthand.Proofs.Traverse.Negation
import Shorthand.Proofs.Traverse.Steady
import Shorthand.Proofs.World.Runs

namespace Shorthand

variable {Closure : Type}

namespace Sequence

/-! ### Predicates without effects -/

/-- A function is a predicate on a list if calling it with an element and its index does nothing but
add cells, and its answer is what a test of the index says. -/
def IsPredicate (machine : Machine Closure) (function context : Value) (items : Array Value)
    (world : World Closure) (holds : ℕ → Bool) : Prop :=
  ∀ before, world.Adds before → ∀ index < items.size, ∃ answer after,
    machine.invoke function context [items.getD index .undefined, .ofInt index] before =
      (.value answer, after) ∧ answer.truthy = holds index ∧ before.Adds after

namespace IsPredicate

variable {world before : World Closure} {list : ListRef} {function negation context : Value}
  {items : Array Value} {holds : ℕ → Bool}

/-- A negation is the opposite predicate. -/
theorem negated {engine : Engine Closure} {depth : ℕ}
    (isPredicate : IsPredicate (engine.machineWithin depth) function context items world holds)
    (negates : world.heap.Negates negation function) :
    IsPredicate (engine.machineWithin (depth + 1)) negation context items world
      fun index => !holds index := by
  intro before adds index bound
  obtain ⟨answer, after, gives, truthy, addsAfter⟩ := isPredicate before adds index bound
  refine ⟨answer.opposite, after, ?_, congrArg not truthy, addsAfter⟩
  rw [(negates.mono adds.functions).invoke, gives]
  rfl

theorem judges {machine : Machine Closure}
    (isPredicate : IsPredicate machine function context items world holds)
    (isList : before.heap.readList list = items) (adds : world.Adds before) :
    Judges machine before.Adds function context list before.heap holds := by
  intro later addsLater index bound
  rw [isList] at bound
  obtain ⟨answer, after, gives, truthy, addsAfter⟩ :=
    isPredicate later (adds.trans addsLater) index bound
  rw [Heap.elementAt, isList]
  exact ⟨answer, after, gives, truthy, addsLater.trans addsAfter⟩

end IsPredicate

/-- The indices below a length that pass a test. -/
def chosen (length : ℕ) (holds : ℕ → Bool) : List ℕ := (List.range length).filter holds

/-- Each index passes a test or its opposite. -/
theorem chosen_perm (length : ℕ) (holds : ℕ → Bool) :
    (chosen length holds ++ chosen length fun index => !holds index).Perm
      (List.range length) :=
  List.filter_append_perm holds (List.range length)

theorem chosen_sublist (length : ℕ) (holds : ℕ → Bool) :
    (chosen length holds).Sublist (List.range length) := List.filter_sublist

theorem find?_isNone_eq (length : ℕ) (holds : ℕ → Bool) :
    ((List.range length).find? fun index => !holds index).isNone =
      decide ((chosen length holds).length = length) := by
  have all := List.length_filter_eq_length_iff (p := holds) (l := List.range length)
  rw [List.length_range] at all
  rw [chosen, Bool.eq_iff_iff, decide_eq_true_iff, all, Option.isNone_iff_eq_none,
    List.find?_eq_none]
  simp only [Bool.not_eq_eq_eq_not, Bool.not_true, Bool.not_eq_false]

end Sequence

open Sequence

namespace Traverse

/-- What the operations come to for a predicate that keeps the elements at some indices and whose
negation keeps those at others. -/
structure Selects (depth : ℕ) (list : ListRef) (items : Array Value) (context : Option Value)
    (function negation : Value) (kept dropped : List ℕ) (world : World SlotClosure) : Prop where
  filter : ∃ made last, ((filter context).run (slotEngine.machineWithin depth) (.list list)
    function).Makes world (kept.map (items.getD · .undefined)) made last
  filterNegation : ∃ made last, ((Traverse.filter context).run
    (slotEngine.machineWithin (depth + 1)) (.list list) negation).Makes world
      (dropped.map (items.getD · .undefined)) made last
  find : ∃ last, (find context false).run (slotEngine.machineWithin depth) (.list list) function
    world = (.value (Method.positionAnswer kept.head?), last)
  findBackwards : ∃ last, (Traverse.find context true).run (slotEngine.machineWithin depth)
    (.list list) function world = (.value (Method.positionAnswer kept.getLast?), last)
  every : ∃ last, (every context).run (slotEngine.machineWithin depth) (.list list) function
    world = (.value (.boolean (decide (kept.length = items.size))), last)

section

variable {machine : Machine Closure} {world : World Closure} {list : ListRef}
  {items : Array Value} {context : Option Value} {holds : ℕ → Bool} {function : FunctionRef}

theorem ready (isList : world.heap.lists[list.index]? = some items) :
    Ready machine world.Adds list (.function function) (.function function) world world where
  made := rfl
  good := .refl world
  elements _ adds _ _ := by
    rw [Heap.elementAt, Heap.elementAt, Heap.readList_of_getElem? (adds.list isList),
      Heap.readList_of_getElem? isList]

theorem elementAt_eq (isList : world.heap.lists[list.index]? = some items) :
    world.heap.elementAt list = (items.getD · .undefined) := by
  funext index
  rw [Heap.elementAt, Heap.readList_of_getElem? isList]

theorem filter_makes (isList : world.heap.lists[list.index]? = some items)
    (judges : Judges machine world.Adds (.function function) (context.getD .undefined) list
      world.heap holds) :
    ∃ made last, ((filter context).run machine (.list list) (.function function)).Makes world
      ((chosen items.size holds).map (items.getD · .undefined)) made last := by
  obtain ⟨middle, filters, adds⟩ := (ready isList).filter_judged context judges
  rw [Heap.readList_of_getElem? isList, elementAt_eq isList] at filters
  obtain ⟨made, last, makes⟩ := Action.newList_makes
    ((chosen items.size holds).map (items.getD · .undefined)) middle
  exact ⟨made, last, makes.after adds filters⟩

theorem find_finds (isList : world.heap.lists[list.index]? = some items)
    (judges : Judges machine world.Adds (.function function) (context.getD .undefined) list
      world.heap holds) (backwards : Bool) :
    ∃ last, (find context backwards).run machine (.list list) (.function function) world =
      (.value (Method.positionAnswer (if backwards then (chosen items.size holds).getLast?
        else (chosen items.size holds).head?)), last) := by
  obtain ⟨last, finds, -⟩ := (ready isList).find_judged context backwards judges
  refine ⟨last, (Action.bind_value finds).trans ?_⟩
  rw [Heap.readList_of_getElem? isList, chosen, List.head?_filter, List.getLast?_filter]
  cases backwards <;> rfl

theorem every_decides (isList : world.heap.lists[list.index]? = some items)
    (judges : Judges machine world.Adds (.function function) (context.getD .undefined) list
      world.heap holds) :
    ∃ last, (every context).run machine (.list list) (.function function) world =
      (.value (.boolean (decide ((chosen items.size holds).length = items.size))), last) := by
  obtain ⟨last, decides, -⟩ := (ready isList).every_judged context judges
  rw [Heap.readList_of_getElem? isList, find?_isNone_eq] at decides
  exact ⟨last, Action.bind_value decides⟩

end

/-- A predicate and its negation select from a list in every world that adds to the first one. -/
theorem selects {depth : ℕ} {list : ListRef} {items : Array Value} {context : Option Value}
    {function : FunctionRef} {negation : Value} {holds : ℕ → Bool}
    {world before : World SlotClosure}
    (isList : world.heap.lists[list.index]? = some items)
    (negates : world.heap.Negates negation (.function function))
    (isPredicate : IsPredicate (slotEngine.machineWithin depth) (.function function)
      (context.getD .undefined) items world holds) (adds : world.Adds before) :
    Selects depth list items context (.function function) negation (chosen items.size holds)
      (chosen items.size fun index => !holds index) before := by
  have isListToo := adds.list isList
  have read := Heap.readList_of_getElem? isListToo
  have judges := isPredicate.judges read adds
  exact {
    filter := filter_makes isListToo judges
    filterNegation := by
      have judgesToo := (isPredicate.negated negates).judges read adds
      obtain ⟨cell, rfl, -⟩ := negates
      exact filter_makes isListToo judgesToo
    find := find_finds isListToo judges false
    findBackwards := find_finds isListToo judges true
    every := every_decides isListToo judges }

/-- Asking whether all elements pass and whether one passes the negation makes the same calls, and
the answers are opposite. A negation is one call more, so it is asked where one call more may be
inside another. Asking whether one passes and looking for the first one makes the same calls too.
What a predicate without effects keeps and what its negation keeps are each element once, in the
order of the list. The searches find the first and the last one that is kept, and all elements pass
just if all are kept. A callback that is no function is refused by all operations in one way, or all
look without end for the literal that a refusal quotes, or it becomes a function before the first
call. -/
theorem predicates_agree (depth : ℕ) (list : ListRef) (context : Option Value)
    (world : World SlotClosure) :
    (∀ callback, (∃ failure, ∀ operation : Traverse,
        operation.run (slotEngine.machineWithin depth) (.list list) callback world =
          (.failure failure, world)) ∨
      (callback.hasLiteral world.heap = false ∧ ∀ operation : Traverse,
        operation.run (slotEngine.machineWithin depth) (.list list) callback world =
          (.exhausted, world)) ∨
      ∃ function start, world.heap.Grows start.heap ∧ ∀ operation : Traverse,
        operation.run (slotEngine.machineWithin depth) (.list list) callback world =
          operation.run (slotEngine.machineWithin depth) (.list list) (.function function) start) ∧
    ∀ function : FunctionRef,
      (∃ negation made, Method.call (slotEngine.machineWithin depth) (.function function) "not" []
        world = (.value negation, made) ∧ made.heap.Negates negation (.function function)) ∧
      (∀ negation, world.heap.Negates negation (.function function) →
        EveryOpposesAny depth list context (.function function) negation world ∧
        ∀ before, FunctionsStay world before → ∀ receiver arguments,
          (slotEngine.machineWithin (depth + 1)).invoke negation receiver arguments before =
            (((slotEngine.machineWithin depth).invoke (.function function) receiver arguments
                before).1.map Value.opposite,
              ((slotEngine.machineWithin depth).invoke (.function function) receiver arguments
                before).2)) ∧
      ((world.heap.readList list).size ≤ Int64.maxValue.toInt →
        AnyMatchesFind (slotEngine.machineWithin depth) list context (.function function) world) ∧
      ∀ negation items holds, world.heap.lists[list.index]? = some items →
        world.heap.Negates negation (.function function) →
        IsPredicate (slotEngine.machineWithin depth) (.function function)
          (context.getD .undefined) items world holds →
        (chosen items.size holds ++ chosen items.size fun index => !holds index).Perm
            (List.range items.size) ∧
          (chosen items.size holds).Sublist (List.range items.size) ∧
          (chosen items.size fun index => !holds index).Sublist (List.range items.size) ∧
          ∀ before, world.Adds before →
            Selects depth list items context (.function function) negation
              (chosen items.size holds) (chosen items.size fun index => !holds index) before := by
  refine ⟨fun callback => run_callback depth list callback world,
    fun function => ⟨?_, ?_, ?_, ?_⟩⟩
  · obtain ⟨negation, made, makes, negates, -⟩ :=
      Method.call_not (slotEngine.machineWithin depth) function world
    exact ⟨negation, made, makes, negates⟩
  · intro negation negates
    refine ⟨everyOpposesAny negates depth list context, fun before stay receiver arguments => ?_⟩
    exact (negates.mono stay).invoke slotEngine depth receiver arguments
  · exact anyMatchesFind (slotEngine.machineWithin depth) list function context world
  · intro negation items holds isList negates isPredicate
    exact ⟨chosen_perm _ _, chosen_sublist _ _, chosen_sublist _ _,
      fun before adds => selects isList negates isPredicate adds⟩

/-- The elements that the example below selects from. -/
def predicateItems : Array Value := #[.ofInt 1, .ofInt 2, .ofInt 1]

/-- A world with the list `[1, 2, 1]`, the function `x -> x === 1` and its negation. -/
def predicateWorld : World SlotClosure where
  heap := { Heap.empty with
    lists := #[predicateItems]
    functions := #[⟨.closure ⟨0⟩, 1, "x -> x === 1"⟩,
      ⟨.negated (.function ⟨0⟩), 1, "not(x -> x === 1)"⟩] }
  closures := #[.ofFormula 1 (.binary .same (.slot 0) (.value (.ofInt 1))) "x -> x === 1"]

/-- The function keeps the first and the last element, and the negation keeps the one between. -/
theorem predicateWorld_agrees :
    (predicateWorld.heap.Negates (.function ⟨1⟩) (.function ⟨0⟩) ∧
      (predicateWorld.heap.readList ⟨0⟩).size ≤ Int64.maxValue.toInt ∧
      predicateWorld.heap.lists[(⟨0⟩ : ListRef).index]? = some predicateItems ∧
      IsPredicate (slotEngine.machineWithin 1) (.function ⟨0⟩) .undefined
        predicateItems predicateWorld (· != 1)) ∧
    EveryOpposesAny 1 ⟨0⟩ none (.function ⟨0⟩) (.function ⟨1⟩) predicateWorld ∧
    AnyMatchesFind (slotEngine.machineWithin 1) ⟨0⟩ none (.function ⟨0⟩) predicateWorld ∧
    Selects 1 ⟨0⟩ predicateItems none (.function ⟨0⟩) (.function ⟨1⟩) [0, 2] [1]
      predicateWorld := by
  have negates : predicateWorld.heap.Negates (.function ⟨1⟩) (.function ⟨0⟩) := ⟨⟨1⟩, rfl, rfl⟩
  have short : (predicateWorld.heap.readList ⟨0⟩).size ≤ Int64.maxValue.toInt := by decide
  have runs : predicateWorld.Runs (.function ⟨0⟩)
      (.ofFormula 1 (.binary .same (.slot 0) (.value (.ofInt 1))) "x -> x === 1") :=
    ⟨⟨0⟩, ⟨0⟩, rfl, rfl, rfl⟩
  have isPredicate : IsPredicate (slotEngine.machineWithin 1) (.function ⟨0⟩) .undefined
      predicateItems predicateWorld (· != 1) := by
    intro before adds index bound
    obtain ⟨after, gives, addsAfter⟩ := (runs.mono adds).invoke_formula rfl rfl 0 .undefined
    refine ⟨_, after, gives, ?_, addsAfter.adds⟩
    have decides : ∀ position < predicateItems.size,
        (predicateItems.getD position .undefined).same (.ofInt 1) = (position != 1) := by decide
    exact decides index bound
  obtain ⟨-, agrees⟩ := predicates_agree 1 ⟨0⟩ none predicateWorld
  obtain ⟨-, opposes, finds, selects⟩ := agrees ⟨0⟩
  obtain ⟨-, -, -, selected⟩ := selects _ _ _ rfl negates isPredicate
  exact ⟨⟨negates, short, rfl, isPredicate⟩, (opposes _ negates).1, finds short,
    selected _ (.refl _)⟩

end Traverse

end Shorthand
