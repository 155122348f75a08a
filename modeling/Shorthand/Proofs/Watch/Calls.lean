/-
This file shows that a record of accesses changes nothing and tells what happens.

A world with a record is compared with the world that is left without it. Walking a tree with a
record does what walking it without one does: it ends in the same way and leaves the same world but
for the record. On the way the record grows by accesses that lead from what the variables held to
what they hold.
-/

import Mathlib
import Shorthand.Proofs.Alike.Operations
import Shorthand.Proofs.Lexical.Enter
import Shorthand.Proofs.Traverse.Callback
import Shorthand.Proofs.Watch.Explain

namespace Shorthand

/-! ### Worlds with a record -/

namespace World

/-- A world without the record. -/
def forget (world : World WatchedClosure) : World NameClosure :=
  ⟨world.heap, world.closures.map (·.closure)⟩

/-- All closures of a world have names. -/
def IsNamed (world : World WatchedClosure) : Prop :=
  ∀ closure ∈ world.forget.closures, ∃ parameters body around globals,
    closure = .names parameters body around globals

/-- All closures of a world have names, and there is one to keep the record beside. -/
structure IsWatched (world : World WatchedClosure) : Prop where
  first : 0 < world.closures.size
  named : world.IsNamed

end World

/-- A world without a record, and one with it that has been reached from an origin by accesses that
the record tells of. -/
structure Watches (origin : World WatchedClosure) (left : World NameClosure)
    (right : World WatchedClosure) : Prop where
  forget : left = right.forget
  watched : right.IsWatched
  explains : ∃ accesses, right.record = origin.record ++ accesses ∧
    Explains origin.heap.readVariable accesses right.heap.readVariable

namespace World

variable {world : World WatchedClosure}

theorem forget_note (accesses : List Access) (world : World WatchedClosure) :
    (Action.note accesses world).2.forget = world.forget := by
  have same : (world.closures.modify 0 fun first =>
      { first with record := first.record ++ accesses }).map (·.closure) =
        world.closures.map (·.closure) := by
    refine Array.ext (by simp) fun index _ _ => ?_
    rw [Array.getElem_map, Array.getElem_map, Array.getElem_modify]
    split <;> rfl
  exact congrArg (World.mk world.heap) same

theorem IsWatched.note (watched : world.IsWatched) (accesses : List Access) :
    (Action.note accesses world).2.IsWatched ∧
      (Action.note accesses world).2.record = world.record ++ accesses := by
  obtain ⟨heap, closures⟩ := world
  refine ⟨⟨?_, ?_⟩, ?_⟩
  · show 0 < (closures.modify 0 _).size
    rw [Array.size_modify]
    exact watched.first
  · rw [IsNamed, forget_note]
    exact watched.named
  · show ((closures.modify 0 _)[0]?.map _).getD [] = (closures[0]?.map _).getD [] ++ accesses
    rw [Array.getElem?_modify, if_pos rfl, Array.getElem?_eq_getElem watched.first]
    rfl

/-- A function with a record is the same value as one without it. -/
theorem forget_newClosure (watched : WatchedClosure) (arity : ℕ) (label : String)
    (world : World WatchedClosure) :
    Action.newClosure watched.closure arity label world.forget =
      ((Action.newClosure watched arity label world).1,
        (Action.newClosure watched arity label world).2.forget) := by
  obtain ⟨heap, closures⟩ := world
  have sizes : (closures.map (·.closure)).size = closures.size := Array.size_map
  have heaps : (heap.newFunction ⟨.closure ⟨(closures.map (·.closure)).size⟩, arity, label⟩).2 =
      (heap.newFunction ⟨.closure ⟨closures.size⟩, arity, label⟩).2 := by
    rw [sizes]
  exact congrArg (Prod.mk _) (congrArg₂ World.mk heaps Array.map_push.symm)

/-- A world with a new function that has names is watched. -/
theorem IsNamed.newClosure (named : world.IsNamed) (parameters : List String) (body : Body)
    (around : Environment) (globals : List Value) (arity : ℕ) (label : String) :
    (Action.newClosure ⟨.names parameters body around globals, []⟩ arity label
      world).2.IsWatched := by
  refine ⟨?_, fun closure member => ?_⟩
  · show 0 < (world.closures.push _).size
    rw [Array.size_push]
    exact Nat.succ_pos _
  · have forgets : _ = (Action.newClosure _ arity label world).2.forget := congrArg Prod.snd
      (forget_newClosure ⟨.names parameters body around globals, []⟩ arity label world)
    rw [← forgets] at member
    rcases Array.mem_push.mp member with isOld | rfl
    · exact named closure isOld
    · exact ⟨parameters, body, around, globals, rfl⟩

/-- A new function leaves the record as it is. -/
theorem record_newClosure (first : 0 < world.closures.size) (watched : WatchedClosure) (arity : ℕ)
    (label : String) : (Action.newClosure watched arity label world).2.record = world.record := by
  show ((world.closures.push _)[0]?.map _).getD [] = (world.closures[0]?.map _).getD []
  rw [Array.getElem?_push_lt first, Array.getElem?_eq_getElem first]

end World

/-- New variables with names leave those alone that have none of the names. -/
theorem Heap.readVariable_newNamed {own : List String} (distinct : own.Nodup) (heap : Heap)
    (value : String → Value) (around : Environment) {cell : VariableRef}
    (others : ∀ name ∈ own, Environment.cell ((heap.newNamed own value).1 ++ around) name ≠ cell) :
    (heap.newNamed own value).2.readVariable cell = heap.readVariable cell := by
  have noneNew (slot : ℕ) (inside : slot < own.length) : cell.index ≠ heap.locals.size + slot := by
    intro same
    refine others own[slot] (List.getElem_mem inside) ?_
    rw [Environment.cell, List.lookup_append, Heap.newNamed,
      lookup_newNamed distinct (List.getElem?_eq_getElem inside), ← same]
    rfl
  simp only [Heap.readVariable, Heap.newNamed, Array.getD_eq_getD_getElem?]
  rcases Nat.lt_or_ge cell.index heap.locals.size with isOld | notOld
  · rw [Array.getElem?_append_left isOld]
  · have beyond : own.length ≤ cell.index - heap.locals.size := by
      by_contra inside
      exact noneNew _ (Nat.lt_of_not_le inside) (by omega)
    rw [Array.getElem?_append_right notOld, Array.getElem?_eq_none (by simpa using beyond),
      Array.getElem?_eq_none notOld]

namespace Watches

variable {origin right other : World WatchedClosure} {left : World NameClosure}

theorem refl (watched : origin.IsWatched) : Watches origin origin.forget origin :=
  ⟨rfl, watched, [], (List.append_nil _).symm, .nil⟩

theorem step (watches : Watches origin left right) (watched : other.IsWatched)
    {accesses : List Access} (record : other.record = right.record ++ accesses)
    (explains : Explains right.heap.readVariable accesses other.heap.readVariable) :
    Watches origin other.forget other := by
  obtain ⟨before, recorded, explained⟩ := watches.explains
  exact ⟨rfl, watched, before ++ accesses, by rw [record, recorded, List.append_assoc],
    explained.append explains⟩

/-- Variables that stay need no record. -/
theorem ofKept (watches : Watches origin left right) {heap : Heap}
    (locals : heap.locals = right.heap.locals) :
    Watches origin ⟨heap, left.closures⟩ ⟨heap, right.closures⟩ := by
  obtain ⟨forget, watched, accesses, record, explains⟩ := watches
  refine ⟨by rw [forget]; rfl, ⟨watched.first, watched.named⟩, accesses, record, ?_⟩
  have same : heap.readVariable = right.heap.readVariable := by
    funext cell
    rw [Heap.readVariable, Heap.readVariable, locals]
  rwa [same]

/-- Changing the heap outside of its variables is not recorded. -/
instance (origin : World WatchedClosure) : StoreRelation (Watches origin) where
  heap watches := congrArg World.heap watches.forget
  change watches keeps := watches.ofKept keeps.locals

variable {α : Type}

/-- A change of the heap whose accesses are recorded. -/
theorem noted (step : Heap → α × Heap) (accesses : α → List Access)
    (leads : ∀ heap : Heap,
      Explains heap.readVariable (accesses (step heap).1) (step heap).2.readVariable) :
    Parallel (Watches origin) (Action.change step) (do
      let value ← Action.change step
      Action.note (accesses value)
      Action.done value) := by
  rintro left ⟨heap, closures⟩ watches
  obtain rfl := watches.forget
  have changed : World.IsWatched ⟨(step heap).2, closures⟩ :=
    ⟨watches.watched.first, watches.watched.named⟩
  obtain ⟨stays, record⟩ := changed.note (accesses (step heap).1)
  have after := watches.step stays record (leads heap)
  rw [World.forget_note] at after
  exact ⟨rfl, after⟩

theorem evaluate (scene : Scene) (name : String) :
    Parallel (Watches origin) (Action.read fun heap => heap.readVariable (scene.cell name))
      (scene.evaluate name) :=
  noted (fun heap => (heap.readVariable (scene.cell name), heap))
    (fun value => [.evaluated scene.environment name value]) fun _ => .evaluated .nil

theorem oldValue (scene : Scene) (operator : Option BinaryOperator) (name : String) :
    Parallel (Watches origin) (Action.read fun heap => heap.readVariable (scene.cell name))
      (scene.oldValue operator name) := by
  rw [Scene.oldValue]
  split
  · exact evaluate scene name
  · exact .read _

theorem give (scene : Scene) (name : String) (value : Value) :
    Parallel (Watches origin) (Action.writeVariable (scene.cell name) value)
      (scene.give name value) := by
  refine noted (fun heap => ((), heap.writeVariable (scene.cell name) value))
    (fun _ => [.given scene.environment name]) fun heap => .given (fun cell other => ?_) .nil
  have apart : (scene.cell name).index ≠ cell.index := fun same => other (by
    cases cell
    exact congrArg VariableRef.mk same.symm)
  simp only [Heap.readVariable, Heap.writeVariable, Array.getD_eq_getD_getElem?,
    Array.getElem?_setIfInBounds_ne apart]

theorem begin (parameters : List String) (body : Body) (around : Environment)
    (globals : List Value) (context : Value) (arguments : List Value) :
    Parallel (Watches origin)
      (Scene.enter parameters body around globals context arguments)
      (Scene.begin parameters body around globals context arguments) := by
  refine noted (Heap.newScene · parameters body around globals context arguments)
    (fun scene => (ownNames parameters body).map (.given scene.environment))
    fun heap => .given_all _ fun cell others => ?_
  exact heap.readVariable_newNamed (ownNames_nodup parameters body) _ around others

theorem newClosure (parameters : List String) (body : Body) (around : Environment)
    (globals : List Value) (label : String) :
    Parallel (Watches origin)
      (Action.newClosure (.names parameters body around globals) parameters.length label)
      (Action.newClosure ⟨.names parameters body around globals, []⟩ parameters.length label) := by
  rintro left right watches
  obtain rfl := watches.forget
  have after := watches.step
    (watches.watched.named.newClosure parameters body around globals parameters.length label)
    ((World.record_newClosure watches.watched.first _ _ _).trans (List.append_nil _).symm) .nil
  have forgets := World.forget_newClosure ⟨.names parameters body around globals, []⟩
    parameters.length label right
  exact ⟨congrArg Prod.fst forgets, by rwa [forgets]⟩

end Watches

/-! ### Trees -/

section

variable {origin : World WatchedClosure} {machine : Machine NameClosure}
  {other : Machine WatchedClosure} (machines : machine.CallsParallel (Watches origin) other)

include machines

-- Theorems about lists and blocks need the hypothesis only for what is mutual with them.
set_option linter.unusedSectionVars false

mutual

/-- Walking an expression with a record does what walking it does. -/
theorem Expr.watch_parallel (scene : Scene) :
    ∀ expr : Expr, Parallel (Watches origin) (expr.walk machine scene) (expr.watch other scene)
  | .literal _ => .done _
  | .variable name => .ite (Watches.evaluate scene name) (.done _)
  | .this => .done _
  | .arguments => .newList _
  | .array items => .bind (watchAll_parallel scene items) fun _ => .newList _
  | .object entries => .bind (watchEntries_parallel scene entries _) fun _ => .newMap _
  | .member base _ => .bind (base.watch_parallel scene) fun _ => .readProperty _ _
  | .index base key =>
    .bind (base.watch_parallel scene) fun _ => .bind (key.watch_parallel _) fun _ =>
      .readProperty _ _
  | .call callee operands => by
    have arguments := watchAll_parallel scene operands
    cases callee with
    | member base name =>
      exact .bind (base.watch_parallel _) fun _ => .bind arguments fun _ =>
        .callMethod machines _ _ _
    | index base key =>
      exact .bind (base.watch_parallel _) fun _ => .bind (key.watch_parallel _) fun _ =>
        .bind arguments fun _ => .bind (.readIf _ _) fun _ => .callMethod machines _ _ _
    | _ =>
      exact .bind (Expr.watch_parallel _ _) fun _ => .bind arguments fun _ =>
        machines.invoke _ _ _
  | .unary _ operand => .bind (operand.watch_parallel scene) fun _ => .readIf _ _
  | .binary operator left right => by
    refine .bind (left.watch_parallel scene) fun value => ?_
    have further := right.watch_parallel (scene.skip (left.uses scene.bound))
    cases operator with
    | and => exact .ite further (.done _)
    | or => exact .ite (.done _) further
    | _ => exact .bind further fun _ => .readIf _ _
  | .conditional condition positive negative =>
    .bind (condition.watch_parallel scene) fun _ =>
      .ite (positive.watch_parallel _) (negative.watch_parallel _)
  | .assign operator target value => by
    have assigned := value.watch_parallel scene
    cases target with
    | «variable» name =>
      exact .bind (Watches.oldValue scene operator name) fun _ => .bind assigned fun _ =>
        .bind (.readIf _ _) fun _ => .bind (Watches.give scene name _) fun _ => .done _
    | member base name =>
      refine .bind (base.watch_parallel _) fun _ =>
        .ite (.bind (.readProperty _ _) fun _ => ?_) (.bind (.done _) fun _ => ?_)
      all_goals
        exact .bind assigned fun _ => .bind (.readIf _ _) fun _ =>
          .bind (.writeProperty _ _ _) fun _ => .done _
    | index base key =>
      refine .bind (base.watch_parallel _) fun _ => .bind (key.watch_parallel _) fun _ =>
        .ite (.bind (.readProperty _ _) fun _ => ?_) (.bind (.done _) fun _ => ?_)
      all_goals
        exact .bind assigned fun _ => .bind (.readIf _ _) fun _ =>
          .bind (.writeProperty _ _ _) fun _ => .done _
  | .function parameters body label =>
    Watches.newClosure parameters body scene.environment scene.globals label

theorem watchAll_parallel (scene : Scene) :
    ∀ items : List Expr,
      Parallel (Watches origin) (walkAll machine scene items) (watchAll other scene items)
  | [] => .done _
  | item :: rest =>
    .bind (item.watch_parallel scene) fun _ => .bind (watchAll_parallel _ rest) fun _ => .done _

theorem watchEntries_parallel (scene : Scene) :
    ∀ (entries : List (String × Expr)) (table : Table Value),
      Parallel (Watches origin) (walkEntries machine scene table entries)
        (watchEntries other scene table entries)
  | [], _ => .done _
  | (_, value) :: rest, _ =>
    .bind (value.watch_parallel scene) fun _ => watchEntries_parallel _ rest _

end

theorem watchInitials_parallel (scene : Scene) (declarations : List (String × Option Expr)) :
    Parallel (Watches origin) (walkInitials machine scene declarations)
      (watchInitials other scene declarations) := by
  induction declarations generalizing scene with
  | nil => exact .done _
  | cons first rest inductionHypothesis =>
    obtain ⟨name, _ | value⟩ := first
    · exact inductionHypothesis scene
    · exact .bind (value.watch_parallel machines scene) fun _ =>
        .bind (Watches.give scene name _) fun _ => inductionHypothesis _

mutual

/-- Running a statement with a record does what running it does. -/
theorem Statement.watch_parallel (scene : Scene) :
    ∀ statement : Statement,
      Parallel (Watches origin) (statement.walk machine scene) (statement.watch other scene)
  | .declare declarations =>
    .bind (watchInitials_parallel machines scene declarations) fun _ => .done _
  | .return none => .done _
  | .return (some value) => .bind (value.watch_parallel machines scene) fun _ => .done _
  | .if condition positive negative =>
    .bind (condition.watch_parallel machines scene) fun _ =>
      .ite (positive.watch_parallel _) (watchAlternative_parallel _ negative)
  | .block statements => watchBlock_parallel scene statements
  | .expression value => .bind (value.watch_parallel machines scene) fun _ => .done _
  | .empty => .done _

theorem watchAlternative_parallel (scene : Scene) :
    ∀ alternative : Option Statement,
      Parallel (Watches origin) (walkAlternative machine scene alternative)
        (watchAlternative other scene alternative)
  | none => .done _
  | some statement => statement.watch_parallel scene

theorem watchBlock_parallel (scene : Scene) :
    ∀ statements : List Statement,
      Parallel (Watches origin) (walkBlock machine scene statements)
        (watchBlock other scene statements)
  | [] => .done _
  | statement :: rest => by
    refine .bind (statement.watch_parallel scene) fun returned => ?_
    cases returned with
    | some _ => exact .done _
    | none => exact watchBlock_parallel _ rest

end

theorem Body.watch_parallel (scene : Scene) (body : Body) :
    Parallel (Watches origin) (body.walk machine scene) (body.watch other scene) := by
  cases body with
  | expression value => exact value.watch_parallel machines scene
  | statements block => exact .bind (watchBlock_parallel machines scene block) fun _ => .done _

end

/-! ### Calls -/

variable {origin : World WatchedClosure} {machine : Machine NameClosure}
  {other : Machine WatchedClosure}

namespace Watches

/-- Writing to a memo leaves the variables as they are. -/
theorem changeMemo (memo : MemoRef) (step : Memo → Memo) :
    Parallel (Watches origin) (Action.changeMemo memo step) (Action.changeMemo memo step) := by
  rintro ⟨heap, closures⟩ right watches
  obtain rfl : heap = right.heap := congrArg World.heap watches.forget
  exact ⟨rfl, watches.ofKept rfl⟩

/-- A definition becomes a function with a record or is refused. -/
theorem close (definition : Definition) :
    Parallel (Watches origin) definition.keepNames definition.keepWatched := by
  rintro left ⟨heap, closures⟩ watches
  obtain rfl := watches.forget
  simp only [Definition.keepNames, Definition.keepWatched, World.forget]
  cases supplied : supply definition.label definition.uses heap with
  | error error => exact ⟨rfl, watches⟩
  | ok pair =>
    obtain ⟨globals, supply⟩ := pair
    exact newClosure _ _ _ _ _ _ _ (watches.ofKept (Heap.Grows.supply supplied).locals)

/-- Closures with names are run in parallel with their records. -/
theorem run (machines : machine.CallsParallel (Watches origin) other) (cell : ClosureRef)
    (context : Value) (arguments : List Value) :
    Parallel (Watches origin) (namedEngine.perform machine context arguments (.closure cell))
      (watchedEngine.perform other context arguments (.closure cell)) := by
  rintro left right watches
  obtain rfl := watches.forget
  have found : right.forget.closures[cell.index]? = right.closures[cell.index]?.map (·.closure) :=
    Array.getElem?_map
  simp only [Engine.perform]
  cases isThere : right.closures[cell.index]? with
  | none =>
    rw [isThere] at found
    simp only [found]
    exact ⟨rfl, watches⟩
  | some closure =>
    rw [isThere] at found
    simp only [found]
    obtain ⟨parameters, body, around, globals, named⟩ :=
      watches.watched.named closure.closure (Array.mem_of_getElem? found)
    obtain ⟨_, record⟩ := closure
    cases named
    have runs : Parallel (Watches origin)
        (Scene.enter parameters body around globals context arguments >>= body.walk machine)
        (Scene.begin parameters body around globals context arguments >>= body.watch other) :=
      .bind (begin parameters body around globals context arguments) fun scene =>
        body.watch_parallel machines scene
    exact runs _ _ watches

end Watches

/-- At every depth of calls, functions with a record do what those without one do. -/
theorem watchedEngine_parallel (origin : World WatchedClosure) (depth : ℕ) :
    (namedEngine.machineWithin depth).CallsParallel (Watches origin)
      (watchedEngine.machineWithin depth) := by
  induction depth with
  | zero =>
    have exhausted (function context : Value) (arguments : List Value) :
        Parallel (Watches origin)
          ((namedEngine.machineWithin 0).invoke function context arguments)
          ((watchedEngine.machineWithin 0).invoke function context arguments) := .exhausted
    exact ⟨exhausted, .answer Watches.changeMemo exhausted, Watches.close⟩
  | succ depth inductionHypothesis =>
    have calls := Parallel.invokeWithin inductionHypothesis (Watches.run inductionHypothesis)
    exact ⟨calls, .answer Watches.changeMemo calls, Watches.close⟩

end Shorthand
