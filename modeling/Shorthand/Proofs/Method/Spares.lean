/-
This file shows that the methods of lists leave their receivers and arguments alone.

All methods but those that sort and append write to nothing that is there before, as long as the
functions that they are given do not. Where the result is a list, it is a new one, and so are the
parts that a list is cut into. So whatever is written to it later does not show anywhere else.
-/

import Mathlib
import Shorthand.Proofs.Traverse.Adjacent
import Shorthand.Proofs.Traverse.Spares
import Shorthand.Proofs.Traverse.Written

namespace Shorthand

open Method (argument given?)

/-! ### Functions that methods are given -/

/-- An operation that visits a list, the function that it calls, and what calling it means. -/
structure Visitor where
  invoke : Invoke SlotClosure
  operation : Traverse
  callback : Value

/-- Calls the method of an element that has a name, in the place of a function. -/
def callingMethod (invoke : Invoke SlotClosure) (name : String) (operands : List Value) :
    Invoke SlotClosure := fun _ _ visited => do
  let method ← Action.newFunction (.method (visited.headD .undefined) name) 0 name
  invoke method .undefined operands

/-- How a method of a list visits its elements with a function or a name of methods from its
arguments. -/
def Visitor.ofMethod? (invoke : Invoke SlotClosure) (heap : Heap) (arguments : List Value) :
    ListMethod → Option Visitor
  | .forEach => some ⟨invoke, .forEach (given? arguments 1), argument arguments 0⟩
  | .map => some ⟨invoke, .map (given? arguments 1), argument arguments 0⟩
  | .filter => some ⟨invoke, .filter (given? arguments 1), argument arguments 0⟩
  | .every => some ⟨invoke, .every (given? arguments 1), argument arguments 0⟩
  | .some => some ⟨invoke, .any (given? arguments 1), argument arguments 0⟩
  | .reduce => some ⟨invoke, .reduce (argument arguments 1), argument arguments 0⟩
  | .find =>
    some ⟨invoke, .find (given? arguments 1) (argument arguments 2).truthy, argument arguments 0⟩
  | .findBackwards => some ⟨invoke, .find (given? arguments 1) true, argument arguments 0⟩
  | .zipWith =>
    some ⟨invoke, .zipWith (argument arguments 0) (given? arguments 2), argument arguments 1⟩
  | .uniq => (given? arguments 0).map fun equality => ⟨invoke, .uniq (given? arguments 1), equality⟩
  | .invoke =>
    -- There is no callback, so any function stands in its place.
    some ⟨callingMethod invoke ((argument arguments 0).rawText heap) (arguments.drop 1), .map none,
      .function ⟨0⟩⟩
  | _ => none

/-- What a method of a list calls in the world writes to no list and no map that is there. -/
def ListMethod.CallsSpare (method : ListMethod) (invoke : Invoke SlotClosure) (list : ListRef)
    (arguments : List Value) (world : World SlotClosure) : Prop :=
  ∀ visitor ∈ Visitor.ofMethod? invoke world.heap arguments method,
    VisitsSpare visitor.invoke visitor.operation list visitor.callback world

/-- Methods of lists whose result is a list of their own. -/
def ListMethod.makers : List ListMethod :=
  [map, filter, pluck, invoke, uniq, compact, flatten, chunk, zipWith, concat, slice, range]

/-! ### Methods -/

section

variable {world : World SlotClosure} {list : ListRef} {arguments : List Value}

/-- Reading a property with a name makes a function at most. -/
theorem readNamed_spares {Closure : Type} (base : Value) (name : String) (world : World Closure) :
    (readNamed base name).Spares world := by
  rw [Action.Spares, readNamed, Action.read_bind]
  generalize (if name = "length" then base.length? world.heap else none) = length
  cases length with
  | some length => exact .refl _
  | none =>
    cases base.hasMethod name
    · exact .refl _
    · exact .ofGrows (.newFunction _ _)

/-- Reading a property makes a function at most. -/
theorem readProperty_spares {Closure : Type} (base key : Value) (world : World Closure) :
    (readProperty base key).Spares world := by
  have named (middle : World Closure) :
      (Action.readIf key.hasText key.rawText >>= readNamed base).Spares middle :=
    (Action.Spares.readIf ..).bind fun name after _ => readNamed_spares base name after
  cases base with
  | undefined | null => exact (Action.Spares.readIf ..).bind fun _ _ _ => .refl _
  | map cell => exact .readIf ..
  | _ =>
    refine (Action.Spares.read _ _).bind fun element middle _ => ?_
    cases element with
    | some element => exact .done _ _
    | none => exact named middle

theorem pluck_spares {Closure : Type} (key : Value) (list : ListRef) (world : World Closure) :
    (Sequence.pluck (.list list) key).Spares world ∧
      (Sequence.pluck (.list list) key).YieldsNewList world := by
  have collects : (Action.collect
      (fun index => do readProperty (← Sequence.element list index) key)
      (List.range (world.heap.readList list).size)).Spares world := by
    refine .fold (fun values index middle => ?_) _ _ _
    have reads : (Sequence.element list index >>= fun base => readProperty base key).Spares
        middle := readProperty_spares _ key middle
    exact reads.bind fun value after _ => .done _ _
  exact ⟨collects.bind fun _ _ _ => .newList _ _,
    collects.bind_yields fun _ _ _ => Action.yieldsNewList_newList _ _⟩

/-- A method of a list that visits the elements is the operation with its visitor, unless it looks
without end for the text of a name. -/
theorem callList_eq_run {invoke : Invoke SlotClosure} {method : ListMethod} {visitor : Visitor}
    (visits : visitor ∈ Visitor.ofMethod? invoke world.heap arguments method) :
    Method.callList (.calling invoke) list method arguments world =
        visitor.operation.run (.calling visitor.invoke) (.list list) visitor.callback world ∨
      Method.callList (.calling invoke) list method arguments world = (.exhausted, world) := by
  cases method with
  | uniq =>
    obtain ⟨equality, given, rfl⟩ := Option.map_eq_some_iff.mp visits
    left
    show Sequence.uniq _ _ (given? arguments 0) _ world = _
    rw [given]
    rfl
  | invoke =>
    cases visits
    exact Action.readIf_bind_cases (argument arguments 0).hasText (argument arguments 0).rawText
      (Method.invokeAll (.calling invoke) (.list list) · (arguments.drop 1)) world
  | forEach | map | filter | every | some | reduce | find | findBackwards | zipWith =>
    cases visits
    exact .inl rfl
  | _ => cases visits

/-- What is said of every method: it writes to nothing that is there, and its result is a new list
where it makes one. -/
def Action.Harmless (action : Action SlotClosure Value) (makes : Prop)
    (world : World SlotClosure) : Prop :=
  action.Spares world ∧ (makes → action.YieldsNewList world)

theorem VisitsSpare.harmless {invoke : Invoke SlotClosure} {operation : Traverse} {callback : Value}
    (spare : VisitsSpare invoke operation list callback world) :
    (operation.run (.calling invoke) (.list list) callback).Harmless
      (operation.makesList = true) world := ⟨spare.run, spare.run_yields⟩

theorem Action.Harmless.ofSame {action other : Action SlotClosure Value} {makes makesToo : Prop}
    (harmless : other.Harmless makes world) (same : action world = other world)
    (implies : makesToo → makes) : action.Harmless makesToo world := by
  refine ⟨harmless.1.ofSame same, fun makesList => ?_⟩
  have yields := harmless.2 (implies makesList)
  rwa [Action.YieldsNewList, ← same] at yields

theorem Action.Harmless.ofExhausted {action : Action SlotClosure Value} {makes : Prop}
    (endless : action world = (.exhausted, world)) : action.Harmless makes world := by
  rw [Action.Harmless, Action.Spares, Action.YieldsNewList, endless]
  exact ⟨.refl _, fun _ => by rintro _ _ ⟨⟩⟩

/-- Whatever is read first, if it can be read, what is done then is harmless. -/
theorem Action.Harmless.readIf_bind {α : Type} {ends : Heap → Bool} {view : Heap → α}
    {next : α → Action SlotClosure Value} {makes : Prop}
    (harmless : ∀ value, (next value).Harmless makes world) :
    (Action.readIf ends view >>= next).Harmless makes world := by
  rcases Action.readIf_bind_cases ends view next world with same | endless
  · exact (harmless _).ofSame same id
  · exact .ofExhausted endless

theorem Action.Harmless.newList (items : Array Value) {makes : Prop} (world : World SlotClosure) :
    (Action.newList items).Harmless makes world :=
  ⟨.newList items world, fun _ => Action.yieldsNewList_newList items world⟩

/-- Methods that visit the elements with what they are given. -/
theorem callList_visitor {invoke : Invoke SlotClosure} {method : ListMethod} {visitor : Visitor}
    (visits : visitor ∈ Visitor.ofMethod? invoke world.heap arguments method)
    (spare : method.CallsSpare invoke list arguments world) :
    (Method.callList (.calling invoke) list method arguments).Harmless (method ∈ ListMethod.makers)
      world := by
  rcases callList_eq_run visits with same | endless
  case inr => exact .ofExhausted endless
  refine (spare visitor visits).harmless.ofSame same fun isMaker => ?_
  cases method with
  | uniq =>
    obtain ⟨equality, _, rfl⟩ := Option.map_eq_some_iff.mp visits
    rfl
  | map | filter | zipWith | invoke =>
    cases visits
    rfl
  | forEach | every | some | reduce | find | findBackwards =>
    exact absurd isMaker (by decide)
  | _ => cases visits

/-- Operations with a formula for a callback. -/
theorem ReadsAs.harmless {source : String} {count : ℕ} {code : Code}
    (reads : ReadsAs source count code) (depth : ℕ) (operation : Traverse) (list : ListRef)
    (world : World SlotClosure) :
    (operation.run (slotEngine.machineWithin depth) (.list list) (.string source)).Harmless
      (operation.makesList = true) world := by
  have harmless := (reads.visitsSpare depth operation list world).harmless
  rwa [← Engine.machineWithin_calling] at harmless

/-- Methods that are written as shorthands. -/
theorem callList_written (depth : ℕ) {method : ListMethod}
    (isWritten : method ∈ [ListMethod.sum, .max, .min, .compact] ∨
      method = .uniq ∧ given? arguments 0 = none) :
    (Method.callList (slotEngine.machineWithin depth) list method arguments).Harmless
      (method ∈ ListMethod.makers) world := by
  have scans {source : String} {operator : BinaryOperator} (operation : String)
      (reads : ReadsAs source 2
        (.conditional (.binary operator (.slot 1) (.slot 0)) (.slot 1) (.slot 0)))
      {makes : Prop} (noList : ¬makes) :
      (Sequence.firstOrNull operation (.list list) >>= fun first =>
        Sequence.reduce (slotEngine.machineWithin depth) (.list list) (.string source)
          first).Harmless makes world := by
    have harmless (initial : Value) := reads.harmless depth (.reduce initial) list world
    exact (harmless _).ofSame (Action.bind_value (Sequence.firstOrNull_list operation list world))
      fun isMaker => absurd isMaker noList
  rcases isWritten with isWritten | ⟨rfl, isGiven⟩
  · simp only [List.mem_cons, List.not_mem_nil, or_false] at isWritten
    rcases isWritten with rfl | rfl | rfl | rfl
    · have harmless := Sequence.sum_reads.harmless depth (.reduce (.ofInt 0)) list world
      exact harmless.ofSame rfl fun isMaker => absurd isMaker (by decide)
    · exact scans "max" Sequence.greatest_reads (by decide)
    · exact scans "min" Sequence.least_reads (by decide)
    · have harmless := Sequence.compact_reads.harmless depth (.filter none) list world
      exact harmless.ofSame rfl fun _ => rfl
  · have harmless := Sequence.same_reads.harmless depth (.uniq (given? arguments 1)) list world
    refine harmless.ofSame ?_ fun _ => rfl
    show Sequence.uniq _ _ (given? arguments 0) _ world = _
    rw [isGiven]
    rfl

/-- What is said of cutting a list: nothing that is there is written to, and the result and the
parts in it are new lists. -/
structure Action.CutsAnew {Closure : Type} (action : Action Closure Value)
    (world : World Closure) : Prop where
  spares : action.Spares world
  yields : action.YieldsNewList world
  parts : ∀ made after, action world = (.value (.list made), after) →
    ∀ part ∈ after.heap.readList made, world.heap.IsNewList after.heap part

namespace Action.CutsAnew

variable {Closure : Type} {world : World Closure} {action other : Action Closure Value}

theorem ofSame (cuts : other.CutsAnew world) (same : action world = other world) :
    action.CutsAnew world where
  spares := cuts.spares.ofSame same
  yields := by
    rw [Action.YieldsNewList, same]
    exact cuts.yields
  parts := by
    rw [same]
    exact cuts.parts

/-- An action that changes nothing and yields nothing. -/
theorem ofNoValue {outcome : Outcome Value} (ends : action world = (outcome, world))
    (noValue : ∀ value, outcome ≠ .value value) : action.CutsAnew world where
  spares := by
    rw [Action.Spares, ends]
    exact .refl _
  yields value after yields := absurd (congrArg Prod.fst (ends.symm.trans yields)) (noValue value)
  parts made after yields :=
    absurd (congrArg Prod.fst (ends.symm.trans yields)) (noValue (.list made))

end Action.CutsAnew

/-- Cutting a list makes its parts and then the list of them. -/
theorem chunk_cutsAnew {Closure : Type} (list : ListRef) (size : ℕ) (world : World Closure) :
    (Sequence.chunk (.list list) size).CutsAnew world := by
  rcases Nat.eq_zero_or_pos size with rfl | positive
  · exact .ofNoValue rfl (by rintro _ ⟨⟩)
  · let pieces := (Sequence.parts size (world.heap.readList list)).toArray
    let cut : Action Closure (Array Value) := Action.collect
      (fun index => Action.newList (pieces.getD index #[])) (List.range pieces.size)
    have cuts : Sequence.chunk (.list list) size world = (cut >>= Action.newList) world := by
      show (if size = 0 then _ else _ : Action Closure Value) world = _
      rw [if_neg positive.ne']
      rfl
    have spares : cut.Spares world :=
      .fold (fun values index middle =>
        (Action.Spares.newList _ middle).bind fun value after _ => .done _ after) _ _ _
    refine Action.CutsAnew.ofSame ?_ cuts
    refine ⟨spares.bind fun parts middle _ => .newList parts middle,
      spares.bind_yields fun parts middle _ => Action.yieldsNewList_newList parts middle, ?_⟩
    intro made after yields part member
    rcases runs : cut world with ⟨parts | failure | _, middle⟩
    · have areNew := Action.fold_newLists (.refl _) (by simp) runs
      rw [Action.bind_value runs] at yields
      cases yields
      have held : (middle.heap.newList parts).2.readList ⟨middle.heap.lists.size⟩ = parts := by
        simp [Heap.readList, Heap.newList]
      exact (areNew part (held ▸ member)).mono (.newList _ _)
    · rw [Action.bind_failure runs] at yields
      cases yields
    · rw [Action.bind_exhausted runs] at yields
      cases yields

theorem callList_chunk {Closure : Type} (machine : Machine Closure) (list : ListRef)
    (arguments : List Value) (world : World Closure) :
    (Method.callList machine list .chunk arguments).CutsAnew world := by
  rw [Method.callList]
  rcases Action.readIf_bind_cases (argument arguments 0).hasText
    (Method.chunkSize · (argument arguments 0)) _ world with reads | endless
  case inr => exact .ofNoValue endless (by rintro _ ⟨⟩)
  refine Action.CutsAnew.ofSame ?_ reads
  cases Method.chunkSize world.heap (argument arguments 0) with
  | some size => exact chunk_cutsAnew list size world
  | none => exact .ofNoValue rfl (by rintro _ ⟨⟩)

/-- Methods that make a list of what they read. -/
theorem callList_newList (machine : Machine SlotClosure) {method : ListMethod}
    (isOne : method ∈ [ListMethod.flatten, .range, .concat, .slice]) (makes : Prop) :
    (Method.callList machine list method arguments).Harmless makes world := by
  simp only [List.mem_cons, List.not_mem_nil, or_false] at isOne
  rcases isOne with rfl | rfl | rfl | rfl
  · have harmless : (Action.readIf (Value.list list).hasText
        (fun heap => (Nested.ofValue heap (.list list)).leaves) >>= Action.newList).Harmless makes
          world := .readIf_bind fun items => .newList items world
    exact harmless.ofSame rfl id
  · exact .readIf_bind fun limit => .newList _ world
  · exact (Action.Harmless.newList _ world).ofSame rfl id
  · refine .readIf_bind fun start => .readIf_bind fun finish => ?_
    exact (Action.Harmless.newList _ world).ofSame rfl id

/-- Methods that only read. -/
theorem callList_read {Closure : Type} (machine : Machine Closure) {method : ListMethod}
    (isOne : method ∈ [ListMethod.equals, .indexOf, .lastIndexOf, .contains, .first, .last, .join,
      .toString]) (list : ListRef) (arguments : List Value) (world : World Closure) :
    method ∉ ListMethod.makers ∧
      (Method.callList machine list method arguments world).2 = world := by
  have thenRead {α : Type} (ends : Heap → Bool) (view : Heap → α)
      {next : α → Action Closure Value} (reads : ∀ value, (next value world).2 = world) :
      ((Action.readIf ends view >>= next) world).2 = world := by
    rcases Action.readIf_bind_cases ends view next world with same | endless
    · rw [same]
      exact reads _
    · rw [endless]
  simp only [List.mem_cons, List.not_mem_nil, or_false] at isOne
  rcases isOne with rfl | rfl | rfl | rfl | rfl | rfl | rfl | rfl <;> refine ⟨by decide, ?_⟩
  case inl | inr.inl | inr.inr.inl => exact thenRead _ _ fun _ => rfl
  case inr.inr.inr.inl | inr.inr.inr.inr.inl | inr.inr.inr.inr.inr.inl => rfl
  all_goals exact Action.readIf_world ..

/-- All methods but those that sort and append write to nothing that is there. -/
theorem callList_harmless (depth : ℕ) {method : ListMethod} (notSort : method ≠ .sortByValue)
    (notPush : method ≠ .push)
    (spare : method.CallsSpare (slotEngine.machineWithin depth).invoke list arguments world) :
    (Method.callList (slotEngine.machineWithin depth) list method arguments).Harmless
      (method ∈ ListMethod.makers) world := by
  have visits {visitor : Visitor}
      (visits : visitor ∈ Visitor.ofMethod? (slotEngine.machineWithin depth).invoke world.heap
        arguments method) :
      (Method.callList (slotEngine.machineWithin depth) list method arguments).Harmless
        (method ∈ ListMethod.makers) world := by
    have harmless := callList_visitor visits spare
    rwa [← Engine.machineWithin_calling] at harmless
  have reads (isOne : method ∈ [ListMethod.equals, .indexOf, .lastIndexOf, .contains, .first,
        .last, .join, .toString]) :
      (Method.callList (slotEngine.machineWithin depth) list method arguments).Harmless
        (method ∈ ListMethod.makers) world := by
    obtain ⟨notMaker, same⟩ :=
      callList_read (slotEngine.machineWithin depth) isOne list arguments world
    refine ⟨?_, fun isMaker => absurd isMaker notMaker⟩
    rw [Action.Spares, same]
    exact .refl _
  cases method with
  | sortByValue => exact absurd rfl notSort
  | push => exact absurd rfl notPush
  | forEach | map | filter | every | some | reduce | find | findBackwards | zipWith | invoke =>
    exact visits rfl
  | uniq =>
    cases isGiven : given? arguments 0 with
    | some equality => exact visits (congrArg (Option.map _) isGiven)
    | none => exact callList_written depth (.inr ⟨rfl, isGiven⟩)
  | sum | max | min | compact => exact callList_written depth (.inl (by simp))
  | pluck => exact ⟨(pluck_spares _ list world).1, fun _ => (pluck_spares _ list world).2⟩
  | chunk =>
    have cuts := callList_chunk (slotEngine.machineWithin depth) list arguments world
    exact ⟨cuts.spares, fun _ => cuts.yields⟩
  | flatten | range | concat | slice => exact callList_newList _ (by decide) _
  | equals | indexOf | lastIndexOf | contains | first | last | join | toString =>
    exact reads (by decide)

/-- Only one name calls the method that sorts, and only one the method that appends. -/
theorem listMethod_name_of_lookup {name : String} {method : ListMethod}
    (found : ListMethod.names.lookup name = some method) :
    (method = .sortByValue → name = "sortByValue") ∧ (method = .push → name = "push") := by
  have named : ∀ entry ∈ ListMethod.names,
      (entry.2 = .sortByValue → entry.1 = "sortByValue") ∧
        (entry.2 = .push → entry.1 = "push") := by
    decide
  obtain ⟨before, after, parts, -⟩ := List.lookup_eq_some_iff.mp found
  exact named (name, method) (parts ▸ List.mem_append_cons_self)

/-- A method of a list that has another name than those that sort and append leaves all lists and
maps as they are, however it ends, if what it calls does. The lists that methods make and the parts
that a list is cut into are new, so writing to them later leaves all lists and maps as they are as
well. -/
theorem listMethod_leaves_inputs (depth : ℕ) (name : String) (list : ListRef)
    (arguments : List Value) (world : World SlotClosure) (notSort : name ≠ "sortByValue")
    (notPush : name ≠ "push")
    (spare : ∀ method, ListMethod.names.lookup name = some method →
      method.CallsSpare (slotEngine.machineWithin depth).invoke list arguments world) :
    ∀ outcome after,
      Method.call (slotEngine.machineWithin depth) (.list list) name arguments world =
        (outcome, after) →
      world.heap.Spares after.heap ∧
      (∀ method ∈ ListMethod.makers, ListMethod.names.lookup name = some method →
        ∀ value, outcome = .value value → ∃ made, value = .list made ∧
          world.heap.IsNewList after.heap value ∧
          (method = .chunk → ∀ part ∈ after.heap.readList made,
            world.heap.IsNewList after.heap part)) ∧
      ∀ cell, world.heap.IsNewList after.heap (.list cell) → ∀ later, world.heap.Spares later →
        ∀ change, world.heap.Spares (later.changeList cell change) := by
  intro outcome after ends
  have writes : ∀ cell, world.heap.IsNewList after.heap (.list cell) →
      ∀ later, world.heap.Spares later →
        ∀ change, world.heap.Spares (later.changeList cell change) := by
    rintro cell ⟨_, ⟨⟩, isNew, -⟩ later spares change
    exact spares.changeList isNew change
  cases found : ListMethod.names.lookup name with
  | none =>
    have unknown : Method.call (slotEngine.machineWithin depth) (.list list) name arguments world =
        (.failure (.type (.unknownMethod (Value.list list).typeName name)), world) := by
      rw [Method.call, found]
      rfl
    cases unknown.symm.trans ends
    exact ⟨.refl _, fun _ _ _ => by contradiction, writes⟩
  | some method =>
    have calls : Method.call (slotEngine.machineWithin depth) (.list list) name arguments =
        Method.callList (slotEngine.machineWithin depth) list method arguments := by
      rw [Method.call, found]
    obtain ⟨isSort, isPush⟩ := listMethod_name_of_lookup found
    obtain ⟨spares, yields⟩ := callList_harmless depth (fun same => notSort (isSort same))
      (fun same => notPush (isPush same)) (spare method found)
    rw [calls] at ends
    rw [Action.Spares, ends] at spares
    refine ⟨spares, ?_, writes⟩
    rintro _ isMaker ⟨⟩ value rfl
    have isNew := yields isMaker _ _ ends
    obtain ⟨made, rfl, -⟩ := id isNew
    refine ⟨made, rfl, isNew, ?_⟩
    rintro rfl
    exact (callList_chunk _ list arguments world).parts made after ends

end

/-- A world with the list `[null, true]`. -/
def gapsWorld : World SlotClosure where
  heap := { Heap.empty with lists := #[#[.null, .boolean true]] }
  closures := #[]

/-- Filtering makes a new list beside the list. -/
theorem filter_leaves_list : ∃ made after,
    Method.call (slotEngine.machineWithin 1) (.list ⟨0⟩) "filter"
      [.string "x -> x !== null && x !== undefined"] gapsWorld = (.value (.list made), after) ∧
    after.heap.lists[made.index]? = some #[.boolean true] ∧
    gapsWorld.heap.Spares after.heap ∧ made ≠ ⟨0⟩ ∧
    gapsWorld.heap.Spares (after.heap.changeList made fun _ => #[]) := by
  obtain ⟨made, after, makes⟩ := Sequence.filter_formula Sequence.compact_reads
    (fun heap item => show ∃ answer : Value, _ ∧ answer.truthy = !item.isNone by
      cases item <;> exact ⟨_, rfl, rfl⟩)
    0 ⟨0⟩ gapsWorld
  have spare : ∀ method, ListMethod.names.lookup "filter" = some method →
      method.CallsSpare (slotEngine.machineWithin 1).invoke ⟨0⟩
        [.string "x -> x !== null && x !== undefined"] gapsWorld := by
    rintro _ ⟨⟩ _ ⟨⟩
    exact Sequence.compact_reads.visitsSpare 1 (.filter none) ⟨0⟩ gapsWorld
  have leaves := listMethod_leaves_inputs 1 "filter" ⟨0⟩
    [.string "x -> x !== null && x !== undefined"] gapsWorld (by decide) (by decide) spare
    (.value (.list made)) after makes.yields
  obtain ⟨spares, makers, writes⟩ := leaves
  obtain ⟨_, ⟨⟩, isNew, -⟩ := makers .filter (by decide) rfl _ rfl
  refine ⟨made, after, makes.yields, makes.holds, spares, ?_, writes made isNew _ spares _⟩
  rintro rfl
  obtain ⟨_, ⟨⟩, bound, -⟩ := isNew
  exact absurd bound (by decide)

end Shorthand
