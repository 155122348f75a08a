/-
This file compares the beginning of a call with slots to one with names.

Both make one variable for every own name and give it the same value, so the heap is the same
afterwards. In the frame the own variables come first and the captured ones behind them, which is
what the names of the function say about its slots.
-/

import Shorthand.Proofs.Lexical.Lowers
import Shorthand.Proofs.Lexical.Walk

namespace Shorthand

/-! ### Own variables -/

/-- The variables that a call makes are found by their names. -/
theorem lookup_newNamed {own : List String} (distinct : own.Nodup) {start slot : Nat}
    {name : String} (found : own[slot]? = some name) :
    (own.mapIdx fun index name => (name, VariableRef.mk (start + index))).lookup name =
      some ⟨start + slot⟩ := by
  induction own generalizing start slot with
  | nil => cases found
  | cons first rest inductionHypothesis =>
    obtain ⟨fresh, distinct⟩ := List.nodup_cons.mp distinct
    rw [List.mapIdx_cons, List.lookup_cons]
    cases slot with
    | zero =>
      obtain rfl : first = name := Option.some.inj found
      rw [beq_self_eq_true]
    | succ slot =>
      have different : name ≠ first := fun same => fresh (same ▸ List.mem_of_getElem? found)
      have further : (rest.mapIdx fun index name =>
          (name, VariableRef.mk (start + 1 + index))).lookup name = some ⟨start + 1 + slot⟩ :=
        inductionHypothesis distinct found
      simp only [Nat.add_assoc, Nat.add_comm 1] at further
      rw [beq_false_of_ne different]
      exact further

theorem newNamed_names (own : List String) (start : Nat) :
    (own.mapIdx fun index name => (name, VariableRef.mk (start + index))).map Prod.fst = own := by
  refine List.ext_getElem (by simp) fun index _ _ => ?_
  rw [List.getElem_map, List.getElem_mapIdx]

theorem lookup_newNamed_of_notMem {own : List String} {name : String} (other : name ∉ own)
    (start : Nat) :
    (own.mapIdx fun index name => (name, VariableRef.mk (start + index))).lookup name = none := by
  rw [List.lookup_eq_none_iff]
  intro pair member
  have known : pair.1 ∈ own := by
    rw [← newNamed_names own start]
    exact List.mem_map_of_mem member
  exact bne_iff_ne.mpr fun same => other (same ▸ known)

/-- Giving a value to one of several distinct names. -/
theorem set_idxOf {own : List String} (distinct : own.Nodup) (value : String → Value)
    {parameter : String} (known : parameter ∈ own) (given : Value) :
    (own.map value).set (own.idxOf parameter) given =
      own.map fun name => if name = parameter then given else value name := by
  induction own with
  | nil => cases known
  | cons first rest inductionHypothesis =>
    obtain ⟨fresh, distinct⟩ := List.nodup_cons.mp distinct
    by_cases same : first = parameter
    · subst same
      rw [List.idxOf_cons_self, List.map_cons, List.set_cons_zero, List.map_cons, if_pos rfl]
      refine congrArg _ (List.map_congr_left fun name member => ?_)
      exact (if_neg fun same : name = first => fresh (same ▸ member)).symm
    · rw [List.idxOf_cons_ne rest same, List.map_cons, List.set_cons_succ,
        inductionHypothesis distinct (List.mem_of_ne_of_mem (Ne.symm same) known), List.map_cons,
        if_neg same]

/-- Giving values to the parameters one after the other leaves each with the argument of the last
parameter of its name. -/
theorem writeParameters_eq {own : List String} (distinct : own.Nodup) (parameters : List String)
    (known : ∀ parameter ∈ parameters, parameter ∈ own) (heap : Heap) (before : Array Value)
    (cells : Array VariableRef)
    (cell : ∀ slot < own.length, cells.getD slot ⟨0⟩ = ⟨before.size + slot⟩)
    (value : String → Value) (arguments : List Value) :
    { heap with locals := before ++ (own.map value).toArray }.writeParameters cells
        (parameters.map fun name => own.idxOf name) arguments =
      { heap with locals := before ++ (own.map fun name =>
          if name ∈ parameters then initialValue name parameters arguments
          else value name).toArray } := by
  induction parameters generalizing value arguments with
  | nil => rfl
  | cons parameter rest inductionHypothesis =>
    have declared : parameter ∈ own := known parameter List.mem_cons_self
    have writes : (before ++ (own.map value).toArray).setIfInBounds
        (before.size + own.idxOf parameter) (arguments.headD .undefined) =
          before ++ (own.map fun name =>
            if name = parameter then arguments.headD .undefined else value name).toArray := by
      rw [Array.setIfInBounds_append_right (Nat.le_add_right _ _), Nat.add_sub_cancel_left,
        List.setIfInBounds_toArray, set_idxOf distinct value declared]
    rw [List.map_cons, Heap.writeParameters, cell _ (List.idxOf_lt_length_of_mem declared),
      Heap.writeVariable, writes,
      inductionHypothesis fun name member => known name (List.mem_cons_of_mem _ member)]
    congr 3
    refine List.map_congr_left fun name _ => ?_
    rw [initialValue]
    by_cases member : name ∈ rest
    · rw [if_pos member, if_pos (List.mem_cons_of_mem _ member), if_neg fun both => both.2 member]
    · rw [if_neg member]
      by_cases same : name = parameter
      · rw [if_pos same, if_pos (List.mem_cons.mpr (.inl same)), if_pos ⟨same.symm, member⟩]
      · rw [if_neg same, if_neg fun listed => (List.mem_cons.mp listed).elim same member]

theorem initialValue_of_notMem {name : String} {parameters : List String}
    (other : name ∉ parameters) (arguments : List Value) :
    initialValue name parameters arguments = .undefined := by
  induction parameters generalizing arguments with
  | nil => rfl
  | cons parameter rest inductionHypothesis =>
    obtain ⟨different, further⟩ := not_or.mp (mt List.mem_cons.mpr other)
    rw [initialValue, if_neg fun both => different both.1.symm, inductionHypothesis further]

/-! ### Captured variables -/

/-- Captured cells are put behind the own ones, in the order of their slots. -/
theorem foldl_captured (captured : List (Nat × VariableRef)) (own : Array VariableRef)
    (slots : captured.map Prod.fst = List.range' own.size captured.length) :
    captured.foldl (fun slots (slot, cell) => slots.setIfInBounds slot cell)
        (own ++ Array.replicate captured.length ⟨0⟩) =
      own ++ (captured.map Prod.snd).toArray := by
  induction captured generalizing own with
  | nil => rfl
  | cons first rest inductionHypothesis =>
    obtain ⟨slot, cell⟩ := first
    rw [List.map_cons, List.length_cons, List.range'_succ] at slots
    obtain ⟨rfl, restSlots⟩ := List.cons.inj slots
    have sets : (own ++ Array.replicate (rest.length + 1) (VariableRef.mk 0)).setIfInBounds own.size
        cell = own.push cell ++ Array.replicate rest.length ⟨0⟩ := by
      rw [Array.setIfInBounds_append_right (Nat.le_refl _), Nat.sub_self]
      apply Array.ext'
      simp [List.replicate_succ]
    have further := inductionHypothesis (own.push cell) (by rw [Array.size_push]; exact restSlots)
    simp only [List.foldl_cons, List.length_cons, sets, further]
    apply Array.ext'
    simp

/-! ### Frames and scenes -/

/-- A frame shows a scene by the names of its slots. The scene has some names in sight and the
given values ahead of it. -/
structure Frame.Shows (names bound : List String) (globals : List Value) (frame : Frame)
    (scene : Scene) : Prop where
  context : frame.context = scene.context
  arguments : frame.arguments = scene.arguments
  cell : ∀ {slot : Nat} {name : String}, names[slot]? = some name →
    frame.cell slot = scene.cell name
  bound : scene.bound = bound
  ahead : globals <+: scene.globals

namespace Frame.Shows

variable {names bound : List String} {first second : List Value} {frame : Frame} {scene : Scene}

/-- The first part of what is ahead. -/
theorem left (shows : frame.Shows names bound (first ++ second) scene) :
    frame.Shows names bound first scene :=
  { shows with ahead := (List.prefix_append first second).trans shows.ahead }

/-- What is ahead after the first part. -/
theorem right (shows : frame.Shows names bound (first ++ second) scene) {uses : List Use}
    (counted : first.length = uses.length) :
    frame.Shows names bound second (scene.skip uses) where
  context := shows.context
  arguments := shows.arguments
  cell := shows.cell
  bound := shows.bound
  ahead := by
    obtain ⟨rest, same⟩ := shows.ahead
    rw [Scene.skip, ← counted, ← same, List.append_assoc, List.drop_left]
    exact List.prefix_append second rest

theorem after (shows : frame.Shows names bound (first ++ second) scene) {expr : Expr}
    {code : Code} (lowered : expr.Lowers names bound first code) :
    frame.Shows names bound second (scene.skip (expr.uses scene.bound)) :=
  shows.right (by rw [shows.bound, lowered.length_eq])

theorem afterAll (shows : frame.Shows names bound (first ++ second) scene) {items : List Expr}
    {codes : List Code} (lowered : AllLower names bound items first codes) :
    frame.Shows names bound second (scene.skip (listUses scene.bound items)) :=
  shows.right (by rw [shows.bound, lowered.length_eq])

theorem afterStatement (shows : frame.Shows names bound (first ++ second) scene)
    {statement : Statement} {step : Step} (lowered : statement.Lowers names bound first step) :
    frame.Shows names bound second (scene.skip (statement.uses scene.bound)) :=
  shows.right (by rw [shows.bound, lowered.length_eq])

end Frame.Shows

/-- A tree stands for a closure with slots: the closure has the routine of the tree, and both were
made where a frame shows a scene. Closures that had been made before stand for themselves. -/
inductive Represents : SlotClosure → NameClosure → Prop where
  | slots (closure : SlotClosure) : Represents closure (.slots closure)
  | names {names bound parameters : List String} {body : Body} {globals : List Value}
      {routine : Routine} {frame : Frame} {scene : Scene}
      (lowered : FunctionLowers names bound parameters body globals routine)
      (shows : frame.Shows names bound globals scene) :
      Represents ⟨routine, frame.captured routine.captures⟩
        (.names parameters body scene.environment scene.globals)

/-! ### The beginning of a call -/

/-- The frame of a call of a function whose own names and captures are known. -/
theorem Scope.Extends.enter {own names captured : List String} {scope : Scope}
    (extension : scope.Extends own names captured) (distinct : own.Nodup)
    {parameters : List String} (known : ∀ parameter ∈ parameters, parameter ∈ own)
    (body : CodeBody) (label : String) (frame : Frame) (context : Value) (arguments : List Value)
    (heap : Heap) (closures : Array SlotClosure) :
    SlotClosure.enter
        ⟨⟨parameters.map fun name => own.idxOf name, scope.names.length, scope.captures, body,
          label⟩, frame.captured scope.captures⟩ context arguments ⟨heap, closures⟩ =
      (.value ⟨context, arguments,
          ((Array.range own.length).map fun index => ⟨heap.locals.size + index⟩) ++
            (scope.captures.map fun capture => frame.cell capture.1).toArray⟩,
        ⟨{ heap with locals := heap.locals ++
            (own.map fun name => initialValue name parameters arguments).toArray }, closures⟩) := by
  have count : (frame.captured scope.captures).length = captured.length := by
    rw [Frame.captured, List.length_map, extension.outer.length_eq]
  have size : scope.names.length - (frame.captured scope.captures).length = own.length := by
    rw [count, extension.names, List.length_append, Nat.add_sub_cancel]
  have fresh : Array.replicate own.length Value.undefined =
      (own.map fun _ => Value.undefined).toArray := by
    rw [List.map_const', List.toArray_replicate]
  have writes := writeParameters_eq distinct parameters known heap heap.locals
    ((Array.range own.length).map fun index => ⟨heap.locals.size + index⟩)
    (fun slot bound => by simp [Array.getD, bound]) (fun _ => .undefined) arguments
  have values : (own.map fun name => if name ∈ parameters then
      initialValue name parameters arguments else .undefined) =
        own.map fun name => initialValue name parameters arguments := by
    refine List.map_congr_left fun name _ => ?_
    split
    · rfl
    · rename_i other
      rw [initialValue_of_notMem other]
  have cells := foldl_captured (frame.captured scope.captures)
    ((Array.range own.length).map fun index => ⟨heap.locals.size + index⟩) (by
      rw [Array.size_map, Array.size_range, count, Frame.captured, List.map_map, ← extension.slots]
      rfl)
  have captures : (frame.captured scope.captures).map Prod.snd =
      scope.captures.map fun capture => frame.cell capture.1 := by
    rw [Frame.captured, List.map_map]
    rfl
  generalize frame.captured scope.captures = pairs at size cells captures ⊢
  simp only [SlotClosure.enter, Action.change, Heap.newVariables, size, fresh, writes, values,
    cells, captures]

/-- The capture at the position of a captured name. -/
theorem Scope.Extends.capture_at {own names captured : List String} {scope : Scope}
    (extension : scope.Extends own names captured) {position : Nat} {name : String}
    (found : captured[position]? = some name) :
    ∃ capture, scope.captures[position]? = some capture ∧ names[capture.1]? = some name := by
  obtain ⟨bound, rfl⟩ := List.getElem?_eq_some_iff.mp found
  have same := extension.outer.length_eq
  refine ⟨scope.captures[position], List.getElem?_eq_getElem (same ▸ bound), ?_⟩
  exact (List.forall₂_iff_get.mp extension.outer).2 position bound (same ▸ bound)

/-- The frame of a call shows the scene of the call, since the function was made where a frame
shows a scene. -/
theorem Frame.Shows.enter {own names bound captured : List String} {globals : List Value}
    {frame : Frame} {scene : Scene} {scope : Scope}
    (shows : frame.Shows names bound globals scene)
    (extension : scope.Extends own names captured) (distinct : own.Nodup) (context : Value)
    (arguments : List Value) (start : Nat) :
    Frame.Shows scope.names (own ++ bound) globals
      ⟨context, arguments, ((Array.range own.length).map fun index => ⟨start + index⟩) ++
        (scope.captures.map fun capture => frame.cell capture.1).toArray⟩
      ⟨context, arguments, (own.mapIdx fun index name => (name, ⟨start + index⟩)) ++
        scene.environment, scene.globals⟩ where
  context := rfl
  arguments := rfl
  cell {slot name} found := by
    rw [extension.names] at found
    rw [Scene.cell, List.lookup_append]
    by_cases inside : slot < own.length
    · rw [List.getElem?_append_left inside] at found
      rw [lookup_newNamed distinct found]
      simp [Frame.cell, Array.getD, inside, Nat.lt_add_right]
    · rw [List.getElem?_append_right (by omega)] at found
      obtain ⟨capture, position, outer⟩ := extension.capture_at found
      have other : name ∉ own := extension.fresh name (List.mem_of_getElem? found)
      rw [lookup_newNamed_of_notMem other, Option.none_or, ← Scene.cell, ← shows.cell outer,
        Frame.cell, Array.getD_eq_getD_getElem?,
        Array.getElem?_append_right (by simpa using inside)]
      simp [position]
  bound := by
    rw [Scene.bound, List.map_append, newNamed_names, ← shows.bound]
    rfl
  ahead := shows.ahead

end Shorthand
