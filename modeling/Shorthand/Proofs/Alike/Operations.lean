/-
This file shows that everything a program can do besides making and running closures is parallel in
related worlds, provided that the machines it runs on are.

Each operation is built from steps on the heap, calls and functions made of sources, so the proofs
follow the definitions.
-/

import Shorthand.Proofs.Alike.Basic

namespace Shorthand.Parallel

variable {First Second : Type} {Rel : World First → World Second → Prop} [StoreRelation Rel]

/-! ### Properties -/

theorem readNamed (base : Value) (name : String) :
    Parallel Rel (Shorthand.readNamed base name) (Shorthand.readNamed base name) := by
  refine bind (read _) fun length => ?_
  cases length with
  | some length => exact done _
  | none =>
    show Parallel Rel (if base.hasMethod name then _ else _) (if base.hasMethod name then _ else _)
    split
    · exact newFunction _ _ _
    · exact done _

theorem readProperty (base key : Value) :
    Parallel Rel (Shorthand.readProperty base key) (Shorthand.readProperty base key) := by
  cases base with
  | undefined => exact bind (readIf _ _) fun _ => typeFault _
  | null => exact bind (readIf _ _) fun _ => typeFault _
  | map cell => exact readIf _ _
  | _ =>
    refine bind (read _) fun element => ?_
    cases element with
    | some element => exact done _
    | none => exact bind (readIf _ _) fun name => readNamed _ name

theorem writeElement (cell : ListRef) (index : Nat) (value : Value) :
    Parallel Rel (Shorthand.writeElement cell index value)
      (Shorthand.writeElement cell index value) := by
  refine bind (read _) fun length => ?_
  split
  · exact fail _
  · exact changeList _ _

theorem writeProperty (base key value : Value) :
    Parallel Rel (Shorthand.writeProperty base key value)
      (Shorthand.writeProperty base key value) := by
  cases base with
  | map cell => exact bind (readIf _ _) fun name => changeMap _ _
  | list cell =>
    simp only [Shorthand.writeProperty]
    cases key.index? with
    | some index => exact writeElement _ _ _
    | none => exact bind (readIf _ _) fun name => typeFault _
  | _ => exact bind (readIf _ _) fun _ => typeFault _

/-! ### Functions made of functions -/

theorem combineBind (function context : Value) (first : List Value) :
    Parallel Rel (Combine.bind function context first) (Combine.bind function context first) :=
  bind (readIf _ _) fun _ => newFunction _ _ _

theorem combineNegate (function : Value) :
    Parallel Rel (Combine.negate function) (Combine.negate function) :=
  bind (readIf _ _) fun _ => newFunction _ _ _

theorem combineMemoized (memo : MemoRef) :
    Parallel Rel (Combine.memoized memo) (Combine.memoized memo) :=
  bind (read _) fun _ => bind (readIf _ _) fun _ => newFunction _ _ _

theorem combineMemoizing (function : Value) (slot : String) :
    Parallel Rel (Combine.memoizing function slot) (Combine.memoizing function slot) :=
  bind (read _) fun _ => newFunction _ _ _

/-! ### Sources -/

variable {machine : Machine First} {other : Machine Second}

section

variable (parallel : machine.CallsParallel Rel other)

include parallel

omit [StoreRelation Rel] in
theorem compile (code : String) (statementsAllowed : Bool) :
    Parallel Rel (machine.compile code statementsAllowed)
      (other.compile code statementsAllowed) := by
  unfold Machine.compile
  split
  · exact parallel.close _
  · exact fail _

theorem toFunction (value : Value) :
    Parallel Rel (machine.toFunction value) (other.toFunction value) := by
  cases value with
  | function cell => exact done _
  | string code => exact compile parallel code true
  | _ => exact bind (readIf _ _) fun _ => typeFault _

end

/-! ### Traversals -/

theorem enter (operation : String) (list : Value) :
    Parallel Rel (Sequence.enter operation list) (Sequence.enter operation list) := by
  cases list with
  | list cell => exact bind (read _) fun _ => done _
  | _ => exact bind (readIf _ _) fun _ => typeFault _

theorem firstOrNull (operation : String) (list : Value) :
    Parallel Rel (Sequence.firstOrNull operation list)
      (Sequence.firstOrNull operation list) := by
  refine bind (enter operation list) fun (_, length) => ?_
  by_cases empty : length = 0
  · simp only [empty, if_true]
    exact done _
  · simp only [empty, if_false]
    exact read _

section

variable (parallel : machine.CallsParallel Rel other)

include parallel

theorem begin (operation : String) (list callback : Value) (context : Option Value) :
    Parallel Rel (Sequence.begin machine operation list callback context)
      (Sequence.begin other operation list callback context) :=
  bind (enter operation list) fun _ => bind (toFunction parallel callback) fun _ => done _

theorem visit (traversal : Sequence.Traversal) (index : Nat) :
    Parallel Rel (traversal.visit machine index) (traversal.visit other index) :=
  bind (read _) fun _ => parallel.invoke _ _ _

/-- Whether the answer for an element is truthy, or its negation. -/
theorem visitTruthy (traversal : Sequence.Traversal) (index : Nat) (view : Bool → Bool) :
    Parallel Rel (do return view (← traversal.visit machine index).truthy)
      (do return view (← traversal.visit other index).truthy) :=
  bind (visit parallel traversal index) fun _ => done _

theorem forEach (list callback : Value) (context : Option Value) :
    Parallel Rel (Sequence.forEach machine list callback context)
      (Sequence.forEach other list callback context) :=
  bind (begin parallel _ list callback context) fun traversal =>
    fold (fun _ index => bind (visit parallel traversal index) fun _ => done _) _ _

theorem map (list callback : Value) (context : Option Value) :
    Parallel Rel (Sequence.map machine list callback context)
      (Sequence.map other list callback context) :=
  bind (begin parallel _ list callback context) fun traversal =>
    bind (collect (visit parallel traversal) _) fun _ => newList _

theorem reduce (list callback initial : Value) :
    Parallel Rel (Sequence.reduce machine list callback initial)
      (Sequence.reduce other list callback initial) :=
  bind (begin parallel _ list callback none) fun _ =>
    fold (fun _ _ => bind (read _) fun _ => parallel.invoke _ _ _) _ _

theorem filter (list callback : Value) (context : Option Value) :
    Parallel Rel (Sequence.filter machine list callback context)
      (Sequence.filter other list callback context) :=
  bind (begin parallel _ list callback context) fun _ =>
    bind (fold (fun _ _ => bind (read _) fun _ => bind (parallel.invoke _ _ _) fun _ => done _) _ _)
      fun _ => newList _

theorem every (list callback : Value) (context : Option Value) :
    Parallel Rel (Sequence.every machine list callback context)
      (Sequence.every other list callback context) :=
  bind (begin parallel _ list callback context) fun traversal =>
    bind (first? (fun index => visitTruthy parallel traversal index not) _) fun _ => done _

theorem any (list callback : Value) (context : Option Value) :
    Parallel Rel (Sequence.any machine list callback context)
      (Sequence.any other list callback context) :=
  bind (begin parallel _ list callback context) fun traversal =>
    bind (first? (fun index => visitTruthy parallel traversal index id) _) fun _ => done _

theorem find (list callback : Value) (context : Option Value) (backwards : Bool) :
    Parallel Rel (Sequence.find machine list callback context backwards)
      (Sequence.find other list callback context backwards) :=
  bind (begin parallel _ list callback context) fun traversal =>
    first? (fun index => visitTruthy parallel traversal index id) _

theorem zipWith (list second callback : Value) (context : Option Value) :
    Parallel Rel (Sequence.zipWith machine list second callback context)
      (Sequence.zipWith other list second callback context) := by
  refine bind (begin parallel _ list callback _) fun traversal =>
    bind (collect (fun index => ?_) _) fun _ => newList _
  cases second with
  | list cell => exact bind (read _) fun _ => bind (read _) fun _ => parallel.invoke _ _ _
  | _ => exact bind (readProperty _ _) fun _ => bind (read _) fun _ => parallel.invoke _ _ _

theorem uniq (list : Value) (equality context : Option Value) :
    Parallel Rel (Sequence.uniq machine list equality context)
      (Sequence.uniq other list equality context) := by
  refine bind (begin parallel _ list _ context) fun traversal =>
    bind (fold (fun kept index => bind (read _) fun value => ?_) _ _) fun _ => newList _
  split
  · exact done _
  · exact bind (read _) fun _ => bind (parallel.invoke _ _ _) fun _ => done _

theorem greatest (list : Value) :
    Parallel Rel (Sequence.greatest machine list) (Sequence.greatest other list) :=
  bind (firstOrNull "max" list) fun initial => reduce parallel list _ initial

theorem least (list : Value) :
    Parallel Rel (Sequence.least machine list) (Sequence.least other list) :=
  bind (firstOrNull "min" list) fun initial => reduce parallel list _ initial

theorem sortByValue (list callback : Value) (context : Option Value) :
    Parallel Rel (Sequence.sortByValue machine list callback context)
      (Sequence.sortByValue other list callback context) :=
  bind (begin parallel _ list callback context) fun _ => bind (read _) fun _ =>
    bind (collect (fun _ => parallel.invoke _ _ _) _) fun _ => bind (readIf _ _) fun _ =>
      bind (changeList _ _) fun _ => done _

end

/-! ### Lists without callbacks -/

theorem pluck (list key : Value) :
    Parallel Rel (Sequence.pluck list key) (Sequence.pluck list key) :=
  bind (enter _ list) fun _ =>
    bind (collect (fun _ => bind (read _) fun _ => readProperty _ _) _) fun _ => newList _

theorem flatten (list : Value) :
    Parallel Rel (Sequence.flatten list) (Sequence.flatten list) :=
  bind (enter _ list) fun _ => bind (readIf _ _) fun _ => newList _

theorem chunk (list : Value) (size : Nat) :
    Parallel Rel (Sequence.chunk list size) (Sequence.chunk list size) := by
  refine bind (enter _ list) fun (cell, _) => ?_
  by_cases none : size = 0
  · simp only [none, if_true]
    exact fail _
  · simp only [none, if_false]
    exact bind (read _) fun _ => bind (collect (fun _ => newList _) _) fun _ => newList _

theorem indexOf (list value : Value) (start : Option Int) :
    Parallel Rel (Sequence.indexOf list value start) (Sequence.indexOf list value start) :=
  bind (enter _ list) fun _ => read _

theorem lastIndexOf (list value : Value) (start : Option Int) :
    Parallel Rel (Sequence.lastIndexOf list value start)
      (Sequence.lastIndexOf list value start) :=
  bind (enter _ list) fun _ => read _

theorem contains (list value : Value) :
    Parallel Rel (Sequence.contains list value) (Sequence.contains list value) :=
  bind (indexOf list value none) fun _ => done _

/-! ### Methods -/

section

variable (parallel : machine.CallsParallel Rel other)

include parallel

theorem invokeAll (list : Value) (name : String) (arguments : List Value) :
    Parallel Rel (Method.invokeAll machine list name arguments)
      (Method.invokeAll other list name arguments) :=
  bind (enter _ list) fun _ =>
    bind (collect (fun _ => bind (read _) fun _ => bind (newFunction _ _ _) fun _ =>
      parallel.invoke _ _ _) _) fun _ => newList _

theorem callList (cell : ListRef) (method : ListMethod) (arguments : List Value) :
    Parallel Rel (Method.callList machine cell method arguments)
      (Method.callList other cell method arguments) := by
  cases method with
  | forEach => exact bind (forEach parallel _ _ _) fun _ => done _
  | map => exact map parallel _ _ _
  | reduce => exact reduce parallel _ _ _
  | filter => exact filter parallel _ _ _
  | every => exact bind (every parallel _ _ _) fun _ => done _
  | some => exact bind (any parallel _ _ _) fun _ => done _
  | sum => exact reduce parallel _ _ _
  | max => exact greatest parallel _
  | min => exact least parallel _
  | pluck => exact pluck _ _
  | invoke => exact bind (readIf _ _) fun _ => invokeAll parallel _ _ _
  | uniq => exact uniq parallel _ _ _
  | compact => exact filter parallel _ _ _
  | flatten => exact flatten _
  | find => exact bind (find parallel _ _ _ _) fun _ => done _
  | findBackwards => exact bind (find parallel _ _ _ _) fun _ => done _
  | sortByValue => exact sortByValue parallel _ _ _
  | chunk =>
    refine bind (readIf _ _) fun size => ?_
    cases size with
    | some size => exact chunk _ _
    | none => exact fail _
  | zipWith => exact zipWith parallel _ _ _ _
  | equals => exact bind (readIf _ _) fun _ => done _
  | indexOf => exact bind (readIf _ _) fun _ => bind (indexOf _ _ _) fun _ => done _
  | lastIndexOf => exact bind (readIf _ _) fun _ => bind (lastIndexOf _ _ _) fun _ => done _
  | contains => exact bind (contains _ _) fun _ => done _
  | range => exact bind (readIf _ _) fun _ => newList _
  | first => exact read _
  | last => exact read _
  | concat => exact bind (read _) fun _ => newList _
  | join => exact readIf _ _
  | slice =>
    exact bind (readIf _ _) fun _ => bind (readIf _ _) fun _ => bind (read _) fun _ => newList _
  | push => exact bind (changeList _ _) fun _ => read _
  | toString => exact readIf _ _

theorem callText (text : String) (method : TextMethod) (arguments : List Value) :
    Parallel Rel (Method.callText machine text method arguments)
      (Method.callText other text method arguments) := by
  cases method with
  | upperCaseFirst => exact done _
  | lambda => exact compile parallel _ _
  | toFunction => exact compile parallel _ _
  | charAt => exact readIf _ _
  | slice => exact bind (readIf _ _) fun _ => bind (readIf _ _) fun _ => done _
  | toUpperCase => exact done _
  | toLowerCase => exact done _
  | concat => exact readIf _ _
  | indexOf => exact readIf _ _
  | split =>
    by_cases none : (Method.argument arguments 0).isNone = true
    · simp only [Method.callText, none, if_true]
      exact newList _
    · simp only [Method.callText, none, Bool.false_eq_true, if_false]
      exact bind (readIf _ _) fun _ => newList _
  | trim => exact done _
  | toString => exact done _

theorem callFunction (function : Value) (method : FunctionMethod) (arguments : List Value) :
    Parallel Rel (Method.callFunction machine function method arguments)
      (Method.callFunction other function method arguments) := by
  cases method with
  | bind => exact combineBind _ _ _
  | not => exact combineNegate _
  | cacheMethod => exact bind (readIf _ _) fun _ => combineMemoizing _ _
  | call => exact parallel.invoke _ _ _
  | apply =>
    simp only [Method.callFunction]
    split
    · exact parallel.invoke _ _ _
    · exact parallel.invoke _ _ _
    · exact bind (read _) fun _ => parallel.invoke _ _ _
    · exact typeFault _
  | toString => exact read _

theorem callMethod (receiver : Value) (name : String) (arguments : List Value) :
    Parallel Rel (Method.call machine receiver name arguments)
      (Method.call other receiver name arguments) := by
  cases receiver with
  | undefined => exact readProperty _ _
  | null => exact readProperty _ _
  | boolean value =>
    simp only [Method.call]
    split
    · exact read _
    · exact typeFault _
  | number value =>
    simp only [Method.call]
    split
    · exact readIf _ _
    · exact done _
    · exact typeFault _
  | string text =>
    simp only [Method.call]
    split
    · exact callText parallel _ _ _
    · exact typeFault _
  | list cell =>
    simp only [Method.call]
    split
    · exact callList parallel _ _ _
    · exact typeFault _
  | map cell =>
    refine bind (readProperty _ _) fun function => ?_
    split
    · exact parallel.invoke _ _ _
    · exact typeFault _
  | function cell =>
    simp only [Method.call]
    split
    · exact callFunction parallel _ _ _
    · exact typeFault _
  | date instant =>
    simp only [Method.call]
    split
    · exact done _
    · exact read _
    · exact typeFault _

/-! ### Calls -/

theorem install (function : Value) (slot : String) (context : Value) (arguments : List Value) :
    Parallel Rel (Combine.install machine.invoke function slot context arguments)
      (Combine.install other.invoke function slot context arguments) := by
  cases context with
  | map cell =>
    exact bind (newMemo _) fun memo => bind (combineMemoized memo) fun _ =>
      bind (changeMap _ _) fun _ => parallel.answer memo _ arguments
  | _ => exact typeFault _

/-- Behaviours are parallel if those of closures are. -/
theorem perform {engine : Engine First} {otherEngine : Engine Second}
    (closures : ∀ cell context arguments,
      Parallel Rel (engine.perform machine context arguments (.closure cell))
        (otherEngine.perform other context arguments (.closure cell)))
    (context : Value) (arguments : List Value) (behaviour : Behaviour) :
    Parallel Rel (engine.perform machine context arguments behaviour)
      (otherEngine.perform other context arguments behaviour) := by
  cases behaviour with
  | closure cell => exact closures cell context arguments
  | method receiver name => exact callMethod parallel _ _ _
  | bound function context first => exact parallel.invoke _ _ _
  | negated function => exact bind (parallel.invoke _ _ _) fun _ => done _
  | memoized memo => exact parallel.answer _ _ _
  | memoizing function slot => exact install parallel _ _ _ _
  | mathematics function => exact readIf _ _
  | date =>
    cases arguments with
    | nil => exact bind readClock fun _ => done _
    | cons first _ => exact bind (readIf _ _) fun _ => done _
  | truncating list length =>
    cases list with
    | list cell => exact bind (changeList _ _) fun _ => done _
    | _ => exact bind (done _) fun _ => done _
  | failing message => exact typeFault _

end

/-- The calls of two machines are parallel if those inside them are. -/
theorem invokeWithin {engine : Engine First} {otherEngine : Engine Second} {depth : Nat}
    (parallel : (engine.machineWithin depth).CallsParallel Rel (otherEngine.machineWithin depth))
    (closures : ∀ cell context arguments,
      Parallel Rel (engine.perform (engine.machineWithin depth) context arguments (.closure cell))
        (otherEngine.perform (otherEngine.machineWithin depth) context arguments (.closure cell)))
    (function context : Value) (arguments : List Value) :
    Parallel Rel ((engine.machineWithin (depth + 1)).invoke function context arguments)
      ((otherEngine.machineWithin (depth + 1)).invoke function context arguments) := by
  cases function with
  | function cell =>
    exact bind (read _) fun behaviour => perform parallel closures context arguments behaviour
  | _ => exact bind (readIf _ _) fun _ => typeFault _

end Shorthand.Parallel

/-! ### Matching worlds -/

namespace Shorthand

variable {First Second : Type} {Related : First → Second → Prop}

namespace Alike

theorem readProperty (base key : Value) :
    Alike Related (Shorthand.readProperty base key) (Shorthand.readProperty base key) :=
  Parallel.readProperty base key

theorem writeProperty (base key value : Value) :
    Alike Related (Shorthand.writeProperty base key value)
      (Shorthand.writeProperty base key value) :=
  Parallel.writeProperty base key value

variable {machine : Machine First} {other : Machine Second}

theorem callMethod (alike : machine.Alike Related other) (receiver : Value) (name : String)
    (arguments : List Value) :
    Alike Related (Method.call machine receiver name arguments)
      (Method.call other receiver name arguments) :=
  Parallel.callMethod alike.parallel.toCallsParallel receiver name arguments

/-- Closures behave alike as soon as related ones are run alike. -/
theorem performClosure {engine : Engine First} {otherEngine : Engine Second}
    (runAlike : ∀ first second context arguments, Related first second →
      Alike Related (engine.run machine first context arguments)
        (otherEngine.run other second context arguments))
    (cell : ClosureRef) (context : Value) (arguments : List Value) :
    Alike Related (engine.perform machine context arguments (.closure cell))
      (otherEngine.perform other context arguments (.closure cell)) := by
  intro left right matching
  have found := matching.closure cell.index
  simp only [Engine.perform]
  generalize left.closures[cell.index]? = closure at found ⊢
  generalize right.closures[cell.index]? = otherClosure at found ⊢
  cases found with
  | none => exact ⟨rfl, matching⟩
  | some related => exact runAlike _ _ context arguments related left right matching

end Alike

/-- Two ways to make, keep and run closures that relate the closures they make and, on alike
machines, run related closures alike. -/
structure Engine.Alike (Related : First → Second → Prop) (first : Engine First)
    (second : Engine Second) : Prop where
  close : ∀ definition, Shorthand.Alike Related (first.close definition) (second.close definition)
  keep : ∀ closure, Related (first.keep closure) (second.keep closure)
  run : ∀ {machine : Machine First} {other : Machine Second}, machine.Alike Related other →
    machine.keep = first.keep → other.keep = second.keep →
      ∀ closure otherClosure context arguments, Related closure otherClosure →
        Shorthand.Alike Related (first.run machine closure context arguments)
          (second.run other otherClosure context arguments)

/-- At every depth of calls a machine keeps closures the way its engine does. -/
theorem Engine.machineWithin_keep (engine : Engine First) (depth : Nat) :
    (engine.machineWithin depth).keep = engine.keep := by
  cases depth <;> rfl

/-- At every depth of calls the machines of alike engines are alike. -/
theorem Engine.Alike.machineWithin {first : Engine First} {second : Engine Second}
    (alike : first.Alike Related second) (depth : Nat) :
    (first.machineWithin depth).Alike Related (second.machineWithin depth) := by
  induction depth with
  | zero => exact ⟨fun _ _ _ => Parallel.exhausted, alike.close, alike.keep⟩
  | succ depth inductionHypothesis =>
    refine ⟨Parallel.invokeWithin inductionHypothesis.parallel.toCallsParallel ?_, alike.close,
      alike.keep⟩
    exact Shorthand.Alike.performClosure (alike.run inductionHypothesis
      (first.machineWithin_keep depth) (second.machineWithin_keep depth))

end Shorthand
