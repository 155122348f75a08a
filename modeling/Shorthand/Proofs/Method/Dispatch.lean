/-
This file compares the call of a method with the call of the property that is read under the
same key.

Reading yields the slot of a map, the element of a list or a character of a text, a length, a
new function that calls a method, or nothing. A call finds the slots of maps and the methods,
and nothing else: an element of a list can be read but not called as a method of the list.
-/

import Shorthand.Proofs.Alike.Basic
import Shorthand.Proofs.Method.Names
import Shorthand.Proofs.World.Ends

namespace Shorthand

variable {Closure : Type}

/-- Calls the method of a receiver with a key. -/
def Machine.callMethod (machine : Machine Closure) (receiver key : Value)
    (arguments : List Value) : Action Closure Value := do
  Method.call machine receiver (← Action.readIf key.hasText key.rawText) arguments

/-! ### Reading -/

/-- What reading a property of a present value yields, and the world that it leaves. -/
inductive PropertyRead (receiver key : Value) (world : World Closure) :
    Value → World Closure → Prop where
  | slot {cell : MapRef} (isMap : receiver = .map cell) :
    PropertyRead receiver key world
      (((world.heap.readMap cell).get? (key.rawText world.heap)).getD .undefined) world
  | element {cell : ListRef} {index : Nat} (isList : receiver = .list cell)
    (isIndex : key.index? = some index) :
    PropertyRead receiver key world (world.heap.elementAt cell index) world
  /-- A character, a length or nothing. -/
  | plain {value : Value} (notMap : ∀ cell, receiver ≠ .map cell)
    (notFunction : value.isFunction = false)
    (notMethod : receiver.hasMethod (key.rawText world.heap) = false) :
    PropertyRead receiver key world value world
  | method (isMethod : receiver.hasMethod (key.rawText world.heap) = true) :
    PropertyRead receiver key world (.function ⟨world.heap.functions.size⟩)
      ⟨(world.heap.newFunction ⟨.method receiver (key.rawText world.heap), 0,
        key.rawText world.heap⟩).2, world.closures⟩

theorem Value.not_hasMethod_length (receiver : Value) : receiver.hasMethod "length" = false := by
  cases receiver with
  | list cell => exact (by decide +kernel : (ListMethod.names.lookup "length").isSome = false)
  | string text => exact (by decide +kernel : (TextMethod.names.lookup "length").isSome = false)
  | function cell =>
    exact (by decide +kernel : (FunctionMethod.names.lookup "length").isSome = false)
  | number number =>
    exact (by decide +kernel : (NumberMethod.names.lookup "length").isSome = false)
  | date instant => exact (by decide +kernel : (DateMethod.names.lookup "length").isSome = false)
  | _ => rfl

/-- A slot of a map that a key names is read from the table of the map. -/
theorem readProperty_map {key : Value} {world : World Closure}
    (hasText : key.hasText world.heap = true) (cell : MapRef) :
    readProperty (.map cell) key world =
      (.value (((world.heap.readMap cell).get? (key.rawText world.heap)).getD .undefined),
        world) :=
  if_pos hasText

/-- A key that is no index of a sequence is looked up as a name. -/
theorem readProperty_eq_readNamed {receiver key : Value} {world : World Closure}
    (present : receiver.isNone = false) (hasText : key.hasText world.heap = true)
    (notMap : ∀ cell, receiver ≠ .map cell)
    (noElement : (key.index?.bind fun index => receiver.elementAt? world.heap index) = none) :
    readProperty receiver key world = readNamed receiver (key.rawText world.heap) world := by
  cases receiver with
  | undefined => exact absurd present Bool.noConfusion
  | null => exact absurd present Bool.noConfusion
  | map cell => exact absurd rfl (notMap cell)
  | _ =>
    simp only [readProperty, Action.read_bind, noElement]
    exact Action.readIf_bind hasText _ _

theorem readProperty_eq_element {receiver key element : Value} {index : Nat}
    {world : World Closure} (isIndex : key.index? = some index)
    (isElement : receiver.elementAt? world.heap index = some element) :
    readProperty receiver key world = (.value element, world) := by
  cases receiver with
  | list cell =>
    simp only [readProperty, Action.read_bind, isIndex, Option.bind_some, isElement]
    rfl
  | string text =>
    simp only [readProperty, Action.read_bind, isIndex, Option.bind_some, isElement]
    rfl
  | _ => exact nomatch isElement

/-- Reading never ends with a key that holds itself, which is a list and so no index. -/
theorem readProperty_exhausted {receiver key : Value} {world : World Closure}
    (present : receiver.isNone = false) (noText : key.hasText world.heap = false) :
    readProperty receiver key world = (.exhausted, world) := by
  have noElement :
      (key.index?.bind fun index => receiver.elementAt? world.heap index) = none := by
    obtain ⟨cell, rfl⟩ := Value.isList_of_noText noText
    rfl
  cases receiver with
  | undefined => exact absurd present Bool.noConfusion
  | null => exact absurd present Bool.noConfusion
  | map cell =>
    rw [readProperty]
    exact Action.readIf_exhausted noText _
  | _ =>
    simp only [readProperty, Action.read_bind, noElement]
    exact Action.bind_exhausted (Action.readIf_exhausted noText _) _

/-- Nothing is read from a truth value. -/
theorem readProperty_boolean {key : Value} {world : World Closure}
    (hasText : key.hasText world.heap = true) (truth : Bool) :
    readProperty (.boolean truth) key world = (.value .undefined, world) := by
  have noElement :
      (key.index?.bind fun index => (Value.boolean truth).elementAt? world.heap index) = none := by
    cases key.index? <;> rfl
  rw [readProperty_eq_readNamed rfl hasText (fun _ => Value.noConfusion) noElement, readNamed,
    Action.read_bind]
  by_cases named : key.rawText world.heap = "length"
  · rw [if_pos named]
    rfl
  · rw [if_neg named]
    rfl

/-- A name is read as the length, as a method or as nothing. -/
theorem readNamed_propertyRead {receiver key : Value} (world : World Closure)
    (notMap : ∀ cell, receiver ≠ .map cell) :
    ∃ property after, readNamed receiver (key.rawText world.heap) world =
      (.value property, after) ∧ PropertyRead receiver key world property after := by
  rw [readNamed, Action.read_bind]
  by_cases named : key.rawText world.heap = "length"
  · have notMethod : receiver.hasMethod (key.rawText world.heap) = false :=
      named ▸ receiver.not_hasMethod_length
    rw [if_pos named]
    cases receiver.length? world.heap with
    | some length => exact ⟨_, world, rfl, .plain notMap (by rfl) notMethod⟩
    | none =>
      simp only [notMethod, Bool.false_eq_true, if_false]
      exact ⟨_, world, rfl, .plain notMap (by rfl) notMethod⟩
  · rw [if_neg named]
    cases isMethod : receiver.hasMethod (key.rawText world.heap) with
    | true =>
      simp only [if_true]
      exact ⟨_, _, rfl, .method isMethod⟩
    | false =>
      simp only [Bool.false_eq_true, if_false]
      exact ⟨_, world, rfl, .plain notMap (by rfl) isMethod⟩

/-- Reading a property of a present value succeeds if the key does not hold itself. -/
theorem readProperty_propertyRead {receiver key : Value} (world : World Closure)
    (present : receiver.isNone = false) (hasText : key.hasText world.heap = true) :
    ∃ property after, readProperty receiver key world = (.value property, after) ∧
      PropertyRead receiver key world property after := by
  by_cases isMap : ∃ cell, receiver = .map cell
  · obtain ⟨cell, rfl⟩ := isMap
    exact ⟨_, world, readProperty_map hasText cell, .slot rfl⟩
  have notMap : ∀ cell, receiver ≠ .map cell := fun cell same => isMap ⟨cell, same⟩
  cases found : key.index?.bind fun index => receiver.elementAt? world.heap index with
  | none =>
    rw [readProperty_eq_readNamed present hasText notMap found]
    exact readNamed_propertyRead world notMap
  | some element =>
    obtain ⟨index, isIndex, isElement⟩ := Option.bind_eq_some_iff.mp found
    refine ⟨element, world, readProperty_eq_element isIndex isElement, ?_⟩
    cases receiver with
    | list cell =>
      obtain rfl : world.heap.elementAt cell index = element := Option.some.inj isElement
      exact .element rfl isIndex
    | string text =>
      refine .plain notMap ?_ (Value.hasMethod_of_index isIndex world.heap)
      obtain rfl := Option.some.inj isElement
      cases text.toList[index]? <;> rfl
    | _ => exact nomatch isElement

/-! ### Calling -/

/-- The fault of calling a method that a receiver does not have. -/
def Value.callFault (receiver : Value) (name : String) : TypeFault :=
  match receiver with
  | .map _ => .notAFunction name
  | _ => .unknownMethod receiver.typeName name

theorem Value.callFault_eq {receiver : Value} (notMap : ∀ cell, receiver ≠ .map cell)
    (name : String) : receiver.callFault name = .unknownMethod receiver.typeName name := by
  cases receiver with
  | map cell => exact absurd rfl (notMap cell)
  | _ => rfl

namespace Method

variable {machine : Machine Closure} {receiver : Value} {name : String}

/-- A text that is no name of a method cannot be called. Every truth value can be written as a
text, which no table says. -/
theorem call_eq_unknown (present : receiver.isNone = false)
    (notMap : ∀ cell, receiver ≠ .map cell)
    (notBoolean : ∀ truth, receiver = .boolean truth → name ≠ "toString")
    (notMethod : receiver.hasMethod name = false) (arguments : List Value) :
    call machine receiver name arguments = unknown receiver name := by
  cases receiver with
  | undefined => exact absurd present Bool.noConfusion
  | null => exact absurd present Bool.noConfusion
  | map cell => exact absurd rfl (notMap cell)
  | boolean truth => rw [call, if_neg (notBoolean truth rfl)]
  | list cell => simp only [call, Option.not_isSome_iff_eq_none.mp (Bool.eq_false_iff.mp notMethod)]
  | string text =>
    simp only [call, Option.not_isSome_iff_eq_none.mp (Bool.eq_false_iff.mp notMethod)]
  | function cell =>
    simp only [call, Option.not_isSome_iff_eq_none.mp (Bool.eq_false_iff.mp notMethod)]
  | number number =>
    simp only [call, Option.not_isSome_iff_eq_none.mp (Bool.eq_false_iff.mp notMethod)]
  | date instant =>
    simp only [call, Option.not_isSome_iff_eq_none.mp (Bool.eq_false_iff.mp notMethod)]

/-- The machine on which every call and every new function is too deep. -/
def halted (keep : SlotClosure → Closure) : Machine Closure :=
  ⟨fun _ _ _ => Action.exhausted, fun _ => Action.exhausted, keep⟩

variable {keep : SlotClosure → Closure}

theorem compile_halted (code : String) (statementsAllowed : Bool) (world : World Closure) :
    ((halted keep).compile code statementsAllowed world).1 ≠
      .failure (.type (.unknownMethod receiver.typeName name)) := by
  rw [Machine.compile]
  cases Form.parse code statementsAllowed <;> exact fun fails => by cases fails

/-- A traversal with a shorthand as its function goes no further than its beginning. -/
theorem begin_halted {α : Type} (operation code : String) (cell : ListRef)
    (context : Option Value) (next : Sequence.Traversal → Action Closure α)
    (world : World Closure) :
    ((Sequence.begin (halted keep) operation (.list cell) (.string code) context >>= next)
      world).1 ≠ .failure (.type (.unknownMethod receiver.typeName name)) := by
  have begins : Sequence.begin (halted keep) operation (.list cell) (.string code) context world =
      ((halted keep).compile code true >>= fun function => Action.done
        ⟨cell, (world.heap.readList cell).size, function, context.getD .undefined⟩) world := rfl
  rw [Machine.compile] at begins
  cases parsed : Form.parse code true with
  | ok form =>
    rw [Action.bind_exhausted (begins.trans (by rw [parsed]; rfl))]
    exact fun fails => by cases fails
  | error error =>
    rw [Action.bind_failure (begins.trans (by rw [parsed]; rfl))]
    exact fun fails => by cases fails

/-- An empty list has no parts of any size. -/
theorem chunk_empty (cell : ListRef) (size : Nat) :
    (Sequence.chunk (.list cell) size (World.empty : World Closure)).1 ≠
      .failure (.type (.unknownMethod receiver.typeName name)) := by
  cases size with
  | zero => exact fun fails => by cases fails
  | succ size =>
    have noParts : Sequence.parts (size + 1) #[] = [] := by
      simp [Sequence.parts, Nat.div_eq_of_lt (show size < size + 1 by omega)]
    have entered : Sequence.chunk (.list cell) (size + 1) (World.empty : World Closure) =
        (Action.collect
          (fun index => Action.newList ((Sequence.parts (size + 1) #[]).toArray.getD index #[]))
          (List.range (Sequence.parts (size + 1) #[]).toArray.size) >>= Action.newList)
          World.empty := rfl
    rw [entered, noParts]
    exact fun fails => by cases fails

/-- A name of a method can be called: begun in the empty world, no method fails as unknown. -/
theorem call_ne_unknown (keep : SlotClosure → Closure)
    (isMethod : receiver.hasMethod name = true) :
    (call (halted keep) receiver name [.null] World.empty).1 ≠
      .failure (.type (.unknownMethod receiver.typeName name)) := by
  cases receiver with
  | list cell =>
    obtain ⟨method, found⟩ := Option.isSome_iff_exists.mp isMethod
    simp only [call, found]
    cases method with
    | sum => exact begin_halted _ _ _ _ _ _
    | max => exact begin_halted _ _ _ _ _ _
    | min => exact begin_halted _ _ _ _ _ _
    | compact => exact begin_halted _ _ _ _ _ _
    | chunk =>
      have isGiven : (argument [.null] 0).hasText (World.empty : World Closure).heap = true := rfl
      simp only [callList]
      rw [Action.readIf_bind isGiven]
      cases chunkSize World.empty.heap (argument [.null] 0) with
      | none => exact fun fails => by cases fails
      | some size => exact chunk_empty cell size
    | _ => exact fun fails => by cases fails
  | string text =>
    obtain ⟨method, found⟩ := Option.isSome_iff_exists.mp isMethod
    simp only [call, found]
    cases method with
    | lambda => exact compile_halted _ _ _
    | toFunction => exact compile_halted _ _ _
    | _ => exact fun fails => by cases fails
  | function cell =>
    obtain ⟨method, found⟩ := Option.isSome_iff_exists.mp isMethod
    simp only [call, found]
    cases method <;> exact fun fails => by cases fails
  | number number =>
    obtain ⟨method, found⟩ := Option.isSome_iff_exists.mp isMethod
    simp only [call, found]
    cases method <;> exact fun fails => by cases fails
  | date instant =>
    obtain ⟨method, found⟩ := Option.isSome_iff_exists.mp isMethod
    simp only [call, found]
    cases method <;> exact fun fails => by cases fails
  | _ => exact absurd isMethod Bool.false_ne_true

end Method

/-! ### Reading and calling -/

/-- Whether a key denotes an element of a list. Elements are read and never called as methods. -/
def Value.isElement (receiver key : Value) : Bool :=
  match receiver with
  | .list _ => key.index?.isSome
  | _ => false

theorem Value.not_isElement_of_hasMethod {receiver key : Value} {heap : Heap}
    (isMethod : receiver.hasMethod (key.rawText heap) = true) :
    receiver.isElement key = false := by
  cases receiver with
  | list cell =>
    show key.index?.isSome = false
    cases isIndex : key.index? with
    | none => rfl
    | some index =>
      rw [hasMethod_of_index isIndex heap] at isMethod
      exact absurd isMethod Bool.false_ne_true
  | _ => rfl

/-- How a property that is read from a receiver and the method that is called under the same key
belong together. -/
structure CallAgrees (engine : Engine Closure) (receiver key : Value) (world : World Closure)
    (property : Value) (after : World Closure) : Prop where
  read : readProperty receiver key world = (.value property, after)
  /-- Reading makes one function at most and changes nothing. -/
  grows : after = world ∨
    ∃ callable, after = ⟨(world.heap.newFunction callable).2, world.closures⟩
  /-- A callable property does what the method does. The function that stands for a method takes
  one call more. -/
  called : property.isFunction = true → receiver.isElement key = false →
    ∃ calls ≤ 1, ∀ depth arguments,
      (engine.machineWithin (depth + calls)).invoke property receiver arguments after =
        (engine.machineWithin depth).callMethod receiver key arguments after
  /-- Any other property and an element of a list cannot be called as a method. -/
  refused : property.isFunction = false ∨ receiver.isElement key = true →
    ∀ (machine : Machine Closure) (arguments : List Value),
      machine.callMethod receiver key arguments world =
        (.failure (.type (receiver.callFault (key.rawText world.heap))), world)
  /-- Where the names of methods are fixed, they are those that are read as functions. -/
  named : (∀ cell, receiver ≠ .map cell) →
    ((property.isFunction = true ∧ receiver.isElement key = false) ↔
      ∃ (machine : Machine Closure) (arguments : List Value) (other : World Closure),
        (Method.call machine receiver (key.rawText world.heap) arguments other).1 ≠
          .failure (.type (receiver.callFault (key.rawText world.heap))))
  /-- The expression for a call of an element calls the function in a slot of a map. -/
  slot : ∀ cell, receiver = .map cell → property.isFunction = true →
    ∀ (machine : Machine Closure) (frame : Frame) (base index : Code) (operands : List Code)
      (first second third : World Closure) (arguments : List Value),
      base.evaluate machine frame first = (.value receiver, second) →
      index.evaluate machine frame second = (.value key, third) →
      evaluateAll machine frame operands third = (.value arguments, world) →
      (Code.callMethod base index operands).evaluate machine frame first =
        machine.invoke property receiver arguments world

theorem Code.evaluate_callMethod {machine : Machine Closure} {frame : Frame} {base index : Code}
    {operands : List Code} {receiver key : Value} {arguments : List Value}
    {first second third world : World Closure}
    (isReceiver : base.evaluate machine frame first = (.value receiver, second))
    (isKey : index.evaluate machine frame second = (.value key, third))
    (areArguments : evaluateAll machine frame operands third = (.value arguments, world)) :
    (Code.callMethod base index operands).evaluate machine frame first =
      machine.callMethod receiver key arguments world := by
  rw [Code.evaluate, Action.bind_value isReceiver, Action.bind_value isKey,
    Action.bind_value areArguments]
  rfl

theorem Engine.invoke_function (engine : Engine Closure) (depth : Nat) (cell : FunctionRef)
    (context : Value) (arguments : List Value) (world : World Closure) :
    (engine.machineWithin (depth + 1)).invoke (.function cell) context arguments world =
      engine.perform (engine.machineWithin depth) context arguments
        (world.heap.readFunction cell).behaviour world := rfl

namespace Machine

variable {machine : Machine Closure} {receiver key : Value} {world : World Closure}

theorem callMethod_eq_call (hasText : key.hasText world.heap = true) (arguments : List Value) :
    machine.callMethod receiver key arguments world =
      Method.call machine receiver (key.rawText world.heap) arguments world :=
  Action.readIf_bind hasText _ _

/-- A call writes a truth value as a text, though no name of a method is read from it. -/
theorem callMethod_boolean (hasText : key.hasText world.heap = true)
    (named : key.rawText world.heap = "toString") (truth : Bool) (arguments : List Value) :
    machine.callMethod (.boolean truth) key arguments world =
      (.value (.string ((Value.boolean truth).rawText world.heap)), world) := by
  rw [callMethod_eq_call hasText, Method.call, if_pos named]
  rfl

/-- A slot of a map is called with the map as its context if it holds a function. -/
theorem callMethod_map (hasText : key.hasText world.heap = true) (cell : MapRef)
    (arguments : List Value) :
    machine.callMethod (.map cell) key arguments world =
      (if (((world.heap.readMap cell).get? (key.rawText world.heap)).getD .undefined).isFunction
      then machine.invoke (((world.heap.readMap cell).get? (key.rawText world.heap)).getD
        .undefined) (.map cell) arguments
      else Action.typeFault (.notAFunction (key.rawText world.heap))) world := by
  have read : readProperty (.map cell) (.string (key.rawText world.heap)) world =
      (.value (((world.heap.readMap cell).get? (key.rawText world.heap)).getD .undefined),
        world) := by
    rw [readProperty_map (Value.hasText_string _),
      Value.rawText_leaf fun _ => Value.noConfusion]
    rfl
  rw [callMethod_eq_call hasText, Method.call, Action.bind_value read]

theorem callMethod_unknown (present : receiver.isNone = false)
    (hasText : key.hasText world.heap = true) (notMap : ∀ cell, receiver ≠ .map cell)
    (notBoolean : ∀ truth, receiver = .boolean truth → key.rawText world.heap ≠ "toString")
    (notMethod : receiver.hasMethod (key.rawText world.heap) = false) (arguments : List Value) :
    machine.callMethod receiver key arguments world =
      (.failure (.type (.unknownMethod receiver.typeName (key.rawText world.heap))), world) := by
  rw [callMethod_eq_call hasText,
    Method.call_eq_unknown present notMap notBoolean notMethod arguments]
  rfl

/-- The function that stands for a method calls it, whatever context it is given. -/
theorem invoke_method (engine : Engine Closure) (hasText : key.hasText world.heap = true)
    (isMethod : receiver.hasMethod (key.rawText world.heap) = true) (depth : Nat)
    (context : Value) (arguments : List Value) (after : World Closure)
    (grown : after = ⟨(world.heap.newFunction ⟨.method receiver (key.rawText world.heap), 0,
      key.rawText world.heap⟩).2, world.closures⟩) :
    (engine.machineWithin (depth + 1)).invoke (.function ⟨world.heap.functions.size⟩) context
        arguments after =
      (engine.machineWithin depth).callMethod receiver key arguments after := by
  have added : after.heap.readFunction ⟨world.heap.functions.size⟩ =
      ⟨.method receiver (key.rawText world.heap), 0, key.rawText world.heap⟩ := by
    rw [grown, Heap.readFunction, Heap.newFunction]
    simp
  have name : key.rawText after.heap = key.rawText world.heap := by
    rw [grown]
    exact Value.rawText_newFunction isMethod _
  have stillText : key.hasText after.heap = true := by
    rw [Value.hasText_congr (show after.heap.lists = world.heap.lists by rw [grown]; rfl)]
    exact hasText
  rw [engine.invoke_function, added, callMethod_eq_call stillText, name]
  rfl

end Machine

namespace CallAgrees

variable {engine : Engine Closure} {receiver key : Value} {world : World Closure}

/-- A slot of a map can be called if it holds a function. -/
theorem ofSlot (hasText : key.hasText world.heap = true) (cell : MapRef) :
    CallAgrees engine (.map cell) key world
      (((world.heap.readMap cell).get? (key.rawText world.heap)).getD .undefined) world where
  read := readProperty_map hasText cell
  grows := .inl rfl
  called := fun isFunction _ => by
    refine ⟨0, Nat.zero_le 1, fun depth arguments => ?_⟩
    rw [Machine.callMethod_map hasText, if_pos isFunction]
    rfl
  refused := fun noCall machine arguments => by
    have notFunction := noCall.resolve_right Bool.false_ne_true
    rw [Machine.callMethod_map hasText, if_neg (Bool.eq_false_iff.mp notFunction)]
    rfl
  named := fun notMap => absurd rfl (notMap cell)
  slot := fun _ _ isFunction machine _ _ _ _ _ _ _ arguments isReceiver isKey areArguments => by
    rw [Code.evaluate_callMethod isReceiver isKey areArguments, Machine.callMethod_map hasText,
      if_pos isFunction]

/-- What can be read but is no method cannot be called. -/
theorem ofUnknown {property : Value} (present : receiver.isNone = false)
    (hasText : key.hasText world.heap = true) (notMap : ∀ cell, receiver ≠ .map cell)
    (notBoolean : ∀ truth, receiver = .boolean truth → key.rawText world.heap ≠ "toString")
    (notMethod : receiver.hasMethod (key.rawText world.heap) = false)
    (read : readProperty receiver key world = (.value property, world))
    (noCall : property.isFunction = true → receiver.isElement key = true) :
    CallAgrees engine receiver key world property world where
  read := read
  grows := .inl rfl
  called := fun isFunction notElement =>
    absurd ((noCall isFunction).symm.trans notElement) Bool.true_eq_false.mp
  refused := fun _ machine arguments => by
    rw [Machine.callMethod_unknown present hasText notMap notBoolean notMethod,
      Value.callFault_eq notMap]
  named := fun _ => by
    refine ⟨fun ⟨isFunction, notElement⟩ =>
      absurd ((noCall isFunction).symm.trans notElement) Bool.true_eq_false.mp, ?_⟩
    rintro ⟨machine, arguments, other, known⟩
    rw [Method.call_eq_unknown present notMap notBoolean notMethod,
      Value.callFault_eq notMap] at known
    exact absurd rfl known
  slot := fun cell isMap => absurd isMap (notMap cell)

/-- A method is read as a new function that calls it. -/
theorem ofMethod (hasText : key.hasText world.heap = true)
    (isMethod : receiver.hasMethod (key.rawText world.heap) = true)
    {after : World Closure}
    (grown : after = ⟨(world.heap.newFunction ⟨.method receiver (key.rawText world.heap), 0,
      key.rawText world.heap⟩).2, world.closures⟩)
    (read : readProperty receiver key world =
      (.value (.function ⟨world.heap.functions.size⟩), after)) :
    CallAgrees engine receiver key world (.function ⟨world.heap.functions.size⟩) after where
  read := read
  grows := .inr ⟨_, grown⟩
  called := fun _ _ => ⟨1, Nat.le_refl 1, fun depth arguments =>
    Machine.invoke_method engine hasText isMethod depth receiver arguments after grown⟩
  refused := fun noCall => by
    rw [Value.not_isElement_of_hasMethod isMethod] at noCall
    exact absurd noCall (by simp [Value.isFunction])
  named := fun notMap => by
    refine iff_of_true ⟨rfl, Value.not_isElement_of_hasMethod isMethod⟩
      ⟨Method.halted engine.keep, [.null], World.empty, ?_⟩
    rw [Value.callFault_eq notMap]
    exact Method.call_ne_unknown engine.keep isMethod
  slot := fun cell isMap => absurd isMethod (by simp [isMap, Value.hasMethod])

end CallAgrees

/-- For every present receiver and every key a method call is a property read and a call of what it
yields, and fails where this is no function or is an element of a list. There are two exceptions. A
key that holds itself has no text, and then neither comes to an end. And a truth value has a text
when this is called for, though nothing is read under that name. -/
theorem callMethod_agrees (engine : Engine Closure) (receiver key : Value)
    (world : World Closure) (present : receiver.isNone = false) :
    (∃ property after, CallAgrees engine receiver key world property after) ∨
    (key.hasText world.heap = false ∧
      readProperty receiver key world = (.exhausted, world) ∧
      ∀ (machine : Machine Closure) (arguments : List Value),
        machine.callMethod receiver key arguments world = (.exhausted, world)) ∨
    ∃ truth, receiver = .boolean truth ∧ key.rawText world.heap = "toString" ∧
      readProperty receiver key world = (.value .undefined, world) ∧
      ∀ (machine : Machine Closure) (arguments : List Value),
        machine.callMethod receiver key arguments world =
          (.value (.string (receiver.rawText world.heap)), world) := by
  cases hasText : key.hasText world.heap with
  | false =>
    exact .inr (.inl ⟨rfl, readProperty_exhausted present hasText, fun _ _ =>
      Action.bind_exhausted (Action.readIf_exhausted hasText _) _⟩)
  | true => ?_
  by_cases isTruth : ∃ truth, receiver = .boolean truth ∧ key.rawText world.heap = "toString"
  · obtain ⟨truth, rfl, named⟩ := isTruth
    exact .inr (.inr ⟨truth, rfl, named, readProperty_boolean hasText truth,
      fun _ => Machine.callMethod_boolean hasText named truth⟩)
  have notTruth := fun truth same named => isTruth ⟨truth, same, named⟩
  obtain ⟨property, after, read, spec⟩ := readProperty_propertyRead world present hasText
  refine .inl ⟨property, after, ?_⟩
  cases spec with
  | @slot cell isMap =>
    subst isMap
    exact .ofSlot hasText cell
  | @element cell index isList isIndex =>
    subst isList
    exact .ofUnknown present hasText (fun _ => Value.noConfusion) notTruth
      (Value.hasMethod_of_index isIndex world.heap) read
      fun _ => by rw [Value.isElement, isIndex, Option.isSome_some]
  | plain notMap notFunction notMethod =>
    exact .ofUnknown present hasText notMap notTruth notMethod read
      fun isFunction => absurd (notFunction.symm.trans isFunction) Bool.false_ne_true
  | method isMethod => exact .ofMethod hasText isMethod rfl read

/-- A function without parameters that returns one. -/
def returnsOne : SlotClosure where
  routine := ⟨[], 0, [], .steps [.return (some (.value (.ofInt 1)))], "function(){ return 1 }"⟩
  captured := []

/-- A world with one function, which is an element of a list and in a slot of a map. -/
def stocked : World SlotClosure where
  heap := { Heap.empty with
    lists := #[#[.function ⟨0⟩]]
    maps := #[Table.empty.insert "make" (.function ⟨0⟩)]
    functions := #[⟨.closure ⟨0⟩, 0, "function(){ return 1 }"⟩] }
  closures := #[returnsOne]

/-- The function in the slot of the map is read and called as a method. -/
theorem stocked_agrees : (Value.map ⟨0⟩).isNone = false ∧
    CallAgrees slotEngine (.map ⟨0⟩) (.string "make") stocked (.function ⟨0⟩) stocked := by
  refine ⟨rfl, ?_⟩
  obtain ⟨property, after, agrees⟩ | ⟨noText, -⟩ | ⟨truth, isTruth, -⟩ :=
    callMethod_agrees slotEngine (.map ⟨0⟩) (.string "make") stocked rfl
  case inr.inl => exact absurd noText Bool.noConfusion
  case inr.inr => exact absurd isTruth Value.noConfusion
  have read : readProperty (.map ⟨0⟩) (.string "make") stocked =
      (.value (.function ⟨0⟩), stocked) := by rfl
  obtain ⟨rfl, rfl⟩ : property = .function ⟨0⟩ ∧ after = stocked := by
    simpa [read, eq_comm] using agrees.read
  exact agrees

/-- A function that is an element of a list can be read and called, but a call of the element as a
method finds no method. -/
theorem element_not_called :
    readProperty (.list ⟨0⟩) (.number (.integer 0)) stocked =
        (.value (.function ⟨0⟩), stocked) ∧
      call (.function ⟨0⟩) (.list ⟨0⟩) [] stocked = (.value (.ofInt 1), stocked) ∧
      callMethod (.list ⟨0⟩) (.number (.integer 0)) [] stocked =
        (.failure (.type (.unknownMethod "array" "0")), stocked) := by
  refine ⟨rfl, ?_, ?_⟩
  · rw [call, machine, show callDepth = 999999 + 1 from rfl, slotEngine.invoke_function]
    rfl
  · rfl

end Shorthand
