/-
This file calls methods.

The receiver decides which methods there are. A map has none: what is called is the function in
the slot of that name, with the map as its context. Missing arguments are `undefined`, and
where an argument is optional `undefined` counts as missing.
-/

import Shorthand.Combine
import Shorthand.Sequence.Search
import Shorthand.Sequence.Shape
import Shorthand.Sequence.Sort
import Shorthand.Sequence.Traverse
import Shorthand.Text.Case

namespace Shorthand

namespace Method

variable {Closure : Type}

/-! ### Arguments and answers -/

/-- The argument at a position. -/
def argument (arguments : List Value) (position : Nat) : Value :=
  arguments.getD position .undefined

/-- The argument at a position, unless it is missing. -/
def given? (arguments : List Value) (position : Nat) : Option Value :=
  match argument arguments position with
  | .undefined => none
  | value => some value

/-- Whether the text of the argument at a position can be found, which its number may depend on. -/
def hasArgument (arguments : List Value) (position : Nat) (heap : Heap) : Bool :=
  (argument arguments position).hasText heap

/-- The integer of the argument at a position, unless it is missing. -/
def integer? (heap : Heap) (arguments : List Value) (position : Nat) : Option Int :=
  (given? arguments position).map fun value => (value.toWord heap).toInt

/-- A position as an answer, which is minus one if there is none. -/
def positionAnswer : Option Nat → Value
  | some position => .ofInt position
  | none => .ofInt (-1)

/-- The failure of a method that a receiver does not have. -/
def unknown (receiver : Value) (name : String) : Action Closure Value :=
  Action.typeFault (.unknownMethod receiver.typeName name)

/-! ### Lists -/

/-- The size of parts that a value asks for. It must be at least one. -/
def chunkSize (heap : Heap) (value : Value) : Option Nat :=
  let size := value.toFloat heap
  if size.isNaN || size < 1.0 then none else some (wordNear size).toInt.toNat

variable (machine : Machine Closure)

/-- A new list of the answers of a method of all elements. -/
def invokeAll (list : Value) (name : String) (arguments : List Value) : Action Closure Value := do
  let (cell, length) ← Sequence.enter "map" list
  Action.newList (← Action.collect
    (fun index => do
      let method ← Action.newFunction (.method (← Sequence.element cell index) name) 0 name
      machine.invoke method .undefined arguments)
    (List.range length))

/-- Calls a method of a list. -/
def callList (cell : ListRef) (method : ListMethod) (arguments : List Value) :
    Action Closure Value := do
  let list := Value.list cell
  let first := argument arguments 0
  let context := given? arguments 1
  match method with
  | .forEach => do
    Sequence.forEach machine list first context
    return .undefined
  | .map => Sequence.map machine list first context
  | .filter => Sequence.filter machine list first context
  | .every => return .boolean (← Sequence.every machine list first context)
  | .some => return .boolean (← Sequence.any machine list first context)
  | .reduce => Sequence.reduce machine list first (argument arguments 1)
  | .sum => Sequence.sum machine list
  | .max => Sequence.greatest machine list
  | .min => Sequence.least machine list
  | .pluck => Sequence.pluck list first
  | .invoke =>
    invokeAll machine list (← Action.readIf first.hasText first.rawText) (arguments.drop 1)
  | .uniq => Sequence.uniq machine list (given? arguments 0) context
  | .compact => Sequence.compact machine list
  | .flatten => Sequence.flatten list
  | .find =>
    return positionAnswer
      (← Sequence.find machine list first context (argument arguments 2).truthy)
  | .findBackwards => return positionAnswer (← Sequence.find machine list first context true)
  | .sortByValue => Sequence.sortByValue machine list first context
  | .chunk =>
    match ← Action.readIf first.hasText (chunkSize · first) with
    | some size => Sequence.chunk list size
    | none => Action.fail (.argument .chunkSize)
  | .zipWith =>
    Sequence.zipWith machine list first (argument arguments 1) (given? arguments 2)
  | .equals =>
    return .boolean (← Action.readIf (fun heap => (Sequence.equals? heap list first).isSome)
      fun heap => Sequence.equals heap list first)
  | .indexOf =>
    let start ← Action.readIf (hasArgument arguments 1) (integer? · arguments 1)
    return positionAnswer (← Sequence.indexOf list first start)
  | .lastIndexOf =>
    let start ← Action.readIf (hasArgument arguments 1) (integer? · arguments 1)
    return positionAnswer (← Sequence.lastIndexOf list first start)
  | .contains => return .boolean (← Sequence.contains list first)
  | .range => Sequence.range (← Action.readIf first.hasText first.toWord).toInt
  | .first => Action.read fun heap => Sequence.first heap list
  | .last => Action.read fun heap => Sequence.last heap list
  | .concat => Sequence.concat cell arguments
  | .join =>
    Action.readIf (fun heap => first.hasText heap && list.hasText heap) fun heap =>
      .string (Sequence.join heap cell (if first.isNone then "," else first.rawText heap))
  | .slice => do
    let start ← Action.readIf (hasArgument arguments 0) (integer? · arguments 0)
    let finish ← Action.readIf (hasArgument arguments 1) (integer? · arguments 1)
    Sequence.slice cell start finish
  | .push => do
    Action.changeList cell fun items => items ++ arguments.toArray
    Action.read fun heap => .ofInt (heap.readList cell).size
  | .toString => Action.readIf list.hasText fun heap => .string (list.rawText heap)

/-! ### Texts -/

/-- Calls a method of a text. -/
def callText (text : String) (method : TextMethod) (arguments : List Value) :
    Action Closure Value := do
  let first := argument arguments 0
  match method with
  | .upperCaseFirst => return .string (String.ofList (Text.capitalize text.toList))
  | .lambda => machine.compile text false
  | .toFunction => machine.compile text true
  | .charAt =>
    Action.readIf first.hasText fun heap =>
      let position := (first.toWord heap).toInt
      let character := if position < 0 then none else text.toList[position.toNat]?
      .string (String.ofList character.toList)
  | .slice =>
    let start ← Action.readIf (hasArgument arguments 0) (integer? · arguments 0)
    let finish ← Action.readIf (hasArgument arguments 1) (integer? · arguments 1)
    let characters := text.toList
    let (first, last) := Sequence.sliceBounds characters.length start finish
    return .string (String.ofList ((characters.take last).drop first))
  | .toUpperCase => return .string (String.ofList (Text.toUppercase text.toList))
  | .toLowerCase => return .string (String.ofList (Text.toLowercase text.toList))
  | .trim => return .string (String.ofList (Text.trim text.toList))
  | .toString => return .string text
  | .concat =>
    Action.readIf (fun heap => arguments.all (·.hasText heap)) fun heap =>
      .string (text ++ String.join (arguments.map (·.rawText heap)))
  | .indexOf =>
    Action.readIf first.hasText fun heap =>
      positionAnswer (Text.positionOf? (first.rawText heap).toList text.toList)
  | .split =>
    if first.isNone then Action.newList #[.string text]
    else
      let separator ← Action.readIf first.hasText first.rawText
      let parts := Text.split separator.toList text.toList
      Action.newList (parts.map fun part => .string (String.ofList part)).toArray

/-! ### Functions -/

/-- Calls a method of a function. -/
def callFunction (function : Value) (method : FunctionMethod) (arguments : List Value) :
    Action Closure Value := do
  let first := argument arguments 0
  match method with
  | .bind => Combine.bind function first (arguments.drop 1)
  | .not => Combine.negate function
  | .cacheMethod => Combine.memoizing function (← Action.readIf first.hasText first.rawText)
  | .call => machine.invoke function first (arguments.drop 1)
  | .apply =>
    match argument arguments 1 with
    | .undefined | .null => machine.invoke function first []
    | .list cell => machine.invoke function first (← Sequence.items cell).toList
    | _ => Action.typeFault .argumentsNotAList
  | .toString => Action.read fun heap => .string (function.rawText heap)

/-! ### All kinds -/

/-- Calls the method of a receiver with a name. -/
def call (receiver : Value) (name : String) (arguments : List Value) : Action Closure Value := do
  match receiver with
  | .undefined | .null => readProperty receiver (.string name)
  | .map _ =>
    let function ← readProperty receiver (.string name)
    if function.isFunction then machine.invoke function receiver arguments
    else Action.typeFault (.notAFunction name)
  | .list cell =>
    match ListMethod.names.lookup name with
    | some method => callList machine cell method arguments
    | none => unknown receiver name
  | .string text =>
    match TextMethod.names.lookup name with
    | some method => callText machine text method arguments
    | none => unknown receiver name
  | .function _ =>
    match FunctionMethod.names.lookup name with
    | some method => callFunction machine receiver method arguments
    | none => unknown receiver name
  | .number number =>
    match NumberMethod.names.lookup name with
    | some .toFixed =>
      Action.readIf (hasArgument arguments 0) fun heap =>
        let places := ((argument arguments 0).toWord heap).toInt
        .string (Number.fixedText number.toFloat (max 0 (min places 20)).toNat)
    | some .toString => return .string number.text
    | none => unknown receiver name
  | .date instant =>
    match DateMethod.names.lookup name with
    | some .getTime => return .ofInt instant.milliseconds
    | some .toString => Action.read fun heap => .string (heap.dateText instant)
    | none => unknown receiver name
  | .boolean _ =>
    if name = "toString" then Action.read fun heap => .string (receiver.rawText heap)
    else unknown receiver name

end Method

end Shorthand
