/-
This file reads and writes the properties of values.

The slots of a map are its properties. Lists and texts have elements at indices, and these and
functions have a length. Every kind of value but a map also has methods: reading one yields a
function that calls it on the value.
-/

import Shorthand.Action
import Shorthand.Method.Basic
import Shorthand.Value.Operate
import Shorthand.Value.Tree

namespace Shorthand

/-! ### Indices -/

/-- The greatest index of a sequence. Greater numbers are names like any other. -/
def greatestIndex : Nat := UInt32.size - 2

/-- How many elements a list can be extended by at once. -/
def greatestGap : Nat := 65536

/-- The index written in decimal digits. Only zero itself begins with a zero. -/
def indexOfDigits? (digits : List Char) : Option Nat :=
  match digits with
  | [] => none
  | first :: rest =>
    if !digits.all Char.isDigit then none
    else if first = '0' ∧ !rest.isEmpty then none
    else some (Nat.ofDigitChars 10 digits 0)

namespace Value

/-- The natural number that a key denotes: a number that is one, or its digits. -/
def naturalKey? : Value → Option Nat
  | .number (.integer value) => if 0 ≤ value then some value.toInt.toNat else none
  | .number (.float value) =>
    match Binary.ofFloat? value with
    | some fraction =>
      if fraction.isWhole ∧ 0 ≤ fraction.truncate then some fraction.truncate.toNat else none
    | none => none
  | .string value => indexOfDigits? value.toList
  | _ => none

/-- The index of a sequence that a key denotes. -/
def index? (key : Value) : Option Nat := key.naturalKey?.filter (· ≤ greatestIndex)

/-! ### Elements -/

/-- The length of a value that has one as a property. -/
def length? (heap : Heap) : Value → Option Nat
  | .list cell => some (heap.readList cell).size
  | .string value => some value.length
  | .function cell => some (heap.readFunction cell).arity
  | _ => none

/-- The number of parts of a value: elements of a list, characters of a text, entries of a
map. -/
def size (heap : Heap) : Value → Nat
  | .list cell => (heap.readList cell).size
  | .string value => value.length
  | .map cell => (heap.readMap cell).size
  | _ => 0

/-- The element of a list or the character of a text at an index. -/
def elementAt? (heap : Heap) (index : Nat) : Value → Option Value
  | .list cell => some (heap.elementAt cell index)
  | .string value =>
    some (match value.toList[index]? with
      | some character => .string character.toString
      | none => .undefined)
  | _ => none

end Value

/-! ### Reading and writing -/

section

variable {Closure : Type}

/-- The property of a value with a name that is no index. -/
def readNamed (base : Value) (name : String) : Action Closure Value := do
  match ← Action.read fun heap => if name = "length" then base.length? heap else none with
  | some length => Action.done (.ofInt length)
  | none =>
    if base.hasMethod name then Action.newFunction (.method base name) 0 name
    else Action.done .undefined

/-- The property of a value with a key. Missing values have none, and reading one fails. -/
def readProperty (base key : Value) : Action Closure Value := do
  match base with
  | .undefined | .null =>
    Action.typeFault (← Action.readIf key.hasText fun heap =>
      .unreadableProperty (key.rawText heap) (base.rawText heap))
  | .map cell =>
    Action.readIf key.hasText fun heap =>
      ((heap.readMap cell).get? (key.rawText heap)).getD .undefined
  | base =>
    match ← Action.read fun heap => key.index?.bind fun index => base.elementAt? heap index with
    | some element => Action.done element
    | none => readNamed base (← Action.readIf key.hasText key.rawText)

/-- Items with a value written at an index. A gap before it is filled with `undefined`. -/
def writeItem (items : Array Value) (index : Nat) (value : Value) : Array Value :=
  if index < items.size then items.setIfInBounds index value
  else (items ++ Array.replicate (index - items.size) Value.undefined).push value

/-- Writes a value to a list at an index, which must not be too far beyond the end. -/
def writeElement (cell : ListRef) (index : Nat) (value : Value) : Action Closure Unit := do
  let length ← Action.read fun heap => (heap.readList cell).size
  if length + greatestGap < index then Action.fail (.argument (.gap index length))
  else Action.changeList cell fun items => writeItem items index value

/-- Writes a property of a value with a key. Only maps and lists have properties to write, and an
index of a list is no text. -/
def writeProperty (base key value : Value) : Action Closure Unit := do
  match base with
  | .map cell =>
    let name ← Action.readIf key.hasText key.rawText
    Action.changeMap cell fun table => table.insert name value
  | .list cell =>
    match key.index? with
    | some index => writeElement cell index value
    | none => Action.typeFault (.listProperty (← Action.readIf key.hasText key.rawText))
  | base =>
    Action.typeFault (← Action.readIf key.hasText fun heap =>
      .unwritableProperty (key.rawText heap) (base.literal heap))

end

end Shorthand
