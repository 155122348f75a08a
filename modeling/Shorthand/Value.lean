/-
This file holds the values of the expression language.

Lists, maps and functions are references to cells of a heap: two values are the same list if
they refer to the same cell, whatever the cells hold. All other values are what they show.
-/

import Shorthand.Expr.Basic
import Shorthand.Instant

namespace Shorthand

/-- A list in the heap. -/
structure ListRef where
  index : Nat
deriving DecidableEq

/-- A map in the heap. -/
structure MapRef where
  index : Nat
deriving DecidableEq

/-- A function in the heap. -/
structure FunctionRef where
  index : Nat
deriving DecidableEq

/-- A value. Lists, maps and functions are references to cells. -/
inductive Value where
  | undefined
  | null
  | boolean (value : Bool)
  | number (value : Number)
  | string (value : String)
  | list (cell : ListRef)
  | map (cell : MapRef)
  | function (cell : FunctionRef)
  | date (instant : Instant)

/-- The undefined value stands for any. -/
instance : Inhabited Value := ⟨.undefined⟩

namespace Value

/-- The value of a literal. -/
def ofLiteral : Literal → Value
  | .undefined => .undefined
  | .null => .null
  | .boolean value => .boolean value
  | .number value => .number value
  | .string value => .string value

/-- An integer as a value. Sizes and positions of sequences always have 64 bits. -/
def ofInt (value : Int) : Value := .number (.integer (Int64.ofInt value))

/-- Whether a value is a function. -/
def isFunction : Value → Bool
  | .function _ => true
  | _ => false

/-- Whether the value stands for a missing one. -/
def isNone : Value → Bool
  | .undefined | .null => true
  | _ => false

/-- Whether a condition with the value holds. Zero, what is not a number, the empty text and
missing values make it fail. -/
def truthy : Value → Bool
  | .undefined | .null => false
  | .boolean value => value
  | .number (.integer value) => value != 0
  | .number (.float value) => value != 0.0 && !value.isNaN
  | .string value => !value.isEmpty
  | .list _ | .map _ | .function _ | .date _ => true

/-- The name of the kind of a value in messages. -/
def typeName : Value → String
  | .undefined => "undefined"
  | .null => "null"
  | .boolean _ => "boolean"
  | .number _ => "number"
  | .string _ => "string"
  | .list _ => "array"
  | .map _ => "object"
  | .function _ => "function"
  | .date _ => "date"

/-- The name of the kind of a value in the language, where everything without a kind of its own
is an object. -/
def typeOf : Value → String
  | .undefined => "undefined"
  | .boolean _ => "boolean"
  | .number _ => "number"
  | .string _ => "string"
  | .function _ => "function"
  | .null | .list _ | .map _ | .date _ => "object"

/-- Equality without conversion. Lists, maps and functions are the same if they are one cell. -/
def same : Value → Value → Bool
  | .undefined, .undefined => true
  | .null, .null => true
  | .boolean left, .boolean right => left == right
  | .number left, .number right => left.same right
  | .string left, .string right => left == right
  | .list left, .list right => left == right
  | .map left, .map right => left == right
  | .function left, .function right => left == right
  | .date left, .date right => left == right
  | _, _ => false

end Value

end Shorthand
