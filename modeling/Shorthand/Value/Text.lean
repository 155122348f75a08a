/-
This file writes values as plain text, the form in which they are joined to other text and in
which they are keys.

A list is written as its items with commas between, where missing values leave an empty place.
Maps are not looked into.
-/

import Shorthand.Number.Text
import Shorthand.Value.Nested

namespace Shorthand

/-- The label that a function shows. -/
def Heap.labelOf (heap : Heap) (cell : FunctionRef) : String := (heap.readFunction cell).label

/-- The text of an instant. -/
def Heap.dateText (heap : Heap) (instant : Instant) : String := heap.surroundings.dateText instant

/-- The plain text of a value that is not a list. -/
def Value.leafText (heap : Heap) : Value → String
  | .undefined => "undefined"
  | .null => "null"
  | .boolean value => if value then "true" else "false"
  | .number value => value.text
  | .string value => value
  | .list _ => ""
  | .map _ => "[object Object]"
  | .function cell => "function " ++ heap.labelOf cell
  | .date instant => heap.dateText instant

namespace Nested

mutual

/-- The plain text of a tree. -/
def text (heap : Heap) : Nested → String
  | .leaf value => value.leafText heap
  | .list items => ",".intercalate (itemTexts heap [] items)

/-- The plain texts of items of a list, after those before them in reverse. -/
def itemTexts (heap : Heap) (before : List String) : List Nested → List String
  | [] => before.reverse
  | item :: rest => itemTexts heap ((if item.isNone then "" else item.text heap) :: before) rest

end

end Nested

namespace Value

/-- The plain text of a value. -/
def rawText (heap : Heap) (value : Value) : String := (Nested.ofValue heap value).text heap

/-- The plain text of a value among others, which is empty for a missing one. -/
def itemText (heap : Heap) (value : Value) : String :=
  if value.isNone then "" else value.rawText heap

end Value

end Shorthand
