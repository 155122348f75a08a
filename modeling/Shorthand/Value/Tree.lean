/-
This file unfolds values into trees that no longer refer to the heap, and writes these as
literals.

The tree of a value is all that a literal or a document can show of it. The entries of a map
stand in the order of their keys. A value that holds itself has no finite tree, and an evaluation
that tries to show it exhausts every depth. For the others the number of lists and maps in the heap
bounds the unfolding.
-/

import Shorthand.Number.Text
import Shorthand.Text.Letter
import Shorthand.Text.Quoted
import Shorthand.Value.Text

namespace Shorthand

/-- A value with all that it holds. -/
inductive Tree where
  | undefined
  | null
  | boolean (value : Bool)
  | number (value : Number)
  | string (value : String)
  | list (items : List Tree)
  | map (entries : List (String × Tree))
  | function (label : String)
  /-- A date with its plain text. -/
  | date (instant : Instant) (text : String)

namespace Tree

/-- Unfolds a value down to a depth, below which nothing is held. -/
def unfold (heap : Heap) : Nat → Value → Tree
  | _, .undefined => .undefined
  | _, .null => .null
  | _, .boolean value => .boolean value
  | _, .number value => .number value
  | _, .string value => .string value
  | _, .function cell => .function (heap.labelOf cell)
  | _, .date instant => .date instant (heap.dateText instant)
  | 0, .list _ => .list []
  | 0, .map _ => .map []
  | depth + 1, .list cell => .list ((heap.readList cell).toList.map (unfold heap depth))
  | depth + 1, .map cell =>
    .map ((heap.readMap cell).entries.map fun (key, value) => (key, unfold heap depth value))

/-- The tree of a value. -/
def ofValue (heap : Heap) (value : Value) : Tree :=
  unfold heap (heap.lists.size + heap.maps.size) value

/-! ### Literals -/

/-- Whether a key can stand in a literal without quotation marks. -/
def isPlainKey (key : String) : Bool :=
  match key.toList with
  | [] => false
  | first :: rest => Text.isNameStart first && rest.all Text.isNamePart

/-- A key in a literal. -/
def keyText (key : String) : String :=
  if isPlainKey key then key else Text.quoted Text.plainForm key

mutual

/-- The text of a tree as a literal. -/
def literal : Tree → String
  | .undefined => "undefined"
  | .null => "null"
  | .boolean value => if value then "true" else "false"
  | .number value => value.text
  | .string value => Text.quoted Text.plainForm value
  | .list items => "[" ++ ",".intercalate (literals [] items) ++ "]"
  | .map entries => "\x7b" ++ ",".intercalate (entryLiterals [] entries) ++ "\x7d"
  | .function label => "&F\x7b" ++ label ++ "\x7d"
  | .date instant _ => "Date(" ++ integerText instant.milliseconds ++ ")"

/-- The literals of trees, after those before them in reverse. -/
def literals (before : List String) : List Tree → List String
  | [] => before.reverse
  | item :: rest => literals (item.literal :: before) rest

/-- The entries of a map with colons between keys and values, after those before them in
reverse. -/
def entryLiterals (before : List String) : List (String × Tree) → List String
  | [] => before.reverse
  | (key, value) :: rest =>
    entryLiterals ((keyText key ++ ":" ++ value.literal) :: before) rest

end

end Tree

/-- The text of a value as a literal. -/
def Value.literal (heap : Heap) (value : Value) : String := (Tree.ofValue heap value).literal

end Shorthand
