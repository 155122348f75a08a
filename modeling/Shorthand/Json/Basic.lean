/-
This file holds documents of JSON, how values are shown as documents, and how documents become
values.

A document knows less than a value. Missing values and numbers that are not finite are shown as
`null`, functions and dates by their text. What a document holds, it holds once and in place,
so a value made of a document consists of new lists and maps.
-/

import Shorthand.Action
import Shorthand.Value.Tree

namespace Shorthand

/-- A document of JSON. -/
inductive Json where
  | null
  | boolean (value : Bool)
  | number (value : Number)
  | string (value : String)
  | list (items : List Json)
  | map (entries : List (String × Json))

/-- The document without content stands for any. -/
instance : Inhabited Json := ⟨.null⟩

namespace Json

/-! ### Values as documents -/

/-- A number as a document. Infinities and what is not a number have no place in one. -/
def ofNumber : Number → Json
  | .integer value => .number (.integer value)
  | .float value => if value.isFinite then .number (.float value) else .null

mutual

/-- The document that shows a tree. -/
def ofTree : Tree → Json
  | .undefined | .null => .null
  | .boolean value => .boolean value
  | .number value => ofNumber value
  | .string value => .string value
  | .list items => .list (ofTrees [] items)
  | .map entries => .map (ofEntries [] entries)
  | .function label => .string (Tree.function label).literal
  | .date _ text => .string text

/-- The documents of trees, after those before them in reverse. -/
def ofTrees (before : List Json) : List Tree → List Json
  | [] => before.reverse
  | item :: rest => ofTrees (ofTree item :: before) rest

/-- The entries with the documents of their trees, after those before them in reverse. -/
def ofEntries (before : List (String × Json)) : List (String × Tree) → List (String × Json)
  | [] => before.reverse
  | (key, value) :: rest => ofEntries ((key, ofTree value) :: before) rest

end

/-- The document that shows a value. -/
def ofValue (heap : Heap) (value : Value) : Json := ofTree (Tree.ofValue heap value)

/-! ### Documents as values -/

section

variable {Closure : Type}

mutual

/-- The value that a document stands for. -/
def build : Json → Action Closure Value
  | .null => Action.done .null
  | .boolean value => Action.done (.boolean value)
  | .number value => Action.done (.number value)
  | .string value => Action.done (.string value)
  | .list items => do Action.newList (← buildItems #[] items)
  | .map entries => do Action.newMap (← buildEntries Table.empty entries)

/-- The values of documents, after those before them. -/
def buildItems (before : Array Value) : List Json → Action Closure (Array Value)
  | [] => Action.done before
  | item :: rest => do buildItems (before.push (← item.build)) rest

/-- The table with the values of entries added to it, in order. -/
def buildEntries (table : Table Value) : List (String × Json) → Action Closure (Table Value)
  | [] => Action.done table
  | (key, value) :: rest => do buildEntries (table.insert key (← value.build)) rest

end

end

end Json

end Shorthand
