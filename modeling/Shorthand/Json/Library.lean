/-
This file says what is asked of a library for documents, and how values are written and read with
one.

A library writes documents as text, in two layouts, and reads them from text. It may refuse either
with a message.
-/

import Shorthand.Json.Basic

namespace Shorthand

/-- How a document is spread over lines. -/
inductive Layout where
  /-- On one line and without blanks. -/
  | compact
  /-- With a line for every item and entry. -/
  | indented
deriving DecidableEq

/-- A way to write documents as text and to read them from text. -/
structure Json.Library where
  write : Layout → Json → Except String String
  read : String → Except String Json

namespace Json.Library

variable {Closure : Type} (library : Library)

/-- The text of a value as a document, unless the library refuses to write it. -/
def textOf (layout : Layout) (value : Value) : Action Closure (Except String String) :=
  Action.readIf value.hasLiteral fun heap =>
    (library.write layout (Json.ofValue heap value)).mapError ("to_json failed: " ++ ·)

/-- The value of a document that is given as text. -/
def valueOf (text : String) : Action Closure Value :=
  match library.read text with
  | .ok document => document.build
  | .error message => Action.fail (.argument (.json message))

end Json.Library

end Shorthand
