/-
This file holds what an evaluation leaves to its surroundings: how functions are called, how
definitions become functions and how closures are kept.

A function may be given as the source of a shorthand. Its form decides the definition, and the
definition becomes a function the way the machine makes one.
-/

import Shorthand.Action
import Shorthand.Code
import Shorthand.Form
import Shorthand.Value.Tree

namespace Shorthand

/-- A way to call functions, to make a function of a definition that stands alone, and to keep a
routine with the variables that it has captured. -/
structure Machine (Closure : Type) where
  invoke : Invoke Closure
  close : Definition → Action Closure Value
  keep : SlotClosure → Closure

namespace Machine

variable {Closure : Type} (machine : Machine Closure)

/-- A new function of a shorthand. -/
def compile (code : String) (statementsAllowed : Bool) : Action Closure Value :=
  match Form.parse code statementsAllowed with
  | .ok form => machine.close (form.definition code)
  | .error error => Action.fail (.compile error)

/-- A new function without parameters of a program. -/
def compileProgram (code : String) : Action Closure Value :=
  match Definition.parseProgram code with
  | .ok definition => machine.close definition
  | .error error => Action.fail (.compile error)

/-- The function that a value stands for: itself, or what its text compiles to. -/
def toFunction (value : Value) : Action Closure Value := do
  match value with
  | .function _ => return value
  | .string code => machine.compile code true
  | _ => Action.typeFault (.notAFunction (← Action.readIf value.hasLiteral value.literal))

end Machine

end Shorthand
