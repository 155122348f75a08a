/-
This file turns functions with names into functions with slots.

A name is a variable of the function or of a function around it, or else a global name. A name
that is neither makes the source fail, and so does an assignment to a name that is no
variable. The parts of an expression are resolved in a fixed order, which decides the fault
that is reported: operands of a call before the callee, and the assigned value before its
target.
-/

import Shorthand.Action
import Shorthand.Code
import Shorthand.Expr.Names
import Shorthand.Form
import Shorthand.Global
import Shorthand.Scope
import Shorthand.Text.Search

namespace Shorthand

/-- What resolution has come to know: the scopes from the inside out and the heap with the
global values made so far. -/
structure Naming where
  scopes : List Scope
  heap : Heap

/-- A part of the resolution of a source. -/
abbrev Resolver : Type → Type := StateT Naming (Except CompileError)

/-- The error of a name that is no variable and no global name. It points to the first place in
the source where the characters of the name stand. -/
def undefinedName (code name : String) : CompileError :=
  ⟨.undefinedName name, (Text.positionOf? name.toList code.toList).getD 0, code⟩

namespace Resolver

/-- The slot of a variable. -/
def slot? (name : String) : Resolver (Option Nat) := fun naming =>
  match resolve name naming.scopes with
  | some (slot, scopes) => .ok (some slot, { naming with scopes })
  | none => .ok (none, naming)

/-- The value of an occurrence of a global name. -/
def global? (name : String) : Resolver (Option Value) := fun naming =>
  match naming.heap.newGlobal? name with
  | some (value, heap) => .ok (some value, { naming with heap })
  | none => .ok (none, naming)

/-- The slot of a name in the innermost function, which is a new one unless it has a slot. -/
def define (name : String) : Resolver Nat := fun naming =>
  match naming.scopes with
  | [] => .ok (0, naming)
  | scope :: outer =>
    let (slot, scope) := scope.define name
    .ok (slot, { naming with scopes := scope :: outer })

/-- Begins a function with parameters and declared names, and yields the slots of the
parameters. -/
def enter (parameters declared : List String) : Resolver (List Nat) := fun naming =>
  let (slots, scope) := Scope.empty.defineAll parameters
  let (_, scope) := scope.defineAll declared
  .ok (slots, { naming with scopes := scope :: naming.scopes })

/-- Ends the innermost function and yields its scope. -/
def leave : Resolver Scope := fun naming =>
  match naming.scopes with
  | [] => .ok (Scope.empty, naming)
  | scope :: outer => .ok (scope, { naming with scopes := outer })

end Resolver

mutual

/-- The code of an expression. -/
def Expr.resolve (code : String) : Expr → Resolver Code
  | .literal value => return .value (.ofLiteral value)
  | .variable name => do
    match ← Resolver.slot? name with
    | some slot => return .slot slot
    | none =>
      match ← Resolver.global? name with
      | some value => return .value value
      | none => throw (undefinedName code name)
  | .this => return .this
  | .arguments => return .arguments
  | .array items => return .array (← resolveAll code items)
  | .object entries => return .object (← resolveEntries code entries)
  | .member base name => return .property (← base.resolve code) (.value (.string name))
  | .index base key => return .property (← base.resolve code) (← key.resolve code)
  | .call callee operands => do
    let resolved ← resolveAll code operands
    match callee with
    | .member base name =>
      return .callMethod (← base.resolve code) (.value (.string name)) resolved
    | .index base key => return .callMethod (← base.resolve code) (← key.resolve code) resolved
    | other => return .call (← other.resolve code) resolved
  | .unary operator operand => return .unary operator (← operand.resolve code)
  | .binary operator left right => do
    let left ← left.resolve code
    let right ← right.resolve code
    match operator with
    | .and => return .and left right
    | .or => return .or left right
    | _ => return .binary operator left right
  | .conditional condition positive negative =>
    return .conditional (← condition.resolve code) (← positive.resolve code)
      (← negative.resolve code)
  | .assign operator target value => do
    let value ← value.resolve code
    match target with
    | .variable name =>
      match ← Resolver.slot? name with
      | some slot => return .assignSlot operator slot value
      | none => throw (undefinedName code name)
    | .member base name =>
      return .assignProperty operator (← base.resolve code) (.value (.string name)) value
    | .index base key =>
      return .assignProperty operator (← base.resolve code) (← key.resolve code) value
  | .function parameters body label => do
    let slots ← Resolver.enter parameters body.declaredNames
    let body ← body.resolve code
    let scope ← Resolver.leave
    return .function slots scope.names.length scope.captures body label

/-- The codes of some expressions. -/
def resolveAll (code : String) : List Expr → Resolver (List Code)
  | [] => return []
  | item :: rest => return (← item.resolve code) :: (← resolveAll code rest)

/-- Entries with the codes of their values. -/
def resolveEntries (code : String) : List (String × Expr) → Resolver (List (String × Code))
  | [] => return []
  | (key, value) :: rest => return (key, ← value.resolve code) :: (← resolveEntries code rest)

/-- The step of a statement. -/
def Statement.resolve (code : String) : Statement → Resolver Step
  | .declare declarations => return .define (← resolveInitials code declarations)
  | .return none => return .return none
  | .return (some value) => return .return (some (← value.resolve code))
  | .if condition positive negative => do
    let condition ← condition.resolve code
    let positive ← positive.resolve code
    match negative with
    | none => return .if condition positive none
    | some negative => return .if condition positive (some (← negative.resolve code))
  | .block statements => return .block (← resolveBlock code statements)
  | .expression value => return .evaluate (← value.resolve code)
  | .empty => return .block []

/-- The slots of declared names with the codes of their initial values. A name without one only gets
its slot. -/
def resolveInitials (code : String) :
    List (String × Option Expr) → Resolver (List (Nat × Code))
  | [] => return []
  | (name, none) :: rest => do
    let _ ← Resolver.define name
    resolveInitials code rest
  | (name, some value) :: rest => do
    let slot ← Resolver.define name
    let value ← value.resolve code
    return (slot, value) :: (← resolveInitials code rest)

/-- The steps of the statements of a block. -/
def resolveBlock (code : String) : List Statement → Resolver (List Step)
  | [] => return []
  | statement :: rest => return (← statement.resolve code) :: (← resolveBlock code rest)

/-- The code of a body. -/
def Body.resolve (code : String) : Body → Resolver CodeBody
  | .expression value => return .expression (← value.resolve code)
  | .statements block => return .steps (← resolveBlock code block)

end

/-- The routine of a function that stands alone. Its label is the source that errors refer to.
The heap has the values of the global names that occur in it. -/
def Definition.resolve (definition : Definition) (heap : Heap) :
    Except CompileError (Routine × Heap) := do
  let code := definition.label
  let work : Resolver Routine := do
    let slots ← Resolver.enter definition.parameters definition.declaredNames
    let body ← definition.body.resolve code
    let scope ← Resolver.leave
    return ⟨slots, scope.names.length, scope.captures, body, definition.label⟩
  let (routine, naming) ← work.run ⟨[], heap⟩
  return (routine, naming.heap)

/-- A new function of a definition that stands alone, with the slots of its routine. -/
def Definition.compile (definition : Definition) : Action SlotClosure Value := fun world =>
  match definition.resolve world.heap with
  | .ok (routine, heap) =>
    Action.newClosure ⟨routine, []⟩ routine.parameterSlots.length routine.label
      { world with heap }
  | .error error => (.failure (.compile error), world)

end Shorthand
