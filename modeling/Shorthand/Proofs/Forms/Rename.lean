/-
This file changes the free names of expressions and compares functions up to the names of their
parameters.

Inside a function its parameters and declarations hide names of the surroundings, so a change of
names stops at them. Names of members, keys of objects, declarations and labels are never
changed. Two functions are the same up to names if the parameters of each can be changed into
those of the other one: a name that another function hides would be lost on the way back.
-/

import Shorthand.Expr.Names

namespace Shorthand

/-! ### Changes of names -/

/-- A change of the names that are not bound. -/
def changeOutside (bound : List String) (change : String → String) (name : String) : String :=
  if name ∈ bound then name else change name

mutual

/-- The expression with its free names changed. -/
def Expr.rename (change : String → String) : Expr → Expr
  | .literal value => .literal value
  | .variable name => .variable (change name)
  | .this => .this
  | .arguments => .arguments
  | .array items => .array (renameList change items)
  | .object entries => .object (renameEntries change entries)
  | .member base name => .member (base.rename change) name
  | .index base key => .index (base.rename change) (key.rename change)
  | .call callee operands => .call (callee.rename change) (renameList change operands)
  | .unary operator operand => .unary operator (operand.rename change)
  | .binary operator left right => .binary operator (left.rename change) (right.rename change)
  | .conditional condition positive negative =>
    .conditional (condition.rename change) (positive.rename change) (negative.rename change)
  | .assign operator target value =>
    .assign operator (target.rename change) (value.rename change)
  | .function parameters body label =>
    .function parameters
      (body.rename (changeOutside (parameters ++ body.declaredNames) change)) label

/-- Expressions with their names changed. -/
def renameList (change : String → String) : List Expr → List Expr
  | [] => []
  | item :: rest => item.rename change :: renameList change rest

/-- Entries with the names in their values changed. -/
def renameEntries (change : String → String) : List (String × Expr) → List (String × Expr)
  | [] => []
  | (key, value) :: rest => (key, value.rename change) :: renameEntries change rest

/-- A target with its names changed. -/
def Target.rename (change : String → String) : Target → Target
  | .variable name => .variable (change name)
  | .member base name => .member (base.rename change) name
  | .index base key => .index (base.rename change) (key.rename change)

/-- A statement with its names changed. -/
def Statement.rename (change : String → String) : Statement → Statement
  | .declare declarations => .declare (renameDeclarations change declarations)
  | .return value => .return (renameOption change value)
  | .if condition positive negative =>
    .if (condition.rename change) (positive.rename change) (renameAlternative change negative)
  | .block statements => .block (renameBlock change statements)
  | .expression value => .expression (value.rename change)
  | .empty => .empty

/-- An expression, if there is one, with its names changed. -/
def renameOption (change : String → String) : Option Expr → Option Expr
  | none => none
  | some value => some (value.rename change)

/-- An alternative, if there is one, with its names changed. -/
def renameAlternative (change : String → String) : Option Statement → Option Statement
  | none => none
  | some statement => some (statement.rename change)

/-- Statements with their names changed. -/
def renameBlock (change : String → String) : List Statement → List Statement
  | [] => []
  | statement :: rest => statement.rename change :: renameBlock change rest

/-- Declarations with the names in their initial values changed. What they declare stays. -/
def renameDeclarations (change : String → String) :
    List (String × Option Expr) → List (String × Option Expr)
  | [] => []
  | (name, initial) :: rest => (name, renameOption change initial) :: renameDeclarations change rest

/-- A body with its names changed. -/
def Body.rename (change : String → String) : Body → Body
  | .expression value => .expression (value.rename change)
  | .statements block => .statements (renameBlock change block)

end

/-- What an expression can be assigned to has the same names. -/
theorem Expr.target?_rename {expr : Expr} {target : Target} (change : String → String)
    (isTarget : expr.target? = some target) :
    (expr.rename change).target? = some (target.rename change) := by
  cases expr with
  | «variable» name =>
    cases isTarget
    rw [rename, target?, Target.rename]
  | member base name =>
    cases isTarget
    rw [rename, target?, Target.rename]
  | index base key =>
    cases isTarget
    rw [rename, target?, Target.rename]
  | _ => cases isTarget

/-! ### The same up to names -/

/-- The name among some names that stands where a name stands among others, and the name itself if
it is not among those. Of equal names the last one counts. -/
def correspondingName (names others : List String) (name : String) : String :=
  ((names.zip others).reverse.lookup name).getD name

/-- Functions that are equal up to the names of their parameters and their labels. A parameter that
the body declares once more keeps its name. -/
structure Definition.SameUpToNames (first second : Definition) : Prop where
  count : first.parameters.length = second.parameters.length
  declared : ∀ name ∈ first.declaredNames,
    correspondingName first.parameters second.parameters name = name
  declaredToo : ∀ name ∈ second.declaredNames,
    correspondingName second.parameters first.parameters name = name
  there : first.body.rename (correspondingName first.parameters second.parameters) = second.body
  back : second.body.rename (correspondingName second.parameters first.parameters) = first.body

end Shorthand
