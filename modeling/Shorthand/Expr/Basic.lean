/-
This file holds the expressions and statements of the language.

A function is a list of parameters and a body. The body is an expression, whose value is the
result, or statements, which give a result by returning. Only a variable, a member or an
element can be assigned to, so these are a type of their own.
-/

import Shorthand.Number.Basic
import Shorthand.Operator

namespace Shorthand

/-- A value that a source can write down at once. -/
inductive Literal where
  | undefined
  | null
  | boolean (value : Bool)
  | number (value : Number)
  | string (value : String)

mutual

/-- An expression. -/
inductive Expr where
  | literal (value : Literal)
  | variable (name : String)
  | this
  | arguments
  | array (items : List Expr)
  | object (entries : List (String × Expr))
  | member (base : Expr) (name : String)
  | index (base key : Expr)
  | call (callee : Expr) (operands : List Expr)
  | unary (operator : UnaryOperator) (operand : Expr)
  | binary (operator : BinaryOperator) (left right : Expr)
  | conditional (condition positive negative : Expr)
  /-- An assignment. With an operator the old value is its left operand. -/
  | assign (operator : Option BinaryOperator) (target : Target) (value : Expr)
  | function (parameters : List String) (body : Body) (label : String)

/-- What a value can be assigned to. -/
inductive Target where
  | variable (name : String)
  | member (base : Expr) (name : String)
  | index (base key : Expr)

/-- A statement. -/
inductive Statement where
  | declare (declarations : List (String × Option Expr))
  | return (value : Option Expr)
  | if (condition : Expr) (positive : Statement) (negative : Option Statement)
  | block (statements : List Statement)
  | expression (value : Expr)
  | empty

/-- What a function does: it has the value of an expression, or it runs statements. -/
inductive Body where
  | expression (value : Expr)
  | statements (statements : List Statement)

end

/-- A function with a label, by which it is shown. -/
structure Definition where
  parameters : List String
  body : Body
  label : String

/-- The expression as something to assign to, if it is of that form. -/
def Expr.target? : Expr → Option Target
  | .variable name => some (.variable name)
  | .member base name => some (.member base name)
  | .index base key => some (.index base key)
  | _ => none

end Shorthand
