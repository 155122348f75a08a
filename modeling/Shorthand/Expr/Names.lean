/-
This file finds the names that a function declares and those that it leaves free.

A declaration counts for the whole function in whose body it stands, however deep in blocks and
branches, but not for functions around or inside. A name is free where no parameter and no
declaration of an enclosing function binds it. Only names that begin with a lowercase letter
or an underscore are looked at, all others are left to the global names.
-/

import Shorthand.Expr.Basic
import Shorthand.Text.Letter

namespace Shorthand

/-- Whether a free name can become an implicit parameter. -/
def isParameterName (name : String) : Bool :=
  match name.toList with
  | [] => false
  | first :: _ => Text.isLowercase first || first == '_'

/-! ### Declared names -/

mutual

/-- The names declared by a statement, in order and with repetitions. -/
def Statement.declarations : Statement → List String
  | .declare declarations => declarations.map (·.1)
  | .if _ positive negative => positive.declarations ++ alternativeDeclarations negative
  | .block statements => blockDeclarations statements
  | .return _ => []
  | .expression _ => []
  | .empty => []

/-- The names that an alternative declares, if there is one. -/
def alternativeDeclarations : Option Statement → List String
  | none => []
  | some statement => statement.declarations

/-- The names that the statements of a block declare. -/
def blockDeclarations : List Statement → List String
  | [] => []
  | statement :: rest => statement.declarations ++ blockDeclarations rest

end

/-- The names declared in a function body, each once, in the order of their first
declaration. -/
def Body.declaredNames : Body → List String
  | .expression _ => []
  | .statements block => (blockDeclarations block).eraseDups

/-! ### Free names -/

mutual

/-- The free names of an expression, in order and with repetitions. -/
def Expr.occurrences (bound : List String) : Expr → List String
  | .variable name => if isParameterName name && !bound.contains name then [name] else []
  | .literal _ => []
  | .this => []
  | .arguments => []
  | .array items => listOccurrences bound items
  | .object entries => entryOccurrences bound entries
  | .member base _ => base.occurrences bound
  | .index base key => base.occurrences bound ++ key.occurrences bound
  | .call callee operands => callee.occurrences bound ++ listOccurrences bound operands
  | .unary _ operand => operand.occurrences bound
  | .binary _ left right => left.occurrences bound ++ right.occurrences bound
  | .conditional condition positive negative =>
    condition.occurrences bound ++ positive.occurrences bound ++ negative.occurrences bound
  | .assign _ target value => target.occurrences bound ++ value.occurrences bound
  | .function names body _ =>
    body.occurrences (bound ++ names ++ body.declaredNames)

/-- The implicit parameters in some expressions, one after the other. -/
def listOccurrences (bound : List String) : List Expr → List String
  | [] => []
  | item :: rest => item.occurrences bound ++ listOccurrences bound rest

/-- The implicit parameters in the values of some entries. -/
def entryOccurrences (bound : List String) : List (String × Expr) → List String
  | [] => []
  | (_, value) :: rest => value.occurrences bound ++ entryOccurrences bound rest

/-- The implicit parameters in what is assigned to. -/
def Target.occurrences (bound : List String) : Target → List String
  | .variable name => if isParameterName name && !bound.contains name then [name] else []
  | .member base _ => base.occurrences bound
  | .index base key => base.occurrences bound ++ key.occurrences bound

/-- The implicit parameters in a statement. -/
def Statement.occurrences (bound : List String) : Statement → List String
  | .declare declarations => initialOccurrences bound declarations
  | .return none => []
  | .return (some value) => value.occurrences bound
  | .if condition positive negative =>
    condition.occurrences bound ++ positive.occurrences bound ++
      alternativeOccurrences bound negative
  | .block statements => blockOccurrences bound statements
  | .expression value => value.occurrences bound
  | .empty => []

/-- The implicit parameters in the initial values of some declarations. -/
def initialOccurrences (bound : List String) : List (String × Option Expr) → List String
  | [] => []
  | (_, none) :: rest => initialOccurrences bound rest
  | (_, some value) :: rest => value.occurrences bound ++ initialOccurrences bound rest

/-- The implicit parameters in an alternative, if there is one. -/
def alternativeOccurrences (bound : List String) : Option Statement → List String
  | none => []
  | some statement => statement.occurrences bound

/-- The implicit parameters in the statements of a block. -/
def blockOccurrences (bound : List String) : List Statement → List String
  | [] => []
  | statement :: rest => statement.occurrences bound ++ blockOccurrences bound rest

/-- The implicit parameters in a body. -/
def Body.occurrences (bound : List String) : Body → List String
  | .expression value => value.occurrences bound
  | .statements block => blockOccurrences bound block

end

namespace Definition

/-- The names declared in the function, but not in functions inside it. -/
def declaredNames (definition : Definition) : List String := definition.body.declaredNames

/-- The free names of the function, each once, in the order of their first occurrence. -/
def freeNames (definition : Definition) : List String :=
  (definition.body.occurrences (definition.parameters ++ definition.declaredNames)).eraseDups

end Definition

end Shorthand
