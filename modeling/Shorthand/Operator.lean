/-
This file holds the operators of the expression language, how they are written and how tightly
the binary ones bind.
-/

namespace Shorthand

/-- The operators between two operands. `equal` compares after conversion, `same` without. -/
inductive BinaryOperator where
  | add | subtract | multiply | divide | remainder
  | less | greater | lessEqual | greaterEqual
  | equal | notEqual | same | notSame
  | and | or
deriving DecidableEq

namespace BinaryOperator

/-- How an operator between two operands is spelled. -/
def text : BinaryOperator → String
  | add => "+"
  | subtract => "-"
  | multiply => "*"
  | divide => "/"
  | remainder => "%"
  | less => "<"
  | greater => ">"
  | lessEqual => "<="
  | greaterEqual => ">="
  | equal => "=="
  | notEqual => "!="
  | same => "==="
  | notSame => "!=="
  | and => "&&"
  | or => "||"

/-- How tightly the operator binds. Operators of a higher level bind their operands first. -/
def level : BinaryOperator → Nat
  | or => 1
  | and => 2
  | equal | notEqual | same | notSame => 3
  | less | greater | lessEqual | greaterEqual => 4
  | add | subtract => 5
  | multiply | divide | remainder => 6

end BinaryOperator

/-- The operators in front of an operand. -/
inductive UnaryOperator where
  | not | negate | plus | typeOf
deriving DecidableEq

namespace UnaryOperator

/-- How an operator in front of an operand is spelled. -/
def text : UnaryOperator → String
  | not => "!"
  | negate => "-"
  | plus => "+"
  | typeOf => "typeof"

end UnaryOperator

end Shorthand
