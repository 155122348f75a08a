/-
This file reads tokens as expressions and statements.

Binary operators bind by their levels and group from the left, assignments group from the
right. A chain of members, elements and calls follows a primary expression and binds closest.
Every rule takes a bound on its depth, which each rule that it uses counts down by one. Between
two tokens that are read a bounded number of rules nest, so a bound proportional to the number
of tokens is never exhausted.
-/

import Shorthand.Expr.Basic
import Shorthand.Expr.Grammar

namespace Shorthand

/-- The literal that a word stands for. -/
def literalWord? : String → Option Literal
  | "true" => some (.boolean true)
  | "false" => some (.boolean false)
  | "null" => some .null
  | "undefined" => some .undefined
  | "NaN" => some (.number (.float (0.0 / 0.0)))
  | "Infinity" => some (.number (.float (1.0 / 0.0)))
  | _ => none

/-- The operator in front of an operand that a lexeme is. -/
def Lexeme.unaryOperator? : Lexeme → Option UnaryOperator
  | .symbol .bang => some .not
  | .symbol (.operator .subtract) => some .negate
  | .symbol (.operator .add) => some .plus
  | .name "typeof" => some .typeOf
  | _ => none

/-- The key that a lexeme is in front of the colon of an object entry. -/
def Lexeme.entryKey? : Lexeme → Option String
  | .name spelling => some spelling
  | .string value => some value
  | .integer value => some (integerText value.toInt)
  | _ => none

namespace Grammar

/-- Whether a statement may end here. A semicolon is read, and none is needed before a closing
brace or the end. -/
def endStatement : Grammar Unit := do
  unless ← takes .semicolon do
    match ← peek with
    | none | some (.symbol (.closing .curly)) => done ()
    | some _ => unexpected .semicolon

/-- The names between the parentheses of a function, after the opening one. -/
def parameters : Nat → Grammar (List String)
  | 0 => exhausted
  | bound + 1 => do
    match ← next with
    | none => refuse (.unexpected none .parameter)
    | some token =>
      match token.lexeme with
      | .name spelling =>
        if reservedWords.contains spelling then refuse (.badParameter token)
        else if ← takes .comma then return spelling :: (← parameters bound)
        else if ← takes (.closing .round) then return [spelling]
        else unexpected .commaOrParenthesis
      | _ => refuse (.badParameter token)

/-! ### Expressions and statements -/

mutual

/-- A conditional expression, or a target with a value to assign. -/
def assignment : Nat → Grammar Expr
  | 0 => exhausted
  | bound + 1 => do
    let start ← column
    let left ← conditional bound
    match ← assignmentSign with
    | none => return left
    | some operator =>
      match left.target? with
      | none => refuse (.badTarget start)
      | some target => return .assign operator target (← assignment bound)

/-- A binary expression, or the choice between two by a condition. -/
def conditional : Nat → Grammar Expr
  | 0 => exhausted
  | bound + 1 => do
    let condition ← binary bound 0
    if ← takes .question then
      let positive ← assignment bound
      expect .colon .colon
      return .conditional condition positive (← assignment bound)
    else return condition

/-- Operands between binary operators of at least a level. -/
def binary : Nat → Nat → Grammar Expr
  | 0, _ => exhausted
  | bound + 1, level => do
    let left ← unary bound
    operations bound level left

/-- The operators of at least a level after a left operand, with their right operands. The
right operand of an operator binds more tightly than the operator. -/
def operations : Nat → Nat → Expr → Grammar Expr
  | 0, _, _ => exhausted
  | bound + 1, level, left => do
    match ← operatorFrom level with
    | none => return left
    | some operator =>
      let right ← binary bound (operator.level + 1)
      operations bound level (.binary operator left right)

/-- An operand after any number of operators in front of it. The word for construction means
nothing, but no such operator can follow it. -/
def unary : Nat → Grammar Expr
  | 0 => exhausted
  | bound + 1 => do
    if ← takesWord "new" then suffixed bound
    else
      match (← peek).bind Lexeme.unaryOperator? with
      | none => suffixed bound
      | some operator =>
        let _ ← next
        return .unary operator (← unary bound)

/-- A primary expression with the members, elements and calls that follow it. -/
def suffixed : Nat → Grammar Expr
  | 0 => exhausted
  | bound + 1 => do
    let base ← primary bound
    suffixes bound base

/-- The members, elements and calls that follow an expression. -/
def suffixes : Nat → Expr → Grammar Expr
  | 0, _ => exhausted
  | bound + 1, base => do
    if ← takes .dot then
      match ← next with
      | some ⟨.name spelling, _⟩ => suffixes bound (.member base spelling)
      | token => refuse (.unexpected token .memberName)
    else if ← takes (.opening .square) then
      let key ← assignment bound
      expect (.closing .square) .closingBracket
      suffixes bound (.index base key)
    else if ← takes (.opening .round) then
      if ← takes (.closing .round) then suffixes bound (.call base [])
      else
        let operands ← operands bound
        suffixes bound (.call base operands)
    else return base

/-- The operands of a call up to its closing parenthesis, at least one. -/
def operands : Nat → Grammar (List Expr)
  | 0 => exhausted
  | bound + 1 => do
    let first ← assignment bound
    if ← takes .comma then return first :: (← operands bound)
    else if ← takes (.closing .round) then return [first]
    else unexpected .commaOrParenthesis

/-- A literal, a variable, an array, an object, a function, or an expression in parentheses. -/
def primary : Nat → Grammar Expr
  | 0 => exhausted
  | bound + 1 => do
    match ← next with
    | none => refuse (.unexpected none .expression)
    | some token =>
      match token.lexeme with
      | .integer value => return .literal (.number (.integer value))
      | .float value => return .literal (.number (.float value))
      | .string value => return .literal (.string value)
      | .hole position => return .variable (holeName position)
      | .symbol (.opening .round) =>
        let inner ← assignment bound
        expect (.closing .round) .closingParenthesis
        return inner
      | .symbol (.opening .square) => return .array (← items bound)
      | .symbol (.opening .curly) => return .object (← entries bound)
      | .symbol _ => refuse (.unexpected (some token) .expression)
      | .name "this" => return .this
      | .name "arguments" => return .arguments
      | .name "function" => function bound
      | .name spelling =>
        match literalWord? spelling with
        | some literal => return .literal literal
        | none =>
          if reservedWords.contains spelling then refuse (.unexpected (some token) .expression)
          else return .variable spelling

/-- The items of an array up to its closing bracket. A comma may follow the last one. -/
def items : Nat → Grammar (List Expr)
  | 0 => exhausted
  | bound + 1 => do
    if ← takes (.closing .square) then return []
    else
      let first ← assignment bound
      if ← takes .comma then return first :: (← items bound)
      else if ← takes (.closing .square) then return [first]
      else unexpected .commaOrBracket

/-- The entries of an object up to its closing brace. A comma may follow the last one. -/
def entries : Nat → Grammar (List (String × Expr))
  | 0 => exhausted
  | bound + 1 => do
    if ← takes (.closing .curly) then return []
    else
      let token ← next
      match token.bind (·.lexeme.entryKey?) with
      | none => refuse (.unexpected token .propertyName)
      | some key =>
        expect .colon .colon
        let value ← assignment bound
        if ← takes .comma then return (key, value) :: (← entries bound)
        else if ← takes (.closing .curly) then return [(key, value)]
        else unexpected .commaOrBrace

/-- A function after the word for it. Without a name of its own that word is its label. -/
def function : Nat → Grammar Expr
  | 0 => exhausted
  | bound + 1 => do
    let label ←
      match ← peek with
      | some (.name _) => name .functionName
      | _ => pure "function"
    expect (.opening .round) .openingParenthesis
    let names ← if ← takes (.closing .round) then pure [] else parameters bound
    expect (.opening .curly) .openingBrace
    return .function names (.statements (← block bound)) label

/-- Statements up to a closing brace. -/
def block : Nat → Grammar (List Statement)
  | 0 => exhausted
  | bound + 1 => do
    if ← takes (.closing .curly) then return []
    else if (← peek).isNone then unexpected .closingBrace
    else
      let first ← statement bound
      return first :: (← block bound)

/-- A statement. -/
def statement : Nat → Grammar Statement
  | 0 => exhausted
  | bound + 1 => do
    if ← takes .semicolon then return .empty
    else if ← takes (.opening .curly) then return .block (← block bound)
    else if ← takesWord "var" then return .declare (← declarations bound)
    else if ← takesWord "let" then return .declare (← declarations bound)
    else if ← takesWord "const" then return .declare (← declarations bound)
    else if ← takesWord "return" then
      match ← peek with
      | none | some (.symbol .semicolon) | some (.symbol (.closing .curly)) =>
        endStatement
        return .return none
      | some _ =>
        let value ← assignment bound
        endStatement
        return .return (some value)
    else if ← takesWord "if" then
      expect (.opening .round) .openingParenthesis
      let condition ← assignment bound
      expect (.closing .round) .closingParenthesis
      let positive ← statement bound
      if ← takesWord "else" then return .if condition positive (some (← statement bound))
      else return .if condition positive none
    else
      let value ← assignment bound
      endStatement
      return .expression value

/-- The names of a declaration and their initial values, up to the end of the statement. -/
def declarations : Nat → Grammar (List (String × Option Expr))
  | 0 => exhausted
  | bound + 1 => do
    let name ← name .variableName
    let initial ←
      match ← peek with
      | some (.symbol (.assign none)) => do
        let _ ← next
        pure (some (← assignment bound))
      | _ => pure none
    if ← takes .comma then return (name, initial) :: (← declarations bound)
    else
      endStatement
      return [(name, initial)]

end

/-- Statements up to the end of the tokens. -/
def statements : Nat → Grammar (List Statement)
  | 0 => exhausted
  | bound + 1 => do
    if (← peek).isNone then return []
    else
      let first ← statement bound
      return first :: (← statements bound)

end Grammar

/-! ### Parts of a source -/

/-- A bound on the depth of the rules that no list of tokens exhausts. -/
def depthBound (tokens : List Token) : Nat := 16 * (tokens.length + 1)

/-- The expression that all tokens of a part of a source read as. -/
def Expr.parse (code : String) (tokens : List Token) : Except CompileError Expr :=
  (Grammar.assignment (depthBound tokens)).readAll code tokens

/-- The function body that all tokens of a part of a source read as: statements or an
expression. -/
def Body.parse (code : String) (statements : Bool) (tokens : List Token) :
    Except CompileError Body :=
  if statements then
    ((Grammar.statements (depthBound tokens)).readAll code tokens).map .statements
  else (Expr.parse code tokens).map .expression

end Shorthand
