/-
This file tells the forms of a shorthand apart and reads each as a function.

A binary operator alone is a function of two operands. With one operand missing it is a
function of that operand, and a chain of members without its beginning is a function of that
beginning. Parameters in front of an arrow make a function as they stand. Everything else is a
bare body, whose free names become the parameters.
-/

import Shorthand.Expr.Names
import Shorthand.Expr.Parse
import Shorthand.Token.Scan

namespace Shorthand

/-- The operand that is missing in an operator section. -/
inductive Side where
  | left | right
deriving DecidableEq

/-- A shorthand that has been read. -/
inductive Form where
  | combinator (operator : BinaryOperator)
  | operatorSection (operator : BinaryOperator) (missing : Side) (body : Expr)
  | arrow (definition : Definition)
  | memberAccess (body : Expr)
  | bare (definition : Definition)

/-- The token that stands for a missing operand. -/
def Token.hole (position column : Nat) : Token := ⟨.hole position, column⟩

/-- The function that a form stands for. -/
def Form.definition (label : String) : Form → Definition
  | .combinator operator =>
    ⟨[holeName 0, holeName 1],
      .expression (.binary operator (.variable (holeName 0)) (.variable (holeName 1))), label⟩
  | .operatorSection _ _ body => ⟨[holeName 0], .expression body, label⟩
  | .memberAccess body => ⟨[holeName 0], .expression body, label⟩
  | .arrow definition => { definition with label }
  | .bare definition => { definition with label }

/-! ### Brackets -/

/-- How many brackets more are open after a lexeme than before. -/
def Lexeme.depthChange : Lexeme → Int
  | .symbol (.opening _) => 1
  | .symbol (.closing _) => -1
  | _ => 0

/-- The tokens outside of all brackets, when a number of brackets is open before. Brackets of
any kind close each other. -/
def topLevelFrom (depth : Int) : List Token → List Token
  | [] => []
  | token :: rest =>
    if token.lexeme.depthChange = 0 ∧ depth = 0 then token :: topLevelFrom depth rest
    else topLevelFrom (depth + token.lexeme.depthChange) rest

/-- The tokens that no bracket encloses. -/
def topLevel (tokens : List Token) : List Token := topLevelFrom 0 tokens

/-- Whether the bracket at the head is closed by the last token, when a number of brackets is
open before. -/
def closesAtEnd (depth : Int) : List Token → Bool
  | [] => false
  | token :: rest =>
    let after := depth + token.lexeme.depthChange
    if token.lexeme.depthChange < 0 ∧ after = 0 then rest.isEmpty else closesAtEnd after rest

/-! ### Statement bodies -/

/-- Whether tokens begin a statement that is no expression, or have a semicolon or the word
`return` outside of all brackets. -/
def looksLikeStatements (tokens : List Token) : Bool :=
  (match tokens with
    | ⟨.name word, _⟩ :: _ => statementWords.contains word
    | _ => false) ||
  (topLevel tokens).any fun token =>
    token.lexeme.isSymbol .semicolon || token.lexeme.isName "return"

/-- Whether tokens are to be read as statements and not as an expression. Braces around all of
them are looked through, and empty ones hold no statement. -/
def isStatementBody (tokens : List Token) : Bool :=
  looksLikeStatements tokens ||
  match tokens with
  | ⟨.symbol (.opening .curly), _⟩ :: inner@(_ :: _) =>
    if (inner.getLast?.map (·.lexeme.isSymbol (.closing .curly))) = some true ∧
        closesAtEnd 0 tokens then
      inner.dropLast.isEmpty || isStatementBody inner.dropLast
    else false
  | _ => false
termination_by tokens.length

/-! ### Arrows -/

/-- The tokens before, between and after the arrows outside of all brackets. Each part but the
last comes with the column of the arrow after it. -/
def splitAtArrows (depth : Int) (part : List Token) :
    List Token → List (List Token × Nat) × List Token
  | [] => ([], part.reverse)
  | token :: rest =>
    if depth = 0 ∧ token.lexeme.isSymbol .arrow then
      let (parts, last) := splitAtArrows depth [] rest
      ((part.reverse, token.column) :: parts, last)
    else splitAtArrows (depth + token.lexeme.depthChange) (token :: part) rest

/-- Names with commas between them. After a comma another name has to follow, and if it is
missing the comma is refused at the arrow. -/
def parameterNames (code : String) (arrowColumn : Nat) (wantsName afterComma : Bool) :
    List Token → Except CompileError (List String)
  | [] =>
    if afterComma then .error ⟨.badParameter (.symbol .comma), arrowColumn, code⟩ else .ok []
  | token :: rest =>
    let bad : Except CompileError (List String) :=
      .error ⟨.badParameter token.lexeme, token.column, code⟩
    match token.lexeme, wantsName with
    | .name spelling, true =>
      if reservedWords.contains spelling then bad
      else (parameterNames code arrowColumn false false rest).map (spelling :: ·)
    | .symbol .comma, false => parameterNames code arrowColumn true true rest
    | _, _ => bad

/-- The parameters in front of an arrow, with or without parentheses around them. -/
def arrowParameters (code : String) (arrowColumn : Nat) (tokens : List Token) :
    Except CompileError (List String) :=
  parameterNames code arrowColumn true false <|
    match tokens with
    | ⟨.symbol (.opening .round), _⟩ :: inner@(_ :: _) =>
      if (inner.getLast?.map (·.lexeme.isSymbol (.closing .round))) = some true then inner.dropLast
      else tokens
    | _ => tokens

/-- A function of the first parameters whose body is, for further parameters, a function of
these. All of them have the same label. -/
def curried (label : String) (body : Body) : List (List String) → Definition
  | [] => ⟨[], body, label⟩
  | [parameters] => ⟨parameters, body, label⟩
  | parameters :: rest =>
    let inner := curried label body rest
    ⟨parameters, .expression (.function inner.parameters inner.body label), label⟩

/-- The function that tokens with an arrow outside of all brackets stand for. -/
def Definition.parseArrow (code : String) (tokens : List Token) :
    Except CompileError Definition := do
  let (parts, last) := splitAtArrows 0 [] tokens
  let parameters ← parts.mapM fun (part, column) => arrowParameters code column part
  if last.isEmpty then .error ⟨.unexpectedEnd .arrowBody, code.length, code⟩
  else
    let body ← Body.parse code (isStatementBody last) last
    return curried code body parameters

/-! ### Shorthands and programs -/

/-- The function that a bare body stands for. Its parameters are its free names, or only the
underscore where that is one of them. -/
def Definition.parseBare (code : String) (statementsAllowed : Bool) (tokens : List Token) :
    Except CompileError Definition := do
  let body ← Body.parse code (statementsAllowed && isStatementBody tokens) tokens
  let free := (Definition.mk [] body code).freeNames
  return ⟨if free.contains "_" then ["_"] else free, body, code⟩

/-- The tokens of a source, of which there has to be one at least. -/
def Token.scanSome (code : String) : Except CompileError (List Token) := do
  let tokens ← Token.scan code
  if tokens.isEmpty then .error ⟨.empty, 0, code⟩ else return tokens

/-- The form of the tokens of a shorthand. A minus sign in front is part of an operand. -/
def Form.ofTokens (code : String) (statementsAllowed : Bool) (tokens : List Token) :
    Except CompileError Form := do
  let first := tokens.head?
  let leading := first.bind (·.lexeme.operator?)
  match tokens, leading with
  | [_], some operator => return .combinator operator
  | _, _ =>
  match leading.filter (· != .subtract) with
  | some operator =>
    let column := (first.map (·.column)).getD 0
    return .operatorSection operator .left (← Expr.parse code (Token.hole 0 column :: tokens))
  | none =>
  if (topLevel tokens).any (·.lexeme.isSymbol .arrow) then
    return .arrow (← Definition.parseArrow code tokens)
  else if (first.map (·.lexeme.isSymbol .dot)) = some true then
    let column := (first.map (·.column)).getD 0
    return .memberAccess (← Expr.parse code (Token.hole 0 column :: tokens))
  else
    match tokens.getLast?.bind (·.lexeme.operator?) with
    | some operator =>
      return .operatorSection operator .right
        (← Expr.parse code (tokens ++ [Token.hole 0 code.length]))
    | none => return .bare (← Definition.parseBare code statementsAllowed tokens)

/-- The form of a shorthand. Without statements a bare body is always an expression, but the
body after an arrow may still be statements. -/
def Form.parse (code : String) (statementsAllowed : Bool) : Except CompileError Form := do
  Form.ofTokens code statementsAllowed (← Token.scanSome code)

/-- The function without parameters that a program stands for: statements or an expression. -/
def Definition.parseProgram (code : String) : Except CompileError Definition := do
  let tokens ← Token.scanSome code
  return ⟨[], ← Body.parse code (isStatementBody tokens) tokens, code⟩

end Shorthand
