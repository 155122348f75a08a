/-
This file holds the replies of a grammar rule and the steps that rules are made of.

A rule reads tokens from the head of a list. It accepts with a value and the tokens that are
left, or refuses them, or finds that the bound on its depth is exhausted. The last is kept apart
from a refusal because it says nothing about the tokens.
-/

import Shorthand.CompileError

namespace Shorthand

/-- Why tokens are refused. Without a token the fault is at the end of the source. -/
inductive Stop where
  | unexpected (found : Option Token) (expected : Expectation)
  | badTarget (column : Nat)
  | badParameter (found : Token)

/-- What a rule makes of a list of tokens. -/
inductive Reply (α : Type) where
  | accepted (value : α) (rest : List Token)
  | refused (stop : Stop)
  | exhausted

/-- A rule that reads tokens into a value. -/
def Grammar (α : Type) : Type := List Token → Reply α

namespace Grammar

/-- The rule that reads nothing. -/
def done {α : Type} (value : α) : Grammar α := fun tokens => .accepted value tokens

/-- One rule after the other. The second may depend on what the first has read. -/
def andThen {α β : Type} (first : Grammar α) (second : α → Grammar β) : Grammar β := fun tokens =>
  match first tokens with
  | .accepted value rest => second value rest
  | .refused stop => .refused stop
  | .exhausted => .exhausted

/-- A rule goes on where the one before it has stopped. -/
instance : Monad Grammar where
  pure := done
  bind := andThen

/-- The rule that refuses what comes next. -/
def refuse {α : Type} (stop : Stop) : Grammar α := fun _ => .refused stop

/-- The rule that goes too deep. -/
def exhausted {α : Type} : Grammar α := fun _ => .exhausted

/-- Refuses the token at the head, or the end. -/
def unexpected {α : Type} (expected : Expectation) : Grammar α := fun tokens =>
  .refused (.unexpected tokens.head? expected)

/-- The lexeme at the head, which is not read. -/
def peek : Grammar (Option Lexeme) := fun tokens =>
  .accepted (tokens.head?.map (·.lexeme)) tokens

/-- The column of the head, and zero at the end. -/
def column : Grammar Nat := fun tokens => .accepted ((tokens.head?.map (·.column)).getD 0) tokens

/-- Reads the token at the head, if there is one. -/
def next : Grammar (Option Token) := fun tokens => .accepted tokens.head? tokens.tail

/-- Whether the head is a certain symbol, which is then read. -/
def takes (symbol : Symbol) : Grammar Bool
  | token :: rest =>
    if token.lexeme.isSymbol symbol then .accepted true rest else .accepted false (token :: rest)
  | [] => .accepted false []

/-- Whether the head is a certain word, which is then read. -/
def takesWord (word : String) : Grammar Bool
  | token :: rest =>
    if token.lexeme.isName word then .accepted true rest else .accepted false (token :: rest)
  | [] => .accepted false []

/-- Reads a certain symbol and refuses anything else. -/
def expect (symbol : Symbol) (expected : Expectation) : Grammar Unit := do
  unless ← takes symbol do unexpected expected

/-- Reads a name that is not reserved. -/
def name (expected : Expectation) : Grammar String
  | token :: rest =>
    match token.lexeme with
    | .name spelling =>
      if reservedWords.contains spelling then .refused (.unexpected (some token) expected)
      else .accepted spelling rest
    | _ => .refused (.unexpected (some token) expected)
  | [] => .refused (.unexpected none expected)

/-- Reads a binary operator of at least a certain level, if there is one at the head. -/
def operatorFrom (level : Nat) : Grammar (Option BinaryOperator)
  | token :: rest =>
    match token.lexeme.operator? with
    | some operator =>
      if level ≤ operator.level then .accepted (some operator) rest
      else .accepted none (token :: rest)
    | none => .accepted none (token :: rest)
  | [] => .accepted none []

/-- Reads an assignment sign, if there is one at the head, and yields the operator in it. -/
def assignmentSign : Grammar (Option (Option BinaryOperator))
  | token :: rest =>
    match token.lexeme with
    | .symbol (.assign operator) => .accepted (some operator) rest
    | _ => .accepted none (token :: rest)
  | [] => .accepted none []

end Grammar

/-- The error of refused tokens of a source. At the end of the source the column is its
length. -/
def Stop.toError (code : String) : Stop → CompileError
  | .unexpected (some token) expected =>
    ⟨.unexpectedToken token.lexeme expected, token.column, code⟩
  | .unexpected none expected => ⟨.unexpectedEnd expected, code.length, code⟩
  | .badTarget column => ⟨.badAssignTarget, column, code⟩
  | .badParameter token => ⟨.badParameter token.lexeme, token.column, code⟩

/-- What all tokens of a part of a source read as. Tokens that are left over are refused, and a
bound that is exhausted counts as a source that ended too early. -/
def Grammar.readAll {α : Type} (grammar : Grammar α) (code : String) (tokens : List Token) :
    Except CompileError α :=
  match grammar tokens with
  | .accepted value [] => .ok value
  | .accepted _ (token :: _) => .error ((Stop.unexpected (some token) .endOfInput).toError code)
  | .refused stop => .error (stop.toError code)
  | .exhausted => .error ((Stop.unexpected none .expression).toError code)

end Shorthand
