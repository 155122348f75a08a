/-
This file holds the tokens of the expression language and their text in messages.

A token is a lexeme and the column where it starts, counted in characters. Besides the lexemes
that are read from a source there are holes: they stand for the missing operands of an
operator section or a member shorthand.
-/

import Shorthand.Operator
import Shorthand.Number.Text
import Shorthand.Text.Quoted

namespace Shorthand

/-- The kinds of brackets. -/
inductive Bracket where
  | round | square | curly
deriving DecidableEq

/-- Brackets, separators and operators. An assignment combined with an operator carries it. -/
inductive Symbol where
  | opening (bracket : Bracket)
  | closing (bracket : Bracket)
  | comma | dot | semicolon | colon | question | arrow | bang
  | operator (operator : BinaryOperator)
  | assign (operator : Option BinaryOperator)
deriving DecidableEq

/-- What a token is, apart from its place. -/
inductive Lexeme where
  | integer (value : Int64)
  | float (value : Float)
  | string (value : String)
  | name (name : String)
  /-- The missing operand with a position, counted from zero. -/
  | hole (position : Nat)
  | symbol (symbol : Symbol)

/-- A lexeme with the column that it begins at. -/
structure Token where
  lexeme : Lexeme
  column : Nat

namespace Symbol

/-- How a symbol is spelled. -/
def text : Symbol → String
  | opening .round => "("
  | closing .round => ")"
  | opening .square => "["
  | closing .square => "]"
  | opening .curly => "\x7b"
  | closing .curly => "\x7d"
  | comma => ","
  | dot => "."
  | semicolon => ";"
  | colon => ":"
  | question => "?"
  | arrow => "->"
  | bang => "!"
  | operator binary => binary.text
  | assign none => "="
  | assign (some binary) => binary.text ++ "="

end Symbol

/-- The name of the parameter that fills in the missing operand with a position. -/
def holeName (position : Nat) : String := "$" ++ toString (position + 1)

namespace Lexeme

/-- A floating-point number with its shortest digits and without an exponent. -/
def floatDisplay (number : Float) : String :=
  match Binary.ofFloat? number with
  | some fraction => String.ofList (fraction.shortest .away).positional
  | none => "inf"

/-- The text of a lexeme in messages. Strings are quoted so that every character shows. -/
def text : Lexeme → String
  | integer value => integerText value.toInt
  | float value => floatDisplay value
  | string value => Text.quoted Text.visibleForm value
  | name spelling => spelling
  | hole position => holeName position
  | symbol sign => sign.text

/-- The binary operator that a lexeme is. -/
def operator? : Lexeme → Option BinaryOperator
  | symbol (.operator binary) => some binary
  | _ => none

/-- Whether a lexeme is a symbol. -/
def isSymbol (expected : Symbol) : Lexeme → Bool
  | symbol found => found == expected
  | _ => false

/-- Whether a lexeme is a name that is spelled in a way. -/
def isName (expected : String) : Lexeme → Bool
  | name found => found == expected
  | _ => false

end Lexeme

/-- The words that cannot name a variable, a parameter or a function. -/
def reservedWords : List String :=
  ["var", "let", "const", "return", "if", "else", "function", "new", "typeof", "this",
    "arguments", "true", "false", "null", "undefined"]

/-- The words that begin a statement which is no expression. -/
def statementWords : List String := ["var", "let", "const", "return", "if"]

end Shorthand
