/-
This file holds the reasons why a source is refused, with the place they point at.

The message quotes the source from the column of the error on, at most twenty characters.
-/

import Shorthand.Token.Basic

namespace Shorthand

/-- What a source would have had to go on with. -/
inductive Expectation where
  | expression | memberName | propertyName | functionName | variableName | parameter
  | colon | semicolon | openingParenthesis | closingParenthesis | closingBracket
  | openingBrace | closingBrace
  | commaOrParenthesis | commaOrBracket | commaOrBrace
  | arrowBody | endOfInput
deriving DecidableEq

namespace Expectation

/-- How a message calls what was expected. -/
def text : Expectation → String
  | expression => "expression"
  | memberName => "member name"
  | propertyName => "property name"
  | functionName => "function name"
  | variableName => "variable name"
  | parameter => "parameter"
  | colon => "':'"
  | semicolon => "';'"
  | openingParenthesis => "'('"
  | closingParenthesis => "')'"
  | closingBracket => "']'"
  | openingBrace => "'\x7b'"
  | closingBrace => "'\x7d'"
  | commaOrParenthesis => "',' or ')'"
  | commaOrBracket => "',' or ']'"
  | commaOrBrace => "',' or '\x7d'"
  | arrowBody => "arrow body"
  | endOfInput => "end of input"

end Expectation

/-- Why a source is refused. -/
inductive Refusal where
  | unexpectedToken (found : Lexeme) (expected : Expectation)
  | unexpectedEnd (expected : Expectation)
  | badCharacter (found : Char)
  | badNumber (text : String)
  | badEscape (letter : Char)
  | unterminatedString
  | undefinedName (name : String)
  | badAssignTarget
  | badParameter (found : Lexeme)
  | empty

namespace Refusal

/-- What a message says is wrong. -/
def text : Refusal → String
  | unexpectedToken found expected =>
    "Unexpected token '" ++ found.text ++ "'. Expected " ++ expected.text
  | unexpectedEnd expected => "EOF while parsing " ++ expected.text
  | badCharacter found => "Unexpected character '" ++ found.toString ++ "'"
  | badNumber text => "Bad number '" ++ text ++ "'"
  | badEscape letter => "Bad escape sequence '\\" ++ letter.toString ++ "'"
  | unterminatedString => "Unterminated string literal"
  | undefinedName name => "Variable '" ++ name ++ "' undefined"
  | badAssignTarget => "Invalid assignment target"
  | badParameter found => "Bad parameter list: " ++ found.text
  | empty => "Empty shorthand"

end Refusal

/-- A refused source, with the reason and the column it was found at. -/
structure CompileError where
  refusal : Refusal
  column : Nat
  code : String

namespace CompileError

/-- The source from the column on, at most twenty characters. -/
def snippet (error : CompileError) : String :=
  String.ofList ((error.code.toList.drop error.column).take 20)

/-- The whole message, with the column and a part of the code. -/
def message (error : CompileError) : String :=
  "error[" ++ toString error.column ++ "] " ++ error.refusal.text ++ " at code '" ++
    error.snippet ++ "' in '" ++ error.code ++ "'"

end CompileError

end Shorthand
