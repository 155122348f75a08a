/-
This file says which lists of tokens are expressions and statements, and of what form.

It is a grammar in the usual sense: a phrase is put together from shorter phrases and single
tokens, and nothing is said about how it is found or about the tokens around it. Precedence and
grouping are levels of phrases. That a semicolon may be missing only before a closing brace or the
end, and that an `else` belongs to the nearest `if`, is said by what a statement still lacks at
its end.

Which expressions may stand as statements is left open at first. In the language a statement that
begins with a brace is a block.
-/

import Shorthand.Expr.Parse

namespace Shorthand

/-- What a statement lacks at its end. -/
inductive Ending where
  /-- Anything may follow. -/
  | complete
  /-- The last branch of the statement has no `else`, so no `else` may follow. -/
  | lacksElse
  /-- The semicolon is missing, so only a closing brace or the end may follow. -/
  | lacksSemicolon
deriving DecidableEq

/-- What an `if` without `else` lacks at its end. -/
def Ending.withoutElse : Ending → Ending
  | .lacksSemicolon => .lacksSemicolon
  | _ => .lacksElse

namespace Token

/-- A token is a symbol. -/
def IsSymbol (token : Token) (symbol : Symbol) : Prop := token.lexeme = .symbol symbol

/-- A token is a name that is spelled in a way. -/
def IsWord (token : Token) (word : String) : Prop := token.lexeme = .name word

/-- A name that is not reserved. -/
def IsName (token : Token) (spelling : String) : Prop :=
  token.lexeme = .name spelling ∧ spelling ∉ reservedWords

end Token

/-- The lexeme is a name, or a hole that has this name. -/
def Lexeme.Names (name : String) : Lexeme → Prop
  | .name spelling => spelling = name
  | .hole position => holeName position = name
  | _ => False

theorem Lexeme.Names.text {name : String} {lexeme : Lexeme} (names : lexeme.Names name) :
    lexeme.text = name := by
  cases lexeme with
  | name spelling => exact names
  | hole position => exact names
  | _ => exact names.elim

namespace Phrase

/-- The end of a statement, which is a semicolon or nothing. -/
inductive Closes : Ending → List Token → Prop where
  | semicolon {mark : Token} (isMark : mark.IsSymbol .semicolon) : Closes .complete [mark]
  | missing : Closes .lacksSemicolon []

/-- Names with commas between them. -/
inductive Parameters : List String → List Token → Prop where
  | single {token : Token} {spelling : String} (isName : token.IsName spelling) :
      Parameters [spelling] [token]
  | cons {token mark : Token} {spelling : String} {names : List String} {rest : List Token}
      (isName : token.IsName spelling) (isComma : mark.IsSymbol .comma)
      (further : Parameters names rest) : Parameters (spelling :: names) (token :: mark :: rest)

/-- What stands between the parentheses of a function. -/
inductive ParameterList : List String → List Token → Prop where
  | none : ParameterList [] []
  | some {names : List String} {phrase : List Token} (parameters : Parameters names phrase) :
      ParameterList names phrase

/-- The label of a function, which is its name if it has one. -/
inductive Label : String → List Token → Prop where
  | none : Label "function" []
  | some {token : Token} {spelling : String} (isName : token.IsName spelling) :
      Label spelling [token]

section

variable (MayStand : List Token → Prop)

mutual

/-- An expression of any form. Assignments group from the right. -/
inductive Assignment : Expr → List Token → Prop where
  | plain {expr : Expr} {phrase : List Token} (conditional : Conditional expr phrase) :
      Assignment expr phrase
  | assign {left value : Expr} {target : Target} {sign : Token}
      {operator : Option BinaryOperator} {first second : List Token}
      (leftPhrase : Conditional left first) (isTarget : left.target? = some target)
      (isSign : sign.IsSymbol (.assign operator)) (valuePhrase : Assignment value second) :
      Assignment (.assign operator target value) (first ++ sign :: second)

/-- A choice between two assignments, or what binary operators make up. -/
inductive Conditional : Expr → List Token → Prop where
  | plain {expr : Expr} {phrase : List Token} (binary : Binary 0 expr phrase) :
      Conditional expr phrase
  | choice {condition positive negative : Expr} {question colon : Token}
      {first second third : List Token} (conditionPhrase : Binary 0 condition first)
      (isQuestion : question.IsSymbol .question) (positivePhrase : Assignment positive second)
      (isColon : colon.IsSymbol .colon) (negativePhrase : Assignment negative third) :
      Conditional (.conditional condition positive negative)
        (first ++ question :: (second ++ colon :: third))

/-- An expression whose outermost binary operator has at least a level. The left operand may have
an operator of the same level, the right one has to bind more tightly. -/
inductive Binary : Nat → Expr → List Token → Prop where
  | plain {level : Nat} {expr : Expr} {phrase : List Token} (operand : Operand expr phrase) :
      Binary level expr phrase
  | operation {level : Nat} {operator : BinaryOperator} {left right : Expr} {sign : Token}
      {first second : List Token} (bound : level ≤ operator.level)
      (leftPhrase : Binary operator.level left first)
      (isSign : sign.IsSymbol (.operator operator))
      (rightPhrase : Binary (operator.level + 1) right second) :
      Binary level (.binary operator left right) (first ++ sign :: second)

/-- An operand of binary operators. The word for construction leaves no trace. -/
inductive Operand : Expr → List Token → Prop where
  | plain {expr : Expr} {phrase : List Token} (suffixed : Suffixed expr phrase) :
      Operand expr phrase
  | new {word : Token} {expr : Expr} {phrase : List Token} (isWord : word.IsWord "new")
      (suffixed : Suffixed expr phrase) : Operand expr (word :: phrase)
  | unary {sign : Token} {operator : UnaryOperator} {expr : Expr} {phrase : List Token}
      (isSign : sign.lexeme.unaryOperator? = some operator) (operand : Operand expr phrase) :
      Operand (.unary operator expr) (sign :: phrase)

/-- An expression with members, elements and calls behind it. A member name may be reserved. -/
inductive Suffixed : Expr → List Token → Prop where
  | plain {expr : Expr} {phrase : List Token} (primary : Primary expr phrase) :
      Suffixed expr phrase
  | member {base : Expr} {name : String} {dot word : Token} {phrase : List Token}
      (basePhrase : Suffixed base phrase) (isDot : dot.IsSymbol .dot) (isWord : word.IsWord name) :
      Suffixed (.member base name) (phrase ++ [dot, word])
  | index {base key : Expr} {opening closing : Token} {first second : List Token}
      (basePhrase : Suffixed base first) (isOpening : opening.IsSymbol (.opening .square))
      (keyPhrase : Assignment key second) (isClosing : closing.IsSymbol (.closing .square)) :
      Suffixed (.index base key) (first ++ opening :: (second ++ [closing]))
  | callEmpty {base : Expr} {opening closing : Token} {phrase : List Token}
      (basePhrase : Suffixed base phrase) (isOpening : opening.IsSymbol (.opening .round))
      (isClosing : closing.IsSymbol (.closing .round)) :
      Suffixed (.call base []) (phrase ++ [opening, closing])
  | call {base : Expr} {operands : List Expr} {opening closing : Token}
      {first second : List Token} (basePhrase : Suffixed base first)
      (isOpening : opening.IsSymbol (.opening .round)) (operandsPhrase : Operands operands second)
      (isClosing : closing.IsSymbol (.closing .round)) :
      Suffixed (.call base operands) (first ++ opening :: (second ++ [closing]))

/-- Operands of a call with commas between them, at least one. -/
inductive Operands : List Expr → List Token → Prop where
  | single {expr : Expr} {phrase : List Token} (assignment : Assignment expr phrase) :
      Operands [expr] phrase
  | cons {expr : Expr} {rest : List Expr} {mark : Token} {first second : List Token}
      (assignment : Assignment expr first) (isComma : mark.IsSymbol .comma)
      (further : Operands rest second) : Operands (expr :: rest) (first ++ mark :: second)

/-- An expression without an operator, a suffix or a choice outside of brackets. -/
inductive Primary : Expr → List Token → Prop where
  | integer {token : Token} {value : Int64} (isInteger : token.lexeme = .integer value) :
      Primary (.literal (.number (.integer value))) [token]
  | float {token : Token} {value : Float} (isFloat : token.lexeme = .float value) :
      Primary (.literal (.number (.float value))) [token]
  | string {token : Token} {value : String} (isString : token.lexeme = .string value) :
      Primary (.literal (.string value)) [token]
  | hole {token : Token} {position : Nat} (isHole : token.lexeme = .hole position) :
      Primary (.variable (holeName position)) [token]
  | literalWord {token : Token} {word : String} {literal : Literal}
      (isWord : token.IsWord word) (isLiteral : literalWord? word = some literal) :
      Primary (.literal literal) [token]
  | this {token : Token} (isWord : token.IsWord "this") : Primary .this [token]
  | arguments {token : Token} (isWord : token.IsWord "arguments") : Primary .arguments [token]
  | variable {token : Token} {name : String} (isName : token.IsName name)
      (noLiteral : literalWord? name = none) : Primary (.variable name) [token]
  | parentheses {expr : Expr} {opening closing : Token} {phrase : List Token}
      (isOpening : opening.IsSymbol (.opening .round)) (inner : Assignment expr phrase)
      (isClosing : closing.IsSymbol (.closing .round)) :
      Primary expr (opening :: (phrase ++ [closing]))
  | array {items : List Expr} {opening closing : Token} {phrase : List Token}
      (isOpening : opening.IsSymbol (.opening .square)) (itemsPhrase : Items items phrase)
      (isClosing : closing.IsSymbol (.closing .square)) :
      Primary (.array items) (opening :: (phrase ++ [closing]))
  | object {entries : List (String × Expr)} {opening closing : Token} {phrase : List Token}
      (isOpening : opening.IsSymbol (.opening .curly)) (entriesPhrase : Entries entries phrase)
      (isClosing : closing.IsSymbol (.closing .curly)) :
      Primary (.object entries) (opening :: (phrase ++ [closing]))
  | function {parameters : List String} {block : List Statement} {label : String}
      {word openingRound closingRound openingCurly closingCurly : Token}
      {first second third : List Token} (isWord : word.IsWord "function")
      (labelPhrase : Label label first) (isOpeningRound : openingRound.IsSymbol (.opening .round))
      (parametersPhrase : ParameterList parameters second)
      (isClosingRound : closingRound.IsSymbol (.closing .round))
      (isOpeningCurly : openingCurly.IsSymbol (.opening .curly))
      (blockPhrase : Block block third)
      (isClosingCurly : closingCurly.IsSymbol (.closing .curly)) :
      Primary (.function parameters (.statements block) label)
        (word :: (first ++ openingRound :: (second ++ closingRound :: openingCurly ::
          (third ++ [closingCurly]))))

/-- Items of an array with commas between them. A comma may follow the last one. -/
inductive Items : List Expr → List Token → Prop where
  | nil : Items [] []
  | last {expr : Expr} {phrase : List Token} (assignment : Assignment expr phrase) :
      Items [expr] phrase
  | cons {expr : Expr} {rest : List Expr} {mark : Token} {first second : List Token}
      (assignment : Assignment expr first) (isComma : mark.IsSymbol .comma)
      (further : Items rest second) : Items (expr :: rest) (first ++ mark :: second)

/-- Entries of an object with commas between them. A comma may follow the last one. A key is any
word, a string or an integer. -/
inductive Entries : List (String × Expr) → List Token → Prop where
  | nil : Entries [] []
  | last {key : String} {expr : Expr} {word colon : Token} {phrase : List Token}
      (isKey : word.lexeme.entryKey? = some key) (isColon : colon.IsSymbol .colon)
      (assignment : Assignment expr phrase) : Entries [(key, expr)] (word :: colon :: phrase)
  | cons {key : String} {expr : Expr} {rest : List (String × Expr)} {word colon mark : Token}
      {first second : List Token} (isKey : word.lexeme.entryKey? = some key)
      (isColon : colon.IsSymbol .colon) (assignment : Assignment expr first)
      (isComma : mark.IsSymbol .comma) (further : Entries rest second) :
      Entries ((key, expr) :: rest) (word :: colon :: (first ++ mark :: second))

/-- Statements one after the other. Only the last one may lack its semicolon. -/
inductive Block : List Statement → List Token → Prop where
  | nil : Block [] []
  | cons {ending : Ending} {statement : Statement} {rest : List Statement}
      {first second : List Token} (statementPhrase : StatementPhrase ending statement first)
      (further : Block rest second) (separated : ending = .lacksSemicolon → rest = []) :
      Block (statement :: rest) (first ++ second)

/-- A statement, with or without what may end it. -/
inductive StatementPhrase : Ending → Statement → List Token → Prop where
  | empty {mark : Token} (isMark : mark.IsSymbol .semicolon) :
      StatementPhrase .complete .empty [mark]
  | block {block : List Statement} {opening closing : Token} {phrase : List Token}
      (isOpening : opening.IsSymbol (.opening .curly)) (blockPhrase : Block block phrase)
      (isClosing : closing.IsSymbol (.closing .curly)) :
      StatementPhrase .complete (.block block) (opening :: (phrase ++ [closing]))
  | declare {ending : Ending} {word : Token} {spelling : String}
      {declarations : List (String × Option Expr)} {phrase : List Token}
      (isWord : word.IsWord spelling) (declares : spelling ∈ ["var", "let", "const"])
      (declarationsPhrase : Declarations ending declarations phrase) :
      StatementPhrase ending (.declare declarations) (word :: phrase)
  | returnNothing {ending : Ending} {word : Token} {phrase : List Token}
      (isWord : word.IsWord "return") (closes : Closes ending phrase) :
      StatementPhrase ending (.return none) (word :: phrase)
  | return {ending : Ending} {word : Token} {value : Expr} {first second : List Token}
      (isWord : word.IsWord "return") (valuePhrase : Assignment value first)
      (closes : Closes ending second) :
      StatementPhrase ending (.return (some value)) (word :: (first ++ second))
  | if {ending : Ending} {condition : Expr} {positive : Statement}
      {word opening closing : Token} {first second : List Token} (isWord : word.IsWord "if")
      (isOpening : opening.IsSymbol (.opening .round))
      (conditionPhrase : Assignment condition first)
      (isClosing : closing.IsSymbol (.closing .round))
      (positivePhrase : StatementPhrase ending positive second) :
      StatementPhrase ending.withoutElse (.if condition positive none)
        (word :: opening :: (first ++ closing :: second))
  | ifElse {ending : Ending} {condition : Expr} {positive negative : Statement}
      {word opening closing otherwise : Token} {first second third : List Token}
      (isWord : word.IsWord "if") (isOpening : opening.IsSymbol (.opening .round))
      (conditionPhrase : Assignment condition first)
      (isClosing : closing.IsSymbol (.closing .round))
      (positivePhrase : StatementPhrase .complete positive second)
      (isElse : otherwise.IsWord "else") (negativePhrase : StatementPhrase ending negative third) :
      StatementPhrase ending (.if condition positive (some negative))
        (word :: opening :: (first ++ closing :: (second ++ otherwise :: third)))
  | expression {ending : Ending} {value : Expr} {first second : List Token}
      (mayStand : MayStand first) (valuePhrase : Assignment value first)
      (closes : Closes ending second) :
      StatementPhrase ending (.expression value) (first ++ second)

/-- Declared names with their initial values, and the end behind them. -/
inductive Declarations : Ending → List (String × Option Expr) → List Token → Prop where
  | last {ending : Ending} {name : String} {initial : Option Expr} {token : Token}
      {first second : List Token} (isName : token.IsName name)
      (initialPhrase : Initial initial first)
      (closes : Closes ending second) :
      Declarations ending [(name, initial)] (token :: (first ++ second))
  | cons {ending : Ending} {name : String} {initial : Option Expr}
      {rest : List (String × Option Expr)} {token mark : Token} {first second : List Token}
      (isName : token.IsName name) (initialPhrase : Initial initial first)
      (isComma : mark.IsSymbol .comma) (further : Declarations ending rest second) :
      Declarations ending ((name, initial) :: rest) (token :: (first ++ mark :: second))

/-- The initial value of a declared name, if it has one. -/
inductive Initial : Option Expr → List Token → Prop where
  | none : Initial none []
  | some {value : Expr} {sign : Token} {phrase : List Token}
      (isSign : sign.IsSymbol (.assign none)) (valuePhrase : Assignment value phrase) :
      Initial (some value) (sign :: phrase)

end

end

/-- Tokens that do not begin with a brace. -/
def NoBrace (phrase : List Token) : Prop :=
  ∀ token ∈ phrase.head?, ¬token.IsSymbol (.opening .curly)

end Phrase

end Shorthand
