/-
This file shows that every phrase is read by the rule for its form, by recursion on how the phrase
is put together.
-/

import Shorthand.Proofs.Grammar.Expressions

namespace Shorthand

namespace Phrase

variable {rest : List Token}

/-! ### Statements -/

theorem Closes.isRead {ending : Ending} {phrase : List Token} (closes : Closes ending phrase)
    (allows : Allows ending rest) :
    Grammar.endStatement (phrase ++ rest) = .accepted () rest := by
  rw [Grammar.endStatement]
  cases closes with
  | semicolon isMark =>
    rw [List.cons_append, Grammar.takes_found isMark]
    rfl
  | missing =>
    have notSemicolon : ∀ token ∈ rest.head?, ¬token.IsSymbol .semicolon := by
      intro token isHead
      exact (allows token isHead).ne nofun
    rw [List.nil_append, Grammar.takes_absent notSemicolon, Grammar.peek_bind]
    cases rest with
    | nil => rfl
    | cons token others =>
      have isClosing : token.lexeme = .symbol (.closing .curly) := allows token rfl
      rw [List.head?_cons, Option.map_some, isClosing]
      rfl

/-- The initial value of a declared name is read, if there is one. -/
def IsInitial (initial : Option Expr) (phrase : List Token) : Prop :=
  (initial = none ∧ phrase = []) ∨ ∃ value sign second, initial = some value ∧
    phrase = sign :: second ∧ Token.IsSymbol sign (.assign none) ∧ IsAssignment value second

theorem declarations_of_initial {name : String} {initial : Option Expr} {token : Token}
    {first : List Token} {bound : Nat} (isName : token.IsName name)
    (initialRead : IsInitial initial first) (large : 16 * first.length + 5 ≤ bound)
    (loose : grip rest = 0) :
    Grammar.declarations (bound + 1) (token :: (first ++ rest)) =
      (do
        if ← Grammar.takes .comma then return (name, initial) :: (← Grammar.declarations bound)
        else
          Grammar.endStatement
          return [(name, initial)]) rest := by
  rw [Grammar.declarations, Grammar.bind_accepted (Grammar.name_found isName _), Grammar.peek_bind]
  rcases initialRead with ⟨rfl, rfl⟩ | ⟨value, sign, second, rfl, rfl, isSign, valueRead⟩
  · cases rest with
    | nil => rfl
    | cons head others =>
      rw [List.nil_append, List.head?_cons, Option.map_some]
      cases isLexeme : head.lexeme with
      | symbol symbol =>
        cases symbol with
        | assign operator =>
          rw [grip_cons isLexeme] at loose
          cases loose
        | _ => rfl
      | _ => rfl
  · rw [List.length_cons] at large
    rw [List.cons_append, List.head?_cons, Option.map_some, isSign]
    dsimp only
    rw [Grammar.next_bind, List.tail_cons,
      Grammar.bind_accepted (valueRead bound rest (by omega) loose)]
    rfl

theorem IsInitial.last {ending : Ending} {name : String} {initial : Option Expr} {token : Token}
    {first second : List Token} (isName : token.IsName name)
    (initialRead : IsInitial initial first) (closes : Closes ending second) :
    AreDeclarations ending [(name, initial)] (token :: (first ++ second)) := by
  intro bound rest large allows
  simp only [List.length_cons, List.length_append] at large
  obtain ⟨bound, rfl⟩ := Nat.exists_eq_add_of_le' (show 1 ≤ bound by omega)
  have loose := grip_of_closes closes allows
  have notComma : ∀ head ∈ (second ++ rest).head?, ¬head.IsSymbol .comma := by
    cases closes with
    | semicolon isMark =>
      intro head isHead
      rw [← Option.some.inj isHead]
      exact isMark.ne nofun
    | missing => exact fun head isHead => (allows head isHead).ne nofun
  rw [List.cons_append, List.append_assoc,
    declarations_of_initial isName initialRead (by omega) loose, Grammar.takes_absent notComma,
    Grammar.bind_accepted (closes.isRead allows)]
  rfl

theorem IsInitial.cons {ending : Ending} {name : String} {initial : Option Expr}
    {others : List (String × Option Expr)} {token mark : Token} {first second : List Token}
    (isName : token.IsName name) (initialRead : IsInitial initial first)
    (isComma : mark.IsSymbol .comma) (further : AreDeclarations ending others second) :
    AreDeclarations ending ((name, initial) :: others) (token :: (first ++ mark :: second)) := by
  intro bound rest large allows
  simp only [List.length_cons, List.length_append] at large
  obtain ⟨bound, rfl⟩ := Nat.exists_eq_add_of_le' (show 1 ≤ bound by omega)
  rw [List.cons_append, List.append_assoc, List.cons_append,
    declarations_of_initial isName initialRead (by omega) (grip_cons isComma),
    Grammar.takes_found isComma, Grammar.bind_accepted (further bound rest (by omega) allows)]
  rfl

theorem isBlock_nil : IsBlock [] [] := by
  intro bound closing rest isClosing large
  obtain ⟨bound, rfl⟩ := Nat.exists_eq_add_of_le' (show 1 ≤ bound by omega)
  rw [List.nil_append, Grammar.block, Grammar.takes_found isClosing]
  rfl

theorem Block.eq_nil {MayStand : List Token → Prop} {phrase : List Token}
    (block : Block MayStand [] phrase) : phrase = [] := by
  cases block
  rfl

/-- What follows a statement in a block is another statement or the closing brace. -/
theorem Block.allows {ending : Ending} {statements : List Statement} {closing : Token}
    {MayStand : List Token → Prop} {phrase : List Token}
    (block : Block MayStand statements phrase) (isClosing : closing.IsSymbol (.closing .curly))
    (separated : ending = .lacksSemicolon → statements = []) :
    Allows ending (phrase ++ closing :: rest) := by
  cases ending with
  | complete => trivial
  | lacksElse =>
    intro token isHead isElse
    cases block with
    | nil =>
      rw [← Option.some.inj isHead] at isElse
      exact Token.not_isWord_of_isSymbol isClosing _ isElse
    | cons statement _ _ =>
      rw [List.append_assoc] at isHead
      exact ((statement.begins.append _).head token isHead).notElse isElse
  | lacksSemicolon =>
    have none := separated rfl
    subst none
    rw [block.eq_nil]
    intro token isHead
    rwa [← Option.some.inj isHead]

theorem IsBlock.cons {ending : Ending} {statement : Statement} {others : List Statement}
    {first second : List Token} (statementRead : IsStatement ending statement first)
    (begins : Begins BeginsStatement first) (further : IsBlock others second)
    (allows : ∀ closing rest, Token.IsSymbol closing (.closing .curly) →
      Allows ending (second ++ closing :: rest)) :
    IsBlock (statement :: others) (first ++ second) := by
  intro bound closing rest isClosing large
  rw [List.length_append] at large
  have nonempty := begins.length_pos
  obtain ⟨bound, rfl⟩ := Nat.exists_eq_add_of_le' (show 1 ≤ bound by omega)
  have reads := statementRead bound _ (by omega) (allows closing rest isClosing)
  obtain ⟨token, tokens, rfl, begins⟩ := begins
  rw [List.append_assoc, List.cons_append, Grammar.block, Grammar.takes_differs begins.notClosing,
    Grammar.peek_bind, List.head?_cons, Option.map_some]
  refine (Grammar.bind_accepted reads _).trans ?_
  rw [Grammar.bind_accepted (further bound closing rest isClosing (by omega))]
  rfl

theorem isStatement_empty {mark : Token} (isMark : mark.IsSymbol .semicolon) :
    IsStatement .complete .empty [mark] := by
  intro bound rest large _
  obtain ⟨bound, rfl⟩ := Nat.exists_eq_add_of_le' (show 1 ≤ bound by omega)
  rw [List.cons_append, Grammar.statement, Grammar.takes_found isMark]
  rfl

theorem IsBlock.isStatement {block : List Statement} {opening closing : Token}
    {phrase : List Token} (isOpening : opening.IsSymbol (.opening .curly))
    (blockRead : IsBlock block phrase) (isClosing : closing.IsSymbol (.closing .curly)) :
    IsStatement .complete (.block block) (opening :: (phrase ++ [closing])) := by
  intro bound rest large _
  simp only [List.length_cons, List.length_append, List.length_nil] at large
  obtain ⟨bound, rfl⟩ := Nat.exists_eq_add_of_le' (show 1 ≤ bound by omega)
  have notSemicolon : ¬opening.IsSymbol .semicolon := isOpening.ne nofun
  simp only [List.cons_append, List.append_assoc, List.nil_append]
  rw [Grammar.statement, Grammar.takes_differs notSemicolon, Grammar.takes_found isOpening,
    Grammar.bind_accepted (blockRead bound closing rest isClosing (by omega))]
  rfl

theorem AreDeclarations.isStatement {ending : Ending} {word : Token} {spelling : String}
    {declarations : List (String × Option Expr)} {phrase : List Token}
    (isWord : word.IsWord spelling) (declares : spelling ∈ ["var", "let", "const"])
    (declarationsRead : AreDeclarations ending declarations phrase) :
    IsStatement ending (.declare declarations) (word :: phrase) := by
  intro bound rest large allows
  rw [List.length_cons] at large
  obtain ⟨bound, rfl⟩ := Nat.exists_eq_add_of_le' (show 1 ≤ bound by omega)
  have declared : (do return .declare (← Grammar.declarations bound) : Grammar Statement)
      (phrase ++ rest) = .accepted (.declare declarations) rest :=
    Grammar.bind_accepted (declarationsRead bound rest (by omega) allows) _
  rw [List.cons_append, Grammar.statement,
    Grammar.takes_differs (Token.not_isSymbol_of_isWord isWord _),
    Grammar.takes_differs (Token.not_isSymbol_of_isWord isWord _)]
  by_cases isVar : spelling = "var"
  · rw [isVar] at isWord
    rw [Grammar.takesWord_found isWord]
    exact declared
  rw [Grammar.takesWord_differs (isWord.ne isVar)]
  by_cases isLet : spelling = "let"
  · rw [isLet] at isWord
    rw [Grammar.takesWord_found isWord]
    exact declared
  have isConst : spelling = "const" := by simpa [isVar, isLet] using declares
  rw [isConst] at isWord
  rw [Grammar.takesWord_differs (isWord.ne (by decide)), Grammar.takesWord_found isWord]
  exact declared

/-- A statement that returns goes on by what follows the word. -/
theorem statement_of_return {word : Token} {bound : Nat} (isWord : word.IsWord "return") :
    ((∀ token ∈ rest.head?, token.IsSymbol .semicolon ∨ token.IsSymbol (.closing .curly)) →
      Grammar.statement (bound + 1) (word :: rest) =
        (do
          Grammar.endStatement
          return .return none : Grammar Statement) rest) ∧
    (Begins BeginsExpression rest →
      Grammar.statement (bound + 1) (word :: rest) =
        (do
          let value ← Grammar.assignment bound
          Grammar.endStatement
          return .return (some value) : Grammar Statement) rest) := by
  have notVar : ¬word.IsWord "var" := isWord.ne (by decide)
  have notLet : ¬word.IsWord "let" := isWord.ne (by decide)
  have notConst : ¬word.IsWord "const" := isWord.ne (by decide)
  rw [Grammar.statement, Grammar.takes_differs (Token.not_isSymbol_of_isWord isWord _),
    Grammar.takes_differs (Token.not_isSymbol_of_isWord isWord _),
    Grammar.takesWord_differs notVar, Grammar.takesWord_differs notLet,
    Grammar.takesWord_differs notConst, Grammar.takesWord_found isWord, Grammar.peek_bind]
  constructor
  · intro ends
    cases rest with
    | nil => rfl
    | cons token others =>
      rw [List.head?_cons, Option.map_some]
      rcases ends token rfl with isSemicolon | isClosing
      · rw [isSemicolon]
      · rw [isClosing]
  · rintro ⟨token, others, rfl, begins⟩
    rw [List.head?_cons, Option.map_some]
    rw [BeginsExpression] at begins
    cases isLexeme : token.lexeme with
    | symbol symbol =>
      rw [isLexeme] at begins
      cases symbol with
      | semicolon => cases begins
      | closing bracket => cases begins
      | _ => rfl
    | _ => rfl

theorem Closes.isReturn {ending : Ending} {word : Token} {phrase : List Token}
    (isWord : word.IsWord "return") (closes : Closes ending phrase) :
    IsStatement ending (.return none) (word :: phrase) := by
  intro bound rest large allows
  obtain ⟨bound, rfl⟩ := Nat.exists_eq_add_of_le' (show 1 ≤ bound by omega)
  have ends : ∀ token ∈ (phrase ++ rest).head?,
      token.IsSymbol .semicolon ∨ token.IsSymbol (.closing .curly) := by
    intro token isHead
    cases closes with
    | semicolon isMark =>
      rw [← Option.some.inj isHead]
      exact .inl isMark
    | missing => exact .inr (allows token isHead)
  rw [List.cons_append, (statement_of_return isWord).1 ends,
    Grammar.bind_accepted (closes.isRead allows)]
  rfl

theorem IsAssignment.isReturn {ending : Ending} {word : Token} {value : Expr}
    {first second : List Token} (isWord : word.IsWord "return")
    (valueRead : IsAssignment value first) (begins : Begins BeginsExpression first)
    (closes : Closes ending second) :
    IsStatement ending (.return (some value)) (word :: (first ++ second)) := by
  intro bound rest large allows
  simp only [List.length_cons, List.length_append] at large
  obtain ⟨bound, rfl⟩ := Nat.exists_eq_add_of_le' (show 1 ≤ bound by omega)
  rw [List.cons_append, List.append_assoc, (statement_of_return isWord).2 (begins.append _),
    Grammar.bind_accepted (valueRead bound _ (by omega) (grip_of_closes closes allows)),
    Grammar.bind_accepted (closes.isRead allows)]
  rfl

theorem statement_of_if {word opening : Token} {bound : Nat} (isWord : word.IsWord "if")
    (isOpening : opening.IsSymbol (.opening .round)) :
    Grammar.statement (bound + 1) (word :: opening :: rest) =
      (do
        let condition ← Grammar.assignment bound
        Grammar.expect (.closing .round) .closingParenthesis
        let positive ← Grammar.statement bound
        if ← Grammar.takesWord "else" then
          return .if condition positive (some (← Grammar.statement bound))
        else return .if condition positive none : Grammar Statement) rest := by
  have notVar : ¬word.IsWord "var" := isWord.ne (by decide)
  have notLet : ¬word.IsWord "let" := isWord.ne (by decide)
  have notConst : ¬word.IsWord "const" := isWord.ne (by decide)
  have notReturn : ¬word.IsWord "return" := isWord.ne (by decide)
  rw [Grammar.statement, Grammar.takes_differs (Token.not_isSymbol_of_isWord isWord _),
    Grammar.takes_differs (Token.not_isSymbol_of_isWord isWord _),
    Grammar.takesWord_differs notVar, Grammar.takesWord_differs notLet,
    Grammar.takesWord_differs notConst, Grammar.takesWord_differs notReturn,
    Grammar.takesWord_found isWord, Grammar.expect_found isOpening]

theorem IsStatement.if {ending : Ending} {condition : Expr} {positive : Statement}
    {word opening closing : Token} {first second : List Token} (isWord : word.IsWord "if")
    (isOpening : opening.IsSymbol (.opening .round)) (conditionRead : IsAssignment condition first)
    (isClosing : closing.IsSymbol (.closing .round))
    (positiveRead : IsStatement ending positive second) :
    IsStatement ending.withoutElse (.if condition positive none)
      (word :: opening :: (first ++ closing :: second)) := by
  intro bound rest large allows
  simp only [List.length_cons, List.length_append] at large
  obtain ⟨bound, rfl⟩ := Nat.exists_eq_add_of_le' (show 1 ≤ bound by omega)
  have noElse : Allows ending rest ∧ ∀ token ∈ rest.head?, ¬token.IsWord "else" := by
    cases ending with
    | complete => exact ⟨trivial, allows⟩
    | lacksElse => exact ⟨allows, allows⟩
    | lacksSemicolon =>
      exact ⟨allows, fun token isHead => Token.not_isWord_of_isSymbol (allows token isHead) _⟩
  simp only [List.cons_append, List.append_assoc]
  rw [statement_of_if isWord isOpening,
    Grammar.bind_accepted (conditionRead bound _ (by omega) (grip_cons isClosing)),
    Grammar.expect_found isClosing,
    Grammar.bind_accepted (positiveRead bound rest (by omega) noElse.1),
    Grammar.takesWord_absent noElse.2]
  rfl

theorem IsStatement.ifElse {ending : Ending} {condition : Expr} {positive negative : Statement}
    {word opening closing otherwise : Token} {first second third : List Token}
    (isWord : word.IsWord "if") (isOpening : opening.IsSymbol (.opening .round))
    (conditionRead : IsAssignment condition first) (isClosing : closing.IsSymbol (.closing .round))
    (positiveRead : IsStatement .complete positive second) (isElse : otherwise.IsWord "else")
    (negativeRead : IsStatement ending negative third) :
    IsStatement ending (.if condition positive (some negative))
      (word :: opening :: (first ++ closing :: (second ++ otherwise :: third))) := by
  intro bound rest large allows
  simp only [List.length_cons, List.length_append] at large
  obtain ⟨bound, rfl⟩ := Nat.exists_eq_add_of_le' (show 1 ≤ bound by omega)
  simp only [List.cons_append, List.append_assoc]
  rw [statement_of_if isWord isOpening,
    Grammar.bind_accepted (conditionRead bound _ (by omega) (grip_cons isClosing)),
    Grammar.expect_found isClosing,
    Grammar.bind_accepted (positiveRead bound _ (by omega) trivial),
    Grammar.takesWord_found isElse,
    Grammar.bind_accepted (negativeRead bound rest (by omega) allows)]
  rfl

theorem IsAssignment.isStatement {ending : Ending} {value : Expr} {first second : List Token}
    (mayStand : NoBrace first) (valueRead : IsAssignment value first)
    (begins : Begins BeginsExpression first) (closes : Closes ending second) :
    IsStatement ending (.expression value) (first ++ second) := by
  intro bound rest large allows
  rw [List.length_append] at large
  obtain ⟨bound, rfl⟩ := Nat.exists_eq_add_of_le' (show 1 ≤ bound by omega)
  have reads := valueRead bound _ (show 16 * first.length + 5 ≤ bound by omega)
    (grip_of_closes closes allows)
  obtain ⟨token, others, rfl, begins⟩ := begins
  have notBrace : ¬token.IsSymbol (.opening .curly) := mayStand token rfl
  have notWord {word : String} (isBranch : word ∈ branchWords) : ¬token.IsWord word :=
    Token.not_isWord_of_begins begins isBranch
  rw [List.append_assoc, List.cons_append, Grammar.statement,
    Grammar.takes_differs (Token.not_isSymbol_of_begins begins rfl),
    Grammar.takes_differs notBrace, Grammar.takesWord_differs (notWord (by decide)),
    Grammar.takesWord_differs (notWord (by decide)),
    Grammar.takesWord_differs (notWord (by decide)),
    Grammar.takesWord_differs (notWord (by decide)),
    Grammar.takesWord_differs (notWord (by decide))]
  refine (Grammar.bind_accepted reads _).trans ?_
  rw [Grammar.bind_accepted (closes.isRead allows)]
  rfl

/-! ### All phrases -/

mutual

theorem Assignment.isRead {expr : Expr} {phrase : List Token} :
    Assignment NoBrace expr phrase → IsAssignment expr phrase
  | .plain conditional => conditional.isRead.isAssignment
  | .assign left isTarget isSign value => .assign left.isRead isTarget isSign value.isRead

theorem Conditional.isRead {expr : Expr} {phrase : List Token} :
    Conditional NoBrace expr phrase → IsConditional expr phrase
  | .plain binary => binary.isRead.isConditional
  | .choice condition isQuestion positive isColon negative =>
    .choice condition.isRead isQuestion positive.isRead isColon negative.isRead

theorem Binary.isRead {level : Nat} {expr : Expr} {phrase : List Token} :
    Binary NoBrace level expr phrase → IsBinary level expr phrase
  | .plain operand => operand.isRead.isBinary operand.begins.length_pos
  | .operation bound left isSign right => .operation bound left.isRead isSign right.isRead

theorem Operand.isRead {expr : Expr} {phrase : List Token} :
    Operand NoBrace expr phrase → IsOperand expr phrase
  | .plain suffixed => suffixed.isRead.isOperand suffixed.begins
  | .new isWord suffixed => suffixed.isRead.new isWord
  | .unary isSign operand => .unary isSign operand.isRead

theorem Suffixed.isRead {expr : Expr} {phrase : List Token} :
    Suffixed NoBrace expr phrase → IsSuffixed expr phrase
  | .plain primary => primary.isRead.isSuffixed primary.begins.length_pos
  | .member base isDot isWord => base.isRead.member isDot isWord
  | .index base isOpening key isClosing => base.isRead.index isOpening key.isRead isClosing
  | .callEmpty base isOpening isClosing => base.isRead.callEmpty isOpening isClosing
  | .call base isOpening operands isClosing =>
    base.isRead.call isOpening operands.areRead operands.begins isClosing

theorem Operands.areRead {operands : List Expr} {phrase : List Token} :
    Operands NoBrace operands phrase → AreOperands operands phrase
  | .single assignment => .single assignment.isRead
  | .cons assignment isComma further => .cons assignment.isRead isComma further.areRead

theorem Primary.isRead {expr : Expr} {phrase : List Token} :
    Primary NoBrace expr phrase → IsPrimary expr phrase
  | .integer isInteger => isPrimary_of_token fun bound rest => by
    rw [Grammar.primary, Grammar.next_bind, List.head?_cons]
    simp only [isInteger]
    rfl
  | .float isFloat => isPrimary_of_token fun bound rest => by
    rw [Grammar.primary, Grammar.next_bind, List.head?_cons]
    simp only [isFloat]
    rfl
  | .string isString => isPrimary_of_token fun bound rest => by
    rw [Grammar.primary, Grammar.next_bind, List.head?_cons]
    simp only [isString]
    rfl
  | .hole isHole => isPrimary_of_token fun bound rest => by
    rw [Grammar.primary, Grammar.next_bind, List.head?_cons]
    simp only [isHole]
    rfl
  | .literalWord isWord isLiteral => isPrimary_of_literalWord isWord isLiteral
  | .this isWord => isPrimary_of_token fun bound rest => by
    rw [Token.IsWord] at isWord
    rw [Grammar.primary, Grammar.next_bind, List.head?_cons]
    simp only [isWord]
    rfl
  | .arguments isWord => isPrimary_of_token fun bound rest => by
    rw [Token.IsWord] at isWord
    rw [Grammar.primary, Grammar.next_bind, List.head?_cons]
    simp only [isWord]
    rfl
  | .variable isName noLiteral => isPrimary_of_variable isName noLiteral
  | .parentheses isOpening inner isClosing => inner.isRead.parentheses isOpening isClosing
  | .array isOpening items isClosing => items.areRead.array isOpening isClosing
  | .object isOpening entries isClosing => entries.areRead.object isOpening isClosing
  | .function isWord label isOpeningRound parameters isClosingRound isOpeningCurly block
      isClosingCurly =>
    block.isRead.function isWord label isOpeningRound parameters isClosingRound isOpeningCurly
      isClosingCurly

theorem Items.areRead {items : List Expr} {phrase : List Token} :
    Items NoBrace items phrase → AreItems items phrase
  | .nil => areItems_nil
  | .last assignment => .last assignment.isRead assignment.begins
  | .cons assignment isComma further =>
    .cons assignment.isRead assignment.begins isComma further.areRead

theorem Entries.areRead {entries : List (String × Expr)} {phrase : List Token} :
    Entries NoBrace entries phrase → AreEntries entries phrase
  | .nil => areEntries_nil
  | .last isKey isColon assignment => .last isKey isColon assignment.isRead
  | .cons isKey isColon assignment isComma further =>
    .cons isKey isColon assignment.isRead isComma further.areRead

theorem Block.isRead {block : List Statement} {phrase : List Token} :
    Block NoBrace block phrase → IsBlock block phrase
  | .nil => isBlock_nil
  | .cons statement further separated =>
    .cons statement.isRead statement.begins further.isRead
      fun _ _ isClosing => further.allows isClosing separated

theorem StatementPhrase.isRead {ending : Ending} {statement : Statement} {phrase : List Token} :
    StatementPhrase NoBrace ending statement phrase → IsStatement ending statement phrase
  | .empty isMark => isStatement_empty isMark
  | .block isOpening block isClosing => block.isRead.isStatement isOpening isClosing
  | .declare isWord declares declarations => declarations.areRead.isStatement isWord declares
  | .returnNothing isWord closes => closes.isReturn isWord
  | .return isWord value closes => value.isRead.isReturn isWord value.begins closes
  | .if isWord isOpening condition isClosing positive =>
    .if isWord isOpening condition.isRead isClosing positive.isRead
  | .ifElse isWord isOpening condition isClosing positive isElse negative =>
    .ifElse isWord isOpening condition.isRead isClosing positive.isRead isElse negative.isRead
  | .expression mayStand value closes => value.isRead.isStatement mayStand value.begins closes

theorem Declarations.areRead {ending : Ending} {declarations : List (String × Option Expr)}
    {phrase : List Token} :
    Declarations NoBrace ending declarations phrase → AreDeclarations ending declarations phrase
  | .last isName initial closes => initial.isRead.last isName closes
  | .cons isName initial isComma further => initial.isRead.cons isName isComma further.areRead

theorem Initial.isRead {initial : Option Expr} {phrase : List Token} :
    Initial NoBrace initial phrase → IsInitial initial phrase
  | .none => .inl ⟨rfl, rfl⟩
  | .some isSign value => .inr ⟨_, _, _, rfl, rfl, isSign, value.isRead⟩

end

end Phrase

end Shorthand
