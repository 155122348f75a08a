/-
This file shows that brackets in phrases are closed in order.

What stands outside of all brackets of an expression is no semicolon: those of its functions are in
braces. So the tokens of an expression are told apart from those around it by counting brackets,
and a bracket at their beginning is closed where its own phrase ends.
-/

import Shorthand.Form
import Shorthand.Proofs.Grammar.Follow

namespace Shorthand

/-! ### Tokens with closed brackets -/

/-- A token is not the arrow. -/
def Token.NoArrow (token : Token) : Prop := ¬token.IsSymbol .arrow

/-- A token that neither parts a function nor ends a statement. -/
def Token.NoMark (token : Token) : Prop := ¬token.IsSymbol .arrow ∧ ¬token.IsSymbol .semicolon

/-- The symbols that part what stands around them: brackets, arrows and semicolons. -/
def Symbol.parts : Symbol → Bool
  | .opening _ | .closing _ | .arrow | .semicolon => true
  | _ => false

/-- Tokens whose brackets are closed in order by brackets of their kind. Outside of all brackets the
tokens have a property, and inside of them there are no arrows. -/
inductive Matched : (Token → Prop) → List Token → Prop where
  | nil {Outside : Token → Prop} : Matched Outside []
  | cons {Outside : Token → Prop} {token : Token} {rest : List Token}
      (noBracket : token.lexeme.depthChange = 0) (isOutside : Outside token)
      (further : Matched Outside rest) : Matched Outside (token :: rest)
  | bracketed {Outside : Token → Prop} {opening closing : Token} {bracket : Bracket}
      {inside rest : List Token} (isOpening : opening.IsSymbol (.opening bracket))
      (matched : Matched Token.NoArrow inside) (isClosing : closing.IsSymbol (.closing bracket))
      (further : Matched Outside rest) : Matched Outside (opening :: (inside ++ closing :: rest))

theorem Token.IsSymbol.depthChange {token : Token} {symbol : Symbol}
    (isSymbol : token.IsSymbol symbol) :
    token.lexeme.depthChange = (Lexeme.symbol symbol).depthChange := by
  rw [isSymbol]

theorem Token.IsWord.depthChange {token : Token} {word : String} (isWord : token.IsWord word) :
    token.lexeme.depthChange = 0 := by
  rw [isWord]
  rfl

namespace Matched

variable {Outside Other : Token → Prop} {tokens first second : List Token}

theorem append (matched : Matched Outside first) (further : Matched Outside second) :
    Matched Outside (first ++ second) := by
  induction matched with
  | nil => exact further
  | cons noBracket isOutside _ inductionHypothesis =>
    exact .cons noBracket isOutside (inductionHypothesis further)
  | bracketed isOpening matched isClosing _ _ inductionHypothesis =>
    rw [List.cons_append, List.append_assoc, List.cons_append]
    exact .bracketed isOpening matched isClosing (inductionHypothesis further)

theorem mono (matched : Matched Outside tokens) (implies : ∀ token, Outside token → Other token) :
    Matched Other tokens := by
  induction matched with
  | nil => exact .nil
  | cons noBracket isOutside _ inductionHypothesis =>
    exact .cons noBracket (implies _ isOutside) (inductionHypothesis implies)
  | bracketed isOpening matched isClosing _ _ inductionHypothesis =>
    exact .bracketed isOpening matched isClosing (inductionHypothesis implies)

theorem noArrow (matched : Matched Token.NoMark tokens) : Matched Token.NoArrow tokens :=
  matched.mono fun _ => And.left

theorem enclosed {opening closing : Token} {bracket : Bracket}
    (isOpening : opening.IsSymbol (.opening bracket)) (matched : Matched Token.NoArrow tokens)
    (isClosing : closing.IsSymbol (.closing bracket)) :
    Matched Outside (opening :: (tokens ++ [closing])) :=
  .bracketed isOpening matched isClosing .nil

/-! ### Single tokens -/

section

variable {token : Token} {rest : List Token}

theorem leaf {lexeme : Lexeme} (same : token.lexeme = lexeme) (noBracket : lexeme.depthChange = 0)
    (noSymbol : ∀ symbol, lexeme ≠ .symbol symbol) (further : Matched Token.NoMark rest) :
    Matched Token.NoMark (token :: rest) :=
  .cons (same ▸ noBracket)
    ⟨fun isArrow => noSymbol _ (same.symm.trans isArrow),
      fun isSemicolon => noSymbol _ (same.symm.trans isSemicolon)⟩ further

theorem word {word : String} (isWord : token.IsWord word) (further : Matched Token.NoMark rest) :
    Matched Token.NoMark (token :: rest) := .leaf isWord rfl (fun _ => Lexeme.noConfusion) further

theorem statementWord {word : String} (isWord : token.IsWord word)
    (further : Matched Token.NoArrow rest) : Matched Token.NoArrow (token :: rest) :=
  .cons isWord.depthChange (Token.not_isSymbol_of_isWord isWord _) further

theorem symbol {symbol : Symbol} (isSymbol : token.IsSymbol symbol) (noPart : symbol.parts = false)
    (further : Matched Token.NoMark rest) : Matched Token.NoMark (token :: rest) := by
  have noBracket : (Lexeme.symbol symbol).depthChange = 0 := by
    cases symbol <;> first | rfl | cases noPart
  have other {mark : Symbol} (isPart : mark.parts = true) : symbol ≠ mark := fun same =>
    Bool.false_ne_true (noPart.symm.trans (same ▸ isPart))
  exact .cons (isSymbol.depthChange.trans noBracket)
    ⟨isSymbol.ne (other rfl), isSymbol.ne (other rfl)⟩ further

end

/-! ### Counting brackets -/

/-- Inside of other brackets none of the tokens is seen. -/
theorem topLevelFrom_inside (matched : Matched Outside tokens) {depth : Int} (inside : 0 < depth)
    (rest : List Token) : topLevelFrom depth (tokens ++ rest) = topLevelFrom depth rest := by
  induction matched generalizing depth rest with
  | nil => rfl
  | cons noBracket _ _ inductionHypothesis =>
    rw [List.cons_append, topLevelFrom, if_neg (fun outside => by omega), noBracket, Int.add_zero,
      inductionHypothesis inside]
  | @bracketed _ opening closing _ _ _ isOpening _ isClosing _ inner inductionHypothesis =>
    have opens : opening.lexeme.depthChange = 1 := isOpening.depthChange
    have closes : closing.lexeme.depthChange = -1 := isClosing.depthChange
    rw [List.cons_append, topLevelFrom, if_neg (fun outside => by omega), opens, List.append_assoc,
      inner (by omega), List.cons_append, topLevelFrom, if_neg (fun outside => by omega), closes,
      Int.add_neg_cancel_right, inductionHypothesis inside]

/-- The tokens that are seen from outside of all brackets. -/
theorem forall_topLevel (matched : Matched Outside tokens) :
    ∀ token ∈ topLevel tokens, Outside token := by
  induction matched with
  | nil => exact fun _ member => absurd member List.not_mem_nil
  | cons noBracket isOutside _ inductionHypothesis =>
    rw [topLevel, topLevelFrom, if_pos ⟨noBracket, rfl⟩]
    exact List.forall_mem_cons.mpr ⟨isOutside, inductionHypothesis⟩
  | @bracketed _ opening closing _ _ _ isOpening matched isClosing _ _ inductionHypothesis =>
    have opens : opening.lexeme.depthChange = 1 := isOpening.depthChange
    have closes : closing.lexeme.depthChange = -1 := isClosing.depthChange
    rw [topLevel, topLevelFrom, if_neg (fun outside => by omega), opens,
      matched.topLevelFrom_inside (by omega), topLevelFrom, if_neg (fun outside => by omega),
      closes]
    exact inductionHypothesis

/-- Inside of a bracket none of the tokens closes it. -/
theorem closesAtEnd_inside (matched : Matched Outside tokens) {depth : Int} (inside : 0 < depth)
    (rest : List Token) : closesAtEnd depth (tokens ++ rest) = closesAtEnd depth rest := by
  induction matched generalizing depth rest with
  | nil => rfl
  | cons noBracket _ _ inductionHypothesis =>
    rw [List.cons_append, closesAtEnd, noBracket, if_neg (fun closes => by omega), Int.add_zero,
      inductionHypothesis inside]
  | @bracketed _ opening closing _ _ _ isOpening _ isClosing _ inner inductionHypothesis =>
    have opens : opening.lexeme.depthChange = 1 := isOpening.depthChange
    have closes : closing.lexeme.depthChange = -1 := isClosing.depthChange
    rw [List.cons_append, closesAtEnd, opens, if_neg (fun closes => by omega), List.append_assoc,
      inner (by omega), List.cons_append, closesAtEnd, closes, if_neg (fun closes => by omega),
      Int.add_neg_cancel_right, inductionHypothesis inside]

/-- A bracket is closed by the last of some tokens if nothing follows what it encloses. -/
theorem closesAtEnd_enclosed {opening closing : Token} {bracket : Bracket}
    (matched : Matched Outside tokens) (isOpening : opening.IsSymbol (.opening bracket))
    (isClosing : closing.IsSymbol (.closing bracket)) (rest : List Token) :
    closesAtEnd 0 (opening :: (tokens ++ closing :: rest)) = rest.isEmpty := by
  have opens : opening.lexeme.depthChange = 1 := isOpening.depthChange
  have closes : closing.lexeme.depthChange = -1 := isClosing.depthChange
  rw [closesAtEnd, opens, if_neg (fun closes => by omega), matched.closesAtEnd_inside (by omega),
    closesAtEnd, closes, if_pos ⟨by omega, by omega⟩]

end Matched

/-! ### Phrases -/

namespace Phrase

variable {MayStand : List Token → Prop}

theorem Closes.matched {ending : Ending} {phrase : List Token} (closes : Closes ending phrase) :
    Matched Token.NoArrow phrase := by
  cases closes with
  | semicolon isMark => exact .cons isMark.depthChange (isMark.ne Symbol.noConfusion) .nil
  | missing => exact .nil

theorem Label.matched {label : String} {phrase : List Token} (labelPhrase : Label label phrase) :
    Matched Token.NoMark phrase := by
  cases labelPhrase with
  | none => exact .nil
  | some isName => exact .word isName.1 .nil

theorem Parameters.matched {names : List String} {phrase : List Token}
    (parameters : Parameters names phrase) : Matched Token.NoMark phrase := by
  induction parameters with
  | single isName => exact .word isName.1 .nil
  | cons isName isComma _ inductionHypothesis =>
    exact .word isName.1 (.symbol isComma rfl inductionHypothesis)

theorem ParameterList.matched {names : List String} {phrase : List Token}
    (list : ParameterList names phrase) : Matched Token.NoMark phrase := by
  cases list with
  | none => exact .nil
  | some parameters => exact parameters.matched

theorem matched_key {token : Token} {key : String} {rest : List Token}
    (isKey : token.lexeme.entryKey? = some key) (further : Matched Token.NoMark rest) :
    Matched Token.NoMark (token :: rest) := by
  refine .leaf rfl ?_ (fun symbol isSymbol => ?_) further
  · unfold Lexeme.entryKey? at isKey
    unfold Lexeme.depthChange
    split <;> simp_all
  · rw [isSymbol] at isKey
    cases isKey

theorem matched_unary {sign : Token} {operator : UnaryOperator} {rest : List Token}
    (isSign : sign.lexeme.unaryOperator? = some operator) (further : Matched Token.NoMark rest) :
    Matched Token.NoMark (sign :: rest) := by
  unfold Lexeme.unaryOperator? at isSign
  split at isSign
  · exact .symbol ‹_› rfl further
  · exact .symbol ‹_› rfl further
  · exact .symbol ‹_› rfl further
  · exact .word ‹_› further
  · cases isSign

mutual

theorem Assignment.matched {expr : Expr} {phrase : List Token} :
    Assignment MayStand expr phrase → Matched Token.NoMark phrase
  | .plain conditional => conditional.matched
  | .assign leftPhrase _ isSign valuePhrase =>
    leftPhrase.matched.append (.symbol isSign rfl valuePhrase.matched)

theorem Conditional.matched {expr : Expr} {phrase : List Token} :
    Conditional MayStand expr phrase → Matched Token.NoMark phrase
  | .plain binary => binary.matched
  | .choice conditionPhrase isQuestion positivePhrase isColon negativePhrase =>
    conditionPhrase.matched.append (.symbol isQuestion rfl
      (positivePhrase.matched.append (.symbol isColon rfl negativePhrase.matched)))

theorem Binary.matched {level : Nat} {expr : Expr} {phrase : List Token} :
    Binary MayStand level expr phrase → Matched Token.NoMark phrase
  | .plain operand => operand.matched
  | .operation _ leftPhrase isSign rightPhrase =>
    leftPhrase.matched.append (.symbol isSign rfl rightPhrase.matched)

theorem Operand.matched {expr : Expr} {phrase : List Token} :
    Operand MayStand expr phrase → Matched Token.NoMark phrase
  | .plain suffixed => suffixed.matched
  | .new isWord suffixed => .word isWord suffixed.matched
  | .unary isSign operand => matched_unary isSign operand.matched

theorem Suffixed.matched {expr : Expr} {phrase : List Token} :
    Suffixed MayStand expr phrase → Matched Token.NoMark phrase
  | .plain primary => primary.matched
  | .member basePhrase isDot isWord =>
    basePhrase.matched.append (.symbol isDot rfl (.word isWord .nil))
  | .index basePhrase isOpening keyPhrase isClosing =>
    basePhrase.matched.append (.enclosed isOpening keyPhrase.matched.noArrow isClosing)
  | .callEmpty basePhrase isOpening isClosing =>
    basePhrase.matched.append (.enclosed isOpening .nil isClosing)
  | .call basePhrase isOpening operandsPhrase isClosing =>
    basePhrase.matched.append (.enclosed isOpening operandsPhrase.matched.noArrow isClosing)

theorem Operands.matched {exprs : List Expr} {phrase : List Token} :
    Operands MayStand exprs phrase → Matched Token.NoMark phrase
  | .single assignment => assignment.matched
  | .cons assignment isComma further =>
    assignment.matched.append (.symbol isComma rfl further.matched)

theorem Primary.matched {expr : Expr} {phrase : List Token} :
    Primary MayStand expr phrase → Matched Token.NoMark phrase
  | .integer isInteger => .leaf isInteger rfl (fun _ => Lexeme.noConfusion) .nil
  | .float isFloat => .leaf isFloat rfl (fun _ => Lexeme.noConfusion) .nil
  | .string isString => .leaf isString rfl (fun _ => Lexeme.noConfusion) .nil
  | .hole isHole => .leaf isHole rfl (fun _ => Lexeme.noConfusion) .nil
  | .literalWord isWord _ | .this isWord | .arguments isWord => .word isWord .nil
  | .variable isName _ => .word isName.1 .nil
  | .parentheses isOpening inner isClosing => .enclosed isOpening inner.matched.noArrow isClosing
  | .array isOpening itemsPhrase isClosing =>
    .enclosed isOpening itemsPhrase.matched.noArrow isClosing
  | .object isOpening entriesPhrase isClosing =>
    .enclosed isOpening entriesPhrase.matched.noArrow isClosing
  | .function isWord labelPhrase isOpeningRound parametersPhrase isClosingRound isOpeningCurly
      blockPhrase isClosingCurly =>
    .word isWord (labelPhrase.matched.append
      (.bracketed isOpeningRound parametersPhrase.matched.noArrow isClosingRound
        (.enclosed isOpeningCurly blockPhrase.matched isClosingCurly)))

theorem Items.matched {exprs : List Expr} {phrase : List Token} :
    Items MayStand exprs phrase → Matched Token.NoMark phrase
  | .nil => Matched.nil
  | .last assignment => assignment.matched
  | .cons assignment isComma further =>
    assignment.matched.append (.symbol isComma rfl further.matched)

theorem Entries.matched {entries : List (String × Expr)} {phrase : List Token} :
    Entries MayStand entries phrase → Matched Token.NoMark phrase
  | .nil => Matched.nil
  | .last isKey isColon assignment =>
    matched_key isKey (.symbol isColon rfl assignment.matched)
  | .cons isKey isColon assignment isComma further =>
    matched_key isKey (.symbol isColon rfl
      (assignment.matched.append (.symbol isComma rfl further.matched)))

theorem Block.matched {block : List Statement} {phrase : List Token} :
    Block MayStand block phrase → Matched Token.NoArrow phrase
  | .nil => Matched.nil
  | .cons statementPhrase further _ => statementPhrase.matched.append further.matched

theorem StatementPhrase.matched {ending : Ending} {statement : Statement} {phrase : List Token} :
    StatementPhrase MayStand ending statement phrase → Matched Token.NoArrow phrase
  | .empty isMark => .cons isMark.depthChange (isMark.ne Symbol.noConfusion) .nil
  | .block isOpening blockPhrase isClosing => .enclosed isOpening blockPhrase.matched isClosing
  | .declare isWord _ declarationsPhrase => .statementWord isWord declarationsPhrase.matched
  | .returnNothing isWord closes => .statementWord isWord closes.matched
  | .return isWord valuePhrase closes =>
    .statementWord isWord (valuePhrase.matched.noArrow.append closes.matched)
  | .if isWord isOpening conditionPhrase isClosing positivePhrase =>
    .statementWord isWord
      (.bracketed isOpening conditionPhrase.matched.noArrow isClosing positivePhrase.matched)
  | .ifElse isWord isOpening conditionPhrase isClosing positivePhrase isElse negativePhrase =>
    .statementWord isWord (.bracketed isOpening conditionPhrase.matched.noArrow isClosing
      (positivePhrase.matched.append (.statementWord isElse negativePhrase.matched)))
  | .expression _ valuePhrase closes => valuePhrase.matched.noArrow.append closes.matched

theorem Declarations.matched {ending : Ending} {declarations : List (String × Option Expr)}
    {phrase : List Token} :
    Declarations MayStand ending declarations phrase → Matched Token.NoArrow phrase
  | .last isName initialPhrase closes =>
    .statementWord isName.1 (initialPhrase.matched.noArrow.append closes.matched)
  | .cons isName initialPhrase isComma further =>
    .statementWord isName.1 (initialPhrase.matched.noArrow.append
      (.cons isComma.depthChange (isComma.ne Symbol.noConfusion) further.matched))

theorem Initial.matched {initial : Option Expr} {phrase : List Token} :
    Initial MayStand initial phrase → Matched Token.NoMark phrase
  | .none => Matched.nil
  | .some isSign valuePhrase => .symbol isSign rfl valuePhrase.matched

end

end Phrase

end Shorthand
