/-
This file puts one operand in the place of another.

A shorthand leaves an operand out, and its arrow form has a parameter there. So the tokens of both
differ in the operands at some places: at the beginning and behind operators, where nothing but
an operand can stand. An expression of the ones is therefore an expression of the others, with
one variable in the place of the other.
-/

import Mathlib
import Shorthand.Proofs.Forms.Rename
import Shorthand.Proofs.Grammar.Exact

namespace Shorthand

open Phrase (Assignment NoBrace)

/-! ### Operands -/

/-- A name that is a variable wherever an expression may stand. -/
structure VariableName where
  spelling : String
  free : spelling ∉ reservedWords
  noLiteral : literalWord? spelling = none

theorem VariableName.ne_of_mem {name : VariableName} {word : String}
    (reserved : word ∈ reservedWords) : word ≠ name.spelling := by
  rintro rfl
  exact name.free reserved

/-- An operator in front of an operand is no variable. -/
theorem Lexeme.not_names_of_unaryOperator? {lexeme : Lexeme} {operator : UnaryOperator}
    (isSign : lexeme.unaryOperator? = some operator) (name : VariableName) :
    ¬lexeme.Names name.spelling := by
  intro names
  cases lexeme with
  | name spelling =>
    have differ : spelling ≠ "typeof" :=
      fun same => VariableName.ne_of_mem (by decide) (same.symm.trans names)
    rw [unaryOperator?_name differ] at isSign
    cases isSign
  | hole position => cases isSign
  | _ => exact names

/-- Equal tokens, apart from some places where the ones have a name and the others another name.
Such a place is behind an operator or, if an operand is wanted, at the beginning. Nowhere else
is one of the two names. -/
inductive Swapped (name other : VariableName) : Bool → List Token → List Token → Prop where
  | nil {wanted : Bool} : Swapped name other wanted [] []
  | same {wanted : Bool} {token twin : Token} {tokens others : List Token}
    (same : twin.lexeme = token.lexeme) (notName : ¬token.lexeme.Names name.spelling)
    (notOther : ¬token.lexeme.Names other.spelling)
    (further : Swapped name other token.lexeme.operator?.isSome tokens others) :
    Swapped name other wanted (token :: tokens) (twin :: others)
  | operand {token twin : Token} {tokens others : List Token}
    (isName : token.lexeme.Names name.spelling) (isOther : twin.lexeme.Names other.spelling)
    (further : Swapped name other false tokens others) :
    Swapped name other true (token :: tokens) (twin :: others)

namespace Swapped

variable {name other : VariableName} {wanted : Bool} {token : Token}
  {tokens others first second phrase : List Token}

theorem symm (swapped : Swapped name other wanted tokens others) :
    Swapped other name wanted others tokens := by
  induction swapped with
  | nil => exact .nil
  | same same notName notOther _ inductionHypothesis =>
    exact .same same.symm (by rwa [same]) (by rwa [same]) (by rwa [same])
  | operand isName isOther _ inductionHypothesis =>
    exact .operand isOther isName inductionHypothesis

theorem mono (swapped : Swapped name other wanted tokens others) :
    Swapped name other true tokens others := by
  cases swapped with
  | nil => exact .nil
  | same same notName notOther further => exact .same same notName notOther further
  | operand isName isOther further => exact .operand isName isOther further

/-! ### Parts of the tokens -/

theorem nil_inv (swapped : Swapped name other wanted [] others) : others = [] := by
  cases swapped
  rfl

theorem split (swapped : Swapped name other wanted (first ++ second) others) :
    ∃ before after behind, others = before ++ after ∧ Swapped name other wanted first before ∧
      Swapped name other behind second after := by
  induction first generalizing wanted others with
  | nil => exact ⟨[], others, wanted, rfl, .nil, swapped⟩
  | cons token rest inductionHypothesis =>
    cases swapped with
    | same same notName notOther further =>
      obtain ⟨before, after, behind, rfl, swappedFirst, swappedSecond⟩ :=
        inductionHypothesis further
      exact ⟨_ :: before, after, behind, rfl, .same same notName notOther swappedFirst,
        swappedSecond⟩
    | operand isName isOther further =>
      obtain ⟨before, after, behind, rfl, swappedFirst, swappedSecond⟩ :=
        inductionHypothesis further
      exact ⟨_ :: before, after, behind, rfl, .operand isName isOther swappedFirst, swappedSecond⟩

/-- A token that is not the one name stays as it is. -/
theorem kept (swapped : Swapped name other wanted (token :: tokens) others)
    (notName : ¬token.lexeme.Names name.spelling) :
    ∃ twin rest, others = twin :: rest ∧ twin.lexeme = token.lexeme ∧
      Swapped name other token.lexeme.operator?.isSome tokens rest := by
  cases swapped with
  | same same _ _ further => exact ⟨_, _, rfl, same, further⟩
  | operand isName _ _ => exact absurd isName notName

/-- Where no operand is wanted, the token is not the one name. -/
theorem notName (swapped : Swapped name other false (token :: tokens) others) :
    ¬token.lexeme.Names name.spelling := by
  cases swapped with
  | same _ notName _ _ => exact notName

theorem symbol (swapped : Swapped name other wanted (token :: tokens) others) {symbol : Symbol}
    (isSymbol : token.IsSymbol symbol) :
    ∃ twin rest, others = twin :: rest ∧ twin.IsSymbol symbol ∧
      Swapped name other (Lexeme.symbol symbol).operator?.isSome tokens rest := by
  rw [Token.IsSymbol] at isSymbol
  obtain ⟨twin, rest, rfl, same, further⟩ := swapped.kept (by rw [isSymbol]; exact id)
  rw [isSymbol] at further
  exact ⟨twin, rest, rfl, same.trans isSymbol, further⟩

/-- A word that is not the one name stays as it is. -/
theorem word (swapped : Swapped name other wanted (token :: tokens) others) {word : String}
    (isWord : token.IsWord word) (differ : word ≠ name.spelling) :
    ∃ twin rest, others = twin :: rest ∧ twin.IsWord word ∧
      Swapped name other false tokens rest := by
  rw [Token.IsWord] at isWord
  obtain ⟨twin, rest, rfl, same, further⟩ := swapped.kept (by rw [isWord]; exact differ)
  rw [isWord] at further
  exact ⟨twin, rest, rfl, same.trans isWord, further⟩

/-- A name that may not be an operand stays as it is. -/
theorem identifier (swapped : Swapped name other false (token :: tokens) others)
    {spelling : String} (isName : token.IsName spelling) :
    spelling ≠ name.spelling ∧ ∃ twin rest, others = twin :: rest ∧ twin.IsName spelling ∧
      Swapped name other false tokens rest := by
  have differ : spelling ≠ name.spelling := by
    have notName := swapped.notName
    rwa [isName.1] at notName
  obtain ⟨twin, rest, rfl, isWord, further⟩ := swapped.word isName.1 differ
  exact ⟨differ, twin, rest, rfl, ⟨isWord, isName.2⟩, further⟩

theorem bracketed {opening closing : Token} {bracket : Bracket}
    (swapped : Swapped name other wanted (opening :: (phrase ++ [closing])) others)
    (isOpening : opening.IsSymbol (.opening bracket))
    (isClosing : closing.IsSymbol (.closing bracket)) :
    ∃ openingTwin middle closingTwin, others = openingTwin :: (middle ++ [closingTwin]) ∧
      openingTwin.IsSymbol (.opening bracket) ∧ closingTwin.IsSymbol (.closing bracket) ∧
      Swapped name other false phrase middle := by
  obtain ⟨openingTwin, rest, rfl, isOpeningTwin, inside⟩ := swapped.symbol isOpening
  obtain ⟨middle, last, behind, rfl, swappedPhrase, swappedLast⟩ := inside.split
  obtain ⟨closingTwin, rest, rfl, isClosingTwin, nothing⟩ := swappedLast.symbol isClosing
  cases nothing.nil_inv
  exact ⟨openingTwin, middle, closingTwin, rfl, isOpeningTwin, isClosingTwin, swappedPhrase⟩

theorem noBrace (swapped : Swapped name other wanted tokens others) (noBrace : NoBrace tokens) :
    NoBrace others := by
  cases swapped with
  | nil => exact noBrace
  | @same _ token twin _ _ same _ _ _ =>
    intro head isHead isBrace
    cases isHead
    exact noBrace token rfl (same.symm.trans isBrace)
  | @operand token twin _ _ _ isOther _ =>
    intro head isHead isBrace
    cases isHead
    rw [Token.IsSymbol] at isBrace
    rw [isBrace] at isOther
    exact isOther

end Swapped

/-! ### Phrases -/

/-- A change of one name. -/
def replacing (name other : VariableName) (spelling : String) : String :=
  if spelling = name.spelling then other.spelling else spelling

theorem replacing_self (name other : VariableName) :
    replacing name other name.spelling = other.spelling := if_pos rfl

theorem replacing_of_ne {name : VariableName} {spelling : String}
    (differ : spelling ≠ name.spelling) (other : VariableName) :
    replacing name other spelling = spelling := if_neg differ

theorem changeOutside_replacing {name : VariableName} {bound : List String}
    (fresh : name.spelling ∉ bound) (other : VariableName) :
    changeOutside bound (replacing name other) = replacing name other := by
  funext spelling
  rw [changeOutside]
  split
  · rename_i isBound
    rw [replacing_of_ne]
    rintro rfl
    exact fresh isBound
  · rfl

namespace Phrase

variable {name other : VariableName} {wanted : Bool}

/-- A token that stands for a variable is a phrase of it. -/
theorem Primary.ofNames {token : Token} (names : token.lexeme.Names name.spelling) :
    Primary NoBrace (.variable name.spelling) [token] := by
  cases lexeme : token.lexeme with
  | name spelling =>
    rw [lexeme] at names
    exact .variable ⟨lexeme.trans (congrArg Lexeme.name names), name.free⟩ name.noLiteral
  | hole position =>
    rw [lexeme] at names
    have phrase : Primary NoBrace (.variable (holeName position)) [token] := .hole lexeme
    rwa [names] at phrase
  | _ =>
    rw [lexeme] at names
    exact names.elim

theorem Closes.swapped {ending : Ending} {phrase others : List Token}
    (closes : Closes ending phrase) (swapped : Swapped name other wanted phrase others) :
    Closes ending others := by
  cases closes with
  | semicolon isMark =>
    obtain ⟨twin, rest, rfl, isTwin, further⟩ := swapped.symbol isMark
    cases further.nil_inv
    exact .semicolon isTwin
  | missing =>
    cases swapped.nil_inv
    exact .missing

theorem Label.swapped {label : String} {phrase others : List Token}
    (labelPhrase : Label label phrase) (swapped : Swapped name other false phrase others) :
    Label label others := by
  cases labelPhrase with
  | none =>
    cases swapped.nil_inv
    exact .none
  | some isName =>
    obtain ⟨_, twin, rest, rfl, isTwin, further⟩ := swapped.identifier isName
    cases further.nil_inv
    exact .some isTwin

theorem Parameters.swapped {names : List String} {phrase others : List Token}
    (parameters : Parameters names phrase) (swapped : Swapped name other false phrase others) :
    Parameters names others ∧ name.spelling ∉ names := by
  induction parameters generalizing others with
  | single isName =>
    obtain ⟨differ, twin, rest, rfl, isTwin, further⟩ := swapped.identifier isName
    cases further.nil_inv
    exact ⟨.single isTwin, fun member => differ (List.mem_singleton.mp member).symm⟩
  | cons isName isComma _ inductionHypothesis =>
    obtain ⟨differ, twin, rest, rfl, isTwin, further⟩ := swapped.identifier isName
    obtain ⟨comma, rest, rfl, isCommaTwin, furtherStill⟩ := further.symbol isComma
    obtain ⟨parameters, fresh⟩ := inductionHypothesis furtherStill
    refine ⟨.cons isTwin isCommaTwin parameters, fun member => ?_⟩
    rcases List.mem_cons.mp member with same | later
    · exact differ same.symm
    · exact fresh later

theorem ParameterList.swapped {names : List String} {phrase others : List Token}
    (list : ParameterList names phrase) (swapped : Swapped name other false phrase others) :
    ParameterList names others ∧ name.spelling ∉ names := by
  cases list with
  | none =>
    cases swapped.nil_inv
    exact ⟨.none, List.not_mem_nil⟩
  | some parameters =>
    obtain ⟨parametersTwin, fresh⟩ := parameters.swapped swapped
    exact ⟨.some parametersTwin, fresh⟩

/-! ### Expressions and statements

The recursion is on the phrase, and the tokens are taken apart as the phrase is. An expression may
stand where an operand is wanted and where none is. Keys, declared names and parameters stand
where none is wanted, so none of them is the one name. -/

/-- A token that is no name is a phrase wherever it stands. -/
theorem Primary.swapped_leaf {expr : Expr} {token : Token} {others : List Token}
    (notName : ¬token.lexeme.Names name.spelling)
    (primary : ∀ twin : Token, twin.lexeme = token.lexeme → Primary NoBrace expr [twin])
    (swapped : Swapped name other true [token] others) : Primary NoBrace expr others := by
  obtain ⟨twin, rest, rfl, same, further⟩ := swapped.kept notName
  cases further.nil_inv
  exact primary twin same

/-- A token that is a variable is one, or the other one. -/
theorem Primary.swapped_variable {spelling : String} {token : Token} {others : List Token}
    (names : token.lexeme.Names name.spelling ↔ spelling = name.spelling)
    (primary : ∀ twin : Token, twin.lexeme = token.lexeme →
      Primary NoBrace (.variable spelling) [twin])
    (swapped : Swapped name other true [token] others) :
    Primary NoBrace (.variable (replacing name other spelling)) others := by
  cases swapped with
  | same same notName _ further =>
    cases further.nil_inv
    rw [replacing_of_ne fun isName => notName (names.mpr isName)]
    exact primary _ same
  | operand isName isOther further =>
    cases further.nil_inv
    rw [names.mp isName, replacing_self]
    exact .ofNames isOther

mutual

theorem Assignment.swapped {expr : Expr} {phrase others : List Token} :
    Assignment NoBrace expr phrase → Swapped name other true phrase others →
      Assignment NoBrace (expr.rename (replacing name other)) others
  | .plain conditional, swapped => .plain (conditional.swapped swapped)
  | .assign leftPhrase isTarget isSign valuePhrase, swapped => by
    obtain ⟨left, rest, _, rfl, swappedLeft, further⟩ := swapped.split
    obtain ⟨sign, value, rfl, isSignTwin, swappedValue⟩ := further.symbol isSign
    rw [Expr.rename]
    exact .assign (leftPhrase.swapped swappedLeft) (Expr.target?_rename _ isTarget) isSignTwin
      (valuePhrase.swapped swappedValue.mono)

theorem Conditional.swapped {expr : Expr} {phrase others : List Token} :
    Conditional NoBrace expr phrase → Swapped name other true phrase others →
      Conditional NoBrace (expr.rename (replacing name other)) others
  | .plain binary, swapped => .plain (binary.swapped swapped)
  | .choice conditionPhrase isQuestion positivePhrase isColon negativePhrase, swapped => by
    obtain ⟨condition, rest, _, rfl, swappedCondition, further⟩ := swapped.split
    obtain ⟨question, rest, rfl, isQuestionTwin, further⟩ := further.symbol isQuestion
    obtain ⟨positive, rest, _, rfl, swappedPositive, further⟩ := further.split
    obtain ⟨colon, negative, rfl, isColonTwin, swappedNegative⟩ := further.symbol isColon
    rw [Expr.rename]
    exact .choice (conditionPhrase.swapped swappedCondition) isQuestionTwin
      (positivePhrase.swapped swappedPositive.mono) isColonTwin
      (negativePhrase.swapped swappedNegative.mono)

theorem Binary.swapped {level : Nat} {expr : Expr} {phrase others : List Token} :
    Binary NoBrace level expr phrase → Swapped name other true phrase others →
      Binary NoBrace level (expr.rename (replacing name other)) others
  | .plain operand, swapped => .plain (operand.swapped swapped)
  | .operation bound leftPhrase isSign rightPhrase, swapped => by
    obtain ⟨left, rest, _, rfl, swappedLeft, further⟩ := swapped.split
    obtain ⟨sign, right, rfl, isSignTwin, swappedRight⟩ := further.symbol isSign
    rw [Expr.rename]
    exact .operation bound (leftPhrase.swapped swappedLeft) isSignTwin
      (rightPhrase.swapped swappedRight.mono)

theorem Operand.swapped {expr : Expr} {phrase others : List Token} :
    Operand NoBrace expr phrase → Swapped name other true phrase others →
      Operand NoBrace (expr.rename (replacing name other)) others
  | .plain suffixed, swapped => .plain (suffixed.swapped swapped)
  | .new isWord suffixed, swapped => by
    obtain ⟨word, rest, rfl, isWordTwin, further⟩ :=
      swapped.word isWord (VariableName.ne_of_mem (by decide))
    exact .new isWordTwin (suffixed.swapped further.mono)
  | .unary isSign operand, swapped => by
    obtain ⟨sign, rest, rfl, same, further⟩ :=
      swapped.kept (Lexeme.not_names_of_unaryOperator? isSign name)
    rw [Expr.rename]
    exact .unary (by rwa [same]) (operand.swapped further.mono)

theorem Suffixed.swapped {expr : Expr} {phrase others : List Token} :
    Suffixed NoBrace expr phrase → Swapped name other true phrase others →
      Suffixed NoBrace (expr.rename (replacing name other)) others
  | .plain primary, swapped => .plain (primary.swapped swapped)
  | .member basePhrase isDot isWord, swapped => by
    obtain ⟨base, rest, _, rfl, swappedBase, further⟩ := swapped.split
    obtain ⟨dot, rest, rfl, isDotTwin, further⟩ := further.symbol isDot
    obtain ⟨word, rest, rfl, same, further⟩ := further.kept further.notName
    cases further.nil_inv
    rw [Expr.rename]
    exact .member (basePhrase.swapped swappedBase) isDotTwin (same.trans isWord)
  | .index basePhrase isOpening keyPhrase isClosing, swapped => by
    obtain ⟨base, rest, _, rfl, swappedBase, further⟩ := swapped.split
    obtain ⟨opening, key, closing, rfl, isOpeningTwin, isClosingTwin, swappedKey⟩ :=
      further.bracketed isOpening isClosing
    rw [Expr.rename]
    exact .index (basePhrase.swapped swappedBase) isOpeningTwin (keyPhrase.swapped swappedKey.mono)
      isClosingTwin
  | .callEmpty basePhrase isOpening isClosing, swapped => by
    obtain ⟨base, rest, _, rfl, swappedBase, further⟩ := swapped.split
    obtain ⟨opening, rest, rfl, isOpeningTwin, further⟩ := further.symbol isOpening
    obtain ⟨closing, rest, rfl, isClosingTwin, further⟩ := further.symbol isClosing
    cases further.nil_inv
    rw [Expr.rename, renameList]
    exact .callEmpty (basePhrase.swapped swappedBase) isOpeningTwin isClosingTwin
  | .call basePhrase isOpening operandsPhrase isClosing, swapped => by
    obtain ⟨base, rest, _, rfl, swappedBase, further⟩ := swapped.split
    obtain ⟨opening, operands, closing, rfl, isOpeningTwin, isClosingTwin, swappedOperands⟩ :=
      further.bracketed isOpening isClosing
    rw [Expr.rename]
    exact .call (basePhrase.swapped swappedBase) isOpeningTwin
      (operandsPhrase.swapped swappedOperands.mono) isClosingTwin

theorem Operands.swapped {exprs : List Expr} {phrase others : List Token} :
    Operands NoBrace exprs phrase → Swapped name other true phrase others →
      Operands NoBrace (renameList (replacing name other) exprs) others
  | .single assignment, swapped => by
    rw [renameList, renameList]
    exact .single (assignment.swapped swapped)
  | .cons assignment isComma further, swapped => by
    obtain ⟨first, rest, _, rfl, swappedFirst, swappedRest⟩ := swapped.split
    obtain ⟨comma, rest, rfl, isCommaTwin, swappedRest⟩ := swappedRest.symbol isComma
    rw [renameList]
    exact .cons (assignment.swapped swappedFirst) isCommaTwin (further.swapped swappedRest.mono)

theorem Primary.swapped {expr : Expr} {phrase others : List Token} :
    Primary NoBrace expr phrase → Swapped name other true phrase others →
      Primary NoBrace (expr.rename (replacing name other)) others
  | .integer isInteger, swapped => by
    rw [Expr.rename]
    exact .swapped_leaf (by rw [isInteger]; exact id)
      (fun _ same => .integer (same.trans isInteger)) swapped
  | .float isFloat, swapped => by
    rw [Expr.rename]
    exact .swapped_leaf (by rw [isFloat]; exact id) (fun _ same => .float (same.trans isFloat))
      swapped
  | .string isString, swapped => by
    rw [Expr.rename]
    exact .swapped_leaf (by rw [isString]; exact id) (fun _ same => .string (same.trans isString))
      swapped
  | .hole isHole, swapped => by
    rw [Expr.rename]
    exact .swapped_variable (by rw [isHole]; exact Iff.rfl)
      (fun _ same => .hole (same.trans isHole)) swapped
  | .literalWord isWord isLiteral, swapped => by
    rw [Expr.rename]
    refine .swapped_leaf ?_ (fun _ same => .literalWord (same.trans isWord) isLiteral) swapped
    rw [isWord]
    rintro rfl
    cases name.noLiteral.symm.trans isLiteral
  | .this isWord, swapped => by
    rw [Expr.rename]
    refine .swapped_leaf ?_ (fun _ same => .this (same.trans isWord)) swapped
    rw [isWord]
    exact VariableName.ne_of_mem (by decide)
  | .arguments isWord, swapped => by
    rw [Expr.rename]
    refine .swapped_leaf ?_ (fun _ same => .arguments (same.trans isWord)) swapped
    rw [isWord]
    exact VariableName.ne_of_mem (by decide)
  | .variable isName noLiteral, swapped => by
    rw [Expr.rename]
    exact .swapped_variable (by rw [isName.1]; exact Iff.rfl)
      (fun _ same => .variable ⟨same.trans isName.1, isName.2⟩ noLiteral) swapped
  | .parentheses isOpening inner isClosing, swapped => by
    obtain ⟨opening, middle, closing, rfl, isOpeningTwin, isClosingTwin, swappedInner⟩ :=
      swapped.bracketed isOpening isClosing
    exact .parentheses isOpeningTwin (inner.swapped swappedInner.mono) isClosingTwin
  | .array isOpening itemsPhrase isClosing, swapped => by
    obtain ⟨opening, middle, closing, rfl, isOpeningTwin, isClosingTwin, swappedItems⟩ :=
      swapped.bracketed isOpening isClosing
    rw [Expr.rename]
    exact .array isOpeningTwin (itemsPhrase.swapped swappedItems.mono) isClosingTwin
  | .object isOpening entriesPhrase isClosing, swapped => by
    obtain ⟨opening, middle, closing, rfl, isOpeningTwin, isClosingTwin, swappedEntries⟩ :=
      swapped.bracketed isOpening isClosing
    rw [Expr.rename]
    exact .object isOpeningTwin (entriesPhrase.swapped swappedEntries) isClosingTwin
  | .function isWord labelPhrase isOpeningRound parametersPhrase isClosingRound isOpeningCurly
      blockPhrase isClosingCurly, swapped => by
    obtain ⟨word, rest, rfl, isWordTwin, further⟩ :=
      swapped.word isWord (VariableName.ne_of_mem (by decide))
    obtain ⟨label, rest, _, rfl, swappedLabel, further⟩ := further.split
    obtain ⟨openingRound, rest, rfl, isOpeningRoundTwin, further⟩ := further.symbol isOpeningRound
    obtain ⟨parameters, rest, _, rfl, swappedParameters, further⟩ := further.split
    obtain ⟨closingRound, rest, rfl, isClosingRoundTwin, further⟩ := further.symbol isClosingRound
    obtain ⟨openingCurly, block, closingCurly, rfl, isOpeningCurlyTwin, isClosingCurlyTwin,
      swappedBlock⟩ := further.bracketed isOpeningCurly isClosingCurly
    obtain ⟨parametersTwin, notParameter⟩ := parametersPhrase.swapped swappedParameters
    obtain ⟨blockTwin, notDeclared⟩ := blockPhrase.swapped swappedBlock.mono
    -- The function does not bind the one name, so the change goes on into its body.
    rw [Expr.rename, changeOutside_replacing, Body.rename]
    · exact .function isWordTwin (labelPhrase.swapped swappedLabel) isOpeningRoundTwin
        parametersTwin isClosingRoundTwin isOpeningCurlyTwin blockTwin isClosingCurlyTwin
    · intro member
      rcases List.mem_append.mp member with isParameter | isDeclared
      · exact notParameter isParameter
      · exact notDeclared (List.mem_eraseDups.mp isDeclared)

theorem Items.swapped {exprs : List Expr} {phrase others : List Token} :
    Items NoBrace exprs phrase → Swapped name other true phrase others →
      Items NoBrace (renameList (replacing name other) exprs) others
  | .nil, swapped => by
    cases swapped.nil_inv
    rw [renameList]
    exact .nil
  | .last assignment, swapped => by
    rw [renameList, renameList]
    exact .last (assignment.swapped swapped)
  | .cons assignment isComma further, swapped => by
    obtain ⟨first, rest, _, rfl, swappedFirst, swappedRest⟩ := swapped.split
    obtain ⟨comma, rest, rfl, isCommaTwin, swappedRest⟩ := swappedRest.symbol isComma
    rw [renameList]
    exact .cons (assignment.swapped swappedFirst) isCommaTwin (further.swapped swappedRest.mono)

/-- A key stands where no operand is wanted. -/
theorem Entries.swapped {entries : List (String × Expr)} {phrase others : List Token} :
    Entries NoBrace entries phrase → Swapped name other false phrase others →
      Entries NoBrace (renameEntries (replacing name other) entries) others
  | .nil, swapped => by
    cases swapped.nil_inv
    rw [renameEntries]
    exact .nil
  | .last isKey isColon assignment, swapped => by
    obtain ⟨word, rest, rfl, same, further⟩ := swapped.kept swapped.notName
    obtain ⟨colon, value, rfl, isColonTwin, swappedValue⟩ := further.symbol isColon
    rw [renameEntries, renameEntries]
    exact .last (by rwa [same]) isColonTwin (assignment.swapped swappedValue.mono)
  | .cons isKey isColon assignment isComma further, swapped => by
    obtain ⟨word, rest, rfl, same, swappedRest⟩ := swapped.kept swapped.notName
    obtain ⟨colon, rest, rfl, isColonTwin, swappedRest⟩ := swappedRest.symbol isColon
    obtain ⟨value, rest, _, rfl, swappedValue, swappedRest⟩ := swappedRest.split
    obtain ⟨comma, rest, rfl, isCommaTwin, swappedRest⟩ := swappedRest.symbol isComma
    rw [renameEntries]
    exact .cons (by rwa [same]) isColonTwin (assignment.swapped swappedValue.mono) isCommaTwin
      (further.swapped swappedRest)

theorem Block.swapped {block : List Statement} {phrase others : List Token} :
    Block NoBrace block phrase → Swapped name other true phrase others →
      Block NoBrace (renameBlock (replacing name other) block) others ∧
        name.spelling ∉ blockDeclarations block
  | .nil, swapped => by
    cases swapped.nil_inv
    rw [renameBlock]
    exact ⟨.nil, List.not_mem_nil⟩
  | .cons statementPhrase further separated, swapped => by
    obtain ⟨first, rest, _, rfl, swappedFirst, swappedRest⟩ := swapped.split
    obtain ⟨statement, notDeclared⟩ := statementPhrase.swapped swappedFirst
    obtain ⟨statements, notDeclaredLater⟩ := further.swapped swappedRest.mono
    rw [renameBlock, blockDeclarations, List.mem_append, not_or]
    -- A statement without its semicolon is still the last one.
    refine ⟨.cons statement statements fun lacks => ?_, notDeclared, notDeclaredLater⟩
    rw [separated lacks, renameBlock]

theorem StatementPhrase.swapped {ending : Ending} {statement : Statement}
    {phrase others : List Token} :
    StatementPhrase NoBrace ending statement phrase → Swapped name other true phrase others →
      StatementPhrase NoBrace ending (statement.rename (replacing name other)) others ∧
        name.spelling ∉ statement.declarations
  | .empty isMark, swapped => by
    obtain ⟨mark, rest, rfl, isMarkTwin, further⟩ := swapped.symbol isMark
    cases further.nil_inv
    rw [Statement.rename, Statement.declarations]
    exact ⟨.empty isMarkTwin, List.not_mem_nil⟩
  | .block isOpening blockPhrase isClosing, swapped => by
    obtain ⟨opening, middle, closing, rfl, isOpeningTwin, isClosingTwin, swappedBlock⟩ :=
      swapped.bracketed isOpening isClosing
    obtain ⟨block, notDeclared⟩ := blockPhrase.swapped swappedBlock.mono
    rw [Statement.rename, Statement.declarations]
    exact ⟨.block isOpeningTwin block isClosingTwin, notDeclared⟩
  | .declare isWord declares declarationsPhrase, swapped => by
    have reserved : ∀ word ∈ ["var", "let", "const"], word ∈ reservedWords := by decide
    obtain ⟨word, rest, rfl, isWordTwin, further⟩ :=
      swapped.word isWord (VariableName.ne_of_mem (reserved _ declares))
    obtain ⟨declarations, notDeclared⟩ := declarationsPhrase.swapped further
    rw [Statement.rename, Statement.declarations]
    exact ⟨.declare isWordTwin declares declarations, notDeclared⟩
  | .returnNothing isWord closes, swapped => by
    obtain ⟨word, rest, rfl, isWordTwin, further⟩ :=
      swapped.word isWord (VariableName.ne_of_mem (by decide))
    rw [Statement.rename, renameOption, Statement.declarations]
    exact ⟨.returnNothing isWordTwin (closes.swapped further), List.not_mem_nil⟩
  | .return isWord valuePhrase closes, swapped => by
    obtain ⟨word, rest, rfl, isWordTwin, further⟩ :=
      swapped.word isWord (VariableName.ne_of_mem (by decide))
    obtain ⟨value, rest, _, rfl, swappedValue, further⟩ := further.split
    rw [Statement.rename, renameOption, Statement.declarations]
    exact ⟨.return isWordTwin (valuePhrase.swapped swappedValue.mono) (closes.swapped further),
      List.not_mem_nil⟩
  | .if isWord isOpening conditionPhrase isClosing positivePhrase, swapped => by
    obtain ⟨word, rest, rfl, isWordTwin, further⟩ :=
      swapped.word isWord (VariableName.ne_of_mem (by decide))
    obtain ⟨opening, rest, rfl, isOpeningTwin, further⟩ := further.symbol isOpening
    obtain ⟨condition, rest, _, rfl, swappedCondition, further⟩ := further.split
    obtain ⟨closing, rest, rfl, isClosingTwin, swappedPositive⟩ := further.symbol isClosing
    obtain ⟨positive, notDeclared⟩ := positivePhrase.swapped swappedPositive.mono
    rw [Statement.rename, renameAlternative, Statement.declarations, alternativeDeclarations,
      List.append_nil]
    exact ⟨.if isWordTwin isOpeningTwin (conditionPhrase.swapped swappedCondition.mono)
      isClosingTwin positive, notDeclared⟩
  | .ifElse isWord isOpening conditionPhrase isClosing positivePhrase isElse negativePhrase,
      swapped => by
    obtain ⟨word, rest, rfl, isWordTwin, further⟩ :=
      swapped.word isWord (VariableName.ne_of_mem (by decide))
    obtain ⟨opening, rest, rfl, isOpeningTwin, further⟩ := further.symbol isOpening
    obtain ⟨condition, rest, _, rfl, swappedCondition, further⟩ := further.split
    obtain ⟨closing, rest, rfl, isClosingTwin, further⟩ := further.symbol isClosing
    obtain ⟨first, rest, _, rfl, swappedPositive, further⟩ := further.split
    obtain ⟨otherwise, rest, rfl, isElseTwin, swappedNegative⟩ :=
      further.word isElse (VariableName.ne_of_mem (by decide))
    obtain ⟨positive, notDeclared⟩ := positivePhrase.swapped swappedPositive.mono
    obtain ⟨negative, notDeclaredLater⟩ := negativePhrase.swapped swappedNegative.mono
    rw [Statement.rename, renameAlternative, Statement.declarations, alternativeDeclarations,
      List.mem_append, not_or]
    exact ⟨.ifElse isWordTwin isOpeningTwin (conditionPhrase.swapped swappedCondition.mono)
      isClosingTwin positive isElseTwin negative, notDeclared, notDeclaredLater⟩
  | .expression mayStand valuePhrase closes, swapped => by
    obtain ⟨value, rest, _, rfl, swappedValue, further⟩ := swapped.split
    rw [Statement.rename, Statement.declarations]
    exact ⟨.expression (swappedValue.noBrace mayStand) (valuePhrase.swapped swappedValue)
      (closes.swapped further), List.not_mem_nil⟩

/-- A declared name stands where no operand is wanted. -/
theorem Declarations.swapped {ending : Ending} {declarations : List (String × Option Expr)}
    {phrase others : List Token} :
    Declarations NoBrace ending declarations phrase → Swapped name other false phrase others →
      Declarations NoBrace ending (renameDeclarations (replacing name other) declarations) others ∧
        name.spelling ∉ declarations.map (·.1)
  | .last isName initialPhrase closes, swapped => by
    obtain ⟨differ, token, rest, rfl, isNameTwin, further⟩ := swapped.identifier isName
    obtain ⟨initial, rest, _, rfl, swappedInitial, further⟩ := further.split
    rw [renameDeclarations, renameDeclarations]
    exact ⟨.last isNameTwin (initialPhrase.swapped swappedInitial.mono) (closes.swapped further),
      fun member => differ (List.mem_singleton.mp member).symm⟩
  | .cons isName initialPhrase isComma further, swapped => by
    obtain ⟨differ, token, rest, rfl, isNameTwin, swappedRest⟩ := swapped.identifier isName
    obtain ⟨initial, rest, _, rfl, swappedInitial, swappedRest⟩ := swappedRest.split
    obtain ⟨comma, rest, rfl, isCommaTwin, swappedRest⟩ := swappedRest.symbol isComma
    obtain ⟨declarations, notDeclared⟩ := further.swapped swappedRest
    rw [renameDeclarations, List.map_cons, List.mem_cons, not_or]
    exact ⟨.cons isNameTwin (initialPhrase.swapped swappedInitial.mono) isCommaTwin declarations,
      differ.symm, notDeclared⟩

theorem Initial.swapped {initial : Option Expr} {phrase others : List Token} :
    Initial NoBrace initial phrase → Swapped name other true phrase others →
      Initial NoBrace (renameOption (replacing name other) initial) others
  | .none, swapped => by
    cases swapped.nil_inv
    rw [renameOption]
    exact .none
  | .some isSign valuePhrase, swapped => by
    obtain ⟨sign, value, rfl, isSignTwin, swappedValue⟩ := swapped.symbol isSign
    rw [renameOption]
    exact .some isSignTwin (valuePhrase.swapped swappedValue.mono)

end

end Phrase

/-! ### Reading -/

namespace Expr

variable {name other : VariableName} {tokens others : List Token} {code : String} {expr : Expr}

/-- Tokens with another operand are read as the expression with another variable. -/
theorem parse_swapped (swapped : Swapped name other true tokens others)
    (parsed : parse code tokens = .ok expr) (source : String) :
    parse source others = .ok (expr.rename (replacing name other)) :=
  parse_of_phrase ((phrase_of_parse parsed).swapped swapped)

/-- With the operand put back the tokens are read as the expression that they were. -/
theorem rename_swapped (swapped : Swapped name other true tokens others)
    (parsed : parse code tokens = .ok expr) :
    (expr.rename (replacing name other)).rename (replacing other name) = expr := by
  have back := parse_swapped swapped.symm (parse_swapped swapped parsed code) code
  rw [parsed] at back
  exact (Except.ok.inj back).symm

end Expr

end Shorthand
