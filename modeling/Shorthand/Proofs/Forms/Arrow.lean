/-
This file reads tokens with arrows.

An arrow outside of all brackets makes a function of several parts, and in front of it nothing but
parameters may stand. No expression has an arrow in it, and one that begins with a variable is
not taken for statements unless it has a semicolon or the word for returning outside of all
brackets.
-/

import Mathlib
import Shorthand.Proofs.Forms.Brackets
import Shorthand.Proofs.Free.Layout

namespace Shorthand

open Phrase (NoBrace)

/-! ### Phrases without arrows -/

/-- Tokens without an arrow, in brackets or outside of them. -/
def Arrowless (tokens : List Token) : Prop := ∀ token ∈ tokens, ¬token.IsSymbol .arrow

namespace Arrowless

variable {token : Token} {tokens first second : List Token}

theorem nil : Arrowless [] := fun _ member => absurd member List.not_mem_nil

theorem cons (notArrow : ¬token.IsSymbol .arrow) (further : Arrowless tokens) :
    Arrowless (token :: tokens) := List.forall_mem_cons.mpr ⟨notArrow, further⟩

theorem append (arrowless : Arrowless first) (further : Arrowless second) :
    Arrowless (first ++ second) := List.forall_mem_append.mpr ⟨arrowless, further⟩

theorem symbol {symbol : Symbol} (isSymbol : token.IsSymbol symbol) (differ : symbol ≠ .arrow)
    (further : Arrowless tokens) : Arrowless (token :: tokens) :=
  .cons (isSymbol.ne differ) further

theorem word {word : String} (isWord : token.IsWord word) (further : Arrowless tokens) :
    Arrowless (token :: tokens) :=
  .cons (Token.not_isSymbol_of_isWord isWord _) further

end Arrowless

theorem Matched.arrowless {tokens : List Token} (matched : Matched Token.NoArrow tokens) :
    Arrowless tokens := by
  generalize isOutside : Token.NoArrow = Outside at matched
  induction matched with
  | nil => exact .nil
  | cons _ noArrow _ inductionHypothesis =>
    subst isOutside
    exact .cons noArrow (inductionHypothesis rfl)
  | bracketed isOpening _ isClosing _ inside inductionHypothesis =>
    exact .symbol isOpening Symbol.noConfusion
      ((inside rfl).append (.symbol isClosing Symbol.noConfusion (inductionHypothesis isOutside)))

theorem Phrase.Assignment.arrowless {MayStand : List Token → Prop} {expr : Expr}
    {phrase : List Token} (assignment : Assignment MayStand expr phrase) : Arrowless phrase :=
  assignment.matched.noArrow.arrowless

/-! ### Tokens outside of brackets -/

section

variable {token : Token} {tokens rest first second : List Token} {depth : Int}

theorem mem_topLevelFrom_head (flat : token.lexeme.depthChange = 0) :
    token ∈ topLevelFrom 0 (token :: tokens) := by
  rw [topLevelFrom, if_pos ⟨flat, rfl⟩]
  exact List.mem_cons_self

theorem mem_topLevelFrom_tail (token : Token) {found : Token}
    (member : found ∈ topLevelFrom (depth + token.lexeme.depthChange) tokens) :
    found ∈ topLevelFrom depth (token :: tokens) := by
  rw [topLevelFrom]
  split
  · rename_i flat
    rw [flat.1, flat.2] at member
    rw [flat.2]
    exact List.mem_cons_of_mem _ member
  · exact member

theorem topLevelFrom_flat (flat : token.lexeme.depthChange = 0) (tokens : List Token) :
    topLevelFrom 0 (token :: tokens) = token :: topLevelFrom 0 tokens := by
  rw [topLevelFrom, if_pos ⟨flat, rfl⟩]

/-- The brackets in front decide which of the last tokens are outside of them. -/
theorem topLevelFrom_append (depth : Int) (first second : List Token) :
    ∃ after, topLevelFrom depth (first ++ second) =
      topLevelFrom depth first ++ topLevelFrom after second := by
  induction first generalizing depth with
  | nil => exact ⟨depth, rfl⟩
  | cons token rest inductionHypothesis =>
    rw [List.cons_append, topLevelFrom, topLevelFrom]
    split
    · obtain ⟨after, same⟩ := inductionHypothesis depth
      exact ⟨after, by rw [same, List.cons_append]⟩
    · exact inductionHypothesis _

theorem mem_of_mem_topLevelFrom (member : token ∈ topLevelFrom depth tokens) : token ∈ tokens := by
  induction tokens generalizing depth with
  | nil => exact member
  | cons head rest inductionHypothesis =>
    rw [topLevelFrom] at member
    split at member
    · rcases List.mem_cons.mp member with same | later
      · exact same ▸ List.mem_cons_self
      · exact List.mem_cons_of_mem _ (inductionHypothesis later)
    · exact List.mem_cons_of_mem _ (inductionHypothesis member)

/-- Which tokens are outside of brackets does not depend on their columns. -/
theorem lexemes_topLevelFrom (same : first.map (·.lexeme) = second.map (·.lexeme)) :
    (topLevelFrom depth first).map (·.lexeme) = (topLevelFrom depth second).map (·.lexeme) := by
  induction first generalizing second depth with
  | nil =>
    rw [List.map_eq_nil_iff.mp same.symm]
  | cons token rest inductionHypothesis =>
    obtain ⟨twin, others, rfl, sameHead, sameRest⟩ := List.map_eq_cons_iff.mp same.symm
    rw [topLevelFrom, topLevelFrom, sameHead]
    split
    · rw [List.map_cons, List.map_cons, sameHead, inductionHypothesis sameRest.symm]
    · exact inductionHypothesis sameRest.symm

end

/-! ### Splitting at arrows -/

theorem depthChange_arrow {token : Token} (isArrow : token.IsSymbol .arrow) :
    token.lexeme.depthChange = 0 := by
  rw [isArrow]
  rfl

/-- Tokens without an arrow outside of all brackets are one part. -/
theorem splitAtArrows_arrowless {depth : Int} {tokens : List Token} (part : List Token)
    (arrowless : Arrowless (topLevelFrom depth tokens)) :
    splitAtArrows depth part tokens = ([], part.reverse ++ tokens) := by
  induction tokens generalizing depth part with
  | nil => rw [splitAtArrows, List.append_nil]
  | cons token rest inductionHypothesis =>
    rw [splitAtArrows, if_neg, inductionHypothesis, List.reverse_cons, List.append_assoc]
    · rfl
    · exact fun found member => arrowless found (mem_topLevelFrom_tail token member)
    · rintro ⟨rfl, isSymbol⟩
      have isArrow := Grammar.isSymbol_iff.mp isSymbol
      exact arrowless token (mem_topLevelFrom_head (depthChange_arrow isArrow)) isArrow

/-- An arrow outside of all brackets ends the part that has begun. -/
theorem splitAtArrows_arrow {depth : Int} {tokens : List Token} (part : List Token)
    (hasArrow : ¬Arrowless (topLevelFrom depth tokens)) :
    ∃ further column parts last, splitAtArrows depth part tokens =
      ((part.reverse ++ further, column) :: parts, last) := by
  induction tokens generalizing depth part with
  | nil => exact absurd Arrowless.nil hasArrow
  | cons token rest inductionHypothesis =>
    rw [splitAtArrows]
    split
    · exact ⟨[], _, _, _, by rw [List.append_nil]⟩
    · rename_i noArrow
      have later : ¬Arrowless (topLevelFrom (depth + token.lexeme.depthChange) rest) := by
        intro arrowless
        refine hasArrow fun found member isArrow => ?_
        rw [topLevelFrom] at member
        split at member
        · rename_i flat
          rcases List.mem_cons.mp member with rfl | isLater
          · exact noArrow ⟨flat.2, Grammar.isSymbol_iff.mpr isArrow⟩
          · refine arrowless found ?_ isArrow
            rw [flat.1, Int.add_zero]
            exact isLater
        · exact arrowless found member isArrow
      obtain ⟨further, column, parts, last, same⟩ := inductionHypothesis (token :: part) later
      refine ⟨token :: further, column, parts, last, ?_⟩
      rw [same, List.reverse_cons, List.append_assoc, List.singleton_append]

/-- Tokens that are neither brackets nor arrows. -/
def Flat (tokens : List Token) : Prop :=
  ∀ token ∈ tokens, token.lexeme.depthChange = 0 ∧ ¬token.IsSymbol .arrow

theorem splitAtArrows_step {token : Token} (noBracket : token.lexeme.depthChange = 0)
    (notArrow : ¬token.IsSymbol .arrow) (part rest : List Token) :
    splitAtArrows 0 part (token :: rest) = splitAtArrows 0 (token :: part) rest := by
  rw [splitAtArrows, if_neg fun both => notArrow (Grammar.isSymbol_iff.mp both.2), noBracket]
  rfl

section

variable {heads body : List Token} {mark : Token}

/-- The tokens in front of an arrow are a part if there is no bracket among them. -/
theorem splitAtArrows_flat (flat : Flat heads) (isArrow : mark.IsSymbol .arrow)
    (part : List Token) :
    splitAtArrows 0 part (heads ++ mark :: body) =
      ((part.reverse ++ heads, mark.column) :: (splitAtArrows 0 [] body).1,
        (splitAtArrows 0 [] body).2) := by
  induction heads generalizing part with
  | nil =>
    rw [List.nil_append, splitAtArrows, if_pos ⟨rfl, Grammar.isSymbol_iff.mpr isArrow⟩,
      List.append_nil]
  | cons token rest inductionHypothesis =>
    obtain ⟨⟨noBracket, notArrow⟩, flatRest⟩ := List.forall_mem_cons.mp flat
    rw [List.cons_append, splitAtArrows_step noBracket notArrow, inductionHypothesis flatRest,
      List.reverse_cons, List.append_assoc, List.singleton_append]

theorem topLevel_flat (flat : Flat heads) (isArrow : mark.IsSymbol .arrow) :
    ¬Arrowless (topLevel (heads ++ mark :: body)) := by
  have member : mark ∈ topLevel (heads ++ mark :: body) := by
    induction heads with
    | nil => exact mem_topLevelFrom_head (depthChange_arrow isArrow)
    | cons token rest inductionHypothesis =>
      obtain ⟨⟨noBracket, _⟩, flatRest⟩ := List.forall_mem_cons.mp flat
      refine mem_topLevelFrom_tail token ?_
      rw [noBracket]
      exact inductionHypothesis flatRest
  exact fun arrowless => arrowless mark member isArrow

end

/-! ### Parameters -/

section

variable {code : String} {column : Nat} {first second third : Token} {name other : String}
  {tokens : List Token}

theorem arrowParameters_cons (notRound : ¬first.IsSymbol (.opening .round)) :
    arrowParameters code column (first :: tokens) =
      parameterNames code column true false (first :: tokens) := by
  rw [arrowParameters]
  intro _ _ _ same
  exact notRound (congrArg Token.lexeme (List.cons.inj same).1)

theorem parameterNames_name (isName : first.IsName name) (afterComma : Bool) :
    parameterNames code column true afterComma (first :: tokens) =
      (parameterNames code column false false tokens).map (name :: ·) := by
  rw [parameterNames, if_neg fun reserved => isName.2 (List.contains_iff_mem.mp reserved)]
  exact isName.1

theorem arrowParameters_name (isName : first.IsName name) :
    arrowParameters code column (first :: tokens) =
      (parameterNames code column false false tokens).map (name :: ·) := by
  rw [arrowParameters_cons (Token.not_isSymbol_of_isWord isName.1 _), parameterNames_name isName]

theorem arrowParameters_single (isName : first.IsName name) :
    arrowParameters code column [first] = .ok [name] := by
  rw [arrowParameters_name isName]
  rfl

theorem arrowParameters_pair (isName : first.IsName name) (isComma : second.IsSymbol .comma)
    (isOther : third.IsName other) :
    arrowParameters code column [first, second, third] = .ok [name, other] := by
  rw [arrowParameters_name isName, parameterNames, parameterNames_name isOther]
  · rfl
  · exact isComma

/-- Behind a parameter only a comma may follow. -/
theorem arrowParameters_refused (isName : first.IsName name)
    (notComma : ¬second.IsSymbol .comma) :
    ∃ error, arrowParameters code column (first :: second :: tokens) = .error error := by
  rw [arrowParameters_name isName]
  unfold parameterNames
  split
  · contradiction
  · rename_i isComma _
    exact absurd isComma notComma
  · exact ⟨_, rfl⟩

theorem arrowParameters_symbol {symbol : Symbol} (isSymbol : first.IsSymbol symbol)
    (notRound : symbol ≠ .opening .round) :
    ∃ error, arrowParameters code column (first :: tokens) = .error error := by
  rw [arrowParameters_cons (isSymbol.ne notRound)]
  unfold parameterNames
  split
  · rename_i isName _
    exact absurd isSymbol (Token.not_isSymbol_of_isWord isName _)
  · contradiction
  · exact ⟨_, rfl⟩

end

/-! ### Bodies -/

/-- Tokens that neither begin like a statement nor have a mark of one outside of all brackets. -/
structure Unmarked (tokens : List Token) : Prop where
  head : ∀ token ∈ tokens.head?, ∀ word ∈ statementWords, ¬token.IsWord word
  semicolons : ∀ token ∈ topLevel tokens, ¬token.IsSymbol .semicolon
  returns : ∀ token ∈ topLevel tokens, ¬token.IsWord "return"

theorem Unmarked.looksLikeStatements {tokens : List Token} (unmarked : Unmarked tokens) :
    looksLikeStatements tokens = false := by
  unfold Shorthand.looksLikeStatements
  rw [Bool.or_eq_false_iff]
  constructor
  · split
    · rename_i word column rest
      rw [← Bool.not_eq_true, List.contains_iff_mem]
      exact fun isStatement => unmarked.head ⟨.name word, column⟩ rfl word isStatement rfl
    · rfl
  · rw [List.any_eq_false]
    intro token member
    rw [Bool.or_eq_true, Grammar.isSymbol_iff, Grammar.isName_iff, not_or]
    exact ⟨unmarked.semicolons token member, unmarked.returns token member⟩

/-- Such tokens are no statements unless they are in braces. -/
theorem Unmarked.isStatementBody {tokens : List Token} (unmarked : Unmarked tokens)
    (unbraced : NoBrace tokens ∨ ∀ token ∈ tokens.getLast?, ¬token.IsSymbol (.closing .curly)) :
    isStatementBody tokens = false := by
  unfold Shorthand.isStatementBody
  rw [unmarked.looksLikeStatements, Bool.false_or]
  split
  · rename_i column head rest
    rw [if_neg]
    rintro ⟨closed, _⟩
    rcases unbraced with noBrace | notClosed
    · exact noBrace _ rfl rfl
    · rw [List.getLast?_cons_cons] at notClosed
      obtain ⟨last, isLast, isClosing⟩ := Option.map_eq_some_iff.mp closed
      exact notClosed last isLast (Grammar.isSymbol_iff.mp isClosing)
  · rfl

/-! ### Functions -/

theorem mapM_refused {ε α β : Type} (read : α → Except ε β) {items : List α} {item : α}
    (member : item ∈ items) (refused : ∃ error, read item = .error error) :
    ∃ error, items.mapM read = .error error := by
  induction items with
  | nil => exact absurd member List.not_mem_nil
  | cons head rest inductionHypothesis =>
    rw [List.mapM_cons]
    cases isRead : read head with
    | error error => exact ⟨error, rfl⟩
    | ok value =>
      rcases List.mem_cons.mp member with rfl | later
      · obtain ⟨error, same⟩ := refused
        rw [isRead] at same
        cases same
      · obtain ⟨error, same⟩ := inductionHypothesis later
        exact ⟨error, by rw [same]; rfl⟩

namespace Definition

variable {code : String} {tokens last : List Token} {parts : List (List Token × Nat)}

/-- Tokens are refused if one of their parts is not made of parameters. -/
theorem parseArrow_refused {part : List Token × Nat}
    (split : splitAtArrows 0 [] tokens = (parts, last)) (member : part ∈ parts)
    (refused : ∃ error, arrowParameters code part.2 part.1 = .error error) :
    ∃ error, parseArrow code tokens = .error error := by
  obtain ⟨error, same⟩ := mapM_refused
    (fun (part : List Token × Nat) => arrowParameters code part.2 part.1) member refused
  refine ⟨error, ?_⟩
  rw [parseArrow, split]
  exact congrArg (· >>= _) same

/-- A function with one arrow whose body is no statements. -/
theorem parseArrow_single {part : List Token} {column : Nat} {parameters : List String}
    (split : splitAtArrows 0 [] tokens = ([(part, column)], last))
    (areParameters : arrowParameters code column part = .ok parameters) (some : last ≠ [])
    (noStatements : isStatementBody last = false) :
    parseArrow code tokens =
      (Expr.parse code last).map fun body => ⟨parameters, .expression body, code⟩ := by
  have notEmpty : last.isEmpty = false := List.isEmpty_eq_false_iff.mpr some
  rw [parseArrow, split]
  simp only [List.mapM_cons, List.mapM_nil, areParameters]
  show (if last.isEmpty = true then _ else
    Body.parse code (Shorthand.isStatementBody last) last >>= fun body =>
      Except.ok (curried code body [parameters])) = _
  rw [notEmpty, if_neg Bool.false_ne_true, noStatements, Body.parse, if_neg Bool.false_ne_true]
  cases Expr.parse code last with
  | error error => rfl
  | ok body => rfl

end Definition

end Shorthand
