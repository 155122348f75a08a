/-
This file runs the steps of rules on tokens that begin as they have to, and says what it means
that a rule reads a phrase.

The bound that is needed grows with the length of the phrase. A rule that hands the same tokens on
to another needs one more than that one, and sixteen for every token leave room for all rules
that nest between two tokens. Operators that group from the left, and suffixes, are read by going
on with a shorter phrase, so for these a phrase is read when the rule has come to going on with
its expression.
-/

import Shorthand.Proofs.Grammar.Follow

namespace Shorthand

/-! ### Running rules -/

namespace Grammar

variable {α β : Type} {tokens rest : List Token}

theorem bind_accepted {first : Grammar β} {value : β}
    (reads : first tokens = .accepted value rest) (next : β → Grammar α) :
    (first >>= next) tokens = next value rest := by
  have unfolded : (first >>= next) tokens = andThen first next tokens := rfl
  rw [unfolded, andThen, reads]

theorem column_bind (next : Nat → Grammar α) :
    (column >>= next) tokens = next ((tokens.head?.map (·.column)).getD 0) tokens := rfl

theorem peek_bind (next : Option Lexeme → Grammar α) :
    (peek >>= next) tokens = next (tokens.head?.map (·.lexeme)) tokens := rfl

theorem next_bind (following : Option Token → Grammar α) :
    (next >>= following) tokens = following tokens.head? tokens.tail := rfl

theorem takes_found {symbol : Symbol} {mark : Token} (isMark : mark.IsSymbol symbol)
    (taken other : Grammar α) :
    (do if ← takes symbol then taken else other : Grammar α) (mark :: rest) = taken rest := by
  have reads : takes symbol (mark :: rest) = .accepted true rest :=
    if_pos (isSymbol_iff.mpr isMark)
  rw [bind_accepted reads]
  rfl

theorem takes_absent {symbol : Symbol} (absent : ∀ token ∈ tokens.head?, ¬token.IsSymbol symbol)
    (taken other : Grammar α) :
    (do if ← takes symbol then taken else other : Grammar α) tokens = other tokens := by
  have stays : takes symbol tokens = .accepted false tokens := by
    cases tokens with
    | nil => rfl
    | cons token others =>
      exact if_neg fun isSymbol => absent token rfl (isSymbol_iff.mp isSymbol)
  exact bind_accepted stays _

theorem takes_differs {symbol : Symbol} {token : Token} (differs : ¬token.IsSymbol symbol)
    (taken other : Grammar α) :
    (do if ← takes symbol then taken else other : Grammar α) (token :: rest) =
      other (token :: rest) := by
  refine takes_absent (fun head isHead => ?_) taken other
  rwa [← Option.some.inj isHead]

theorem takesWord_found {word : String} {token : Token} (isWord : token.IsWord word)
    (taken other : Grammar α) :
    (do if ← takesWord word then taken else other : Grammar α) (token :: rest) = taken rest := by
  have reads : takesWord word (token :: rest) = .accepted true rest :=
    if_pos (isName_iff.mpr isWord)
  rw [bind_accepted reads]
  rfl

theorem takesWord_absent {word : String} (absent : ∀ token ∈ tokens.head?, ¬token.IsWord word)
    (taken other : Grammar α) :
    (do if ← takesWord word then taken else other : Grammar α) tokens = other tokens := by
  have stays : takesWord word tokens = .accepted false tokens := by
    cases tokens with
    | nil => rfl
    | cons token others => exact if_neg fun isWord => absent token rfl (isName_iff.mp isWord)
  exact bind_accepted stays _

theorem takesWord_differs {word : String} {token : Token} (differs : ¬token.IsWord word)
    (taken other : Grammar α) :
    (do if ← takesWord word then taken else other : Grammar α) (token :: rest) =
      other (token :: rest) := by
  refine takesWord_absent (fun head isHead => ?_) taken other
  rwa [← Option.some.inj isHead]

theorem expect_found {symbol : Symbol} {mark : Token} (isMark : mark.IsSymbol symbol)
    (expected : Expectation) (next : Unit → Grammar α) :
    (expect symbol expected >>= next) (mark :: rest) = next () rest :=
  bind_accepted (takes_found isMark _ _) _

theorem name_found {token : Token} {spelling : String} (isName : token.IsName spelling)
    (expected : Expectation) :
    name expected (token :: rest) = .accepted spelling rest := by
  have free : ¬reservedWords.contains spelling = true := by simpa using isName.2
  rw [name, isName.1]
  exact if_neg free

theorem operatorFrom_found {sign : Token} {operator : BinaryOperator}
    (isSign : sign.IsSymbol (.operator operator)) {level : Nat} (high : level ≤ operator.level) :
    operatorFrom level (sign :: rest) = .accepted (some operator) rest := by
  rw [operatorFrom, operator?_eq_some.mpr isSign]
  exact if_pos high

theorem operatorFrom_absent {level : Nat} (below : Phrase.Below level tokens) :
    operatorFrom level tokens = .accepted none tokens := by
  cases tokens with
  | nil => rfl
  | cons token others =>
    rw [operatorFrom]
    cases isOperator : token.lexeme.operator? with
    | none => rfl
    | some operator =>
      have lower : operator.level < level :=
        below token rfl operator (operator?_eq_some.mp isOperator)
      exact if_neg (Nat.not_le_of_lt lower)

theorem assignmentSign_found {sign : Token} {operator : Option BinaryOperator}
    (isSign : sign.IsSymbol (.assign operator)) :
    assignmentSign (sign :: rest) = .accepted (some operator) rest := by
  rw [assignmentSign, isSign]

theorem assignmentSign_absent (loose : Phrase.grip tokens = 0) :
    assignmentSign tokens = .accepted none tokens := by
  cases tokens with
  | nil => rfl
  | cons token others =>
    rw [assignmentSign]
    split
    · rename_i operator isSign
      rw [Phrase.grip_cons isSign] at loose
      cases loose
    · rfl

end Grammar

/-! ### Phrases that are read -/

namespace Phrase

variable {α : Type}

/-- A rule reads a phrase at every large bound, if what follows the phrase lets it stop. -/
def IsRead (rule : Nat → Grammar α) (rank : Nat) (Follows : List Token → Prop) (value : α)
    (phrase : List Token) : Prop :=
  ∀ bound rest, 16 * phrase.length + rank ≤ bound → Follows rest →
    rule bound (phrase ++ rest) = .accepted value rest

/-- A rule reads a phrase and the closing symbol behind it at every large bound. -/
def IsReadUpTo (symbol : Symbol) (rule : Nat → Grammar α) (rank : Nat) (value : α)
    (phrase : List Token) : Prop :=
  ∀ bound closing rest, Token.IsSymbol closing symbol → 16 * phrase.length + rank ≤ bound →
    rule bound (phrase ++ closing :: rest) = .accepted value rest

/-- What may follow a conditional expression. An assignment sign may follow a target. -/
def FollowsConditional (expr : Expr) (rest : List Token) : Prop :=
  grip rest = 0 ∨ (grip rest = 1 ∧ expr.target? ≠ none)

/-- The rule for suffixed expressions has come to going on with an expression. -/
def IsSuffixed (expr : Expr) (phrase : List Token) : Prop :=
  ∃ used < phrase.length, ∀ bound rest, 16 * phrase.length + 1 ≤ bound →
    Grammar.suffixed bound (phrase ++ rest) = Grammar.suffixes (bound - 1 - used) expr rest

/-- The rule for binary expressions has come to going on with an expression. -/
def IsBinary (level : Nat) (expr : Expr) (phrase : List Token) : Prop :=
  ∃ used < phrase.length, ∀ bound least rest, 16 * phrase.length + 3 ≤ bound → least ≤ level →
    grip rest ≤ level + 3 → grip rest < 10 →
      Grammar.binary bound least (phrase ++ rest) =
        Grammar.operations (bound - 1 - used) least expr rest

/-- Tokens are read as an assignment. -/
abbrev IsAssignment : Expr → List Token → Prop :=
  IsRead Grammar.assignment 5 fun rest => grip rest = 0

/-- Tokens are read as a choice, or as one of its operands. -/
abbrev IsConditional (expr : Expr) : List Token → Prop :=
  IsRead Grammar.conditional 4 (FollowsConditional expr) expr

/-- Tokens are read as an operand with the operators in front of it. -/
abbrev IsOperand : Expr → List Token → Prop :=
  IsRead Grammar.unary 2 fun rest => grip rest < 10

/-- Tokens are read as an expression without operators. -/
abbrev IsPrimary : Expr → List Token → Prop := IsRead Grammar.primary 0 fun _ => True

/-- Tokens are read as the arguments of a call, up to its closing bracket. -/
abbrev AreOperands : List Expr → List Token → Prop :=
  IsReadUpTo (.closing .round) Grammar.operands 6

/-- Tokens are read as the items of a list, up to its closing bracket. -/
abbrev AreItems : List Expr → List Token → Prop :=
  IsReadUpTo (.closing .square) Grammar.items 6

/-- Tokens are read as the entries of an object, up to its closing bracket. -/
abbrev AreEntries : List (String × Expr) → List Token → Prop :=
  IsReadUpTo (.closing .curly) Grammar.entries 6

/-- Tokens are read as the statements of a block, up to its closing bracket. -/
abbrev IsBlock : List Statement → List Token → Prop :=
  IsReadUpTo (.closing .curly) Grammar.block 7

/-- Tokens are read as a statement. -/
abbrev IsStatement (ending : Ending) : Statement → List Token → Prop :=
  IsRead Grammar.statement 6 (Allows ending)

/-- Tokens are read as declarations. -/
abbrev AreDeclarations (ending : Ending) : List (String × Option Expr) → List Token → Prop :=
  IsRead Grammar.declarations 6 (Allows ending)

end Phrase

end Shorthand
