/-
This file says which tokens are read for each form of a shorthand.

A form hands the tokens on to the parser of expressions, with a hole for a missing operand at one of
their ends, or to the reader of arrows or of bare bodies. What follows from a reading follows for
every form, whether its tokens are accepted or refused.
-/

import Mathlib
import Shorthand.Proofs.Grammar.Ensures
import Shorthand.Form

namespace Shorthand

/-! ### Computations that may fail -/

/-- Two computations one after the other end well if both do. -/
theorem except_bind_eq_ok {ε α β : Type} {first : Except ε α} {next : α → Except ε β} {result : β} :
    (first >>= next) = .ok result ↔ ∃ value, first = .ok value ∧ next value = .ok result := by
  cases first with
  | error error => simp [bind, Except.bind]
  | ok value => simp [bind, Except.bind]

/-- A mapped computation ends well if the computation does. -/
theorem except_map_eq_ok {ε α β : Type} {first : Except ε α} {change : α → β} {result : β} :
    first.map change = .ok result ↔ ∃ value, first = .ok value ∧ change value = result := by
  cases first with
  | error error => simp [Except.map]
  | ok value => simp [Except.map]

/-- A mapped computation fails as the computation does. -/
theorem except_map_eq_error {ε α β : Type} {first : Except ε α} {change : α → β} {error : ε} :
    first.map change = .error error ↔ first = .error error := by
  cases first with
  | error found => simp [Except.map]
  | ok value => simp [Except.map]

/-- Two computations one after the other fail if one of them does. -/
theorem except_bind_eq_error {ε α β : Type} {first : Except ε α} {next : α → Except ε β}
    {error : ε} :
    (first >>= next) = .error error ↔
      first = .error error ∨ ∃ value, first = .ok value ∧ next value = .error error := by
  cases first with
  | error found => simp [bind, Except.bind]
  | ok value => simp [bind, Except.bind]

/-- A computation for each of some items fails if one of them does. -/
theorem exists_of_mapM_error {ε α β : Type} {step : α → Except ε β} {items : List α} {error : ε}
    (refused : items.mapM step = .error error) : ∃ item ∈ items, step item = .error error := by
  induction items with
  | nil => cases refused
  | cons first rest inductionHypothesis =>
    rw [List.mapM_cons] at refused
    rcases except_bind_eq_error.mp refused with isFirst | ⟨value, _, refused⟩
    · exact ⟨first, List.mem_cons_self, isFirst⟩
    · rcases except_bind_eq_error.mp refused with isFurther | ⟨_, _, ⟨⟩⟩
      obtain ⟨item, member, isRefused⟩ := inductionHypothesis isFurther
      exact ⟨item, List.mem_cons_of_mem _ member, isRefused⟩

/-- A computation whose result is built from that of another one. -/
theorem except_return_bind {ε α β : Type} (first : Except ε α) (build : α → β) :
    (do return build (← first) : Except ε β) = first.map build := by
  cases first <;> rfl

/-! ### Forms -/

/-- What the tokens of a shorthand are read as, by its form. -/
inductive Form.ReadAs (code : String) (statementsAllowed : Bool) (tokens : List Token) :
    Except CompileError Form → Prop where
  | combinator (operator : BinaryOperator) :
      ReadAs code statementsAllowed tokens (.ok (.combinator operator))
  | leftMissing {operator : BinaryOperator} {first : Token} {rest : List Token}
      (same : tokens = first :: rest) (isOperator : first.IsSymbol (.operator operator)) :
      ReadAs code statementsAllowed tokens
        ((Expr.parse code (Token.hole 0 first.column :: tokens)).map
          (.operatorSection operator .left))
  | arrow {mark : Token} (member : mark ∈ topLevel tokens) (isArrow : mark.IsSymbol .arrow) :
      ReadAs code statementsAllowed tokens ((Definition.parseArrow code tokens).map .arrow)
  | memberAccess {first : Token} {rest : List Token} (same : tokens = first :: rest)
      (isDot : first.IsSymbol .dot) :
      ReadAs code statementsAllowed tokens
        ((Expr.parse code (Token.hole 0 first.column :: tokens)).map .memberAccess)
  | rightMissing {operator : BinaryOperator} {front : List Token} {last : Token}
      (same : tokens = front ++ [last]) (isOperator : last.IsSymbol (.operator operator)) :
      ReadAs code statementsAllowed tokens
        ((Expr.parse code (tokens ++ [Token.hole 0 code.length])).map
          (.operatorSection operator .right))
  | bare :
      ReadAs code statementsAllowed tokens
        ((Definition.parseBare code statementsAllowed tokens).map .bare)

theorem Form.ofTokens_readAs (code : String) (statementsAllowed : Bool) (tokens : List Token) :
    ReadAs code statementsAllowed tokens (Form.ofTokens code statementsAllowed tokens) := by
  unfold Form.ofTokens
  simp only
  split
  · exact .combinator _
  split
  · rename_i operator isLeading
    rw [except_return_bind]
    obtain ⟨first, isFirst, isOperator⟩ :=
      Option.bind_eq_some_iff.mp (Option.filter_eq_some_iff.mp isLeading).1
    obtain ⟨rest, rfl⟩ := List.head?_eq_some_iff.mp isFirst
    exact .leftMissing rfl (Grammar.operator?_eq_some.mp isOperator)
  split
  · rename_i hasArrow
    rw [except_return_bind]
    obtain ⟨mark, member, isArrow⟩ := List.any_eq_true.mp hasArrow
    exact .arrow member (Grammar.isSymbol_iff.mp isArrow)
  split
  · rename_i hasDot
    rw [except_return_bind]
    obtain ⟨first, isFirst, isDot⟩ := Option.map_eq_some_iff.mp hasDot
    obtain ⟨rest, rfl⟩ := List.head?_eq_some_iff.mp isFirst
    exact .memberAccess rfl (Grammar.isSymbol_iff.mp isDot)
  split
  · rename_i operator isTrailing
    rw [except_return_bind]
    obtain ⟨last, isLast, isOperator⟩ := Option.bind_eq_some_iff.mp isTrailing
    obtain ⟨front, same⟩ := List.getLast?_eq_some_iff.mp isLast
    exact .rightMissing same (Grammar.operator?_eq_some.mp isOperator)
  · rw [except_return_bind]
    exact .bare

/-! ### Sources -/

theorem Token.scanSome_eq_ok {code : String} {tokens : List Token} :
    scanSome code = .ok tokens ↔ scan code = .ok tokens ∧ tokens ≠ [] := by
  rw [scanSome]
  cases scan code with
  | error error =>
    constructor
    · rintro ⟨⟩
    · rintro ⟨⟨⟩, _⟩
  | ok found =>
    cases found with
    | nil =>
      constructor
      · rintro ⟨⟩
      · exact fun both => absurd (Except.ok.inj both.1).symm both.2
    | cons head rest =>
      exact ⟨fun same => ⟨same, Except.ok.inj same ▸ List.cons_ne_nil _ _⟩, And.left⟩

/-- A program has the body that its tokens are, and no parameters. -/
theorem Definition.parseProgram_eq {code : String} {tokens : List Token}
    (scanned : Token.scanSome code = .ok tokens) : parseProgram code =
      (Body.parse code (isStatementBody tokens) tokens).map fun body => ⟨[], body, code⟩ := by
  rw [parseProgram, scanned]
  show (Body.parse code (isStatementBody tokens) tokens >>= fun body =>
    Except.ok (Definition.mk [] body code)) = _
  cases Body.parse code (isStatementBody tokens) tokens with
  | error error => rfl
  | ok body => rfl

/-- A bare shorthand has the body that its tokens are read as. -/
theorem Definition.parseBare_eq (code : String) (statementsAllowed : Bool) (tokens : List Token) :
    parseBare code statementsAllowed tokens =
      (Body.parse code (statementsAllowed && isStatementBody tokens) tokens).map fun body =>
        ⟨if (Definition.mk [] body code).freeNames.contains "_" then ["_"]
          else (Definition.mk [] body code).freeNames, body, code⟩ := by
  rw [parseBare]
  cases Body.parse code (statementsAllowed && isStatementBody tokens) tokens <;> rfl

/-! ### Arrows -/

/-- Tokens are parts with arrows behind them, each part with the column of its arrow, and the tokens
after the last arrow. -/
inductive SplitAt : List Token → List (List Token × Nat) → List Token → Prop where
  | last (tokens : List Token) : SplitAt tokens [] tokens
  | arrow {part rest last : List Token} {mark : Token} {parts : List (List Token × Nat)}
      (isArrow : mark.IsSymbol .arrow) (further : SplitAt rest parts last) :
      SplitAt (part ++ mark :: rest) ((part, mark.column) :: parts) last

theorem splitAtArrows_splits (depth : Int) (part tokens : List Token) :
    SplitAt (part.reverse ++ tokens) (splitAtArrows depth part tokens).1
      (splitAtArrows depth part tokens).2 := by
  induction tokens generalizing depth part with
  | nil =>
    rw [List.append_nil]
    exact .last _
  | cons token rest inductionHypothesis =>
    rw [splitAtArrows]
    split
    · rename_i found
      exact .arrow (Grammar.isSymbol_iff.mp found.2) (inductionHypothesis depth [])
    · have further := inductionHypothesis (depth + token.lexeme.depthChange) (token :: part)
      rwa [List.reverse_cons, List.append_assoc, List.singleton_append] at further

theorem SplitAt.last_subset {tokens last : List Token} {parts : List (List Token × Nat)}
    (splits : SplitAt tokens parts last) : last ⊆ tokens := by
  induction splits with
  | last => exact List.Subset.refl _
  | arrow _ _ inductionHypothesis =>
    exact fun token member =>
      List.mem_append_right _ (List.mem_cons_of_mem _ (inductionHypothesis member))

/-- The parts in front of arrows have tokens of the whole, and so do the columns of the arrows. -/
theorem SplitAt.of_mem {tokens last part : List Token} {parts : List (List Token × Nat)}
    {column : Nat} (splits : SplitAt tokens parts last) (member : (part, column) ∈ parts) :
    part ⊆ tokens ∧ ∃ mark ∈ tokens, mark.column = column := by
  induction splits with
  | last => exact absurd member List.not_mem_nil
  | @arrow first rest _ mark _ _ _ inductionHypothesis =>
    rcases List.mem_cons.mp member with same | member
    · cases same
      exact ⟨List.subset_append_left _ _, mark, by simp, rfl⟩
    · obtain ⟨subset, other, isOther, isColumn⟩ := inductionHypothesis member
      have further : rest ⊆ first ++ mark :: rest := fun token isToken =>
        List.mem_append_right _ (List.mem_cons_of_mem _ isToken)
      exact ⟨List.Subset.trans subset further, other, further isOther, isColumn⟩

end Shorthand
