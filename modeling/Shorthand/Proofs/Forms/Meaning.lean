/-
This file holds the result about the forms of shorthands.

A shorthand without one of its operands means the function that has a parameter in its place. Both
are read from their tokens alone, so nothing is said about columns or about the sources that the
tokens come from, and both are refused or read together.
-/

import Mathlib
import Shorthand.Proofs.Forms.Arrow
import Shorthand.Proofs.Forms.Operand

namespace Shorthand

open Phrase (NoBrace)

/-! ### Forms of tokens -/

namespace Form

variable {code : String} {allowed : Bool} {first last : Token} {tokens : List Token}
  {operator : BinaryOperator}

theorem ofTokens_combinator (isOperator : first.IsSymbol (.operator operator)) :
    ofTokens code allowed [first] = .ok (.combinator operator) := by
  have leads := Grammar.operator?_eq_some.mpr isOperator
  unfold ofTokens
  simp only [List.head?_cons, Option.bind_some, leads]
  rfl

theorem ofTokens_left (isOperator : first.IsSymbol (.operator operator))
    (differ : operator ≠ .subtract) (some : tokens ≠ []) :
    ofTokens code allowed (first :: tokens) =
      (Expr.parse code (Token.hole 0 first.column :: first :: tokens)).map
        (.operatorSection operator .left) := by
  have leads := Grammar.operator?_eq_some.mpr isOperator
  obtain ⟨second, rest, rfl⟩ := List.exists_cons_of_ne_nil some
  have isLeading : Option.filter (· != .subtract) (Option.some operator) = Option.some operator :=
    Option.filter_eq_some_iff.mpr ⟨rfl, bne_iff_ne.mpr differ⟩
  unfold ofTokens
  simp only [List.head?_cons, Option.bind_some, leads, isLeading]
  exact bind_pure_comp _ _

/-- Whether some lexemes have an arrow outside of all brackets. -/
theorem any_isArrow :
    (topLevel tokens).any (·.lexeme.isSymbol .arrow) = true ↔ ¬Arrowless (topLevel tokens) := by
  simp [Arrowless, Grammar.isSymbol_iff]

theorem ofTokens_arrow (noOperator : first.lexeme.operator? = none)
    (hasArrow : ¬Arrowless (topLevel (first :: tokens))) :
    ofTokens code allowed (first :: tokens) =
      (Definition.parseArrow code (first :: tokens)).map .arrow := by
  unfold ofTokens
  simp only [List.head?_cons, Option.bind_some, noOperator, Option.filter_none,
    any_isArrow.mpr hasArrow]
  exact bind_pure_comp _ _

theorem ofTokens_member (isDot : first.IsSymbol .dot)
    (arrowless : Arrowless (topLevel (first :: tokens))) :
    ofTokens code allowed (first :: tokens) =
      (Expr.parse code (Token.hole 0 first.column :: first :: tokens)).map .memberAccess := by
  have noOperator : first.lexeme.operator? = none := by
    rw [isDot]
    rfl
  have noArrow := mt any_isArrow.mp (not_not_intro arrowless)
  unfold ofTokens
  simp only [List.head?_cons, Option.bind_some, noOperator, Option.filter_none, noArrow,
    Option.map_some, Grammar.isSymbol_iff.mpr isDot]
  exact bind_pure_comp _ _

theorem ofTokens_right (some : tokens ≠ [])
    (noDot : ∀ token ∈ tokens.head?, ¬token.IsSymbol .dot)
    (noOperator : ∀ token ∈ tokens.head?, ∀ operator ≠ .subtract,
      ¬token.IsSymbol (.operator operator))
    (arrowless : Arrowless (topLevel (tokens ++ [last])))
    (isOperator : last.IsSymbol (.operator operator)) :
    ofTokens code allowed (tokens ++ [last]) =
      (Expr.parse code (tokens ++ [last] ++ [Token.hole 0 code.length])).map
        (.operatorSection operator .right) := by
  have noArrow := mt any_isArrow.mp (not_not_intro arrowless)
  have trails : (tokens ++ [last]).getLast?.bind (·.lexeme.operator?) = Option.some operator := by
    rw [List.getLast?_concat]
    exact Grammar.operator?_eq_some.mpr isOperator
  obtain ⟨first, rest, rfl⟩ := List.exists_cons_of_ne_nil some
  have noLeading : first.lexeme.operator?.filter (· != .subtract) = none := by
    rw [Option.filter_eq_none_iff]
    intro leading leads differ
    exact noOperator first rfl leading (bne_iff_ne.mp differ) (Grammar.operator?_eq_some.mp leads)
  have noDot : first.lexeme.isSymbol .dot ≠ true :=
    fun isDot => noDot first rfl (Grammar.isSymbol_iff.mp isDot)
  obtain ⟨second, others, more⟩ := List.exists_cons_of_ne_nil (List.concat_ne_nil last rest)
  rw [List.cons_append, more] at noArrow trails ⊢
  unfold ofTokens
  simp only [List.head?_cons, Option.bind_some, noLeading, noArrow, trails, noDot,
    Option.map_some]
  exact bind_pure_comp _ _

/-- A function with one arrow whose body is an expression. -/
theorem definition_arrow {label : String} {heads body : List Token} {head mark : Token}
    {parameters : List String} (noOperator : head.lexeme.operator? = none)
    (flat : Flat (head :: heads)) (isArrow : mark.IsSymbol .arrow)
    (areParameters : arrowParameters code mark.column (head :: heads) = .ok parameters)
    (arrowless : Arrowless (topLevel body)) (some : body ≠ [])
    (noStatements : isStatementBody body = false) :
    (ofTokens code allowed (head :: (heads ++ mark :: body))).map (·.definition label) =
      (Expr.parse code body).map fun expr => ⟨parameters, .expression expr, label⟩ := by
  have hasArrow : ¬Arrowless (topLevel (head :: (heads ++ mark :: body))) :=
    topLevel_flat flat isArrow
  have parts : splitAtArrows 0 [] (head :: (heads ++ mark :: body)) =
      ([(head :: heads, mark.column)], body) := by
    rw [← List.cons_append, splitAtArrows_flat flat isArrow, splitAtArrows_arrowless [] arrowless]
    rfl
  rw [ofTokens_arrow noOperator hasArrow,
    Definition.parseArrow_single parts areParameters some noStatements]
  cases Expr.parse code body with
  | error error => rfl
  | ok expr => rfl

/-- A function with an arrow is refused if what stands before the next arrow is not made of
parameters. -/
theorem refused_arrow {heads body : List Token} {head mark : Token}
    (noOperator : head.lexeme.operator? = none) (flat : Flat (head :: heads))
    (isArrow : mark.IsSymbol .arrow) {part : List Token × Nat}
    (member : part ∈ (splitAtArrows 0 [] body).1)
    (refused : ∃ error, arrowParameters code part.2 part.1 = .error error) :
    ∃ error, ofTokens code allowed (head :: (heads ++ mark :: body)) = .error error := by
  have hasArrow : ¬Arrowless (topLevel (head :: (heads ++ mark :: body))) :=
    topLevel_flat flat isArrow
  obtain ⟨error, same⟩ := Definition.parseArrow_refused (splitAtArrows_flat flat isArrow [])
    (List.mem_cons_of_mem _ member) refused
  refine ⟨error, ?_⟩
  rw [ofTokens_arrow noOperator hasArrow]
  exact congrArg (Except.map Form.arrow) same

end Form

/-! ### The same function -/

/-- Two functions that are the same up to names, or two refusals. -/
inductive Agree : Except CompileError Definition → Except CompileError Definition → Prop where
  | refused {error other : CompileError} : Agree (.error error) (.error other)
  | read {first second : Definition} (same : first.SameUpToNames second) :
    Agree (.ok first) (.ok second)

theorem correspondingName_single (name other : VariableName) :
    correspondingName [name.spelling] [other.spelling] = replacing name other := by
  funext spelling
  rw [replacing, correspondingName]
  by_cases same : spelling = name.spelling
  · simp [same]
  · simp [same]

/-- Functions of one operand agree if the operand has another name in the one than in the other. -/
theorem Agree.ofSwapped {name other : VariableName} {tokens others : List Token}
    (swapped : Swapped name other true tokens others) (code source label otherLabel : String) :
    Agree ((Expr.parse code tokens).map fun expr => ⟨[name.spelling], .expression expr, label⟩)
      ((Expr.parse source others).map
        fun expr => ⟨[other.spelling], .expression expr, otherLabel⟩) := by
  cases parsed : Expr.parse code tokens with
  | ok expr =>
    rw [Expr.parse_swapped swapped parsed source]
    refine .read ⟨rfl, fun _ member => absurd member List.not_mem_nil,
      fun _ member => absurd member List.not_mem_nil, ?_, ?_⟩
    · show Body.rename (correspondingName [name.spelling] [other.spelling]) (.expression expr) = _
      rw [correspondingName_single, Body.rename]
    · show Body.rename (correspondingName [other.spelling] [name.spelling]) (.expression _) = _
      rw [correspondingName_single, Body.rename, Expr.rename_swapped swapped parsed]
  | error error =>
    cases parsedToo : Expr.parse source others with
    | ok expr =>
      rw [Expr.parse_swapped swapped.symm parsedToo code] at parsed
      cases parsed
    | error other => exact .refused

theorem Agree.ofRefused {first second : Except CompileError Form}
    (refused : ∃ error, first = .error error) (refusedToo : ∃ error, second = .error error)
    (label other : String) :
    Agree (first.map (·.definition label)) (second.map (·.definition other)) := by
  obtain ⟨error, rfl⟩ := refused
  obtain ⟨otherError, rfl⟩ := refusedToo
  exact .refused

/-- Lexemes that are read as the same function as others, or refused as they are. Columns, sources
and labels make no difference. -/
def MeanSame (first second : List Lexeme) : Prop :=
  ∀ (code source label other : String) (tokens twins : List Token),
    tokens.map (·.lexeme) = first → twins.map (·.lexeme) = second →
    Agree ((Form.ofTokens code true tokens).map (·.definition label))
      ((Form.ofTokens source true twins).map (·.definition other))

/-! ### The rest of a shorthand -/

/-- Tokens without some names, and without a mark of statements outside of all brackets. -/
structure Plain (names : List String) (tokens : List Token) : Prop where
  absent : ∀ token ∈ tokens, ∀ name ∈ names, ¬token.lexeme.Names name
  semicolons : ∀ token ∈ topLevel tokens, ¬token.IsSymbol .semicolon
  returns : ∀ token ∈ topLevel tokens, ¬token.IsWord "return"

/-- What holds of the lexemes of tokens holds of equal ones. -/
theorem forall_lexemes (holds : Lexeme → Prop) {tokens twins : List Token}
    (same : twins.map (·.lexeme) = tokens.map (·.lexeme))
    (all : ∀ token ∈ tokens, holds token.lexeme) : ∀ twin ∈ twins, holds twin.lexeme := by
  intro twin member
  have isLexeme : twin.lexeme ∈ tokens.map (·.lexeme) := same ▸ List.mem_map_of_mem member
  obtain ⟨token, isToken, sameLexeme⟩ := List.mem_map.mp isLexeme
  exact sameLexeme ▸ all token isToken

namespace Plain

variable {names : List String} {tokens twins first second : List Token}

theorem twin (plain : Plain names tokens) (same : twins.map (·.lexeme) = tokens.map (·.lexeme)) :
    Plain names twins where
  absent := forall_lexemes (fun lexeme => ∀ name ∈ names, ¬lexeme.Names name) same plain.absent
  semicolons := forall_lexemes (· ≠ .symbol .semicolon) (lexemes_topLevelFrom same)
    plain.semicolons
  returns := forall_lexemes (· ≠ .name "return") (lexemes_topLevelFrom same) plain.returns

/-- The operands in tokens behind may be swapped. -/
theorem swapped {name other : VariableName} {wanted : Bool} (plain : Plain names tokens)
    (isAbsent : name.spelling ∈ names) (otherAbsent : other.spelling ∈ names)
    (same : twins.map (·.lexeme) = tokens.map (·.lexeme))
    (further : ∀ wanted, Swapped name other wanted first second) :
    Swapped name other wanted (tokens ++ first) (twins ++ second) := by
  have absent : ∀ token ∈ tokens,
      ¬token.lexeme.Names name.spelling ∧ ¬token.lexeme.Names other.spelling :=
    fun token member =>
      ⟨plain.absent token member _ isAbsent, plain.absent token member _ otherAbsent⟩
  clear plain
  induction tokens generalizing twins wanted with
  | nil =>
    rw [List.map_eq_nil_iff.mp same]
    exact further wanted
  | cons token rest inductionHypothesis =>
    obtain ⟨twin, others, rfl, sameHead, sameRest⟩ := List.map_eq_cons_iff.mp same
    obtain ⟨⟨notName, notOther⟩, absentRest⟩ := List.forall_mem_cons.mp absent
    exact .same sameHead notName notOther (inductionHypothesis sameRest absentRest)

end Plain

/-! ### Words that are no names -/

theorem Token.IsName.ne_reserved {token : Token} {name word : String} (isName : token.IsName name)
    (reserved : word ∈ reservedWords) : ¬token.IsWord word :=
  Token.IsWord.ne isName.1 fun same => isName.2 (same ▸ reserved)

theorem Token.IsName.operator? {token : Token} {name : String} (isName : token.IsName name) :
    token.lexeme.operator? = none := by
  rw [isName.1]
  rfl

theorem Token.IsName.flat {token : Token} {name : String} (isName : token.IsName name) :
    Flat [token] := by
  intro head member
  cases List.mem_singleton.mp member
  refine ⟨?_, Token.not_isSymbol_of_isWord isName.1 _⟩
  rw [isName.1]
  rfl

theorem reserved_of_statementWord {word : String} (isStatement : word ∈ statementWords) :
    word ∈ reservedWords := by
  have included : ∀ word ∈ statementWords, word ∈ reservedWords := by decide
  exact included word isStatement

/-! ### Operands at the beginning -/

/-- The variable of a missing operand. -/
def holeVariable : VariableName := ⟨holeName 0, by decide, by rfl⟩

section

variable {names : List String} {tokens rest twins : List Token} {first second : Token}
  {name : String} {symbol : Symbol}

theorem topLevel_operand (isName : first.IsName name) (isSymbol : second.IsSymbol symbol)
    (flat : (Lexeme.symbol symbol).depthChange = 0) :
    topLevel (first :: second :: tokens) = first :: second :: topLevel tokens := by
  rw [topLevel, topLevelFrom_flat, topLevelFrom_flat, topLevel]
  · rw [isSymbol]
    exact flat
  · rw [isName.1]
    rfl

/-- A variable and a symbol in front leave tokens without a mark of statements. -/
theorem Plain.unmarked (plain : Plain names tokens) (isName : first.IsName name)
    (isSymbol : second.IsSymbol symbol) (flat : (Lexeme.symbol symbol).depthChange = 0)
    (differ : symbol ≠ .semicolon) : Unmarked (first :: second :: tokens) := by
  constructor
  · intro token isHead word isStatement
    cases isHead
    exact isName.ne_reserved (reserved_of_statementWord isStatement)
  · rw [topLevel_operand isName isSymbol flat]
    exact List.forall_mem_cons.mpr ⟨Token.not_isSymbol_of_isWord isName.1 _,
      List.forall_mem_cons.mpr ⟨isSymbol.ne differ, plain.semicolons⟩⟩
  · rw [topLevel_operand isName isSymbol flat]
    exact List.forall_mem_cons.mpr ⟨isName.ne_reserved (by decide),
      List.forall_mem_cons.mpr ⟨Token.not_isWord_of_isSymbol isSymbol _, plain.returns⟩⟩

theorem Plain.isStatementBody (plain : Plain names tokens) (isName : first.IsName name)
    (isSymbol : second.IsSymbol symbol) (flat : (Lexeme.symbol symbol).depthChange = 0)
    (differ : symbol ≠ .semicolon) : isStatementBody (first :: second :: tokens) = false := by
  refine (plain.unmarked isName isSymbol flat differ).isStatementBody (.inl fun token isFirst => ?_)
  cases isFirst
  exact Token.not_isSymbol_of_isWord isName.1 _

theorem Arrowless.operand (arrowless : Arrowless (topLevel tokens)) (isName : first.IsName name)
    (isSymbol : second.IsSymbol symbol) (flat : (Lexeme.symbol symbol).depthChange = 0)
    (differ : symbol ≠ .arrow) : Arrowless (topLevel (first :: second :: tokens)) := by
  rw [topLevel_operand isName isSymbol flat]
  exact .word isName.1 (.symbol isSymbol differ arrowless)

/-- The part that begins with an operand and a symbol is none of parameters. -/
theorem operand_refused (isName : first.IsName name) (isSymbol : second.IsSymbol symbol)
    (flat : (Lexeme.symbol symbol).depthChange = 0) (notArrow : symbol ≠ .arrow)
    (notComma : symbol ≠ .comma) (hasArrow : ¬Arrowless (topLevel tokens)) (code : String) :
    ∃ part ∈ (splitAtArrows 0 [] (first :: second :: tokens)).1,
      ∃ error, arrowParameters code part.2 part.1 = .error error := by
  have noBracket : first.lexeme.depthChange = 0 := by
    rw [isName.1]
    rfl
  have noBracketToo : second.lexeme.depthChange = 0 := by
    rw [isSymbol]
    exact flat
  obtain ⟨further, column, parts, last, same⟩ := splitAtArrows_arrow [second, first] hasArrow
  rw [splitAtArrows_step noBracket (Token.not_isSymbol_of_isWord isName.1 _),
    splitAtArrows_step noBracketToo (isSymbol.ne notArrow), same]
  exact ⟨_, List.mem_cons_self, arrowParameters_refused isName (isSymbol.ne notComma)⟩

end

/-- A missing operand at the beginning of a symbol and some tokens. Without an arrow outside of all
brackets they have to be read behind a hole, and with one they have to be refused. -/
structure ReadsOperand (symbol : Symbol) (tokens : List Token) : Prop where
  reads : ∀ code label first rest, first.IsSymbol symbol →
    rest.map (·.lexeme) = tokens.map (·.lexeme) → Arrowless (topLevel rest) →
    (Form.ofTokens code true (first :: rest)).map (·.definition label) =
      (Expr.parse code (Token.hole 0 first.column :: first :: rest)).map
        fun expr => ⟨[holeName 0], .expression expr, label⟩
  refuses : ∀ code first rest, first.IsSymbol symbol →
    rest.map (·.lexeme) = tokens.map (·.lexeme) → ¬Arrowless (topLevel rest) →
    ∃ error, Form.ofTokens code true (first :: rest) = .error error

section

variable {names : List String} {tokens : List Token} {variableName : VariableName}

theorem ReadsOperand.meanSame {symbol : Symbol} (reads : ReadsOperand symbol tokens)
    (plain : Plain names tokens) (isAbsent : variableName.spelling ∈ names)
    (holeAbsent : holeVariable.spelling ∈ names)
    (flat : (Lexeme.symbol symbol).depthChange = 0) (notArrow : symbol ≠ .arrow)
    (notComma : symbol ≠ .comma) (notSemicolon : symbol ≠ .semicolon) :
    MeanSame (.symbol symbol :: tokens.map (·.lexeme))
      (.name variableName.spelling :: .symbol .arrow :: .name variableName.spelling ::
        .symbol symbol :: tokens.map (·.lexeme)) := by
  intro code source label other lefts rights sameLeft sameRight
  obtain ⟨first, rest, rfl, isFirst, sameRest⟩ := List.map_eq_cons_iff.mp sameLeft
  obtain ⟨head, _, rfl, isHead, more⟩ := List.map_eq_cons_iff.mp sameRight
  obtain ⟨mark, _, rfl, isMark, more⟩ := List.map_eq_cons_iff.mp more
  obtain ⟨operand, _, rfl, isOperand, more⟩ := List.map_eq_cons_iff.mp more
  obtain ⟨sign, twins, rfl, isSign, sameTwins⟩ := List.map_eq_cons_iff.mp more
  have headName : head.IsName variableName.spelling := ⟨isHead, variableName.free⟩
  have operandName : operand.IsName variableName.spelling := ⟨isOperand, variableName.free⟩
  by_cases arrowless : Arrowless (topLevel rest)
  · have arrowlessTwins : Arrowless (topLevel twins) :=
      forall_lexemes (· ≠ .symbol .arrow)
        (lexemes_topLevelFrom (sameTwins.trans sameRest.symm)) arrowless
    have right : (Form.ofTokens source true (head :: mark :: operand :: sign :: twins)).map
        (·.definition other) = (Expr.parse source (operand :: sign :: twins)).map
          fun expr => ⟨[variableName.spelling], .expression expr, other⟩ :=
      Form.definition_arrow headName.operator? headName.flat isMark
        (arrowParameters_single headName) (arrowlessTwins.operand operandName isSign flat notArrow)
        (List.cons_ne_nil _ _)
        ((plain.twin sameTwins).isStatementBody operandName isSign flat notSemicolon)
    have swapped : Swapped holeVariable variableName true
        (Token.hole 0 first.column :: first :: rest ++ []) (operand :: sign :: twins ++ []) := by
      refine .operand rfl (by rw [isOperand]; rfl) (.same (isSign.trans isFirst.symm) ?_ ?_
        ((plain.twin sameRest).swapped holeAbsent isAbsent (sameTwins.trans sameRest.symm)
          fun _ => .nil))
      · rw [isFirst]
        exact id
      · rw [isFirst]
        exact id
    rw [List.append_nil, List.append_nil] at swapped
    rw [reads.reads code label first rest isFirst sameRest arrowless, right]
    exact .ofSwapped swapped code source label other
  -- An arrow in the rest makes a part of its own of the operand and what follows it.
  · have hasArrow : ¬Arrowless (topLevel twins) := fun arrowlessTwins =>
      arrowless (forall_lexemes (· ≠ .symbol .arrow)
        (lexemes_topLevelFrom (sameRest.trans sameTwins.symm)) arrowlessTwins)
    obtain ⟨part, member, refused⟩ :=
      operand_refused operandName isSign flat notArrow notComma hasArrow source
    exact .ofRefused (reads.refuses code first rest isFirst sameRest arrowless)
      (Form.refused_arrow headName.operator? headName.flat isMark member refused) label other

/-- An operator in front of tokens, unless it is a minus sign. -/
theorem ReadsOperand.operator {operator : BinaryOperator} (differ : operator ≠ .subtract)
    (some : tokens ≠ []) : ReadsOperand (.operator operator) tokens := by
  have form {code : String} {first : Token} {rest : List Token}
      (isFirst : first.IsSymbol (.operator operator))
      (same : rest.map (·.lexeme) = tokens.map (·.lexeme)) :
      Form.ofTokens code true (first :: rest) =
        (Expr.parse code (Token.hole 0 first.column :: first :: rest)).map
          (.operatorSection operator .left) := by
    refine Form.ofTokens_left isFirst differ ?_
    rintro rfl
    exact some (List.map_eq_nil_iff.mp same.symm)
  constructor
  · intro code label first rest isFirst same _
    rw [form isFirst same]
    cases Expr.parse code (Token.hole 0 first.column :: first :: rest) with
    | error error => rfl
    | ok expr => rfl
  · intro code first rest isFirst same hasArrow
    rw [form isFirst same]
    cases parsed : Expr.parse code (Token.hole 0 first.column :: first :: rest) with
    | error error => exact ⟨error, rfl⟩
    | ok expr =>
      have arrowless := (Expr.phrase_of_parse parsed).arrowless
      exact absurd (fun token member => arrowless token (List.mem_cons_of_mem _
        (List.mem_cons_of_mem _ (mem_of_mem_topLevelFrom member)))) hasArrow

/-- A dot in front of tokens. -/
theorem ReadsOperand.dot : ReadsOperand .dot tokens := by
  have flat {first : Token} (isDot : first.IsSymbol .dot) : first.lexeme.depthChange = 0 := by
    rw [isDot]
    rfl
  have notArrow {first : Token} (isDot : first.IsSymbol .dot) : ¬first.IsSymbol .arrow :=
    isDot.ne Symbol.noConfusion
  constructor
  · intro code label first rest isDot _ arrowless
    have arrowlessAll : Arrowless (topLevel (first :: rest)) := by
      rw [topLevel, topLevelFrom_flat (flat isDot)]
      exact .cons (notArrow isDot) arrowless
    rw [Form.ofTokens_member isDot arrowlessAll]
    cases Expr.parse code (Token.hole 0 first.column :: first :: rest) with
    | error error => rfl
    | ok expr => rfl
  · intro code first rest isDot _ hasArrow
    have noOperator : first.lexeme.operator? = none := by
      rw [isDot]
      rfl
    have hasArrowToo : ¬Arrowless (topLevel (first :: rest)) := by
      rw [topLevel, topLevelFrom_flat (flat isDot)]
      exact fun arrowless => hasArrow (List.forall_mem_cons.mp arrowless).2
    obtain ⟨further, column, parts, last, same⟩ := splitAtArrows_arrow [first] hasArrow
    obtain ⟨error, refused⟩ := Definition.parseArrow_refused
      ((splitAtArrows_step (flat isDot) (notArrow isDot) [] rest).trans same) List.mem_cons_self
      (arrowParameters_symbol isDot Symbol.noConfusion)
    refine ⟨error, ?_⟩
    rw [Form.ofTokens_arrow noOperator hasArrowToo]
    exact congrArg (Except.map Form.arrow) refused

end

/-! ### Operands at the end -/

/-- Tokens that an operator at the end makes a function of its right operand. -/
structure Leading (tokens : List Token) : Prop where
  some : tokens ≠ []
  arrowless : Arrowless (topLevel tokens)
  noDot : ∀ token ∈ tokens.head?, ¬token.IsSymbol .dot
  noWord : ∀ token ∈ tokens.head?, ∀ word ∈ statementWords, ¬token.IsWord word
  noOperator : ∀ token ∈ tokens.head?, ∀ operator ≠ .subtract, ¬token.IsSymbol (.operator operator)

/-- What holds of the lexeme of the first token holds of an equal one. -/
theorem head_lexemes (holds : Lexeme → Prop) {tokens twins : List Token}
    (same : twins.map (·.lexeme) = tokens.map (·.lexeme))
    (all : ∀ token ∈ tokens.head?, holds token.lexeme) :
    ∀ twin ∈ twins.head?, holds twin.lexeme := by
  intro twin isHead
  cases twins with
  | nil => cases isHead
  | cons head others =>
    cases isHead
    obtain ⟨token, rest, rfl, sameHead, _⟩ := List.map_eq_cons_iff.mp same.symm
    have sameLexeme : token.lexeme = twin.lexeme := sameHead
    exact sameLexeme ▸ all token rfl

/-- Outside of all brackets are tokens of the front that are so there, and some of the last ones. -/
theorem forall_topLevel_append {holds : Token → Prop} {front last : List Token}
    (all : ∀ token ∈ topLevel front, holds token) (allLast : ∀ token ∈ last, holds token) :
    ∀ token ∈ topLevel (front ++ last), holds token := by
  obtain ⟨after, same⟩ := topLevelFrom_append 0 front last
  rw [topLevel, same]
  exact List.forall_mem_append.mpr
    ⟨all, fun token member => allLast token (mem_of_mem_topLevelFrom member)⟩

namespace Leading

variable {names : List String} {tokens twins : List Token} {variableName : VariableName}
  {operator : BinaryOperator} {sign operand : Token}

theorem twin (leading : Leading tokens) (same : twins.map (·.lexeme) = tokens.map (·.lexeme)) :
    Leading twins where
  some := by
    rintro rfl
    exact leading.some (List.map_eq_nil_iff.mp same.symm)
  arrowless := forall_lexemes (· ≠ .symbol .arrow) (lexemes_topLevelFrom same) leading.arrowless
  noDot := head_lexemes (· ≠ .symbol .dot) same leading.noDot
  noWord := head_lexemes (fun lexeme => ∀ word ∈ statementWords, lexeme ≠ .name word) same
    leading.noWord
  noOperator := head_lexemes
    (fun lexeme => ∀ operator ≠ .subtract, lexeme ≠ .symbol (.operator operator)) same
    leading.noOperator

/-- With an operator and an operand behind them the tokens are an expression, if anything. -/
theorem isStatementBody (leading : Leading tokens) (plain : Plain names tokens)
    (isSign : sign.IsSymbol (.operator operator))
    (isOperand : operand.IsName variableName.spelling) :
    isStatementBody (tokens ++ [sign, operand]) = false := by
  have both {holds : Token → Prop} (holdsSign : holds sign) (holdsOperand : holds operand) :
      ∀ token ∈ [sign, operand], holds token :=
    List.forall_mem_cons.mpr ⟨holdsSign, List.forall_mem_singleton.mpr holdsOperand⟩
  have unmarked : Unmarked (tokens ++ [sign, operand]) := by
    constructor
    · intro token isHead
      rw [List.head?_append_of_ne_nil _ leading.some] at isHead
      exact leading.noWord token isHead
    · exact forall_topLevel_append plain.semicolons (both (isSign.ne Symbol.noConfusion)
        (Token.not_isSymbol_of_isWord isOperand.1 _))
    · exact forall_topLevel_append plain.returns (both (Token.not_isWord_of_isSymbol isSign _)
        (isOperand.ne_reserved (by decide)))
  refine unmarked.isStatementBody (.inr fun token isLast => ?_)
  rw [List.getLast?_append_cons] at isLast
  cases isLast
  exact Token.not_isSymbol_of_isWord isOperand.1 _

theorem meanSame (leading : Leading tokens) (plain : Plain names tokens)
    (isAbsent : variableName.spelling ∈ names) (holeAbsent : holeVariable.spelling ∈ names) :
    MeanSame (tokens.map (·.lexeme) ++ [.symbol (.operator operator)])
      (.name variableName.spelling :: .symbol .arrow :: (tokens.map (·.lexeme) ++
        [.symbol (.operator operator), .name variableName.spelling])) := by
  intro code source label other lefts rights sameLeft sameRight
  obtain ⟨rest, ends, rfl, sameRest, sameEnds⟩ := List.map_eq_append_iff.mp sameLeft
  obtain ⟨last, rfl, isLast⟩ := List.map_eq_singleton_iff.mp sameEnds
  obtain ⟨head, _, rfl, isHead, more⟩ := List.map_eq_cons_iff.mp sameRight
  obtain ⟨mark, _, rfl, isMark, more⟩ := List.map_eq_cons_iff.mp more
  obtain ⟨twins, ends, rfl, sameTwins, sameEnds⟩ := List.map_eq_append_iff.mp more
  obtain ⟨sign, _, rfl, isSign, sameEnds⟩ := List.map_eq_cons_iff.mp sameEnds
  obtain ⟨operand, rfl, isOperand⟩ := List.map_eq_singleton_iff.mp sameEnds
  have headName : head.IsName variableName.spelling := ⟨isHead, variableName.free⟩
  have operandName : operand.IsName variableName.spelling := ⟨isOperand, variableName.free⟩
  have leadingRest := leading.twin sameRest
  have leadingTwins := leading.twin sameTwins
  have arrowlessLeft : Arrowless (topLevel (rest ++ [last])) :=
    forall_topLevel_append leadingRest.arrowless
      (.symbol isLast Symbol.noConfusion .nil : Arrowless [last])
  have arrowlessRight : Arrowless (topLevel (twins ++ [sign, operand])) :=
    forall_topLevel_append leadingTwins.arrowless
      (.symbol isSign Symbol.noConfusion (.word isOperand .nil) : Arrowless [sign, operand])
  have left : (Form.ofTokens code true (rest ++ [last])).map (·.definition label) =
      (Expr.parse code (rest ++ [last, Token.hole 0 code.length])).map
        fun expr => ⟨[holeName 0], .expression expr, label⟩ := by
    rw [Form.ofTokens_right leadingRest.some leadingRest.noDot leadingRest.noOperator
      arrowlessLeft isLast, List.append_assoc, List.singleton_append]
    cases Expr.parse code (rest ++ [last, Token.hole 0 code.length]) with
    | error error => rfl
    | ok expr => rfl
  have right : (Form.ofTokens source true (head :: mark :: (twins ++ [sign, operand]))).map
      (·.definition other) = (Expr.parse source (twins ++ [sign, operand])).map
        fun expr => ⟨[variableName.spelling], .expression expr, other⟩ :=
    Form.definition_arrow headName.operator? headName.flat isMark (arrowParameters_single headName)
      arrowlessRight (by simp)
      (leadingTwins.isStatementBody (plain.twin sameTwins) isSign operandName)
  have swappedEnds (wanted : Bool) : Swapped holeVariable variableName wanted
      [last, Token.hole 0 code.length] [sign, operand] := by
    refine .same (isSign.trans isLast.symm) (by rw [isLast]; exact id) (by rw [isLast]; exact id) ?_
    rw [isLast]
    exact .operand rfl (by rw [isOperand]; rfl) .nil
  have swapped : Swapped holeVariable variableName true
      (rest ++ [last, Token.hole 0 code.length]) (twins ++ [sign, operand]) :=
    (plain.twin sameRest).swapped holeAbsent isAbsent (sameTwins.trans sameRest.symm) swappedEnds
  rw [left, right]
  exact .ofSwapped swapped code source label other

end Leading

/-! ### Operators alone -/

theorem correspondingName_pair {name other : String} (differ : name ≠ other)
    (first second : String) :
    correspondingName [name, other] [first, second] name = first ∧
      correspondingName [name, other] [first, second] other = second := by
  simp [correspondingName, List.lookup, beq_false_of_ne differ]

/-- Operations on the parameters of two functions correspond if the parameters do. -/
theorem rename_operation {name other : String} (differ : name ≠ other) (first second : String)
    (operator : BinaryOperator) :
    Body.rename (correspondingName [name, other] [first, second])
        (.expression (.binary operator (.variable name) (.variable other))) =
      .expression (.binary operator (.variable first) (.variable second)) := by
  obtain ⟨isFirst, isSecond⟩ := correspondingName_pair differ first second
  rw [Body.rename, Expr.rename, Expr.rename, Expr.rename, isFirst, isSecond]

theorem Plain.ofName {token : Token} {name : String} (isName : token.IsName name) :
    Plain [] [token] where
  absent _ _ _ member := absurd member List.not_mem_nil
  semicolons token member := by
    cases List.mem_singleton.mp (mem_of_mem_topLevelFrom member)
    exact Token.not_isSymbol_of_isWord isName.1 _
  returns token member := by
    cases List.mem_singleton.mp (mem_of_mem_topLevelFrom member)
    exact isName.ne_reserved (by decide)

section

variable {first second : VariableName} {operator : BinaryOperator}

theorem phrase_operation {left sign right : Token}
    (isLeft : left.lexeme.Names first.spelling) (isSign : sign.IsSymbol (.operator operator))
    (isRight : right.lexeme.Names second.spelling) :
    Phrase.Assignment NoBrace
      (.binary operator (.variable first.spelling) (.variable second.spelling))
      [left, sign, right] := by
  have operand {level : Nat} {name : VariableName} {token : Token}
      (names : token.lexeme.Names name.spelling) :
      Phrase.Binary NoBrace level (.variable name.spelling) [token] :=
    .plain (.plain (.plain (.ofNames names)))
  exact .plain (.plain (.operation (Nat.zero_le _) (operand isLeft) isSign (operand isRight)))

/-- An operator alone means the function of its two operands. -/
theorem meanSame_combinator (differ : first.spelling ≠ second.spelling)
    (operator : BinaryOperator) :
    MeanSame [.symbol (.operator operator)]
      [.name first.spelling, .symbol .comma, .name second.spelling, .symbol .arrow,
        .name first.spelling, .symbol (.operator operator), .name second.spelling] := by
  intro code source label other lefts rights sameLeft sameRight
  obtain ⟨alone, rfl, isAlone⟩ := List.map_eq_singleton_iff.mp sameLeft
  obtain ⟨head, _, rfl, isHead, more⟩ := List.map_eq_cons_iff.mp sameRight
  obtain ⟨comma, _, rfl, isComma, more⟩ := List.map_eq_cons_iff.mp more
  obtain ⟨next, _, rfl, isNext, more⟩ := List.map_eq_cons_iff.mp more
  obtain ⟨mark, _, rfl, isMark, more⟩ := List.map_eq_cons_iff.mp more
  obtain ⟨left, _, rfl, isLeft, more⟩ := List.map_eq_cons_iff.mp more
  obtain ⟨sign, _, rfl, isSign, more⟩ := List.map_eq_cons_iff.mp more
  obtain ⟨right, rfl, isRight⟩ := List.map_eq_singleton_iff.mp more
  have headName : head.IsName first.spelling := ⟨isHead, first.free⟩
  have nextName : next.IsName second.spelling := ⟨isNext, second.free⟩
  have leftName : left.IsName first.spelling := ⟨isLeft, first.free⟩
  have rightName : right.IsName second.spelling := ⟨isRight, second.free⟩
  have flatComma : comma.lexeme.depthChange = 0 ∧ ¬comma.IsSymbol .arrow := by
    refine ⟨?_, Token.IsSymbol.ne isComma Symbol.noConfusion⟩
    rw [isComma]
    rfl
  have flat : Flat [head, comma, next] :=
    List.forall_mem_cons.mpr ⟨headName.flat head List.mem_cons_self,
      List.forall_mem_cons.mpr ⟨flatComma, nextName.flat⟩⟩
  have arrowless : Arrowless (topLevel [right]) := fun token member =>
    (.word isRight .nil : Arrowless [right]) token (mem_of_mem_topLevelFrom member)
  have parsed : Expr.parse source [left, sign, right] =
      .ok (.binary operator (.variable first.spelling) (.variable second.spelling)) :=
    Expr.parse_of_phrase (phrase_operation (by rw [isLeft]; rfl) isSign (by rw [isRight]; rfl))
  have read : (Form.ofTokens source true (head :: ([comma, next] ++ mark ::
      [left, sign, right]))).map (·.definition other) =
        (Expr.parse source [left, sign, right]).map
          fun expr => ⟨[first.spelling, second.spelling], .expression expr, other⟩ :=
    Form.definition_arrow headName.operator? flat isMark
      (arrowParameters_pair headName isComma nextName)
      (arrowless.operand leftName isSign rfl Symbol.noConfusion) (List.cons_ne_nil _ _)
      ((Plain.ofName rightName).isStatementBody leftName isSign rfl Symbol.noConfusion)
  rw [parsed] at read
  rw [Form.ofTokens_combinator isAlone]
  refine read ▸ .read ⟨rfl, fun _ member => absurd member List.not_mem_nil,
    fun _ member => absurd member List.not_mem_nil,
    rename_operation (by decide) first.spelling second.spelling operator,
    rename_operation differ (holeName 0) (holeName 1) operator⟩

end

/-! ### All forms -/

/-- A name that can become a parameter is no word for a literal. -/
theorem literalWord?_of_parameter {name : String} (isParameter : isParameterName name = true)
    (free : name ∉ reservedWords) : literalWord? name = none := by
  unfold literalWord?
  split
  · exact absurd (by decide) free
  · exact absurd (by decide) free
  · exact absurd (by decide) free
  · exact absurd (by decide) free
  · exact absurd isParameter (by decide)
  · exact absurd isParameter (by decide)
  · rfl

/-- Every form of a shorthand means the function that has parameters for the missing operands. -/
theorem shorthands_mean_arrows {name other : String} {tokens : List Token}
    (operator : BinaryOperator) (isParameter : isParameterName name = true)
    (free : name ∉ reservedWords) (isParameterToo : isParameterName other = true)
    (freeToo : other ∉ reservedWords) (differ : name ≠ other)
    (plain : Plain [name, other, "$1", "$2"] tokens) :
    (operator ≠ .subtract → tokens ≠ [] →
      MeanSame (.symbol (.operator operator) :: tokens.map (·.lexeme))
        (.name name :: .symbol .arrow :: .name name :: .symbol (.operator operator) ::
          tokens.map (·.lexeme))) ∧
    MeanSame (.symbol .dot :: tokens.map (·.lexeme))
      (.name name :: .symbol .arrow :: .name name :: .symbol .dot :: tokens.map (·.lexeme)) ∧
    (Leading tokens →
      MeanSame (tokens.map (·.lexeme) ++ [.symbol (.operator operator)])
        (.name name :: .symbol .arrow ::
          (tokens.map (·.lexeme) ++ [.symbol (.operator operator), .name name]))) ∧
    MeanSame [.symbol (.operator operator)]
      [.name name, .symbol .comma, .name other, .symbol .arrow, .name name,
        .symbol (.operator operator), .name other] := by
  let first : VariableName := ⟨name, free, literalWord?_of_parameter isParameter free⟩
  let second : VariableName := ⟨other, freeToo, literalWord?_of_parameter isParameterToo freeToo⟩
  have isAbsent : first.spelling ∈ [name, other, "$1", "$2"] := List.mem_cons_self
  have holeAbsent : holeVariable.spelling ∈ [name, other, "$1", "$2"] :=
    List.mem_cons_of_mem _ (List.mem_cons_of_mem _ List.mem_cons_self)
  refine ⟨fun notMinus some => ?_, ?_, fun leading => ?_, ?_⟩
  · exact (ReadsOperand.operator notMinus some).meanSame plain isAbsent holeAbsent rfl
      Symbol.noConfusion Symbol.noConfusion Symbol.noConfusion
  · exact ReadsOperand.dot.meanSame plain isAbsent holeAbsent rfl
      Symbol.noConfusion Symbol.noConfusion Symbol.noConfusion
  · exact leading.meanSame plain isAbsent holeAbsent
  · exact @meanSame_combinator first second differ operator

/-- The tokens of a call of a function with a statement in its body. -/
def calledFunction : List Token :=
  [⟨.name "function", 0⟩, ⟨.symbol (.opening .round), 8⟩, ⟨.name "x", 9⟩,
    ⟨.symbol (.closing .round), 10⟩, ⟨.symbol (.opening .curly), 12⟩, ⟨.name "return", 14⟩,
    ⟨.name "x", 21⟩, ⟨.symbol .semicolon, 22⟩, ⟨.symbol (.closing .curly), 24⟩,
    ⟨.symbol (.opening .round), 25⟩, ⟨.name "b", 26⟩, ⟨.symbol (.closing .round), 27⟩]

example : (Form.ofTokens "" true
    (⟨.symbol (.operator .multiply), 0⟩ :: calledFunction)).isOk = true := by rfl

theorem calledFunction_plain : Plain ["p", "q", "$1", "$2"] calledFunction where
  absent := by simp [calledFunction, Lexeme.Names]
  semicolons := by
    have outside : topLevel calledFunction = [⟨.name "function", 0⟩] := by rfl
    rw [outside]
    exact List.forall_mem_singleton.mpr Lexeme.noConfusion
  returns := by
    have outside : topLevel calledFunction = [⟨.name "function", 0⟩] := by rfl
    rw [outside]
    exact List.forall_mem_singleton.mpr (Token.IsWord.ne rfl (by decide))

theorem calledFunction_leading : Leading calledFunction := by
  have outside : topLevel calledFunction = [⟨.name "function", 0⟩] := by rfl
  refine ⟨List.cons_ne_nil _ _, ?_, ?_, ?_, ?_⟩
  · rw [outside]
    exact .word rfl .nil
  · rintro token ⟨⟩
    exact Lexeme.noConfusion
  · rintro token ⟨⟩ word isStatement isWord
    cases isWord
    exact absurd isStatement (by decide)
  · rintro token ⟨⟩ operator _
    exact Lexeme.noConfusion

/-- Each kind of shorthand, with a multiplication or with that call, means what its arrow means. -/
theorem calledFunction_meaning :
    isParameterName "p" = true ∧ "p" ∉ reservedWords ∧ isParameterName "q" = true ∧
      "q" ∉ reservedWords ∧ "p" ≠ "q" ∧ Plain ["p", "q", "$1", "$2"] calledFunction ∧
      MeanSame (.symbol (.operator .multiply) :: calledFunction.map (·.lexeme))
        (.name "p" :: .symbol .arrow :: .name "p" :: .symbol (.operator .multiply) ::
          calledFunction.map (·.lexeme)) ∧
      MeanSame (.symbol .dot :: calledFunction.map (·.lexeme))
        (.name "p" :: .symbol .arrow :: .name "p" :: .symbol .dot ::
          calledFunction.map (·.lexeme)) ∧
      MeanSame (calledFunction.map (·.lexeme) ++ [.symbol (.operator .multiply)])
        (.name "p" :: .symbol .arrow ::
          (calledFunction.map (·.lexeme) ++ [.symbol (.operator .multiply), .name "p"])) ∧
      MeanSame [.symbol (.operator .multiply)]
        [.name "p", .symbol .comma, .name "q", .symbol .arrow, .name "p",
          .symbol (.operator .multiply), .name "q"] := by
  have first : isParameterName "p" = true := by decide
  have second : isParameterName "q" = true := by decide
  have free : "p" ∉ reservedWords := by decide
  have freeToo : "q" ∉ reservedWords := by decide
  have differ : "p" ≠ "q" := by decide
  obtain ⟨left, member, right, combinator⟩ := shorthands_mean_arrows .multiply first free second
    freeToo differ calledFunction_plain
  exact ⟨first, free, second, freeToo, differ, calledFunction_plain,
    left BinaryOperator.noConfusion (List.cons_ne_nil _ _), member, right calledFunction_leading,
    combinator⟩

end Shorthand
