/-
This file holds the result about sources that are expressions.

Whether a body is statements is told from its tokens before it is read. An expression begins with
no word of a statement and has no semicolon outside of brackets, so only two things about it are
taken for statements: a name that is spelled like such a word, and braces around all of it. With
neither of them it is read as the same expression whether statements are allowed or not.
-/

import Mathlib
import Shorthand.Proofs.Forms.Arrow
import Shorthand.Proofs.Free.Parameters

namespace Shorthand

open Phrase (NoBrace)

/-! ### Expressions that are taken for statements -/

/-- Tokens in which no name is spelled like a word that begins a statement, where the word would
be looked for: at the beginning, and for returning also elsewhere outside of all brackets. -/
structure Wordless (tokens : List Token) : Prop where
  head : ∀ token ∈ tokens.head?, ∀ word ∈ statementWords, ¬token.IsWord word
  returns : ∀ token ∈ topLevel tokens, ¬token.IsWord "return"

/-- The braces of an empty object. -/
def IsEmptyBraces (tokens : List Token) : Prop :=
  tokens.map (·.lexeme) = [.symbol (.opening .curly), .symbol (.closing .curly)]

/-- The tokens of an expression that has nothing of statements about it. An object without
parentheses is looked into, and has to have an entry. -/
structure IsClear (expr : Expr) (tokens : List Token) : Prop where
  returns : ∀ token ∈ topLevel tokens, ¬token.IsWord "return"
  inside : ∀ entries opening inside closing, expr = .object entries →
    tokens = opening :: (inside ++ [closing]) → opening.IsSymbol (.opening .curly) →
      inside ≠ [] ∧ Wordless inside

theorem mem_branchWords {word : String} (isStatement : word ∈ statementWords) :
    word ∈ Shorthand.branchWords := by
  have included : ∀ word ∈ statementWords, word ∈ Shorthand.branchWords := by decide
  exact included word isStatement

theorem Wordless.unmarked {tokens : List Token} (wordless : Wordless tokens)
    (matched : Matched Token.NoMark tokens) : Unmarked tokens where
  head := wordless.head
  semicolons token member := (matched.forall_topLevel token member).2
  returns := wordless.returns

theorem IsClear.isStatementBody {MayStand : List Token → Prop} {expr : Expr} {tokens : List Token}
    (clear : IsClear expr tokens) (assignment : Phrase.Assignment MayStand expr tokens) :
    isStatementBody tokens = false := by
  have unmarked : Unmarked tokens := Wordless.unmarked
    ⟨fun token isHead word isStatement =>
      Token.not_isWord_of_begins (assignment.begins.head token isHead)
        (mem_branchWords isStatement), clear.returns⟩ assignment.matched
  by_cases noBrace : NoBrace tokens
  · exact unmarked.isStatementBody (.inl noBrace)
  obtain ⟨opening, isHead, isOpening⟩ : ∃ opening ∈ tokens.head?,
      opening.IsSymbol (.opening .curly) := by simpa [Phrase.NoBrace] using noBrace
  obtain ⟨entries, inside, closing, rest, rfl, entriesPhrase, isClosing, isObject⟩ :=
    assignment.leadsObject opening isHead isOpening
  have closes : closesAtEnd 0 (opening :: (inside ++ closing :: rest)) = rest.isEmpty :=
    entriesPhrase.matched.closesAtEnd_enclosed isOpening isClosing rest
  unfold Shorthand.isStatementBody
  rw [unmarked.looksLikeStatements, Bool.false_or]
  split
  · rename_i head others same
    rw [← (List.cons.inj same).2, closes]
    cases rest with
    | cons token rest => exact if_neg fun both => Bool.false_ne_true both.2
    | nil =>
      obtain ⟨some, wordless⟩ :=
        clear.inside entries opening inside closing (isObject rfl) rfl isOpening
      have looked : Shorthand.isStatementBody inside = false :=
        (wordless.unmarked entriesPhrase.matched).isStatementBody (.inl entriesPhrase.noBrace)
      rw [List.dropLast_concat, List.isEmpty_eq_false_iff.mpr some, looked, Bool.false_or, ite_self]
  · rfl

/-! ### Forms and programs -/

section

variable {code : String} {tokens : List Token}

theorem Definition.parseBare_of_expression (noStatements : isStatementBody tokens = false)
    (allowed : Bool) : parseBare code allowed tokens = parseBare code false tokens := by
  rw [parseBare, parseBare, noStatements, Bool.and_false, Bool.and_false]

/-- Tokens that are no statements have the same form whether statements are allowed or not. -/
theorem Form.ofTokens_of_expression (noStatements : isStatementBody tokens = false)
    (allowed : Bool) : ofTokens code allowed tokens = ofTokens code false tokens := by
  unfold ofTokens
  simp only [Definition.parseBare_of_expression noStatements allowed]

/-- Whether statements are allowed only matters to a bare body. -/
theorem Form.ofTokens_allowed {form : Form} (notBare : ∀ definition, form ≠ .bare definition)
    (read : ofTokens code false tokens = .ok form) (allowed : Bool) :
    ofTokens code allowed tokens = .ok form := by
  revert read
  unfold ofTokens
  simp only
  split
  · exact id
  split
  · exact id
  split
  · exact id
  split
  · exact id
  split
  · exact id
  · intro read
    obtain ⟨definition, _, same⟩ := except_bind_eq_ok.mp read
    exact absurd (Except.ok.inj same).symm (notBare definition)

theorem Definition.parseBare_false {definition : Definition}
    (read : parseBare code false tokens = .ok definition) :
    ∃ expr, Expr.parse code tokens = .ok expr ∧ definition.body = .expression expr := by
  obtain ⟨body, parsed, same⟩ := except_bind_eq_ok.mp read
  obtain ⟨expr, isExpr, rfl⟩ := except_map_eq_ok.mp parsed
  refine ⟨expr, isExpr, ?_⟩
  rw [← Except.ok.inj same]

end

theorem IsEmptyBraces.eq {tokens : List Token} (empty : IsEmptyBraces tokens) :
    ∃ column other, tokens =
      [⟨.symbol (.opening .curly), column⟩, ⟨.symbol (.closing .curly), other⟩] := by
  obtain ⟨⟨_, column⟩, _, rfl, rfl, more⟩ := List.map_eq_cons_iff.mp empty
  obtain ⟨⟨_, other⟩, rfl, rfl⟩ := List.map_eq_singleton_iff.mp more
  exact ⟨column, other, rfl⟩

/-- Empty braces are an empty block where statements are allowed. -/
theorem IsEmptyBraces.isStatementBody {tokens : List Token} (empty : IsEmptyBraces tokens) :
    isStatementBody tokens = true := by
  obtain ⟨column, other, rfl⟩ := empty.eq
  unfold Shorthand.isStatementBody
  rfl

theorem IsEmptyBraces.parse {tokens : List Token} (empty : IsEmptyBraces tokens) (code : String) :
    Body.parse code true tokens = .ok (.statements [.block []]) := by
  obtain ⟨column, other, rfl⟩ := empty.eq
  rfl

theorem IsEmptyBraces.ofTokens {tokens : List Token} (empty : IsEmptyBraces tokens)
    (code : String) :
    Form.ofTokens code true tokens = .ok (.bare ⟨[], .statements [.block []], code⟩) := by
  have read : Definition.parseBare code true tokens = .ok ⟨[], .statements [.block []], code⟩ := by
    rw [Definition.parseBare, Bool.true_and, empty.isStatementBody, empty.parse]
    rfl
  obtain ⟨column, other, rfl⟩ := empty.eq
  show (Definition.parseBare code true _ >>= fun definition => Except.ok (Form.bare definition)) = _
  rw [read]
  rfl

/-! ### Sources -/

/-- A source that is an expression is the same expression where statements are allowed, if it is
clear of statements, and its empty braces are a block there. -/
theorem expressions_stay_expressions (code : String) :
    (∀ form, (∀ definition, form ≠ .bare definition) → Form.parse code false = .ok form →
      Form.parse code true = .ok form) ∧
    (∀ definition, Form.parse code false = .ok (.bare definition) →
      ∃ tokens expr, Token.scan code = .ok tokens ∧ Expr.parse code tokens = .ok expr ∧
        definition.body = .expression expr ∧
        (IsClear expr tokens → Form.parse code true = .ok (.bare definition)) ∧
        (IsEmptyBraces tokens →
          Form.parse code true = .ok (.bare ⟨[], .statements [.block []], code⟩))) ∧
    ∀ tokens expr, Token.scan code = .ok tokens → Expr.parse code tokens = .ok expr →
      (IsClear expr tokens → Definition.parseProgram code = .ok ⟨[], .expression expr, code⟩) ∧
      (IsEmptyBraces tokens →
        Definition.parseProgram code = .ok ⟨[], .statements [.block []], code⟩) := by
  refine ⟨fun form notBare read => ?_, fun definition read => ?_, fun tokens expr scan parsed => ?_⟩
  · obtain ⟨tokens, scanned, isForm⟩ := except_bind_eq_ok.mp read
    rw [Form.parse, scanned]
    exact Form.ofTokens_allowed notBare isForm true
  · obtain ⟨tokens, scanned, isForm⟩ := except_bind_eq_ok.mp read
    obtain ⟨expr, parsed, isBody⟩ := Definition.parseBare_false (Form.ofTokens_bare isForm)
    have assignment := Expr.phrase_of_parse parsed
    refine ⟨tokens, expr, (Token.scanSome_eq_ok.mp scanned).1, parsed, isBody, fun clear => ?_,
      fun empty => ?_⟩
    · rw [Form.parse, scanned]
      exact (Form.ofTokens_of_expression (clear.isStatementBody assignment) true).trans isForm
    · rw [Form.parse, scanned]
      exact empty.ofTokens code
  · have assignment := Expr.phrase_of_parse parsed
    obtain ⟨head, rest, isCons, _⟩ := assignment.begins
    have scanned : Token.scanSome code = .ok tokens :=
      Token.scanSome_eq_ok.mpr ⟨scan, isCons ▸ List.cons_ne_nil _ _⟩
    rw [Definition.parseProgram_eq scanned]
    refine ⟨fun clear => ?_, fun empty => ?_⟩
    · rw [clear.isStatementBody assignment, Body.parse, if_neg Bool.false_ne_true, parsed]
      rfl
    · rw [empty.isStatementBody, empty.parse]
      rfl

/-- The empty object and expressions with names that are spelled like words of statements, when
statements are allowed. -/
theorem expressions_taken_for_statements :
    (Form.parse "\x7b\x7d" false = .ok (.bare ⟨[], .expression (.object []), "\x7b\x7d"⟩) ∧
      Form.parse "\x7b\x7d" true = .ok (.bare ⟨[], .statements [.block []], "\x7b\x7d"⟩) ∧
      Definition.parseProgram "\x7b\x7d" = .ok ⟨[], .statements [.block []], "\x7b\x7d"⟩) ∧
    (Form.parse "x.return" false =
        .ok (.bare ⟨["x"], .expression (.member (.variable "x") "return"), "x.return"⟩) ∧
      Form.parse "x.return" true = .ok (.bare
        ⟨["x"], .statements [.expression (.member (.variable "x") "return")], "x.return"⟩)) ∧
    (Form.parse "\x7ba: x.return\x7d" false =
        .ok (.bare ⟨["x"], .expression (.object [("a", .member (.variable "x") "return")]),
          "\x7ba: x.return\x7d"⟩) ∧
      Form.parse "\x7ba: x.return\x7d" true =
        .error ⟨.unexpectedToken (.symbol .colon) .semicolon, 2, "\x7ba: x.return\x7d"⟩) ∧
    (Form.parse "\x7bif: y\x7d" false =
        .ok (.bare ⟨["y"], .expression (.object [("if", .variable "y")]), "\x7bif: y\x7d"⟩) ∧
      Form.parse "\x7bif: y\x7d" true =
        .error ⟨.unexpectedToken (.symbol .colon) .openingParenthesis, 3, "\x7bif: y\x7d"⟩) := by
  exact ⟨⟨by cbv, by cbv, by cbv⟩, ⟨by cbv, by cbv⟩, ⟨by cbv, by cbv⟩, by cbv, by cbv⟩

/-- An object with a member and a key that are words, inside of brackets. -/
def keptWords : String := "\x7ba: [x.return], b: \x7bif: y\x7d\x7d"

/-- The tokens of an object in which `return` and `if` are names of a member and of an entry. -/
def keptWordsTokens : List Token :=
  [⟨.symbol (.opening .curly), 0⟩, ⟨.name "a", 1⟩, ⟨.symbol .colon, 2⟩,
    ⟨.symbol (.opening .square), 4⟩, ⟨.name "x", 5⟩, ⟨.symbol .dot, 6⟩, ⟨.name "return", 7⟩,
    ⟨.symbol (.closing .square), 13⟩, ⟨.symbol .comma, 14⟩, ⟨.name "b", 16⟩, ⟨.symbol .colon, 17⟩,
    ⟨.symbol (.opening .curly), 19⟩, ⟨.name "if", 20⟩, ⟨.symbol .colon, 22⟩, ⟨.name "y", 24⟩,
    ⟨.symbol (.closing .curly), 25⟩, ⟨.symbol (.closing .curly), 26⟩]

/-- The object that they spell. -/
def keptWordsExpr : Expr :=
  .object [("a", .array [.member (.variable "x") "return"]), ("b", .object [("if", .variable "y")])]

theorem keptWords_clear : IsClear keptWordsExpr keptWordsTokens := by
  have outside : topLevel keptWordsTokens = [] := by rfl
  have insideOutside : topLevel keptWordsTokens.tail.dropLast =
      [⟨.name "a", 1⟩, ⟨.symbol .colon, 2⟩, ⟨.symbol .comma, 14⟩, ⟨.name "b", 16⟩,
        ⟨.symbol .colon, 17⟩] := by rfl
  refine ⟨fun token member => ?_, fun entries opening inside closing _ same _ => ?_⟩
  · rw [outside] at member
    exact absurd member List.not_mem_nil
  · have isInside : inside = keptWordsTokens.tail.dropLast := by
      rw [same, List.tail_cons, List.dropLast_concat]
    rw [isInside]
    refine ⟨List.cons_ne_nil _ _, ?_, ?_⟩
    · rintro token ⟨⟩ word isStatement isWord
      cases isWord
      exact absurd isStatement (by decide)
    · rw [insideOutside]
      simp [Token.IsWord]

theorem keptWords_read : Form.parse keptWords false =
    .ok (.bare ⟨["x", "y"], .expression keptWordsExpr, keptWords⟩) := by cbv

/-- That object stays an expression in every place. -/
theorem keptWords_stay :
    Form.parse keptWords false = .ok (.bare ⟨["x", "y"], .expression keptWordsExpr, keptWords⟩) ∧
      IsClear keptWordsExpr keptWordsTokens ∧
      Form.parse keptWords true = .ok (.bare ⟨["x", "y"], .expression keptWordsExpr, keptWords⟩) ∧
      Definition.parseProgram keptWords = .ok ⟨[], .expression keptWordsExpr, keptWords⟩ := by
  have scanned : Token.scan keptWords = .ok keptWordsTokens := by cbv
  obtain ⟨_, alike, programs⟩ := expressions_stay_expressions keptWords
  obtain ⟨tokens, expr, scan, parsed, isBody, same, _⟩ := alike _ keptWords_read
  obtain rfl : keptWordsTokens = tokens := Except.ok.inj (scanned.symm.trans scan)
  obtain rfl : keptWordsExpr = expr := Body.expression.inj isBody
  exact ⟨keptWords_read, keptWords_clear, same keptWords_clear,
    (programs _ _ scanned parsed).1 keptWords_clear⟩

end Shorthand
