/-
This file proves that the parser of expressions accepts exactly the phrases of the grammar, and
that a list of tokens is a phrase of at most one expression.

The grammar leaves open which expressions may stand as statements. With every expression allowed
it would be ambiguous at a brace, and the parser decides for the block.
-/

import Mathlib
import Shorthand.Proofs.Grammar.Complete
import Shorthand.Token.Scan

namespace Shorthand

open Phrase (Assignment NoBrace)

variable {code : String} {tokens : List Token} {expr : Expr}

/-- What a rule reads up to the end of the tokens is a phrase of its kind. -/
theorem Phrase.Reads.readAll {α : Type} {rule : Grammar α} {Means : α → List Token → Prop}
    (reads : Phrase.Reads rule Means) {value : α} (read : rule.readAll code tokens = .ok value) :
    Means value tokens := by
  rw [Grammar.readAll] at read
  split at read
  · rename_i value accepted
    cases read
    obtain ⟨phrase, same, means⟩ := reads _ _ _ accepted
    rwa [same, List.append_nil]
  · cases read
  · cases read
  · cases read

/-- What the parser accepts is a phrase of the grammar. -/
theorem Expr.phrase_of_parse (parsed : Expr.parse code tokens = .ok expr) :
    Assignment NoBrace expr tokens :=
  (Phrase.sound _).assignment.readAll parsed

/-- The bound of the parser is large enough for every phrase. -/
theorem Expr.parse_of_phrase (assignment : Assignment NoBrace expr tokens) :
    Expr.parse code tokens = .ok expr := by
  have large : 16 * tokens.length + 5 ≤ depthBound tokens := by
    rw [depthBound]
    omega
  have accepted := assignment.isRead (depthBound tokens) [] large rfl
  rw [List.append_nil] at accepted
  rw [Expr.parse, Grammar.readAll, accepted]

/-- The parser accepts a list of tokens exactly if it is a phrase of an expression, and answers with
that expression. No list of tokens is a phrase of two of them. -/
theorem parse_iff_phrase (tokens : List Token) :
    (∀ code expr, Expr.parse code tokens = .ok expr ↔ Assignment NoBrace expr tokens) ∧
      {expr | Assignment NoBrace expr tokens}.Subsingleton := by
  refine ⟨fun code expr => ⟨Expr.phrase_of_parse, Expr.parse_of_phrase⟩, ?_⟩
  intro first firstPhrase second secondPhrase
  have firstParsed : Expr.parse "" tokens = .ok first := Expr.parse_of_phrase firstPhrase
  have secondParsed : Expr.parse "" tokens = .ok second := Expr.parse_of_phrase secondPhrase
  rw [firstParsed] at secondParsed
  exact Except.ok.inj secondParsed

/-- The tokens of a function with an object as its only statement. -/
def objectStatement : List Token :=
  [⟨.name "function", 0⟩, ⟨.symbol (.opening .round), 8⟩, ⟨.symbol (.closing .round), 9⟩,
    ⟨.symbol (.opening .curly), 10⟩, ⟨.symbol (.opening .curly), 12⟩, ⟨.name "a", 13⟩,
    ⟨.symbol .colon, 14⟩, ⟨.integer 1, 16⟩, ⟨.symbol (.closing .curly), 17⟩,
    ⟨.symbol (.closing .curly), 19⟩]

/-- With every expression allowed as a statement these tokens are a phrase, but the parser, which
reads the inner brace as a block, refuses them at the colon. -/
theorem objectStatement_refused :
    Token.scan "function(){ {a: 1} }" = .ok objectStatement ∧
    Assignment (fun _ => True) (.function [] (.statements [.expression
      (.object [("a", .literal (.number (.integer 1)))])]) "function") objectStatement ∧
    Expr.parse "function(){ {a: 1} }" objectStatement =
      .error ⟨.unexpectedToken (.symbol .colon) .semicolon, 14, "function(){ {a: 1} }"⟩ := by
  refine ⟨by cbv, ?_, by cbv⟩
  have one : Assignment (fun _ => True) (.literal (.number (.integer 1))) [⟨.integer 1, 16⟩] :=
    .plain (.plain (.plain (.plain (.plain (.integer rfl)))))
  have word : Token.IsWord ⟨.name "function", 0⟩ "function" := rfl
  have openingRound : Token.IsSymbol ⟨.symbol (.opening .round), 8⟩ (.opening .round) := rfl
  have closingRound : Token.IsSymbol ⟨.symbol (.closing .round), 9⟩ (.closing .round) := rfl
  have openingBody : Token.IsSymbol ⟨.symbol (.opening .curly), 10⟩ (.opening .curly) := rfl
  have openingObject : Token.IsSymbol ⟨.symbol (.opening .curly), 12⟩ (.opening .curly) := rfl
  have colon : Token.IsSymbol ⟨.symbol .colon, 14⟩ .colon := rfl
  have closingObject : Token.IsSymbol ⟨.symbol (.closing .curly), 17⟩ (.closing .curly) := rfl
  have closingBody : Token.IsSymbol ⟨.symbol (.closing .curly), 19⟩ (.closing .curly) := rfl
  have entry : Phrase.Entries (fun _ => True) [("a", .literal (.number (.integer 1)))]
      [⟨.name "a", 13⟩, ⟨.symbol .colon, 14⟩, ⟨.integer 1, 16⟩] := .last rfl colon one
  have object := Phrase.Primary.object openingObject entry closingObject
  have statement : Phrase.StatementPhrase (fun _ => True) .lacksSemicolon _ _ :=
    .expression trivial (.plain (.plain (.plain (.plain (.plain object))))) .missing
  have function := Phrase.Primary.function word .none openingRound .none closingRound openingBody
    (.cons statement .nil fun _ => rfl) closingBody
  exact .plain (.plain (.plain (.plain (.plain function))))

end Shorthand
