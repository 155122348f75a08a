/-
This file holds the result that reading a source ends.

The scanner takes a character for every lexeme, rules and turns of loops take a token, and what is
taken is at the head of what is left. So the bound on the depth of the rules is never exhausted, and
it does not decide any reply. The parts that tokens are cut into are parts of them as they stand.
-/

import Mathlib
import Shorthand.Proofs.Forms.Arrow
import Shorthand.Proofs.Progress.Rules
import Shorthand.Proofs.Progress.Turn
import Shorthand.Proofs.Scan.Extent

namespace Shorthand

variable {α : Type}

/-! ### Lexemes -/

/-- Behind a lexeme, which has characters of its own, the scanner goes on. -/
theorem Token.scanFrom_lexeme {first : Char} {rest : List Char} {lexeme : Lexeme} {length : Nat}
    (notBlank : Text.isBlank first = false) (found : Lexeme.head first rest = .ok (lexeme, length))
    (column : Nat) :
    scanFrom 0 column (first :: rest) =
      (scanFrom 0 (column + length) ((first :: rest).drop length)).map (⟨lexeme, column⟩ :: ·) := by
  obtain ⟨own, others, rfl, rfl, _⟩ := Lexeme.head_isOwn found
  rw [scanFrom]
  simp only [notBlank, Bool.false_eq_true, if_false, found, Nat.add_sub_cancel]
  rw [Literal.scanFrom_skip, List.drop_succ_cons, List.drop_left, Nat.add_right_comm, Nat.add_assoc]

/-! ### The bound on the depth -/

/-- The bound for some tokens is not exhausted by a rule, and a larger one gives the same reply. -/
def Grammar.Settled (rule : Nat → Grammar α) (tokens : List Token) : Prop :=
  ∀ bound, depthBound tokens ≤ bound →
    rule bound tokens = rule (depthBound tokens) tokens ∧ rule bound tokens ≠ .exhausted

theorem Passage.Halts.settled {tokens : List Token} {Begins : List Token → Prop}
    {rule : Nat → Grammar α} {rank least : Nat}
    (halts : (whole tokens).Halts Begins rule rank least (depthBound tokens))
    (begins : Begins tokens) (small : rank ≤ 16) : Grammar.Settled rule tokens := by
  intro bound isLarger
  cases halts bound tokens isLarger begins (le_depthBound tokens small) with
  | accepted ends alsoEnds _ =>
    rw [ends, alsoEnds]
    exact ⟨rfl, by simp⟩
  | refused ends alsoEnds _ =>
    rw [ends, alsoEnds]
    exact ⟨rfl, by simp⟩

/-! ### Parts of tokens -/

section

variable {code : String} {column : Nat} {opening closing : Token}

/-- What stands between brackets is all that stands between the first token and the last. -/
theorem enclosed_eq (inner : List Token) (closing : Token) :
    ∃ head rest, inner ++ [closing] = head :: rest ∧ (head :: rest).getLast? = some closing ∧
      (head :: rest).dropLast = inner := by
  obtain ⟨head, rest, same⟩ := List.exists_cons_of_ne_nil (List.concat_ne_nil closing inner)
  exact ⟨head, rest, same, by rw [← same, List.getLast?_concat],
    by rw [← same, List.dropLast_concat]⟩

theorem arrowParameters_enclosed (isOpening : opening.IsSymbol (.opening .round))
    (isClosing : closing.IsSymbol (.closing .round)) (inner : List Token) :
    arrowParameters code column (opening :: (inner ++ [closing])) =
      parameterNames code column true false inner := by
  obtain ⟨lexeme, place⟩ := opening
  cases isOpening
  obtain ⟨head, rest, same, isLast, isInner⟩ := enclosed_eq inner closing
  have closes :
      ((head :: rest).getLast?.map (·.lexeme.isSymbol (.closing .round))) = some true := by
    rw [isLast, Option.map_some, Grammar.isSymbol_iff.mpr isClosing]
  rw [same, arrowParameters]
  simp only [closes, if_true, isInner]

theorem isStatementBody_enclosed (isOpening : opening.IsSymbol (.opening .curly))
    (isClosing : closing.IsSymbol (.closing .curly)) (inner : List Token) :
    isStatementBody (opening :: (inner ++ [closing])) =
      (looksLikeStatements (opening :: (inner ++ [closing])) ||
        closesAtEnd 0 (opening :: (inner ++ [closing])) &&
          (inner.isEmpty || isStatementBody inner)) := by
  obtain ⟨lexeme, place⟩ := opening
  cases isOpening
  obtain ⟨head, rest, same, isLast, isInner⟩ := enclosed_eq inner closing
  have closes :
      ((head :: rest).getLast?.map (·.lexeme.isSymbol (.closing .curly))) = some true := by
    rw [isLast, Option.map_some, Grammar.isSymbol_iff.mpr isClosing]
  rw [same, isStatementBody]
  simp only [closes, true_and, isInner]
  cases closesAtEnd 0 (⟨.symbol (.opening .curly), place⟩ :: head :: rest) <;> rfl

end

/-- Tokens with an arrow outside of all brackets have parts in front of arrows, and these with their
arrows and the rest are the tokens. Brackets are taken off as the first and the last token. -/
structure CutsExactly (code : String) : Prop where
  arrows : ∀ tokens, (∃ mark ∈ topLevel tokens, mark.IsSymbol .arrow) →
    ∃ first others last, splitAtArrows 0 [] tokens = (first :: others, last) ∧
      SplitAt tokens (first :: others) last
  parentheses : ∀ column opening inner closing, Token.IsSymbol opening (.opening .round) →
    Token.IsSymbol closing (.closing .round) →
      arrowParameters code column (opening :: (inner ++ [closing])) =
        parameterNames code column true false inner
  braces : ∀ opening inner closing, Token.IsSymbol opening (.opening .curly) →
    Token.IsSymbol closing (.closing .curly) →
      isStatementBody (opening :: (inner ++ [closing])) =
        (looksLikeStatements (opening :: (inner ++ [closing])) ||
          closesAtEnd 0 (opening :: (inner ++ [closing])) &&
            (inner.isEmpty || isStatementBody inner))

theorem cutsExactly (code : String) : CutsExactly code where
  arrows tokens := by
    rintro ⟨mark, member, isArrow⟩
    have splits := splitAtArrows_splits 0 [] tokens
    obtain ⟨further, column, others, last, same⟩ :=
      splitAtArrows_arrow [] fun arrowless => arrowless mark member isArrow
    rw [same] at splits
    exact ⟨_, others, last, same, splits⟩
  parentheses _ _ inner _ isOpening isClosing := arrowParameters_enclosed isOpening isClosing inner
  braces _ inner _ isOpening isClosing := isStatementBody_enclosed isOpening isClosing inner

/-! ### Reading a source -/

/-- Every lexeme has a character and lies in the source, and the scanner goes on behind it. At the
bound for some tokens, and at every larger one, the rules that read them accept or refuse, with the
same reply. Rules and turns of loops read a token and leave the others as they are, or a loop is
left. Where a source is cut into parts there is something to cut, and nothing is lost. -/
theorem reading_ends (code : String) :
    (∀ first rest lexeme length, Text.isBlank first = false →
      Lexeme.head first rest = .ok (lexeme, length) → 0 < length ∧ length ≤ (first :: rest).length ∧
        ∀ column, Token.scanFrom 0 column (first :: rest) =
          (Token.scanFrom 0 (column + length) ((first :: rest).drop length)).map
            (⟨lexeme, column⟩ :: ·)) ∧
    (∀ tokens, Grammar.Settled Grammar.assignment tokens ∧
      Grammar.Settled Grammar.statements tokens) ∧
    (∀ bound, Grammar.Advancing bound) ∧ Grammar.Looping ∧
    (∀ tokens, Token.scanSome code = .ok tokens → tokens ≠ []) ∧ CutsExactly code := by
  refine ⟨?_, fun tokens => ⟨?_, ?_⟩, Grammar.advancing, Grammar.looping,
    fun tokens scanned => (Token.scanSome_eq_ok.mp scanned).2, cutsExactly code⟩
  · intro first rest lexeme length notBlank found
    obtain ⟨own, others, same, isLength, _⟩ := Lexeme.head_isOwn found
    refine ⟨?_, ?_, Token.scanFrom_lexeme notBlank found⟩
    · omega
    · rw [isLength, same, List.length_cons, List.length_append]
      omega
  · exact ((Passage.whole tokens).halting _).assignment.settled List.suffix_rfl (by decide)
  · exact ((Passage.whole tokens).statements_halt _).settled ⟨List.suffix_rfl, fun _ _ => id⟩
      (by decide)

/-- The tokens of a call that is not closed. -/
def unclosed : List Token :=
  [⟨.name "f", 0⟩, ⟨.symbol (.opening .round), 1⟩, ⟨.symbol (.opening .round), 2⟩]

/-- The parser has made up its mind about them at the bound, and refuses them there. -/
theorem unclosed_ends :
    Token.scanSome "f((" = .ok unclosed ∧ unclosed ≠ [] ∧
    Grammar.assignment 1000 unclosed = Grammar.assignment (depthBound unclosed) unclosed ∧
    Grammar.assignment 1000 unclosed ≠ .exhausted := by
  obtain ⟨_, settled, _, _, nonempty, _⟩ := reading_ends "f(("
  have scanned : Token.scanSome "f((" = .ok unclosed := by cbv
  exact ⟨scanned, nonempty unclosed scanned, (settled unclosed).1 1000 (by decide)⟩

end Shorthand
