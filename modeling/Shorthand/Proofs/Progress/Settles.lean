/-
This file says what it means that a rule settles tokens at two bounds.

It gives the same reply at both, accepts or refuses, and points at a token when it refuses. A token
that stands for something missing is never pointed at: it only stands in front of all tokens or
behind an operator, where a rule goes on to an operand. As for what rules ensure, such a statement
is put together along the steps of the rule.
-/

import Mathlib
import Shorthand.Proofs.Grammar.Run

namespace Shorthand

/-- Tokens among which some are gaps. A gap stands for a missing operand, in front of all tokens or
behind an operator. -/
structure Passage where
  tokens : List Token
  IsGap : Token → Prop
  isHole : ∀ token, IsGap token → ∃ position, token.lexeme = .hole position
  follows : ∀ before first second after, tokens = before ++ first :: second :: after →
    IsGap second → ∃ operator, first.IsSymbol (.operator operator)

namespace Passage

/-- Tokens in which nothing is missing. -/
def whole (tokens : List Token) : Passage where
  tokens
  IsGap _ := False
  isHole _ isGap := isGap.elim
  follows _ _ _ _ _ isGap := isGap.elim

variable (passage : Passage)

/-- What is left of a passage when some of its tokens have been read. -/
def Has (rest : List Token) : Prop := rest <:+ passage.tokens

/-- What is left of a passage and begins with no gap. -/
structure Clear (rest : List Token) : Prop where
  has : passage.Has rest
  noGap : ∀ token ∈ rest.head?, ¬passage.IsGap token

/-- A rule that stops points at a token of a passage that is no gap, or at the end. The place of
something that cannot be assigned to has another token behind it. -/
inductive Marks : Stop → Prop where
  | unexpected {token : Token} {expected : Expectation} (member : token ∈ passage.tokens)
      (noGap : ¬passage.IsGap token) : Marks (.unexpected (some token) expected)
  | atEnd {expected : Expectation} : Marks (.unexpected none expected)
  | target {before after : List Token} {first second : Token}
      (same : passage.tokens = before ++ first :: second :: after) :
      Marks (.badTarget first.column)
  | parameter {token : Token} (member : token ∈ passage.tokens) (noGap : ¬passage.IsGap token) :
      Marks (.badParameter token)

variable {passage} {token : Token} {rest : List Token}

theorem Has.tail (has : passage.Has (token :: rest)) : passage.Has rest :=
  (List.suffix_cons token rest).trans has

theorem Has.mem (has : passage.Has (token :: rest)) : token ∈ passage.tokens :=
  has.subset List.mem_cons_self

/-- Behind a token that is no operator there is no gap. -/
theorem Has.clear {lexeme : Lexeme} (has : passage.Has (token :: rest))
    (isLexeme : token.lexeme = lexeme) (noOperator : lexeme.operator? = none) :
    passage.Clear rest := by
  refine ⟨has.tail, fun next isNext isGap => ?_⟩
  obtain ⟨before, same⟩ := has
  obtain ⟨after, rfl⟩ := List.head?_eq_some_iff.mp isNext
  obtain ⟨operator, isOperator⟩ := passage.follows before token next after same.symm isGap
  rw [← isLexeme, Grammar.operator?_eq_some.mpr isOperator] at noOperator
  cases noOperator

theorem Clear.mem (clear : passage.Clear (token :: rest)) :
    token ∈ passage.tokens ∧ ¬passage.IsGap token :=
  ⟨clear.has.mem, clear.noGap token rfl⟩

theorem Clear.marks (clear : passage.Clear rest) (expected : Expectation) :
    passage.Marks (.unexpected rest.head? expected) := by
  cases rest with
  | nil => exact .atEnd
  | cons token rest => exact .unexpected clear.mem.1 clear.mem.2

end Passage

namespace Grammar

variable {α β : Type} {passage : Passage} {tokens : List Token}

/-- Two rules accept some tokens with the same outcome, or both refuse them and point at one. -/
inductive Settles (passage : Passage) (one other : Grammar α) (tokens : List Token)
    (Post : α → List Token → Prop) : Prop where
  | accepted {value : α} {rest : List Token} (ends : one tokens = .accepted value rest)
      (alsoEnds : other tokens = .accepted value rest) (post : Post value rest) :
      Settles passage one other tokens Post
  | refused {stop : Stop} (ends : one tokens = .refused stop)
      (alsoEnds : other tokens = .refused stop) (marks : passage.Marks stop) :
      Settles passage one other tokens Post

theorem bind_refused {first : Grammar β} {stop : Stop} (refuses : first tokens = .refused stop)
    (next : β → Grammar α) : (first >>= next) tokens = .refused stop := by
  have unfolded : (first >>= next) tokens = andThen first next tokens := rfl
  rw [unfolded, andThen, refuses]

namespace Settles

variable {Post : α → List Token → Prop}

theorem bind {first second : Grammar β} {next further : β → Grammar α}
    {Middle : β → List Token → Prop} (begins : Settles passage first second tokens Middle)
    (continues : ∀ value rest, Middle value rest →
      Settles passage (next value) (further value) rest Post) :
    Settles passage (first >>= next) (second >>= further) tokens Post := by
  cases begins with
  | accepted ends alsoEnds middle =>
    cases continues _ _ middle with
    | accepted nextEnds furtherEnds post =>
      exact .accepted ((bind_accepted ends next).trans nextEnds)
        ((bind_accepted alsoEnds further).trans furtherEnds) post
    | refused nextEnds furtherEnds marks =>
      exact .refused ((bind_accepted ends next).trans nextEnds)
        ((bind_accepted alsoEnds further).trans furtherEnds) marks
  | refused ends alsoEnds marks =>
    exact .refused (bind_refused ends next) (bind_refused alsoEnds further) marks

theorem pure {value : α} (holds : Post value tokens) :
    Settles passage (Pure.pure value) (Pure.pure value) tokens Post :=
  .accepted rfl rfl holds

theorem mono {one other : Grammar α} {Stronger : α → List Token → Prop}
    (settles : Settles passage one other tokens Stronger)
    (implies : ∀ value rest, Stronger value rest → Post value rest) :
    Settles passage one other tokens Post := by
  cases settles with
  | accepted ends alsoEnds post => exact .accepted ends alsoEnds (implies _ _ post)
  | refused ends alsoEnds marks => exact .refused ends alsoEnds marks

theorem refuse {stop : Stop} (marks : passage.Marks stop) :
    Settles passage (refuse stop) (refuse stop) tokens Post := .refused rfl rfl marks

theorem unexpected (clear : passage.Clear tokens) (expected : Expectation) :
    Settles passage (unexpected expected) (unexpected expected) tokens Post :=
  .refused rfl rfl (clear.marks expected)

/-- What two rules make of tokens is what other rules make of other tokens. -/
theorem of_eq {one other first second : Grammar α} {rest : List Token}
    (same : one tokens = first rest) (alsoSame : other tokens = second rest)
    (settles : Settles passage first second rest Post) :
    Settles passage one other tokens Post := by
  cases settles with
  | accepted ends alsoEnds post => exact .accepted (same.trans ends) (alsoSame.trans alsoEnds) post
  | refused ends alsoEnds marks => exact .refused (same.trans ends) (alsoSame.trans alsoEnds) marks

theorem peek {next further : Option Lexeme → Grammar α}
    (continues : Settles passage (next (tokens.head?.map (·.lexeme)))
      (further (tokens.head?.map (·.lexeme))) tokens Post) :
    Settles passage (peek >>= next) (peek >>= further) tokens Post :=
  .of_eq (peek_bind next) (peek_bind further) continues

theorem column {next further : Nat → Grammar α}
    (continues : Settles passage (next ((tokens.head?.map (·.column)).getD 0))
      (further ((tokens.head?.map (·.column)).getD 0)) tokens Post) :
    Settles passage (column >>= next) (column >>= further) tokens Post :=
  .of_eq (column_bind next) (column_bind further) continues

theorem next {following further : Option Token → Grammar α}
    (continues : Settles passage (following tokens.head?) (further tokens.head?) tokens.tail Post) :
    Settles passage (next >>= following) (next >>= further) tokens Post :=
  .of_eq (next_bind following) (next_bind further) continues

/-! ### Single tokens -/

/-- A symbol at the head chooses one of two rules. No gap follows it. -/
theorem takes {symbol : Symbol} {taken other alsoTaken alsoOther : Grammar α}
    (noOperator : (Lexeme.symbol symbol).operator? = none) (has : passage.Has tokens)
    (found : ∀ rest, passage.Clear rest → rest.length + 1 = tokens.length →
      Settles passage taken alsoTaken rest Post)
    (absent : Settles passage other alsoOther tokens Post) :
    Settles passage (do if ← takes symbol then taken else other)
      (do if ← takes symbol then alsoTaken else alsoOther) tokens Post := by
  by_cases isFound : ∃ mark ∈ tokens.head?, mark.IsSymbol symbol
  · obtain ⟨mark, isHead, isMark⟩ := isFound
    obtain ⟨rest, rfl⟩ := List.head?_eq_some_iff.mp isHead
    exact .of_eq (takes_found isMark _ _) (takes_found isMark _ _)
      (found rest (has.clear isMark noOperator) rfl)
  · have isAbsent : ∀ token ∈ tokens.head?, ¬token.IsSymbol symbol := fun token isHead isMark =>
      isFound ⟨token, isHead, isMark⟩
    exact .of_eq (takes_absent isAbsent _ _) (takes_absent isAbsent _ _) absent

/-- A word at the head chooses one of two rules. No gap follows it. -/
theorem takesWord {word : String} {taken other alsoTaken alsoOther : Grammar α}
    (has : passage.Has tokens)
    (found : ∀ rest, passage.Clear rest → rest.length + 1 = tokens.length →
      Settles passage taken alsoTaken rest Post)
    (absent : Settles passage other alsoOther tokens Post) :
    Settles passage (do if ← takesWord word then taken else other)
      (do if ← takesWord word then alsoTaken else alsoOther) tokens Post := by
  by_cases isFound : ∃ token ∈ tokens.head?, token.IsWord word
  · obtain ⟨token, isHead, isWord⟩ := isFound
    obtain ⟨rest, rfl⟩ := List.head?_eq_some_iff.mp isHead
    exact .of_eq (takesWord_found isWord _ _) (takesWord_found isWord _ _)
      (found rest (has.clear isWord rfl) rfl)
  · have isAbsent : ∀ token ∈ tokens.head?, ¬token.IsWord word := fun token isHead isWord =>
      isFound ⟨token, isHead, isWord⟩
    exact .of_eq (takesWord_absent isAbsent _ _) (takesWord_absent isAbsent _ _) absent

theorem expect {symbol : Symbol} {expected : Expectation} {next further : Unit → Grammar α}
    (noOperator : (Lexeme.symbol symbol).operator? = none) (clear : passage.Clear tokens)
    (continues : ∀ rest, passage.Clear rest → rest.length + 1 = tokens.length →
      Settles passage (next ()) (further ()) rest Post) :
    Settles passage (expect symbol expected >>= next) (expect symbol expected >>= further) tokens
      Post := by
  have reads : Settles passage (Grammar.expect symbol expected) (Grammar.expect symbol expected)
      tokens fun _ rest => passage.Clear rest ∧ rest.length + 1 = tokens.length :=
    .takes noOperator clear.has (fun rest clear read => .pure ⟨clear, read⟩) (.unexpected clear _)
  exact reads.bind fun _ rest ⟨clear, read⟩ => continues rest clear read

theorem name {expected : Expectation} (clear : passage.Clear tokens) :
    Settles passage (name expected) (name expected) tokens fun _ rest =>
      passage.Clear rest ∧ rest.length + 1 = tokens.length := by
  cases tokens with
  | nil => exact .refused rfl rfl .atEnd
  | cons token rest =>
    have marks := clear.marks expected
    by_cases isName : ∃ spelling, token.IsName spelling
    · obtain ⟨spelling, isName⟩ := isName
      refine .accepted (name_found isName expected) (name_found isName expected) ⟨?_, rfl⟩
      exact clear.has.clear isName.1 rfl
    · have refused : Grammar.name expected (token :: rest) =
          .refused (.unexpected (some token) expected) := by
        rw [Grammar.name]
        split
        · rename_i spelling isSpelling
          rw [if_pos]
          by_contra free
          exact isName ⟨spelling, isSpelling, by simpa using free⟩
        · rfl
      exact .refused refused refused marks

/-- A sign of assignment at the head is read. No gap follows it. -/
theorem assignmentSign {next further : Option (Option BinaryOperator) → Grammar α}
    (has : passage.Has tokens)
    (found : ∀ operator rest, passage.Clear rest → rest.length + 1 = tokens.length →
      Settles passage (next (some operator)) (further (some operator)) rest Post)
    (absent : Settles passage (next none) (further none) tokens Post) :
    Settles passage (assignmentSign >>= next) (assignmentSign >>= further) tokens Post := by
  by_cases isFound : ∃ sign ∈ tokens.head?, ∃ operator, sign.IsSymbol (.assign operator)
  · obtain ⟨sign, isHead, operator, isSign⟩ := isFound
    obtain ⟨rest, rfl⟩ := List.head?_eq_some_iff.mp isHead
    have reads : Grammar.assignmentSign (sign :: rest) = .accepted (some operator) rest :=
      assignmentSign_found isSign
    exact .of_eq (bind_accepted reads next) (bind_accepted reads further)
      (found operator rest (has.clear isSign rfl) rfl)
  · have stays : Grammar.assignmentSign tokens = .accepted none tokens := by
      cases tokens with
      | nil => rfl
      | cons token rest =>
        rw [Grammar.assignmentSign]
        split
        · rename_i operator isSign
          exact absurd ⟨token, rfl, operator, isSign⟩ isFound
        · rfl
    exact .of_eq (bind_accepted stays next) (bind_accepted stays further) absent

/-- An operator of at least a level at the head is read. -/
theorem operatorFrom {level : Nat} {next further : Option BinaryOperator → Grammar α}
    (has : passage.Has tokens)
    (found : ∀ operator rest, passage.Has rest → rest.length + 1 = tokens.length →
      Settles passage (next (some operator)) (further (some operator)) rest Post)
    (absent : Settles passage (next none) (further none) tokens Post) :
    Settles passage (operatorFrom level >>= next) (operatorFrom level >>= further) tokens Post := by
  by_cases isFound : ∃ sign ∈ tokens.head?, ∃ operator : BinaryOperator,
      sign.IsSymbol (.operator operator) ∧ level ≤ operator.level
  · obtain ⟨sign, isHead, operator, isSign, high⟩ := isFound
    obtain ⟨rest, rfl⟩ := List.head?_eq_some_iff.mp isHead
    have reads : Grammar.operatorFrom level (sign :: rest) = .accepted (some operator) rest :=
      operatorFrom_found isSign high
    exact .of_eq (bind_accepted reads next) (bind_accepted reads further)
      (found operator rest has.tail rfl)
  · have stays : Grammar.operatorFrom level tokens = .accepted none tokens :=
      operatorFrom_absent fun sign isHead operator isSign => Nat.not_le.mp fun high =>
        isFound ⟨sign, isHead, operator, isSign, high⟩
    exact .of_eq (bind_accepted stays next) (bind_accepted stays further) absent

end Settles

end Grammar

end Shorthand
