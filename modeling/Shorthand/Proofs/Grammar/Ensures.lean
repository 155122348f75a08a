/-
This file says what a rule ensures about the value and the tokens it leaves when it accepts.

A statement of this kind is put together along the steps of the rule: one step after the other, a
look at the head, or a symbol or word at the head that chooses how to go on. So the proof about a
rule follows its text and never runs it.
-/

import Shorthand.Proofs.Grammar.Phrase

namespace Shorthand

/-! ### What a rule ensures -/

namespace Grammar

variable {α β : Type}

/-- What a rule accepts from some tokens has a property, together with the tokens that are left. -/
def Ensures (rule : Grammar α) (tokens : List Token) (Post : α → List Token → Prop) : Prop :=
  ∀ value rest, rule tokens = .accepted value rest → Post value rest

namespace Ensures

variable {tokens : List Token} {Post : α → List Token → Prop}

theorem bind {first : Grammar β} {next : β → Grammar α} {Middle : β → List Token → Prop}
    (begins : Ensures first tokens Middle)
    (continues : ∀ value rest, Middle value rest → Ensures (next value) rest Post) :
    Ensures (first >>= next) tokens Post := by
  intro value rest accepted
  have unfolded : andThen first next tokens = .accepted value rest := accepted
  rw [andThen] at unfolded
  cases reply : first tokens with
  | accepted read middle =>
    rw [reply] at unfolded
    exact continues read middle (begins read middle reply) value rest unfolded
  | refused stop => rw [reply] at unfolded; cases unfolded
  | exhausted => rw [reply] at unfolded; cases unfolded

theorem pure {value : α} (holds : Post value tokens) :
    Ensures (Pure.pure value) tokens Post := by
  intro read rest accepted
  cases accepted
  exact holds

theorem mono {rule : Grammar α} {Stronger : α → List Token → Prop}
    (ensures : Ensures rule tokens Stronger)
    (implies : ∀ value rest, Stronger value rest → Post value rest) : Ensures rule tokens Post :=
  fun value rest accepted => implies value rest (ensures value rest accepted)

theorem and {rule : Grammar α} {Other : α → List Token → Prop}
    (ensures : Ensures rule tokens Post) (also : Ensures rule tokens Other) :
    Ensures rule tokens fun value rest => Post value rest ∧ Other value rest :=
  fun value rest accepted => ⟨ensures value rest accepted, also value rest accepted⟩

theorem pure_bind {value : β} {next : β → Grammar α}
    (continues : Ensures (next value) tokens Post) :
    Ensures (Pure.pure value >>= next) tokens Post :=
  continues

theorem refuse {stop : Stop} : Ensures (refuse stop) tokens Post := nofun

theorem unexpected {expected : Expectation} : Ensures (unexpected expected) tokens Post := nofun

theorem exhausted : Ensures exhausted tokens Post := nofun

theorem peek {next : Option Lexeme → Grammar α}
    (continues : Ensures (next (tokens.head?.map (·.lexeme))) tokens Post) :
    Ensures (peek >>= next) tokens Post :=
  continues

theorem column {following : Nat → Grammar α}
    (continues : ∀ start, Ensures (following start) tokens Post) :
    Ensures (column >>= following) tokens Post :=
  continues _

theorem next {following : Option Token → Grammar α}
    (continues : Ensures (following tokens.head?) tokens.tail Post) :
    Ensures (next >>= following) tokens Post :=
  continues

end Ensures

/-! ### Single tokens -/

theorem isSymbol_iff {token : Token} {symbol : Symbol} :
    token.lexeme.isSymbol symbol = true ↔ token.IsSymbol symbol := by
  rw [Token.IsSymbol]
  cases token.lexeme <;> simp [Lexeme.isSymbol]

theorem isName_iff {token : Token} {word : String} :
    token.lexeme.isName word = true ↔ token.IsWord word := by
  rw [Token.IsWord]
  cases token.lexeme <;> simp [Lexeme.isName]

theorem operator?_eq_some {token : Token} {operator : BinaryOperator} :
    token.lexeme.operator? = some operator ↔ token.IsSymbol (.operator operator) := by
  rw [Token.IsSymbol]
  constructor
  · intro found
    cases same : token.lexeme with
    | symbol symbol =>
      rw [same] at found
      cases symbol with
      | operator _ => rw [Option.some.inj found]
      | _ => cases found
    | _ => rw [same] at found; cases found
  · intro found
    rw [found]
    rfl

namespace Ensures

variable {tokens : List Token} {Post : α → List Token → Prop}

/-- A symbol at the head chooses one of two rules. -/
theorem takes {symbol : Symbol} {taken other : Grammar α}
    (found : ∀ mark rest, Token.IsSymbol mark symbol → tokens = mark :: rest →
      Ensures taken rest Post)
    (absent : (∀ token ∈ tokens.head?, ¬token.IsSymbol symbol) → Ensures other tokens Post) :
    Ensures (do if ← takes symbol then taken else other) tokens Post := by
  intro value rest accepted
  cases tokens with
  | nil => exact absent nofun value rest accepted
  | cons token others =>
    by_cases isSymbol : token.lexeme.isSymbol symbol
    · have read : Grammar.takes symbol (token :: others) = .accepted true others := if_pos isSymbol
      refine found token others (isSymbol_iff.mp isSymbol) rfl value rest ?_
      simpa only [Bind.bind, andThen, read, if_true] using accepted
    · have read : Grammar.takes symbol (token :: others) = .accepted false (token :: others) :=
        if_neg isSymbol
      refine absent (fun head isHead => ?_) value rest ?_
      · rwa [← Option.some.inj isHead, ← isSymbol_iff]
      · simpa only [Bind.bind, andThen, read, Bool.false_eq_true, if_false] using accepted

/-- A word at the head chooses one of two rules. -/
theorem takesWord {word : String} {taken other : Grammar α}
    (found : ∀ token rest, Token.IsWord token word → tokens = token :: rest →
      Ensures taken rest Post)
    (absent : (∀ token ∈ tokens.head?, ¬token.IsWord word) → Ensures other tokens Post) :
    Ensures (do if ← takesWord word then taken else other) tokens Post := by
  intro value rest accepted
  cases tokens with
  | nil => exact absent nofun value rest accepted
  | cons token others =>
    by_cases isWord : token.lexeme.isName word
    · have read : Grammar.takesWord word (token :: others) = .accepted true others :=
        if_pos isWord
      refine found token others (isName_iff.mp isWord) rfl value rest ?_
      simpa only [Bind.bind, andThen, read, if_true] using accepted
    · have read : Grammar.takesWord word (token :: others) = .accepted false (token :: others) :=
        if_neg isWord
      refine absent (fun head isHead => ?_) value rest ?_
      · rwa [← Option.some.inj isHead, ← isName_iff]
      · simpa only [Bind.bind, andThen, read, Bool.false_eq_true, if_false] using accepted

theorem expect {symbol : Symbol} {expected : Expectation} {following : Unit → Grammar α}
    (continues : ∀ mark rest, Token.IsSymbol mark symbol → tokens = mark :: rest →
      Ensures (following ()) rest Post) :
    Ensures (expect symbol expected >>= following) tokens Post := by
  have reads : Ensures (Grammar.expect symbol expected) tokens fun _ rest =>
      ∃ mark : Token, mark.IsSymbol symbol ∧ tokens = mark :: rest :=
    .takes (fun mark rest isMark same => .pure ⟨mark, isMark, same⟩) fun _ => .unexpected
  exact reads.bind fun _ rest ⟨mark, isMark, same⟩ => continues mark rest isMark same

end Ensures

variable {tokens : List Token}

theorem name_ensures {expected : Expectation} :
    Ensures (name expected) tokens fun spelling rest =>
      ∃ token : Token, token.IsName spelling ∧ tokens = token :: rest := by
  intro spelling rest accepted
  cases tokens with
  | nil => cases accepted
  | cons token others =>
    rw [name] at accepted
    split at accepted
    · rename_i found isName
      split at accepted
      · cases accepted
      · rename_i free
        cases accepted
        exact ⟨token, ⟨isName, by simpa using free⟩, rfl⟩
    · cases accepted

end Grammar

namespace Phrase

/-- No binary operator of at least a level stands in front. -/
def Below (level : Nat) (rest : List Token) : Prop :=
  ∀ token ∈ rest.head?, ∀ operator, token.IsSymbol (.operator operator) → operator.level < level

end Phrase

namespace Grammar

variable {tokens : List Token}

theorem operatorFrom_ensures {level : Nat} :
    Ensures (operatorFrom level) tokens fun found rest =>
      (∃ operator sign, found = some operator ∧ Token.IsSymbol sign (.operator operator) ∧
        level ≤ operator.level ∧ tokens = sign :: rest) ∨
      (found = none ∧ tokens = rest ∧ Phrase.Below level tokens) := by
  intro found rest accepted
  cases tokens with
  | nil =>
    cases accepted
    exact .inr ⟨rfl, rfl, nofun⟩
  | cons token others =>
    rw [operatorFrom] at accepted
    cases isOperator : token.lexeme.operator? with
    | none =>
      rw [isOperator] at accepted
      cases accepted
      refine .inr ⟨rfl, rfl, fun head isHead operator isSign => ?_⟩
      rw [← Option.some.inj isHead, ← operator?_eq_some, isOperator] at isSign
      cases isSign
    | some operator =>
      simp only [isOperator] at accepted
      split at accepted
      · rename_i bound
        cases accepted
        exact .inl ⟨operator, token, rfl, operator?_eq_some.mp isOperator, bound, rfl⟩
      · rename_i low
        cases accepted
        refine .inr ⟨rfl, rfl, fun head isHead other isSign => ?_⟩
        rw [← Option.some.inj isHead, ← operator?_eq_some, isOperator] at isSign
        rw [← Option.some.inj isSign]
        omega

theorem assignmentSign_ensures :
    Ensures assignmentSign tokens fun found rest =>
      (∃ operator sign, found = some operator ∧ Token.IsSymbol sign (.assign operator) ∧
        tokens = sign :: rest) ∨ (found = none ∧ tokens = rest) := by
  intro found rest accepted
  cases tokens with
  | nil =>
    cases accepted
    exact .inr ⟨rfl, rfl⟩
  | cons token others =>
    rw [assignmentSign] at accepted
    split at accepted
    · rename_i operator isSign
      cases accepted
      exact .inl ⟨operator, token, rfl, isSign, rfl⟩
    · cases accepted
      exact .inr ⟨rfl, rfl⟩

end Grammar

end Shorthand
