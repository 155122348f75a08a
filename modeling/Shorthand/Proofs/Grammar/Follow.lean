/-
This file says what a phrase can begin with and what behind a phrase would make it longer.

Every expression begins with one of a few kinds of token, none of which ends or separates
anything. If the token is a brace, then the expression begins with an object. Behind an expression
some tokens hold on to it: an assignment sign, a question mark, an operator or a suffix, each one
more tightly than the one before. A rule stops where the token behind its phrase holds on less
tightly than the rule goes on with.
-/

import Shorthand.Proofs.Grammar.Sound

namespace Shorthand

/-! ### First tokens -/

/-- Whether an expression can begin with the symbol. -/
def Symbol.begins : Symbol → Bool
  | .opening _ | .bang | .operator .add | .operator .subtract => true
  | _ => false

/-- The words that an expression cannot begin with. -/
def branchWords : List String := ["var", "let", "const", "return", "if", "else"]

/-- Whether an expression can begin with the lexeme. -/
def Lexeme.begins : Lexeme → Bool
  | .name spelling => !branchWords.contains spelling
  | .symbol sign => sign.begins
  | _ => true

theorem Lexeme.unaryOperator?_name {spelling : String} (differ : spelling ≠ "typeof") :
    (Lexeme.name spelling).unaryOperator? = none := by
  unfold Lexeme.unaryOperator?
  split
  · contradiction
  · contradiction
  · contradiction
  · rename_i same
    exact absurd (Lexeme.name.inj same) differ
  · rfl

namespace Token

variable {token : Token}

theorem not_isSymbol_of_begins (begins : token.lexeme.begins = true) {symbol : Symbol}
    (ends : symbol.begins = false) : ¬token.IsSymbol symbol := by
  intro isSymbol
  rw [Token.IsSymbol] at isSymbol
  rw [isSymbol, Lexeme.begins, ends] at begins
  cases begins

theorem not_isWord_of_begins (begins : token.lexeme.begins = true) {word : String}
    (isBranch : word ∈ branchWords) : ¬token.IsWord word := by
  intro isWord
  rw [Token.IsWord] at isWord
  rw [isWord, Lexeme.begins, List.contains_iff_mem.mpr isBranch] at begins
  cases begins

theorem not_isSymbol_of_isWord {word : String} (isWord : token.IsWord word) (symbol : Symbol) :
    ¬token.IsSymbol symbol := by
  intro isSymbol
  cases isWord.symm.trans isSymbol

theorem not_isWord_of_isSymbol {symbol : Symbol} (isSymbol : token.IsSymbol symbol)
    (word : String) : ¬token.IsWord word := by
  intro isWord
  cases isWord.symm.trans isSymbol

theorem IsSymbol.ne {first second : Symbol} (isSymbol : token.IsSymbol first)
    (differ : first ≠ second) : ¬token.IsSymbol second := by
  intro isOther
  exact differ (Lexeme.symbol.inj (isSymbol.symm.trans isOther))

theorem IsWord.ne {first second : String} (isWord : token.IsWord first)
    (differ : first ≠ second) : ¬token.IsWord second := by
  intro isOther
  exact differ (Lexeme.name.inj (isWord.symm.trans isOther))

end Token

namespace Phrase

variable {MayStand : List Token → Prop}

/-- The phrase has a first token, with a property. -/
def Begins (holds : Token → Prop) (phrase : List Token) : Prop :=
  ∃ token rest, phrase = token :: rest ∧ holds token

theorem Begins.append {holds : Token → Prop} {first : List Token} (begins : Begins holds first)
    (second : List Token) : Begins holds (first ++ second) := by
  obtain ⟨token, rest, rfl, property⟩ := begins
  exact ⟨token, rest ++ second, rfl, property⟩

theorem Begins.mono {holds also : Token → Prop} {phrase : List Token}
    (begins : Begins holds phrase) (implies : ∀ token, holds token → also token) :
    Begins also phrase := by
  obtain ⟨token, rest, same, property⟩ := begins
  exact ⟨token, rest, same, implies token property⟩

theorem Begins.head {holds : Token → Prop} {phrase : List Token} (begins : Begins holds phrase) :
    ∀ token ∈ phrase.head?, holds token := by
  obtain ⟨token, rest, rfl, property⟩ := begins
  intro head isHead
  rwa [← Option.some.inj isHead]

theorem Begins.length_pos {holds : Token → Prop} {phrase : List Token}
    (begins : Begins holds phrase) : 0 < phrase.length := by
  obtain ⟨token, rest, rfl, _⟩ := begins
  exact Nat.succ_pos _

/-- A token that an operand without operators in front of it can begin with. -/
structure BeginsSuffixed (token : Token) : Prop where
  begins : token.lexeme.begins = true
  noOperator : token.lexeme.unaryOperator? = none
  notNew : ¬token.IsWord "new"

theorem BeginsSuffixed.of_name {token : Token} {spelling : String}
    (isWord : token.IsWord spelling) (free : spelling ∉ ["new", "typeof"] ++ branchWords) :
    BeginsSuffixed token := by
  rw [List.mem_append, not_or] at free
  have notTypeOf : spelling ≠ "typeof" := fun same => free.1 (by rw [same]; decide)
  refine ⟨?_, ?_, isWord.ne fun same => free.1 (by rw [same]; decide)⟩
  · rw [Token.IsWord] at isWord
    rw [isWord, Lexeme.begins, Bool.not_eq_true', Bool.eq_false_iff]
    exact fun branch => free.2 (List.contains_iff_mem.mp branch)
  · rw [Token.IsWord] at isWord
    rw [isWord, Lexeme.unaryOperator?_name notTypeOf]

theorem Primary.begins {expr : Expr} {phrase : List Token}
    (primary : Primary MayStand expr phrase) : Begins BeginsSuffixed phrase := by
  have symbol {token : Token} {bracket : Bracket} (isOpening : token.IsSymbol (.opening bracket)) :
      BeginsSuffixed token := by
    refine ⟨?_, ?_, Token.not_isWord_of_isSymbol isOpening _⟩
    · rw [isOpening]
      rfl
    · rw [isOpening]
      rfl
  have literal {token : Token} (begins : token.lexeme.begins = true)
      (noOperator : token.lexeme.unaryOperator? = none)
      (noWord : ∀ word, ¬token.IsWord word) : BeginsSuffixed token :=
    ⟨begins, noOperator, noWord "new"⟩
  cases primary with
  | integer isInteger =>
    refine ⟨_, _, rfl, literal (by rw [isInteger]; rfl) (by rw [isInteger]; rfl) ?_⟩
    exact fun word isWord => nomatch isInteger.symm.trans isWord
  | float isFloat =>
    refine ⟨_, _, rfl, literal (by rw [isFloat]; rfl) (by rw [isFloat]; rfl) ?_⟩
    exact fun word isWord => nomatch isFloat.symm.trans isWord
  | string isString =>
    refine ⟨_, _, rfl, literal (by rw [isString]; rfl) (by rw [isString]; rfl) ?_⟩
    exact fun word isWord => nomatch isString.symm.trans isWord
  | hole isHole =>
    refine ⟨_, _, rfl, literal (by rw [isHole]; rfl) (by rw [isHole]; rfl) ?_⟩
    exact fun word isWord => nomatch isHole.symm.trans isWord
  | literalWord isWord isLiteral =>
    refine ⟨_, _, rfl, .of_name isWord fun reserved => ?_⟩
    have noLiteral : ∀ word ∈ ["new", "typeof"] ++ branchWords,
        (literalWord? word).isNone = true := by decide
    rw [Option.isNone_iff_eq_none.mp (noLiteral _ reserved)] at isLiteral
    cases isLiteral
  | this isWord => exact ⟨_, _, rfl, .of_name isWord (by decide)⟩
  | arguments isWord => exact ⟨_, _, rfl, .of_name isWord (by decide)⟩
  | «variable» isName _ =>
    refine ⟨_, _, rfl, .of_name isName.1 fun reserved => isName.2 ?_⟩
    have included : ∀ word ∈ ["new", "typeof"] ++ branchWords, word ∈ reservedWords := by decide
    exact included _ reserved
  | parentheses isOpening _ _ => exact ⟨_, _, rfl, symbol isOpening⟩
  | array isOpening _ _ => exact ⟨_, _, rfl, symbol isOpening⟩
  | object isOpening _ _ => exact ⟨_, _, rfl, symbol isOpening⟩
  | function isWord _ _ _ _ _ _ _ => exact ⟨_, _, rfl, .of_name isWord (by decide)⟩

theorem Suffixed.begins {expr : Expr} {phrase : List Token}
    (suffixed : Suffixed MayStand expr phrase) : Begins BeginsSuffixed phrase :=
  match suffixed with
  | .plain primary => primary.begins
  | .member base _ _ => base.begins.append _
  | .index base _ _ _ => base.begins.append _
  | .callEmpty base _ _ => base.begins.append _
  | .call base _ _ _ => base.begins.append _

/-- A token that an expression can begin with. -/
def BeginsExpression (token : Token) : Prop := token.lexeme.begins = true

theorem Operand.begins {expr : Expr} {phrase : List Token}
    (operand : Operand MayStand expr phrase) : Begins BeginsExpression phrase := by
  cases operand with
  | plain suffixed => exact suffixed.begins.mono fun _ begins => begins.begins
  | new isWord _ =>
    refine ⟨_, _, rfl, ?_⟩
    rw [BeginsExpression, isWord]
    decide
  | unary isSign _ =>
    rename_i sign _ _ _ _
    refine ⟨_, _, rfl, ?_⟩
    rw [BeginsExpression]
    revert isSign
    cases sign.lexeme with
    | name spelling =>
      by_cases isTypeOf : spelling = "typeof"
      · subst isTypeOf
        exact fun _ => by decide
      · rw [Lexeme.unaryOperator?_name isTypeOf]
        nofun
    | symbol symbol =>
      cases symbol with
      | operator operator => cases operator <;> first | exact fun _ => rfl | nofun
      | bang => exact fun _ => rfl
      | _ => nofun
    | _ => nofun

theorem Binary.begins {level : Nat} {expr : Expr} {phrase : List Token}
    (binary : Binary MayStand level expr phrase) : Begins BeginsExpression phrase :=
  match binary with
  | .plain operand => operand.begins
  | .operation _ left _ _ => left.begins.append _

theorem Conditional.begins {expr : Expr} {phrase : List Token}
    (conditional : Conditional MayStand expr phrase) : Begins BeginsExpression phrase := by
  cases conditional with
  | plain binary => exact binary.begins
  | choice condition _ _ _ _ => exact condition.begins.append _

theorem Assignment.begins {expr : Expr} {phrase : List Token}
    (assignment : Assignment MayStand expr phrase) : Begins BeginsExpression phrase := by
  cases assignment with
  | plain conditional => exact conditional.begins
  | assign left _ _ _ => exact left.begins.append _

/-- A token that a statement can begin with. -/
structure BeginsStatement (token : Token) : Prop where
  notElse : ¬token.IsWord "else"
  notClosing : ¬token.IsSymbol (.closing .curly)

theorem BeginsStatement.of_word {token : Token} {word : String} (isWord : token.IsWord word)
    (notElse : word ≠ "else") : BeginsStatement token :=
  ⟨isWord.ne notElse, Token.not_isSymbol_of_isWord isWord _⟩

theorem BeginsStatement.of_symbol {token : Token} {symbol : Symbol}
    (isSymbol : token.IsSymbol symbol) (notClosing : symbol ≠ .closing .curly) :
    BeginsStatement token :=
  ⟨Token.not_isWord_of_isSymbol isSymbol _, isSymbol.ne notClosing⟩

theorem StatementPhrase.begins {ending : Ending} {statement : Statement} {phrase : List Token}
    (derivation : StatementPhrase MayStand ending statement phrase) :
    Begins BeginsStatement phrase := by
  cases derivation with
  | empty isMark => exact ⟨_, _, rfl, .of_symbol isMark nofun⟩
  | block isOpening _ _ => exact ⟨_, _, rfl, .of_symbol isOpening nofun⟩
  | declare isWord declares _ =>
    refine ⟨_, _, rfl, .of_word isWord fun isElse => ?_⟩
    rw [isElse] at declares
    exact absurd declares (by decide)
  | returnNothing isWord _ => exact ⟨_, _, rfl, .of_word isWord (by decide)⟩
  | «return» isWord _ _ => exact ⟨_, _, rfl, .of_word isWord (by decide)⟩
  | «if» isWord _ _ _ _ => exact ⟨_, _, rfl, .of_word isWord (by decide)⟩
  | ifElse isWord _ _ _ _ _ _ => exact ⟨_, _, rfl, .of_word isWord (by decide)⟩
  | expression _ value _ =>
    refine (value.begins.append _).mono fun token begins => ⟨?_, ?_⟩
    · exact Token.not_isWord_of_begins begins (by decide)
    · exact Token.not_isSymbol_of_begins begins rfl

/-! ### Objects at the beginning -/

/-- A phrase that begins with an object if it begins with a brace, and is that object if nothing
follows. -/
def LeadsObject (MayStand : List Token → Prop) (expr : Expr) (phrase : List Token) : Prop :=
  ∀ opening ∈ phrase.head?, opening.IsSymbol (.opening .curly) →
    ∃ entries inside closing rest, phrase = opening :: (inside ++ closing :: rest) ∧
      Entries MayStand entries inside ∧ closing.IsSymbol (.closing .curly) ∧
        (rest = [] → expr = .object entries)

theorem LeadsObject.append {base : Expr} {first second : List Token}
    (leads : LeadsObject MayStand base first) {holds : Token → Prop} (begins : Begins holds first)
    (more : second ≠ []) (expr : Expr) : LeadsObject MayStand expr (first ++ second) := by
  obtain ⟨head, others, rfl, _⟩ := begins
  intro opening isHead isOpening
  obtain ⟨entries, inside, closing, rest, same, entriesPhrase, isClosing, _⟩ :=
    leads opening isHead isOpening
  refine ⟨entries, inside, closing, rest ++ second, ?_, entriesPhrase, isClosing, fun nothing => ?_⟩
  · rw [same, List.cons_append, List.append_assoc, List.cons_append]
  · exact absurd (List.append_eq_nil_iff.mp nothing).2 more

theorem LeadsObject.other {expr : Expr} {head : Token} {rest : List Token}
    (noBrace : ¬head.IsSymbol (.opening .curly)) : LeadsObject MayStand expr (head :: rest) := by
  intro opening isHead isOpening
  cases isHead
  exact absurd isOpening noBrace

theorem Primary.leadsObject {expr : Expr} {phrase : List Token} :
    Primary MayStand expr phrase → LeadsObject MayStand expr phrase
  | .object isOpening entriesPhrase isClosing => by
    rintro opening ⟨⟩ _
    exact ⟨_, _, _, [], rfl, entriesPhrase, isClosing, fun _ => rfl⟩
  | .parentheses isOpening _ _ | .array isOpening _ _ => .other (isOpening.ne (by decide))
  | .literalWord isWord _ | .this isWord | .arguments isWord | .function isWord _ _ _ _ _ _ _ =>
    .other (Token.not_isSymbol_of_isWord isWord _)
  | .variable isName _ => .other (Token.not_isSymbol_of_isWord isName.1 _)
  | .integer same | .float same | .string same | .hole same =>
    .other fun isOpening => Lexeme.noConfusion (same.symm.trans isOpening)

theorem Suffixed.leadsObject {expr : Expr} {phrase : List Token} :
    Suffixed MayStand expr phrase → LeadsObject MayStand expr phrase
  | .plain primary => primary.leadsObject
  | .member basePhrase _ _ =>
    basePhrase.leadsObject.append basePhrase.begins (List.cons_ne_nil _ _) _
  | .index basePhrase _ _ _ =>
    basePhrase.leadsObject.append basePhrase.begins (List.cons_ne_nil _ _) _
  | .callEmpty basePhrase _ _ =>
    basePhrase.leadsObject.append basePhrase.begins (List.cons_ne_nil _ _) _
  | .call basePhrase _ _ _ =>
    basePhrase.leadsObject.append basePhrase.begins (List.cons_ne_nil _ _) _

theorem Operand.leadsObject {expr : Expr} {phrase : List Token}
    (operand : Operand MayStand expr phrase) : LeadsObject MayStand expr phrase := by
  cases operand with
  | plain suffixed => exact suffixed.leadsObject
  | new isWord suffixed => exact .other (Token.not_isSymbol_of_isWord isWord _)
  | unary isSign operand =>
    refine .other fun isOpening => ?_
    rw [isOpening] at isSign
    cases isSign

theorem Binary.leadsObject {level : Nat} {expr : Expr} {phrase : List Token} :
    Binary MayStand level expr phrase → LeadsObject MayStand expr phrase
  | .plain operand => operand.leadsObject
  | .operation _ leftPhrase _ _ =>
    leftPhrase.leadsObject.append leftPhrase.begins (List.cons_ne_nil _ _) _

theorem Conditional.leadsObject {expr : Expr} {phrase : List Token}
    (conditional : Conditional MayStand expr phrase) : LeadsObject MayStand expr phrase := by
  cases conditional with
  | plain binary => exact binary.leadsObject
  | choice conditionPhrase _ _ _ _ =>
    exact conditionPhrase.leadsObject.append conditionPhrase.begins (List.cons_ne_nil _ _) _

theorem Assignment.leadsObject {expr : Expr} {phrase : List Token}
    (assignment : Assignment MayStand expr phrase) : LeadsObject MayStand expr phrase := by
  cases assignment with
  | plain conditional => exact conditional.leadsObject
  | assign leftPhrase _ _ _ =>
    exact leftPhrase.leadsObject.append leftPhrase.begins (List.cons_ne_nil _ _) _

/-- The entries of an object begin with a key. -/
theorem Entries.noBrace {entries : List (String × Expr)} {phrase : List Token}
    (entriesPhrase : Entries MayStand entries phrase) : NoBrace phrase := by
  have key {word : Token} {key : String} {rest : List Token}
      (isKey : word.lexeme.entryKey? = some key) : NoBrace (word :: rest) := by
    rintro token ⟨⟩ isOpening
    rw [isOpening] at isKey
    cases isKey
  cases entriesPhrase with
  | nil => exact fun _ isHead => nomatch isHead
  | last isKey _ _ => exact key isKey
  | cons isKey _ _ _ _ => exact key isKey

end Phrase

/-! ### What holds on to an expression -/

/-- How tightly a symbol behind an expression holds on to it. -/
def Symbol.grip : Symbol → Nat
  | .assign _ => 1
  | .question => 2
  | .operator binary => binary.level + 3
  | .dot | .opening .square | .opening .round => 10
  | _ => 0

/-- How tightly a lexeme behind an expression holds on to it. -/
def Lexeme.grip : Lexeme → Nat
  | .symbol sign => sign.grip
  | _ => 0

namespace Phrase

/-- How tightly the tokens behind an expression hold on to it. -/
def grip (rest : List Token) : Nat := (rest.head?.map (·.lexeme.grip)).getD 0

variable {rest : List Token}

theorem grip_cons {token : Token} {symbol : Symbol} (isSymbol : token.IsSymbol symbol) :
    grip (token :: rest) = symbol.grip := by
  rw [Token.IsSymbol] at isSymbol
  rw [grip, List.head?_cons, Option.map_some, Option.getD_some, isSymbol, Lexeme.grip]

/-- A symbol with another grip than the tokens is not at their head. -/
theorem head_of_grip {symbol : Symbol} (differ : grip rest ≠ symbol.grip) :
    ∀ token ∈ rest.head?, ¬token.IsSymbol symbol := by
  intro token isHead isSymbol
  cases rest with
  | nil => cases isHead
  | cons head others =>
    rw [← Option.some.inj isHead] at isSymbol
    exact differ (grip_cons isSymbol)

theorem below_of_grip {level : Nat} (loose : grip rest < level + 3) : Below level rest := by
  intro token isHead operator isSymbol
  cases rest with
  | nil => cases isHead
  | cons head others =>
    rw [← Option.some.inj isHead] at isSymbol
    rw [grip_cons isSymbol, Symbol.grip] at loose
    omega

/-- Nothing that an ended statement lacks holds on to its last expression. -/
theorem grip_of_closes {ending : Ending} {phrase : List Token} (closes : Closes ending phrase)
    (allows : Allows ending rest) : grip (phrase ++ rest) = 0 := by
  cases closes with
  | semicolon isMark => exact grip_cons isMark
  | missing =>
    cases rest with
    | nil => rfl
    | cons token others => exact grip_cons (allows token rfl)

end Phrase

end Shorthand
