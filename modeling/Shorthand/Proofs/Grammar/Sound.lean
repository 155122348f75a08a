/-
This file shows that every rule reads a phrase of its form.

A rule at a bound relies on the rules at the bound below it, so the proof is an induction on the
bound with one step for every rule. Two rules need to know what they stop at: no operator that a
binary expression could go on with follows it, and what follows a statement is allowed by what the
statement lacks.
-/

import Shorthand.Proofs.Grammar.Ensures

namespace Shorthand

/-! ### What rules read -/

namespace Phrase

open Grammar (Ensures)

/-- What may follow a statement, by what it lacks at its end. -/
def Allows : Ending → List Token → Prop
  | .complete, _ => True
  | .lacksElse, rest => ∀ token ∈ rest.head?, ¬token.IsWord "else"
  | .lacksSemicolon, rest => ∀ token ∈ rest.head?, token.IsSymbol (.closing .curly)

variable {α : Type}

/-- What a rule reads is a phrase of some kind. -/
def Reads (rule : Grammar α) (Means : α → List Token → Prop) : Prop :=
  ∀ tokens, Ensures rule tokens fun value rest =>
    ∃ phrase, tokens = phrase ++ rest ∧ Means value phrase

/-- What a rule reads is a phrase of some kind with a closing symbol behind it. -/
def ReadsUpTo (symbol : Symbol) (rule : Grammar α) (Means : α → List Token → Prop) : Prop :=
  ∀ tokens, Ensures rule tokens fun value rest =>
    ∃ phrase closing, tokens = phrase ++ closing :: rest ∧ closing.IsSymbol symbol ∧
      Means value phrase

/-- What a rule reads is a statement or part of one, and what it lacks at its end is allowed by
the tokens behind it. -/
def ReadsEnded (rule : Grammar α) (Means : Ending → α → List Token → Prop) : Prop :=
  ∀ tokens, Ensures rule tokens fun value rest =>
    ∃ phrase ending, tokens = phrase ++ rest ∧ Means ending value phrase ∧ Allows ending rest

/-- All rules read phrases of their kinds at a bound. The rules that go on with an expression
extend a phrase that has been read before. -/
structure Sound (bound : Nat) : Prop where
  assignment : Reads (Grammar.assignment bound) (Assignment NoBrace)
  conditional : Reads (Grammar.conditional bound) (Conditional NoBrace)
  binary : ∀ level tokens, Ensures (Grammar.binary bound level) tokens fun expr rest =>
    ∃ phrase, tokens = phrase ++ rest ∧ Binary NoBrace level expr phrase ∧ Below level rest
  operations : ∀ level left first tokens, Binary NoBrace level left first →
    (∀ operator, (∃ token ∈ tokens.head?, token.IsSymbol (.operator operator)) →
      Binary NoBrace operator.level left first) →
    Ensures (Grammar.operations bound level left) tokens fun expr rest =>
      ∃ phrase, tokens = phrase ++ rest ∧ Binary NoBrace level expr (first ++ phrase) ∧
        Below level rest
  unary : Reads (Grammar.unary bound) (Operand NoBrace)
  suffixed : Reads (Grammar.suffixed bound) (Suffixed NoBrace)
  suffixes : ∀ base first, Suffixed NoBrace base first →
    Reads (Grammar.suffixes bound base) fun expr phrase =>
      Suffixed NoBrace expr (first ++ phrase)
  operands : ReadsUpTo (.closing .round) (Grammar.operands bound) (Operands NoBrace)
  primary : Reads (Grammar.primary bound) (Primary NoBrace)
  items : ReadsUpTo (.closing .square) (Grammar.items bound) (Items NoBrace)
  entries : ReadsUpTo (.closing .curly) (Grammar.entries bound) (Entries NoBrace)
  function : ∀ word : Token, word.IsWord "function" →
    Reads (Grammar.function bound) fun expr phrase => Primary NoBrace expr (word :: phrase)
  block : ReadsUpTo (.closing .curly) (Grammar.block bound) (Block NoBrace)
  statement : ReadsEnded (Grammar.statement bound) (StatementPhrase NoBrace)
  declarations : ReadsEnded (Grammar.declarations bound) (Declarations NoBrace)

/-! ### Rules without expressions -/

theorem endStatement_closes :
    ReadsEnded Grammar.endStatement fun ending _ phrase => Closes ending phrase := by
  intro tokens
  refine .takes ?_ ?_
  · rintro mark rest isMark rfl
    exact .pure ⟨[mark], .complete, rfl, .semicolon isMark, trivial⟩
  · intro _
    refine .peek ?_
    cases tokens with
    | nil => exact .pure ⟨[], .lacksSemicolon, rfl, .missing, nofun⟩
    | cons token others =>
      rw [List.head?_cons, Option.map_some]
      have missing (closes : token.IsSymbol (.closing .curly)) :
          ∃ phrase ending, token :: others = phrase ++ token :: others ∧ Closes ending phrase ∧
            Allows ending (token :: others) := by
        refine ⟨[], .lacksSemicolon, rfl, .missing, fun head isHead => ?_⟩
        rwa [← Option.some.inj isHead]
      cases isLexeme : token.lexeme with
      | symbol symbol =>
        cases symbol with
        | closing bracket =>
          cases bracket with
          | curly => exact .pure (missing isLexeme)
          | _ => exact .unexpected
        | _ => exact .unexpected
      | _ => exact .unexpected

theorem parameters_reads (bound : Nat) :
    ReadsUpTo (.closing .round) (Grammar.parameters bound) Parameters := by
  induction bound with
  | zero => exact fun _ => .exhausted
  | succ bound inductionHypothesis =>
    intro tokens
    rw [Grammar.parameters]
    refine .next ?_
    cases tokens with
    | nil => exact .refuse
    | cons token others =>
      rw [List.head?_cons, List.tail_cons]
      cases isSpelling : token.lexeme with
      | name spelling =>
        simp only [isSpelling]
        by_cases reserved : reservedWords.contains spelling
        · rw [if_pos reserved]
          exact .refuse
        · rw [if_neg reserved]
          have isName : token.IsName spelling := ⟨isSpelling, by simpa using reserved⟩
          refine .takes ?_ fun _ => .takes ?_ fun _ => .unexpected
          · rintro mark others isComma rfl
            refine .bind (inductionHypothesis _) ?_
            rintro names rest ⟨phrase, closing, rfl, isClosing, parameters⟩
            exact .pure ⟨token :: mark :: phrase, closing, rfl, isClosing,
              .cons isName isComma parameters⟩
          · rintro closing rest isClosing rfl
            exact .pure ⟨[token], closing, rfl, isClosing, .single isName⟩
      | _ => simp only [isSpelling]; exact .refuse

/-! ### Steps for expressions -/

variable {bound : Nat}

theorem Sound.assignment_step (sound : Sound bound) :
    Reads (Grammar.assignment (bound + 1)) (Assignment NoBrace) := by
  intro tokens
  rw [Grammar.assignment]
  refine .column fun start => .bind (sound.conditional _) ?_
  rintro left _ ⟨first, rfl, leftPhrase⟩
  refine .bind Grammar.assignmentSign_ensures ?_
  rintro _ rest (⟨operator, sign, rfl, isSign, rfl⟩ | ⟨rfl, rfl⟩)
  · cases isTarget : left.target? with
    | none => simp only; exact .refuse
    | some target =>
      simp only
      refine .bind (sound.assignment _) ?_
      rintro value rest ⟨second, rfl, valuePhrase⟩
      exact .pure ⟨first ++ sign :: second, by simp,
        .assign leftPhrase isTarget isSign valuePhrase⟩
  · exact .pure ⟨first, rfl, .plain leftPhrase⟩

theorem Sound.conditional_step (sound : Sound bound) :
    Reads (Grammar.conditional (bound + 1)) (Conditional NoBrace) := by
  intro tokens
  rw [Grammar.conditional]
  refine .bind (sound.binary 0 _) ?_
  rintro condition _ ⟨first, rfl, conditionPhrase, _⟩
  refine .takes ?_ fun _ => .pure ⟨first, rfl, .plain conditionPhrase⟩
  rintro question _ isQuestion rfl
  refine .bind (sound.assignment _) ?_
  rintro positive _ ⟨second, rfl, positivePhrase⟩
  refine .expect ?_
  rintro colon _ isColon rfl
  refine .bind (sound.assignment _) ?_
  rintro negative rest ⟨third, rfl, negativePhrase⟩
  exact .pure ⟨first ++ question :: (second ++ colon :: third), by simp,
    .choice conditionPhrase isQuestion positivePhrase isColon negativePhrase⟩

theorem Sound.binary_step (sound : Sound bound) (level : Nat) (tokens : List Token) :
    Ensures (Grammar.binary (bound + 1) level) tokens fun expr rest =>
      ∃ phrase, tokens = phrase ++ rest ∧ Binary NoBrace level expr phrase ∧
        Below level rest := by
  rw [Grammar.binary]
  refine .bind (sound.unary _) ?_
  rintro left middle ⟨first, rfl, operand⟩
  refine (sound.operations level left first middle (.plain operand)
    fun _ _ => .plain operand).mono ?_
  rintro expr rest ⟨second, rfl, binary, below⟩
  exact ⟨first ++ second, by simp, binary, below⟩

/-- The right operand binds more tightly than the operator, so the next operator does not, and the
whole operation can be its left operand. -/
theorem Sound.operations_step (sound : Sound bound) (level : Nat) (left : Expr)
    (first tokens : List Token) (leftPhrase : Binary NoBrace level left first)
    (leftOperand : ∀ operator, (∃ token ∈ tokens.head?, token.IsSymbol (.operator operator)) →
      Binary NoBrace operator.level left first) :
    Ensures (Grammar.operations (bound + 1) level left) tokens fun expr rest =>
      ∃ phrase, tokens = phrase ++ rest ∧ Binary NoBrace level expr (first ++ phrase) ∧
        Below level rest := by
  rw [Grammar.operations]
  refine .bind Grammar.operatorFrom_ensures ?_
  rintro _ _ (⟨operator, sign, rfl, isSign, high, rfl⟩ | ⟨rfl, rfl, below⟩)
  · refine .bind (sound.binary _ _) ?_
    rintro right middle ⟨second, rfl, rightPhrase, below⟩
    have leftPhrase := leftOperand operator ⟨sign, rfl, isSign⟩
    have following (next : BinaryOperator)
        (isNext : ∃ token ∈ middle.head?, token.IsSymbol (.operator next)) :
        Binary NoBrace next.level (.binary operator left right) (first ++ sign :: second) := by
      obtain ⟨token, isHead, isSign'⟩ := isNext
      exact .operation (Nat.le_of_lt_succ (below token isHead next isSign')) leftPhrase isSign
        rightPhrase
    refine (sound.operations level (.binary operator left right) (first ++ sign :: second) middle
      (.operation high leftPhrase isSign rightPhrase) following).mono ?_
    rintro expr rest ⟨third, rfl, binary, below⟩
    exact ⟨sign :: (second ++ third), by simp, by simpa using binary, below⟩
  · exact .pure ⟨[], rfl, by rwa [List.append_nil], below⟩

theorem Sound.unary_step (sound : Sound bound) :
    Reads (Grammar.unary (bound + 1)) (Operand NoBrace) := by
  intro tokens
  rw [Grammar.unary]
  refine .takesWord ?_ fun _ => .peek ?_
  · rintro word middle isWord rfl
    refine (sound.suffixed middle).mono ?_
    rintro expr rest ⟨phrase, rfl, suffixed⟩
    exact ⟨word :: phrase, rfl, .new isWord suffixed⟩
  · cases isOperator : (tokens.head?.map (·.lexeme)).bind Lexeme.unaryOperator? with
    | none =>
      refine (sound.suffixed tokens).mono ?_
      rintro expr rest ⟨phrase, rfl, suffixed⟩
      exact ⟨phrase, rfl, .plain suffixed⟩
    | some operator =>
      cases tokens with
      | nil => cases isOperator
      | cons sign others =>
        refine .next (.bind (sound.unary _) ?_)
        rintro expr rest ⟨phrase, same, operand⟩
        rw [List.tail_cons] at same
        rw [same]
        exact .pure ⟨sign :: phrase, rfl, .unary isOperator operand⟩

theorem Sound.suffixed_step (sound : Sound bound) :
    Reads (Grammar.suffixed (bound + 1)) (Suffixed NoBrace) := by
  intro tokens
  rw [Grammar.suffixed]
  refine .bind (sound.primary _) ?_
  rintro base middle ⟨first, rfl, primary⟩
  refine (sound.suffixes base first (.plain primary) middle).mono ?_
  rintro expr rest ⟨second, rfl, suffixed⟩
  exact ⟨first ++ second, by simp, suffixed⟩

/-- One suffix is read, and the rest extends the longer phrase. -/
theorem Sound.suffixes_further (sound : Sound bound) {base : Expr} {first read : List Token}
    (suffixed : Suffixed NoBrace base (first ++ read)) (middle : List Token) :
    Ensures (Grammar.suffixes bound base) middle fun expr rest =>
      ∃ phrase, read ++ middle = phrase ++ rest ∧ Suffixed NoBrace expr (first ++ phrase) := by
  refine (sound.suffixes base (first ++ read) suffixed middle).mono ?_
  rintro expr rest ⟨phrase, rfl, further⟩
  exact ⟨read ++ phrase, by simp, by simpa using further⟩

theorem Sound.suffixes_step (sound : Sound bound) (base : Expr) (first : List Token)
    (suffixed : Suffixed NoBrace base first) :
    Reads (Grammar.suffixes (bound + 1) base) fun expr phrase =>
      Suffixed NoBrace expr (first ++ phrase) := by
  intro tokens
  rw [Grammar.suffixes]
  refine .takes ?_ fun _ => .takes ?_ fun _ => .takes ?_ fun _ => ?_
  · rintro dot middle isDot rfl
    refine .next ?_
    cases middle with
    | nil => exact .refuse
    | cons word middle =>
      obtain ⟨lexeme, column⟩ := word
      cases lexeme with
      | name spelling =>
        have isWord : Token.IsWord ⟨.name spelling, column⟩ spelling := rfl
        exact sound.suffixes_further (.member suffixed isDot isWord) middle
      | _ => exact .refuse
  · rintro opening _ isOpening rfl
    refine .bind (sound.assignment _) ?_
    rintro key _ ⟨phrase, rfl, keyPhrase⟩
    refine .expect ?_
    rintro closing middle isClosing rfl
    simpa using sound.suffixes_further (.index suffixed isOpening keyPhrase isClosing) middle
  · rintro opening _ isOpening rfl
    refine .takes ?_ fun _ => .bind (sound.operands _) ?_
    · rintro closing middle isClosing rfl
      exact sound.suffixes_further (.callEmpty suffixed isOpening isClosing) middle
    · rintro operands middle ⟨phrase, closing, rfl, isClosing, operandsPhrase⟩
      simpa using sound.suffixes_further
        (.call suffixed isOpening operandsPhrase isClosing) middle
  · exact .pure ⟨[], rfl, by simpa using suffixed⟩

theorem Sound.operands_step (sound : Sound bound) :
    ReadsUpTo (.closing .round) (Grammar.operands (bound + 1)) (Operands NoBrace) := by
  intro tokens
  rw [Grammar.operands]
  refine .bind (sound.assignment _) ?_
  rintro expr _ ⟨first, rfl, assignment⟩
  refine .takes ?_ fun _ => .takes ?_ fun _ => .unexpected
  · rintro mark _ isComma rfl
    refine .bind (sound.operands _) ?_
    rintro others rest ⟨second, closing, rfl, isClosing, operands⟩
    exact .pure ⟨first ++ mark :: second, closing, by simp, isClosing,
      .cons assignment isComma operands⟩
  · rintro closing rest isClosing rfl
    exact .pure ⟨first, closing, rfl, isClosing, .single assignment⟩

/-- A token that is an expression by itself. -/
theorem single_reads {expr : Expr} {token : Token} {rest : List Token}
    (primary : Primary NoBrace expr [token]) :
    Ensures (pure expr) rest fun expr left =>
      ∃ phrase, token :: rest = phrase ++ left ∧ Primary NoBrace expr phrase :=
  .pure ⟨[token], rfl, primary⟩

theorem Sound.word_step (sound : Sound bound) {token : Token} {spelling : String}
    (isSpelling : token.lexeme = .name spelling) (others : List Token) :
    Ensures (Grammar.primary (bound + 1)) (token :: others) fun expr rest =>
      ∃ phrase, token :: others = phrase ++ rest ∧ Primary NoBrace expr phrase := by
  rw [Grammar.primary]
  refine .next ?_
  simp only [List.head?_cons, List.tail_cons, isSpelling]
  by_cases isThis : spelling = "this"
  · subst isThis
    exact single_reads (.this isSpelling)
  by_cases isArguments : spelling = "arguments"
  · subst isArguments
    exact single_reads (.arguments isSpelling)
  by_cases isFunction : spelling = "function"
  · subst isFunction
    refine (sound.function token isSpelling others).mono ?_
    rintro expr rest ⟨phrase, rfl, primary⟩
    exact ⟨token :: phrase, rfl, primary⟩
  simp only
  cases isLiteral : literalWord? spelling with
  | some literal => exact single_reads (.literalWord isSpelling isLiteral)
  | none =>
    by_cases reserved : reservedWords.contains spelling
    · simp only [reserved, if_true]
      exact .refuse
    · simp only [reserved]
      exact single_reads (.variable ⟨isSpelling, by simpa using reserved⟩ isLiteral)

theorem Sound.primary_step (sound : Sound bound) :
    Reads (Grammar.primary (bound + 1)) (Primary NoBrace) := by
  intro tokens
  cases tokens with
  | nil =>
    rw [Grammar.primary]
    exact .next .refuse
  | cons token others =>
    cases isLexeme : token.lexeme with
    | name spelling => exact sound.word_step isLexeme others
    | symbol symbol =>
      rw [Grammar.primary]
      refine .next ?_
      simp only [List.head?_cons, List.tail_cons, isLexeme]
      cases symbol with
      | opening bracket =>
        cases bracket with
        | round =>
          refine .bind (sound.assignment _) ?_
          rintro inner _ ⟨phrase, rfl, innerPhrase⟩
          refine .expect ?_
          rintro closing rest isClosing rfl
          exact .pure ⟨token :: (phrase ++ [closing]), by simp,
            .parentheses isLexeme innerPhrase isClosing⟩
        | square =>
          refine .bind (sound.items _) ?_
          rintro items rest ⟨phrase, closing, rfl, isClosing, itemsPhrase⟩
          exact .pure ⟨token :: (phrase ++ [closing]), by simp,
            .array isLexeme itemsPhrase isClosing⟩
        | curly =>
          refine .bind (sound.entries _) ?_
          rintro entries rest ⟨phrase, closing, rfl, isClosing, entriesPhrase⟩
          exact .pure ⟨token :: (phrase ++ [closing]), by simp,
            .object isLexeme entriesPhrase isClosing⟩
      | _ => exact .refuse
    | integer value =>
      rw [Grammar.primary]
      refine .next ?_
      simp only [List.head?_cons, List.tail_cons, isLexeme]
      exact single_reads (.integer isLexeme)
    | float value =>
      rw [Grammar.primary]
      refine .next ?_
      simp only [List.head?_cons, List.tail_cons, isLexeme]
      exact single_reads (.float isLexeme)
    | string value =>
      rw [Grammar.primary]
      refine .next ?_
      simp only [List.head?_cons, List.tail_cons, isLexeme]
      exact single_reads (.string isLexeme)
    | hole position =>
      rw [Grammar.primary]
      refine .next ?_
      simp only [List.head?_cons, List.tail_cons, isLexeme]
      exact single_reads (.hole isLexeme)

theorem Sound.items_step (sound : Sound bound) :
    ReadsUpTo (.closing .square) (Grammar.items (bound + 1)) (Items NoBrace) := by
  intro tokens
  rw [Grammar.items]
  refine .takes ?_ fun _ => .bind (sound.assignment _) ?_
  · rintro closing rest isClosing rfl
    exact .pure ⟨[], closing, rfl, isClosing, .nil⟩
  · rintro expr _ ⟨first, rfl, assignment⟩
    refine .takes ?_ fun _ => .takes ?_ fun _ => .unexpected
    · rintro mark _ isComma rfl
      refine .bind (sound.items _) ?_
      rintro others rest ⟨second, closing, rfl, isClosing, items⟩
      exact .pure ⟨first ++ mark :: second, closing, by simp, isClosing,
        .cons assignment isComma items⟩
    · rintro closing rest isClosing rfl
      exact .pure ⟨first, closing, rfl, isClosing, .last assignment⟩

theorem Sound.entries_step (sound : Sound bound) :
    ReadsUpTo (.closing .curly) (Grammar.entries (bound + 1)) (Entries NoBrace) := by
  intro tokens
  rw [Grammar.entries]
  refine .takes ?_ fun _ => .next ?_
  · rintro closing rest isClosing rfl
    exact .pure ⟨[], closing, rfl, isClosing, .nil⟩
  · cases tokens with
    | nil => exact .refuse
    | cons word others =>
      simp only [List.head?_cons, List.tail_cons, Option.bind_some]
      cases isKey : word.lexeme.entryKey? with
      | none => exact .refuse
      | some key =>
        refine .expect ?_
        rintro colon _ isColon rfl
        refine .bind (sound.assignment _) ?_
        rintro expr _ ⟨first, rfl, assignment⟩
        refine .takes ?_ fun _ => .takes ?_ fun _ => .unexpected
        · rintro mark _ isComma rfl
          refine .bind (sound.entries _) ?_
          rintro others rest ⟨second, closing, rfl, isClosing, entries⟩
          exact .pure ⟨word :: colon :: (first ++ mark :: second), closing, by simp, isClosing,
            .cons isKey isColon assignment isComma entries⟩
        · rintro closing rest isClosing rfl
          exact .pure ⟨word :: colon :: first, closing, rfl, isClosing,
            .last isKey isColon assignment⟩

theorem Sound.function_step (sound : Sound bound) (word : Token) (isWord : word.IsWord "function") :
    Reads (Grammar.function (bound + 1)) fun expr phrase =>
      Primary NoBrace expr (word :: phrase) := by
  have body (names : List String) {label : String} {first second : List Token}
      {openingRound closingRound : Token} (labelPhrase : Label label first)
      (isOpeningRound : openingRound.IsSymbol (.opening .round))
      (parametersPhrase : ParameterList names second)
      (isClosingRound : closingRound.IsSymbol (.closing .round)) (middle : List Token) :
      Ensures (do
        Grammar.expect (.opening .curly) .openingBrace
        return .function names (.statements (← Grammar.block bound)) label) middle
        fun expr rest => ∃ phrase,
          first ++ openingRound :: (second ++ closingRound :: middle) = phrase ++ rest ∧
            Primary NoBrace expr (word :: phrase) := by
    refine .expect ?_
    rintro openingCurly _ isOpeningCurly rfl
    refine .bind (sound.block _) ?_
    rintro block rest ⟨third, closingCurly, rfl, isClosingCurly, blockPhrase⟩
    exact .pure ⟨first ++ openingRound :: (second ++ closingRound :: openingCurly ::
      (third ++ [closingCurly])), by simp, .function isWord labelPhrase isOpeningRound
        parametersPhrase isClosingRound isOpeningCurly blockPhrase isClosingCurly⟩
  have afterLabel {label : String} {first : List Token} (labelPhrase : Label label first)
      (middle : List Token) :
      Ensures (do
        Grammar.expect (.opening .round) .openingParenthesis
        let names ← if ← Grammar.takes (.closing .round) then pure []
          else Grammar.parameters bound
        Grammar.expect (.opening .curly) .openingBrace
        return .function names (.statements (← Grammar.block bound)) label) middle
        fun expr rest => ∃ phrase, first ++ middle = phrase ++ rest ∧
          Primary NoBrace expr (word :: phrase) := by
    refine .expect ?_
    rintro openingRound _ isOpeningRound rfl
    refine .takes ?_ fun _ => .bind (parameters_reads bound _) ?_
    · rintro closingRound middle isClosingRound rfl
      exact .pure_bind (body [] labelPhrase isOpeningRound .none isClosingRound middle)
    · rintro names middle ⟨second, closingRound, rfl, isClosingRound, parameters⟩
      exact body names labelPhrase isOpeningRound (.some parameters) isClosingRound middle
  intro tokens
  rw [Grammar.function]
  refine .peek ?_
  cases tokens with
  | nil => exact .pure_bind (afterLabel .none [])
  | cons token others =>
    rw [List.head?_cons, Option.map_some]
    cases isLexeme : token.lexeme with
    | name _ =>
      refine .bind Grammar.name_ensures ?_
      rintro label middle ⟨token, isName, same⟩
      rw [same]
      exact afterLabel (.some isName) middle
    | _ => exact .pure_bind (afterLabel .none _)

/-! ### Steps for statements -/

/-- A closing brace in front leaves nothing for a block. -/
theorem block_of_closing (bound : Nat) {tokens : List Token}
    (closing : ∀ token ∈ tokens.head?, token.IsSymbol (.closing .curly)) :
    Ensures (Grammar.block bound) tokens fun statements _ => statements = [] := by
  cases bound with
  | zero => exact .exhausted
  | succ bound =>
    rw [Grammar.block]
    refine .takes (fun _ _ _ _ => .pure rfl) fun open_ => .peek ?_
    cases tokens with
    | nil => exact .unexpected
    | cons token others => exact absurd (closing token rfl) (open_ token rfl)

theorem Sound.block_step (sound : Sound bound) :
    ReadsUpTo (.closing .curly) (Grammar.block (bound + 1)) (Block NoBrace) := by
  intro tokens
  rw [Grammar.block]
  refine .takes ?_ fun _ => .peek ?_
  · rintro closing rest isClosing rfl
    exact .pure ⟨[], closing, rfl, isClosing, .nil⟩
  · cases tokens with
    | nil => exact .unexpected
    | cons token others =>
      refine .bind (sound.statement _) ?_
      rintro statement middle ⟨first, ending, same, statementPhrase, allows⟩
      rw [same]
      have nothing : Ensures (Grammar.block bound) middle fun statements _ =>
          ending = .lacksSemicolon → statements = [] := by
        by_cases lacks : ending = .lacksSemicolon
        · subst lacks
          exact (block_of_closing bound allows).mono fun _ _ none _ => none
        · exact fun _ _ _ contradiction => absurd contradiction lacks
      refine .bind ((sound.block middle).and nothing) ?_
      rintro statements rest ⟨⟨second, closing, rfl, isClosing, block⟩, separated⟩
      exact .pure ⟨first ++ second, closing, by simp, isClosing,
        .cons statementPhrase block separated⟩

theorem Sound.declarations_step (sound : Sound bound) :
    ReadsEnded (Grammar.declarations (bound + 1)) (Declarations NoBrace) := by
  have afterInitial {token : Token} {name : String} {initial : Option Expr} {first : List Token}
      (isName : token.IsName name) (initialPhrase : Initial NoBrace initial first)
      (middle : List Token) :
      Ensures (do
        if ← Grammar.takes .comma then return (name, initial) :: (← Grammar.declarations bound)
        else
          Grammar.endStatement
          return [(name, initial)]) middle
        fun declarations rest => ∃ phrase ending, token :: (first ++ middle) = phrase ++ rest ∧
          Declarations NoBrace ending declarations phrase ∧ Allows ending rest := by
    refine .takes ?_ fun _ => .bind (endStatement_closes _) ?_
    · rintro mark _ isComma rfl
      refine .bind (sound.declarations _) ?_
      rintro others rest ⟨second, ending, rfl, further, allows⟩
      exact .pure ⟨token :: (first ++ mark :: second), ending, by simp,
        .cons isName initialPhrase isComma further, allows⟩
    · rintro _ rest ⟨second, ending, rfl, closes, allows⟩
      exact .pure ⟨token :: (first ++ second), ending, by simp,
        .last isName initialPhrase closes, allows⟩
  intro tokens
  rw [Grammar.declarations]
  refine .bind Grammar.name_ensures ?_
  rintro name middle ⟨token, isName, rfl⟩
  refine .peek ?_
  cases middle with
  | nil => exact .pure_bind (afterInitial isName .none [])
  | cons sign others =>
    rw [List.head?_cons, Option.map_some]
    have noInitial := afterInitial isName .none (sign :: others)
    cases isLexeme : sign.lexeme with
    | symbol symbol =>
      cases symbol with
      | assign operator =>
        cases operator with
        | none =>
          refine .next (.bind (sound.assignment _) ?_)
          rintro value middle ⟨phrase, same, valuePhrase⟩
          rw [List.tail_cons] at same
          rw [same]
          exact .pure_bind (afterInitial isName (.some isLexeme valuePhrase) middle)
        | some _ => exact .pure_bind noInitial
      | _ => exact .pure_bind noInitial
    | _ => exact .pure_bind noInitial

theorem Sound.declare_reads (sound : Sound bound) {word : Token} {spelling : String}
    (isWord : word.IsWord spelling) (declares : spelling ∈ ["var", "let", "const"])
    (middle : List Token) :
    Ensures (do return .declare (← Grammar.declarations bound)) middle fun statement rest =>
      ∃ phrase ending, word :: middle = phrase ++ rest ∧
        StatementPhrase NoBrace ending statement phrase ∧ Allows ending rest := by
  refine .bind (sound.declarations _) ?_
  rintro declarations rest ⟨phrase, ending, rfl, declarationsPhrase, allows⟩
  exact .pure ⟨word :: phrase, ending, rfl, .declare isWord declares declarationsPhrase, allows⟩

theorem returnNothing_reads {word : Token} (isWord : word.IsWord "return") (middle : List Token) :
    Ensures (do
      Grammar.endStatement
      return .return none) middle fun statement rest =>
      ∃ phrase ending, word :: middle = phrase ++ rest ∧
        StatementPhrase NoBrace ending statement phrase ∧ Allows ending rest := by
  refine .bind (endStatement_closes _) ?_
  rintro _ rest ⟨phrase, ending, rfl, closes, allows⟩
  exact .pure ⟨word :: phrase, ending, rfl, .returnNothing isWord closes, allows⟩

theorem Sound.return_reads (sound : Sound bound) {word : Token} (isWord : word.IsWord "return")
    (middle : List Token) :
    Ensures (do
      let value ← Grammar.assignment bound
      Grammar.endStatement
      return .return (some value)) middle fun statement rest =>
      ∃ phrase ending, word :: middle = phrase ++ rest ∧
        StatementPhrase NoBrace ending statement phrase ∧ Allows ending rest := by
  refine .bind (sound.assignment _) ?_
  rintro value _ ⟨first, rfl, valuePhrase⟩
  refine .bind (endStatement_closes _) ?_
  rintro _ rest ⟨second, ending, rfl, closes, allows⟩
  exact .pure ⟨word :: (first ++ second), ending, by simp,
    .return isWord valuePhrase closes, allows⟩

theorem Sound.if_reads (sound : Sound bound) {word : Token} (isWord : word.IsWord "if")
    (middle : List Token) :
    Ensures (do
      Grammar.expect (.opening .round) .openingParenthesis
      let condition ← Grammar.assignment bound
      Grammar.expect (.closing .round) .closingParenthesis
      let positive ← Grammar.statement bound
      if ← Grammar.takesWord "else" then
        return .if condition positive (some (← Grammar.statement bound))
      else return .if condition positive none) middle fun statement rest =>
      ∃ phrase ending, word :: middle = phrase ++ rest ∧
        StatementPhrase NoBrace ending statement phrase ∧ Allows ending rest := by
  refine .expect ?_
  rintro opening _ isOpening rfl
  refine .bind (sound.assignment _) ?_
  rintro condition _ ⟨first, rfl, conditionPhrase⟩
  refine .expect ?_
  rintro closing _ isClosing rfl
  refine .bind (sound.statement _) ?_
  rintro positive middle ⟨second, ending, rfl, positivePhrase, allows⟩
  refine .takesWord ?_ ?_
  · rintro otherwise _ isElse rfl
    -- What lacks something at its end cannot have an `else` behind it.
    have complete : ending = .complete := by
      cases ending with
      | complete => rfl
      | lacksElse => exact absurd isElse (allows otherwise rfl)
      | lacksSemicolon =>
        have isBrace : otherwise.IsSymbol (.closing .curly) := allows otherwise rfl
        cases isElse.symm.trans isBrace
    subst complete
    refine .bind (sound.statement _) ?_
    rintro negative rest ⟨third, ending, rfl, negativePhrase, allows⟩
    exact .pure ⟨word :: opening :: (first ++ closing :: (second ++ otherwise :: third)), ending,
      by simp, .ifElse isWord isOpening conditionPhrase isClosing positivePhrase isElse
        negativePhrase, allows⟩
  · intro noElse
    have allows : Allows ending.withoutElse middle := by
      cases ending with
      | complete => exact noElse
      | lacksElse => exact noElse
      | lacksSemicolon => exact allows
    exact .pure ⟨word :: opening :: (first ++ closing :: second), ending.withoutElse, by simp,
      .if isWord isOpening conditionPhrase isClosing positivePhrase, allows⟩

theorem Sound.statement_step (sound : Sound bound) :
    ReadsEnded (Grammar.statement (bound + 1)) (StatementPhrase NoBrace) := by
  intro tokens
  rw [Grammar.statement]
  refine .takes ?_ fun _ => .takes ?_ fun noBrace => .takesWord ?_ fun _ => .takesWord ?_ fun _ =>
    .takesWord ?_ fun _ => .takesWord ?_ fun _ => .takesWord ?_ fun _ =>
    .bind (sound.assignment _) ?_
  · rintro mark rest isMark rfl
    exact .pure ⟨[mark], .complete, rfl, .empty isMark, trivial⟩
  · rintro opening _ isOpening rfl
    refine .bind (sound.block _) ?_
    rintro block rest ⟨phrase, closing, rfl, isClosing, blockPhrase⟩
    exact .pure ⟨opening :: (phrase ++ [closing]), .complete, by simp,
      .block isOpening blockPhrase isClosing, trivial⟩
  · rintro word middle isWord rfl
    exact sound.declare_reads isWord (by decide) middle
  · rintro word middle isWord rfl
    exact sound.declare_reads isWord (by decide) middle
  · rintro word middle isWord rfl
    exact sound.declare_reads isWord (by decide) middle
  · rintro word middle isWord rfl
    have nothing := returnNothing_reads isWord middle
    have something := sound.return_reads isWord middle
    refine .peek ?_
    cases middle with
    | nil => exact nothing
    | cons token others =>
      rw [List.head?_cons, Option.map_some]
      cases token.lexeme with
      | symbol symbol =>
        cases symbol with
        | semicolon => exact nothing
        | closing bracket =>
          cases bracket with
          | curly => exact nothing
          | _ => exact something
        | _ => exact something
      | _ => exact something
  · rintro word middle isWord rfl
    exact sound.if_reads isWord middle
  · rintro value _ ⟨first, rfl, valuePhrase⟩
    refine .bind (endStatement_closes _) ?_
    rintro _ rest ⟨second, ending, rfl, closes, allows⟩
    have mayStand : NoBrace first := by
      intro token isHead
      exact noBrace token (by rw [List.head?_append, isHead]; rfl)
    exact .pure ⟨first ++ second, ending, by simp, .expression mayStand valuePhrase closes, allows⟩

/-! ### All rules -/

theorem sound : ∀ bound, Sound bound
  | 0 => {
    assignment := fun _ => .exhausted
    conditional := fun _ => .exhausted
    binary := fun _ _ => .exhausted
    operations := fun _ _ _ _ _ _ => .exhausted
    unary := fun _ => .exhausted
    suffixed := fun _ => .exhausted
    suffixes := fun _ _ _ _ => .exhausted
    operands := fun _ => .exhausted
    primary := fun _ => .exhausted
    items := fun _ => .exhausted
    entries := fun _ => .exhausted
    function := fun _ _ _ => .exhausted
    block := fun _ => .exhausted
    statement := fun _ => .exhausted
    declarations := fun _ => .exhausted }
  | bound + 1 => {
    assignment := (sound bound).assignment_step
    conditional := (sound bound).conditional_step
    binary := (sound bound).binary_step
    operations := (sound bound).operations_step
    unary := (sound bound).unary_step
    suffixed := (sound bound).suffixed_step
    suffixes := (sound bound).suffixes_step
    operands := (sound bound).operands_step
    primary := (sound bound).primary_step
    items := (sound bound).items_step
    entries := (sound bound).entries_step
    function := (sound bound).function_step
    block := (sound bound).block_step
    statement := (sound bound).statement_step
    declarations := (sound bound).declarations_step }

end Phrase

end Shorthand
