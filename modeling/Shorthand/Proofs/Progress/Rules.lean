/-
This file shows that every rule settles tokens at every large bound.

A rule that hands the same tokens on to another needs a bound of one more than that one, and these
ranks are below sixteen. Once a token has been read there are sixteen more for every rule that may
follow, so the induction on the bound goes through the rules with one step for each. On the way
every rule is seen to leave fewer tokens, and to leave no gap in front of them.
-/

import Shorthand.Proofs.Progress.Settles

namespace Shorthand

open Grammar (Settles)

variable {passage : Passage} {α β : Type}

/-- A rule settles what is left of a passage at a bound of sixteen for every token and a rank, in
the same way as at every larger one. It reads at least a number of tokens and leaves no gap in front
of the others. -/
def Passage.Halts (passage : Passage) (Begins : List Token → Prop) (rule : Nat → Grammar α)
    (rank least bound : Nat) : Prop :=
  ∀ larger tokens, bound ≤ larger → Begins tokens → 16 * tokens.length + rank ≤ bound →
    Settles passage (rule bound) (rule larger) tokens fun _ rest =>
      passage.Clear rest ∧ rest.length + least ≤ tokens.length

/-- All rules settle what is left of a passage. Some of them refuse the token at the head, and these
are only used where it is no gap. -/
structure Passage.Halting (passage : Passage) (bound : Nat) : Prop where
  assignment : passage.Halts passage.Has Grammar.assignment 6 1 bound
  conditional : passage.Halts passage.Has Grammar.conditional 5 1 bound
  binary : ∀ level, passage.Halts passage.Has (fun bound => Grammar.binary bound level) 4 1 bound
  operations : ∀ level left,
    passage.Halts passage.Clear (fun bound => Grammar.operations bound level left) 1 0 bound
  unary : passage.Halts passage.Has Grammar.unary 3 1 bound
  suffixed : passage.Halts passage.Has Grammar.suffixed 2 1 bound
  suffixes : ∀ base,
    passage.Halts passage.Clear (fun bound => Grammar.suffixes bound base) 1 0 bound
  operands : passage.Halts passage.Has Grammar.operands 7 1 bound
  primary : passage.Halts passage.Has Grammar.primary 1 1 bound
  items : passage.Halts passage.Has Grammar.items 7 1 bound
  entries : passage.Halts passage.Clear Grammar.entries 1 1 bound
  function : passage.Halts passage.Clear Grammar.function 1 1 bound
  parameters : passage.Halts passage.Clear Grammar.parameters 1 1 bound
  block : passage.Halts passage.Has Grammar.block 8 1 bound
  statement : passage.Halts passage.Has Grammar.statement 7 1 bound
  declarations : passage.Halts passage.Clear Grammar.declarations 1 1 bound

namespace Passage

/-- At a larger bound a rule runs its steps with the bounds below. -/
theorem Halts.step {Begins : List Token → Prop} {rule : Nat → Grammar α} {rank least bound : Nat}
    (settles : ∀ larger tokens, bound ≤ larger → Begins tokens →
      16 * tokens.length + rank ≤ bound + 1 →
      Settles passage (rule (bound + 1)) (rule (larger + 1)) tokens fun _ rest =>
        passage.Clear rest ∧ rest.length + least ≤ tokens.length) :
    passage.Halts Begins rule rank least (bound + 1) := by
  intro larger tokens isLarger begins enough
  obtain ⟨larger, rfl⟩ := Nat.exists_eq_add_of_lt (Nat.lt_of_lt_of_le (Nat.succ_pos bound) isLarger)
  rw [Nat.zero_add]
  exact settles larger tokens (by omega) begins enough

/-- Without a bound there is nothing to show, because every rule needs one. -/
theorem Halts.zero {Begins : List Token → Prop} {rule : Nat → Grammar α} {rank least : Nat}
    (positive : 0 < rank) : passage.Halts Begins rule rank least 0 := by
  intro larger tokens _ _ enough
  omega

/-- The place of something that cannot be assigned to, with the sign behind it. -/
theorem Has.target {tokens : List Token} (has : passage.Has tokens) (two : 2 ≤ tokens.length) :
    passage.Marks (.badTarget ((tokens.head?.map (·.column)).getD 0)) := by
  obtain ⟨before, same⟩ := has
  match tokens, two with
  | first :: second :: after, _ => exact .target same.symm

variable {bound : Nat}

/-- The bound for some tokens is enough for a rule of any rank. -/
theorem le_depthBound {rank : Nat} (tokens : List Token) (small : rank ≤ 16) :
    16 * tokens.length + rank ≤ depthBound tokens := by
  rw [depthBound]
  omega

/-! ### Steps for expressions -/

theorem Halting.assignment_step (halting : passage.Halting bound) :
    passage.Halts passage.Has Grammar.assignment 6 1 (bound + 1) := by
  refine .step fun larger tokens isLarger has enough => ?_
  rw [Grammar.assignment, Grammar.assignment]
  refine .column (.bind (halting.conditional larger tokens isLarger has (by omega)) ?_)
  rintro left middle ⟨clear, read⟩
  refine .assignmentSign clear.has ?_ (.pure ⟨clear, read⟩)
  intro operator others clear readSign
  cases left.target? with
  | none => exact .refuse (has.target (by omega))
  | some target =>
    refine .bind (halting.assignment larger others isLarger clear.has (by omega)) ?_
    rintro value rest ⟨clear, readValue⟩
    exact .pure ⟨clear, by omega⟩

theorem Halting.conditional_step (halting : passage.Halting bound) :
    passage.Halts passage.Has Grammar.conditional 5 1 (bound + 1) := by
  refine .step fun larger tokens isLarger has enough => ?_
  rw [Grammar.conditional, Grammar.conditional]
  refine .bind (halting.binary 0 larger tokens isLarger has (by omega)) ?_
  rintro condition middle ⟨clear, read⟩
  refine .takes rfl clear.has ?_ (.pure ⟨clear, read⟩)
  intro others clear readQuestion
  refine .bind (halting.assignment larger others isLarger clear.has (by omega)) ?_
  rintro positive middle ⟨clear, readPositive⟩
  refine .expect rfl clear ?_
  intro others clear readColon
  refine .bind (halting.assignment larger others isLarger clear.has (by omega)) ?_
  rintro negative rest ⟨clear, readNegative⟩
  exact .pure ⟨clear, by omega⟩

theorem Halting.binary_step (halting : passage.Halting bound) (level : Nat) :
    passage.Halts passage.Has (fun bound => Grammar.binary bound level) 4 1 (bound + 1) := by
  refine .step fun larger tokens isLarger has enough => ?_
  simp only [Grammar.binary]
  refine .bind (halting.unary larger tokens isLarger has (by omega)) ?_
  rintro left middle ⟨clear, read⟩
  refine (halting.operations level left larger middle isLarger clear (by omega)).mono ?_
  rintro expr rest ⟨clear, readFurther⟩
  exact ⟨clear, by omega⟩

/-- Behind an operator there may be a gap, which the right operand begins with. -/
theorem Halting.operations_step (halting : passage.Halting bound) (level : Nat) (left : Expr) :
    passage.Halts passage.Clear (fun bound => Grammar.operations bound level left) 1 0
      (bound + 1) := by
  refine .step fun larger tokens isLarger clear enough => ?_
  simp only [Grammar.operations]
  refine .operatorFrom clear.has ?_ (.pure ⟨clear, le_rfl⟩)
  intro operator others has readOperator
  refine .bind (halting.binary _ larger others isLarger has (by omega)) ?_
  rintro right middle ⟨clear, readRight⟩
  refine (halting.operations level _ larger middle isLarger clear (by omega)).mono ?_
  rintro expr rest ⟨clear, readFurther⟩
  exact ⟨clear, by omega⟩

theorem Halting.unary_step (halting : passage.Halting bound) :
    passage.Halts passage.Has Grammar.unary 3 1 (bound + 1) := by
  refine .step fun larger tokens isLarger has enough => ?_
  rw [Grammar.unary, Grammar.unary]
  refine .takesWord has ?_ (.peek ?_)
  · intro others clear readWord
    refine (halting.suffixed larger others isLarger clear.has (by omega)).mono ?_
    rintro expr rest ⟨clear, read⟩
    exact ⟨clear, by omega⟩
  · cases isOperator : (tokens.head?.map (·.lexeme)).bind Lexeme.unaryOperator? with
    | none => exact halting.suffixed larger tokens isLarger has (by omega)
    | some operator =>
      cases tokens with
      | nil => cases isOperator
      | cons sign others =>
        rw [List.length_cons] at enough ⊢
        refine .next (.bind (halting.unary larger others isLarger has.tail (by omega)) ?_)
        rintro expr rest ⟨clear, read⟩
        exact .pure ⟨clear, by omega⟩

theorem Halting.suffixed_step (halting : passage.Halting bound) :
    passage.Halts passage.Has Grammar.suffixed 2 1 (bound + 1) := by
  refine .step fun larger tokens isLarger has enough => ?_
  rw [Grammar.suffixed, Grammar.suffixed]
  refine .bind (halting.primary larger tokens isLarger has (by omega)) ?_
  rintro base middle ⟨clear, read⟩
  refine (halting.suffixes base larger middle isLarger clear (by omega)).mono ?_
  rintro expr rest ⟨clear, readFurther⟩
  exact ⟨clear, by omega⟩

/-- One suffix has been read, and the others are read from what it has left. -/
theorem Halting.suffixes_further (halting : passage.Halting bound) {base : Expr} {larger : Nat}
    {tokens middle : List Token} (isLarger : bound ≤ larger)
    (enough : 16 * tokens.length + 1 ≤ bound + 1) (clear : passage.Clear middle)
    (fewer : middle.length + 1 ≤ tokens.length) :
    Settles passage (Grammar.suffixes bound base) (Grammar.suffixes larger base) middle
      fun _ rest => passage.Clear rest ∧ rest.length + 0 ≤ tokens.length := by
  refine (halting.suffixes base larger middle isLarger clear (by omega)).mono ?_
  rintro expr rest ⟨clear, read⟩
  exact ⟨clear, by omega⟩

theorem Halting.suffixes_step (halting : passage.Halting bound) (base : Expr) :
    passage.Halts passage.Clear (fun bound => Grammar.suffixes bound base) 1 0 (bound + 1) := by
  refine .step fun larger tokens isLarger clear enough => ?_
  simp only [Grammar.suffixes]
  refine .takes rfl clear.has ?_ (.takes rfl clear.has ?_ (.takes rfl clear.has ?_
    (.pure ⟨clear, le_rfl⟩)))
  · intro middle clear readDot
    refine .next ?_
    cases middle with
    | nil => exact .refuse .atEnd
    | cons word others =>
      rw [List.length_cons] at readDot
      rw [List.tail_cons]
      obtain ⟨lexeme, column⟩ := word
      cases lexeme with
      | name spelling =>
        have isWord : Token.IsWord ⟨.name spelling, column⟩ spelling := rfl
        have clear := clear.has.clear isWord rfl
        exact halting.suffixes_further isLarger enough clear (by omega)
      | _ => exact .refuse (.unexpected clear.mem.1 clear.mem.2)
  · intro others clear readOpening
    refine .bind (halting.assignment larger others isLarger clear.has (by omega)) ?_
    rintro key middle ⟨clear, readKey⟩
    refine .expect rfl clear ?_
    intro others clear readClosing
    exact halting.suffixes_further isLarger enough clear (by omega)
  · intro others clear readOpening
    refine .takes rfl clear.has ?_ ?_
    · intro middle clear readClosing
      exact halting.suffixes_further isLarger enough clear (by omega)
    · refine .bind (halting.operands larger others isLarger clear.has (by omega)) ?_
      rintro operands middle ⟨clear, readOperands⟩
      exact halting.suffixes_further isLarger enough clear (by omega)

/-- Behind an item a comma goes on and a closing symbol ends. -/
theorem settles_separated {item : α} {closing : Symbol} {expectation : Expectation}
    {loop alsoLoop : Grammar (List α)} {tokens : List Token} {length : Nat}
    (noOperator : (Lexeme.symbol closing).operator? = none) (clear : passage.Clear tokens)
    (fewer : tokens.length < length)
    (goesOn : ∀ rest, passage.Clear rest → rest.length < tokens.length →
      Settles passage loop alsoLoop rest fun _ left =>
        passage.Clear left ∧ left.length + 1 ≤ rest.length) :
    Settles passage
      (do if ← Grammar.takes .comma then return item :: (← loop)
          else if ← Grammar.takes closing then return [item]
          else Grammar.unexpected expectation)
      (do if ← Grammar.takes .comma then return item :: (← alsoLoop)
          else if ← Grammar.takes closing then return [item]
          else Grammar.unexpected expectation)
      tokens fun _ rest => passage.Clear rest ∧ rest.length + 1 ≤ length := by
  refine .takes rfl clear.has ?_ (.takes noOperator clear.has ?_ (.unexpected clear _))
  · intro others clear readComma
    refine .bind (goesOn others clear (by omega)) ?_
    rintro items rest ⟨clear, read⟩
    exact .pure ⟨clear, by omega⟩
  · intro rest clear readClosing
    exact .pure ⟨clear, by omega⟩

theorem Halting.operands_step (halting : passage.Halting bound) :
    passage.Halts passage.Has Grammar.operands 7 1 (bound + 1) := by
  refine .step fun larger tokens isLarger has enough => ?_
  rw [Grammar.operands, Grammar.operands]
  refine .bind (halting.assignment larger tokens isLarger has (by omega)) ?_
  rintro first middle ⟨clear, read⟩
  exact settles_separated rfl clear (by omega) fun rest clear fewer =>
    halting.operands larger rest isLarger clear.has (by omega)

theorem Halting.items_step (halting : passage.Halting bound) :
    passage.Halts passage.Has Grammar.items 7 1 (bound + 1) := by
  refine .step fun larger tokens isLarger has enough => ?_
  rw [Grammar.items, Grammar.items]
  refine .takes rfl has (fun rest clear read => .pure ⟨clear, by omega⟩) ?_
  refine .bind (halting.assignment larger tokens isLarger has (by omega)) ?_
  rintro first middle ⟨clear, read⟩
  exact settles_separated rfl clear (by omega) fun rest clear fewer =>
    halting.items larger rest isLarger clear.has (by omega)

theorem not_operator_of_key {lexeme : Lexeme} {key : String} (isKey : lexeme.entryKey? = some key) :
    lexeme.operator? = none := by
  cases lexeme with
  | symbol => cases isKey
  | _ => rfl

theorem Halting.entries_step (halting : passage.Halting bound) :
    passage.Halts passage.Clear Grammar.entries 1 1 (bound + 1) := by
  refine .step fun larger tokens isLarger clear enough => ?_
  rw [Grammar.entries, Grammar.entries]
  refine .takes rfl clear.has (fun rest clear read => .pure ⟨clear, by omega⟩) (.next ?_)
  cases tokens with
  | nil => exact .refuse .atEnd
  | cons word others =>
    simp only [List.head?_cons, List.tail_cons, List.length_cons, Option.bind_some] at enough ⊢
    cases isKey : word.lexeme.entryKey? with
    | none => exact .refuse (.unexpected clear.mem.1 clear.mem.2)
    | some key =>
      refine .expect rfl (clear.has.clear rfl (not_operator_of_key isKey)) ?_
      intro middle clear readColon
      refine .bind (halting.assignment larger middle isLarger clear.has (by omega)) ?_
      rintro value middle ⟨clear, readValue⟩
      exact settles_separated rfl clear (by omega) fun rest clear fewer =>
        halting.entries larger rest isLarger clear (by omega)

theorem Halting.parameters_step (halting : passage.Halting bound) :
    passage.Halts passage.Clear Grammar.parameters 1 1 (bound + 1) := by
  refine .step fun larger tokens isLarger clear enough => ?_
  rw [Grammar.parameters, Grammar.parameters]
  refine .next ?_
  cases tokens with
  | nil => exact .refuse .atEnd
  | cons token others =>
    have refused := Passage.Marks.parameter clear.mem.1 clear.mem.2
    simp only [List.head?_cons, List.tail_cons, List.length_cons] at enough ⊢
    cases isSpelling : token.lexeme with
    | name spelling =>
      simp only
      by_cases reserved : reservedWords.contains spelling
      · simp only [reserved, if_true]
        exact .refuse refused
      · simp only [reserved]
        have clear := clear.has.clear isSpelling rfl
        exact settles_separated rfl clear (by omega) fun rest clear fewer =>
          halting.parameters larger rest isLarger clear (by omega)
    | _ => exact .refuse refused

/-- A token that is an expression by itself. -/
theorem settles_single {expr : Expr} {token : Token} {rest : List Token}
    (has : passage.Has (token :: rest))
    (noOperator : token.lexeme.operator? = none) :
    Settles passage (pure expr) (pure expr) rest fun _ left =>
      passage.Clear left ∧ left.length + 1 ≤ (token :: rest).length :=
  .pure ⟨has.clear rfl noOperator, le_rfl⟩

theorem Halting.word_step (halting : passage.Halting bound) {larger : Nat} {token : Token}
    {spelling : String} {others : List Token} (isLarger : bound ≤ larger)
    (has : passage.Has (token :: others))
    (enough : 16 * (token :: others).length + 1 ≤ bound + 1)
    (isSpelling : token.lexeme = .name spelling) :
    Settles passage (Grammar.primary (bound + 1)) (Grammar.primary (larger + 1)) (token :: others)
      fun _ rest => passage.Clear rest ∧ rest.length + 1 ≤ (token :: others).length := by
  have noOperator : token.lexeme.operator? = none := congrArg Lexeme.operator? isSpelling
  rw [Grammar.primary, Grammar.primary]
  refine .next ?_
  simp only [List.head?_cons, List.tail_cons, isSpelling]
  by_cases isThis : spelling = "this"
  · subst isThis
    exact settles_single has noOperator
  by_cases isArguments : spelling = "arguments"
  · subst isArguments
    exact settles_single has noOperator
  by_cases isFunction : spelling = "function"
  · subst isFunction
    rw [List.length_cons] at enough
    refine (halting.function larger others isLarger (has.clear isSpelling rfl) (by omega)).mono ?_
    rintro expr rest ⟨clear, read⟩
    exact ⟨clear, by rw [List.length_cons]; omega⟩
  simp only
  cases isLiteral : literalWord? spelling with
  | some literal => exact settles_single has noOperator
  | none =>
    by_cases reserved : reservedWords.contains spelling
    · simp only [reserved, if_true]
      refine .refuse (.unexpected has.mem fun isGap => ?_)
      obtain ⟨position, isHole⟩ := passage.isHole token isGap
      rw [isSpelling] at isHole
      cases isHole
    · simp only [reserved]
      exact settles_single has noOperator

theorem Halting.primary_step (halting : passage.Halting bound) :
    passage.Halts passage.Has Grammar.primary 1 1 (bound + 1) := by
  refine .step fun larger tokens isLarger has enough => ?_
  cases tokens with
  | nil =>
    rw [Grammar.primary, Grammar.primary]
    exact .next (.refuse .atEnd)
  | cons token others =>
    cases isLexeme : token.lexeme with
    | name spelling => exact halting.word_step isLarger has enough isLexeme
    | symbol symbol =>
      rw [Grammar.primary, Grammar.primary]
      refine .next ?_
      simp only [List.head?_cons, List.tail_cons, List.length_cons, isLexeme] at enough ⊢
      cases symbol with
      | opening bracket =>
        have clear := has.clear isLexeme rfl
        cases bracket with
        | round =>
          refine .bind (halting.assignment larger others isLarger clear.has (by omega)) ?_
          rintro inner middle ⟨clear, read⟩
          refine .expect rfl clear ?_
          intro rest clear readClosing
          exact .pure ⟨clear, by omega⟩
        | square =>
          refine .bind (halting.items larger others isLarger clear.has (by omega)) ?_
          rintro items rest ⟨clear, read⟩
          exact .pure ⟨clear, by omega⟩
        | curly =>
          refine .bind (halting.entries larger others isLarger clear (by omega)) ?_
          rintro entries rest ⟨clear, read⟩
          exact .pure ⟨clear, by omega⟩
      | _ =>
        refine .refuse (.unexpected has.mem fun isGap => ?_)
        obtain ⟨position, isHole⟩ := passage.isHole token isGap
        rw [isLexeme] at isHole
        cases isHole
    | _ =>
      rw [Grammar.primary, Grammar.primary]
      refine .next ?_
      simp only [List.head?_cons, List.tail_cons, isLexeme]
      exact settles_single has (congrArg Lexeme.operator? isLexeme)

/-- The body of a function with its parameters. -/
def functionBody (label : String) (bound : Nat) (names : List String) : Grammar Expr := do
  Grammar.expect (.opening .curly) .openingBrace
  return Expr.function names (.statements (← Grammar.block bound)) label

theorem Halting.functionBody (halting : passage.Halting bound) {larger length : Nat}
    {tokens : List Token} (isLarger : bound ≤ larger) (clear : passage.Clear tokens)
    (fewer : tokens.length < length) (enough : 16 * length ≤ bound) (label : String)
    (names : List String) :
    Settles passage (functionBody label bound names) (functionBody label larger names) tokens
      fun _ rest => passage.Clear rest ∧ rest.length + 1 ≤ length := by
  refine .expect rfl clear ?_
  intro others clear readBrace
  refine .bind (halting.block larger others isLarger clear.has (by omega)) ?_
  rintro block rest ⟨clear, readBlock⟩
  exact .pure ⟨clear, by omega⟩

/-- The parameters and the body of a function. -/
def functionOf (label : String) (bound : Nat) : Grammar Expr := do
  Grammar.expect (.opening .round) .openingParenthesis
  let names ← if ← Grammar.takes (.closing .round) then pure [] else Grammar.parameters bound
  functionBody label bound names

theorem Halting.functionOf (halting : passage.Halting bound) {larger length : Nat}
    {tokens : List Token} (isLarger : bound ≤ larger) (clear : passage.Clear tokens)
    (fewer : tokens.length ≤ length) (enough : 16 * length ≤ bound) (label : String) :
    Settles passage (functionOf label bound) (functionOf label larger) tokens
      fun _ rest => passage.Clear rest ∧ rest.length + 1 ≤ length := by
  refine .expect rfl clear ?_
  intro others clear readParenthesis
  refine .takes rfl clear.has ?_ ?_
  · intro middle clear readClosing
    exact halting.functionBody isLarger clear (by omega) enough label []
  · refine .bind (halting.parameters larger others isLarger clear (by omega)) ?_
    rintro names middle ⟨clear, readNames⟩
    exact halting.functionBody isLarger clear (by omega) enough label names

/-- A function is read after its own name, if it has one. -/
theorem Halting.function_step (halting : passage.Halting bound) :
    passage.Halts passage.Clear Grammar.function 1 1 (bound + 1) := by
  refine .step fun larger tokens isLarger clear enough => ?_
  have enough : 16 * tokens.length ≤ bound := by omega
  rw [Grammar.function, Grammar.function]
  refine .peek ?_
  cases tokens with
  | nil => exact halting.functionOf isLarger clear le_rfl enough "function"
  | cons token others =>
    rw [List.head?_cons, Option.map_some]
    cases isLexeme : token.lexeme with
    | name _ =>
      refine .bind (.name clear) ?_
      rintro label middle ⟨clear, readName⟩
      exact halting.functionOf isLarger clear (by omega) enough label
    | _ => exact halting.functionOf isLarger clear le_rfl enough "function"

/-! ### Steps for statements -/

theorem endStatement_settles {tokens : List Token} (clear : passage.Clear tokens) :
    Settles passage Grammar.endStatement Grammar.endStatement tokens fun _ rest =>
      passage.Clear rest ∧ rest.length ≤ tokens.length := by
  refine .takes rfl clear.has (fun rest clear read => .pure ⟨clear, by omega⟩) (.peek ?_)
  split
  · exact .pure ⟨clear, le_rfl⟩
  · exact .pure ⟨clear, le_rfl⟩
  · exact .unexpected clear _

theorem Halting.block_step (halting : passage.Halting bound) :
    passage.Halts passage.Has Grammar.block 8 1 (bound + 1) := by
  refine .step fun larger tokens isLarger has enough => ?_
  rw [Grammar.block, Grammar.block]
  refine .takes rfl has (fun rest clear read => .pure ⟨clear, by omega⟩) (.peek ?_)
  cases tokens with
  | nil => exact .refused rfl rfl .atEnd
  | cons token others =>
    refine .bind (halting.statement larger _ isLarger has (by omega)) ?_
    rintro first middle ⟨clear, readFirst⟩
    refine .bind (halting.block larger middle isLarger clear.has (by omega)) ?_
    rintro statements rest ⟨clear, readFurther⟩
    exact .pure ⟨clear, by omega⟩

/-- The declarations that follow one of them. -/
def declarationsAfter (name : String) (bound : Nat) (initial : Option Expr) :
    Grammar (List (String × Option Expr)) := do
  if ← Grammar.takes .comma then return (name, initial) :: (← Grammar.declarations bound)
  else
    Grammar.endStatement
    return [(name, initial)]

theorem Halting.declarationsAfter (halting : passage.Halting bound) {larger length : Nat}
    {tokens : List Token} (isLarger : bound ≤ larger) (clear : passage.Clear tokens)
    (fewer : tokens.length < length) (enough : 16 * length ≤ bound) (name : String)
    (initial : Option Expr) :
    Settles passage (declarationsAfter name bound initial) (declarationsAfter name larger initial)
      tokens fun _ rest => passage.Clear rest ∧ rest.length + 1 ≤ length := by
  refine .takes rfl clear.has ?_ (.bind (endStatement_settles clear) ?_)
  · intro others clear readComma
    refine .bind (halting.declarations larger others isLarger clear (by omega)) ?_
    rintro declarations rest ⟨clear, readFurther⟩
    exact .pure ⟨clear, by omega⟩
  · rintro _ rest ⟨clear, readEnd⟩
    exact .pure ⟨clear, by omega⟩

theorem Halting.declarations_step (halting : passage.Halting bound) :
    passage.Halts passage.Clear Grammar.declarations 1 1 (bound + 1) := by
  refine .step fun larger tokens isLarger clear enough => ?_
  have enough : 16 * tokens.length ≤ bound := by omega
  rw [Grammar.declarations, Grammar.declarations]
  refine .bind (.name clear) ?_
  rintro name middle ⟨clear, readName⟩
  have noInitial := halting.declarationsAfter isLarger clear (by omega) enough name none
  refine .peek ?_
  cases middle with
  | nil => exact noInitial
  | cons sign others =>
    rw [List.head?_cons, Option.map_some]
    rw [List.length_cons] at readName
    cases isLexeme : sign.lexeme with
    | symbol symbol =>
      cases symbol with
      | assign operator =>
        cases operator with
        | none =>
          have clear := clear.has.clear isLexeme rfl
          refine .next (.bind (halting.assignment larger others isLarger clear.has (by omega)) ?_)
          rintro value middle ⟨clear, readValue⟩
          exact halting.declarationsAfter isLarger clear (by omega) enough name (some value)
        | some _ => exact noInitial
      | _ => exact noInitial
    | _ => exact noInitial

/-- A value that ends a statement. -/
theorem Halting.ended (halting : passage.Halting bound) {larger : Nat} {tokens : List Token}
    (isLarger : bound ≤ larger) (has : passage.Has tokens)
    (enough : 16 * tokens.length + 7 ≤ bound + 1) (build : Expr → Statement) :
    Settles passage
      (do
        let value ← Grammar.assignment bound
        Grammar.endStatement
        return build value)
      (do
        let value ← Grammar.assignment larger
        Grammar.endStatement
        return build value)
      tokens fun _ rest => passage.Clear rest ∧ rest.length + 1 ≤ tokens.length := by
  refine .bind (halting.assignment larger tokens isLarger has (by omega)) ?_
  rintro value middle ⟨clear, readValue⟩
  refine .bind (endStatement_settles clear) ?_
  rintro _ rest ⟨clear, readEnd⟩
  exact .pure ⟨clear, by omega⟩

theorem Halting.declare (halting : passage.Halting bound) {larger length : Nat}
    {tokens : List Token} (isLarger : bound ≤ larger) (clear : passage.Clear tokens)
    (fewer : tokens.length + 1 = length) (enough : 16 * length + 7 ≤ bound + 1) :
    Settles passage (do return Statement.declare (← Grammar.declarations bound))
      (do return Statement.declare (← Grammar.declarations larger)) tokens
      fun _ rest => passage.Clear rest ∧ rest.length + 1 ≤ length := by
  refine .bind (halting.declarations larger tokens isLarger clear (by omega)) ?_
  rintro declarations rest ⟨clear, read⟩
  exact .pure ⟨clear, by omega⟩

theorem Halting.if (halting : passage.Halting bound) {larger length : Nat} {tokens : List Token}
    (isLarger : bound ≤ larger) (clear : passage.Clear tokens)
    (fewer : tokens.length + 1 = length) (enough : 16 * length + 7 ≤ bound + 1) :
    Settles passage
      (do
        Grammar.expect (.opening .round) .openingParenthesis
        let condition ← Grammar.assignment bound
        Grammar.expect (.closing .round) .closingParenthesis
        let positive ← Grammar.statement bound
        if ← Grammar.takesWord "else" then
          return Statement.if condition positive (some (← Grammar.statement bound))
        else return Statement.if condition positive none)
      (do
        Grammar.expect (.opening .round) .openingParenthesis
        let condition ← Grammar.assignment larger
        Grammar.expect (.closing .round) .closingParenthesis
        let positive ← Grammar.statement larger
        if ← Grammar.takesWord "else" then
          return Statement.if condition positive (some (← Grammar.statement larger))
        else return Statement.if condition positive none)
      tokens fun _ rest => passage.Clear rest ∧ rest.length + 1 ≤ length := by
  refine .expect rfl clear ?_
  intro others clear readOpening
  refine .bind (halting.assignment larger others isLarger clear.has (by omega)) ?_
  rintro condition middle ⟨clear, readCondition⟩
  refine .expect rfl clear ?_
  intro others clear readClosing
  refine .bind (halting.statement larger others isLarger clear.has (by omega)) ?_
  rintro positive middle ⟨clear, readPositive⟩
  refine .takesWord clear.has ?_ (.pure ⟨clear, by omega⟩)
  intro others clear readElse
  refine .bind (halting.statement larger others isLarger clear.has (by omega)) ?_
  rintro negative rest ⟨clear, readNegative⟩
  exact .pure ⟨clear, by omega⟩

theorem Halting.statement_step (halting : passage.Halting bound) :
    passage.Halts passage.Has Grammar.statement 7 1 (bound + 1) := by
  refine .step fun larger tokens isLarger has enough => ?_
  rw [Grammar.statement, Grammar.statement]
  refine .takes rfl has (fun rest clear read => .pure ⟨clear, by omega⟩) ?_
  refine .takes rfl has ?_ ?_
  · intro others clear readBrace
    refine .bind (halting.block larger others isLarger clear.has (by omega)) ?_
    rintro block rest ⟨clear, readBlock⟩
    exact .pure ⟨clear, by omega⟩
  have declares : ∀ rest, passage.Clear rest → rest.length + 1 = tokens.length → _ :=
    fun rest clear read => halting.declare isLarger clear read enough
  refine .takesWord has declares (.takesWord has declares (.takesWord has declares
    (.takesWord has ?_ (.takesWord has ?_ (halting.ended isLarger has enough .expression)))))
  · intro others clear readWord
    refine .peek ?_
    have nothing : Settles passage
        (do
          Grammar.endStatement
          return Statement.return none)
        (do
          Grammar.endStatement
          return Statement.return none)
        others fun _ rest => passage.Clear rest ∧ rest.length + 1 ≤ tokens.length := by
      refine .bind (endStatement_settles clear) ?_
      rintro _ rest ⟨clear, readEnd⟩
      exact .pure ⟨clear, by omega⟩
    split
    · exact nothing
    · exact nothing
    · exact nothing
    · refine (halting.ended isLarger clear.has (by omega) fun value => .return (some value)).mono ?_
      rintro statement rest ⟨clear, read⟩
      exact ⟨clear, by omega⟩
  · intro others clear readWord
    exact halting.if isLarger clear readWord enough

/-! ### All rules -/

theorem halting (passage : Passage) : ∀ bound, passage.Halting bound
  | 0 => {
    assignment := .zero (Nat.succ_pos _)
    conditional := .zero (Nat.succ_pos _)
    binary := fun _ => .zero (Nat.succ_pos _)
    operations := fun _ _ => .zero (Nat.succ_pos _)
    unary := .zero (Nat.succ_pos _)
    suffixed := .zero (Nat.succ_pos _)
    suffixes := fun _ => .zero (Nat.succ_pos _)
    operands := .zero (Nat.succ_pos _)
    primary := .zero (Nat.succ_pos _)
    items := .zero (Nat.succ_pos _)
    entries := .zero (Nat.succ_pos _)
    function := .zero (Nat.succ_pos _)
    parameters := .zero (Nat.succ_pos _)
    block := .zero (Nat.succ_pos _)
    statement := .zero (Nat.succ_pos _)
    declarations := .zero (Nat.succ_pos _) }
  | bound + 1 => {
    assignment := (halting passage bound).assignment_step
    conditional := (halting passage bound).conditional_step
    binary := (halting passage bound).binary_step
    operations := (halting passage bound).operations_step
    unary := (halting passage bound).unary_step
    suffixed := (halting passage bound).suffixed_step
    suffixes := (halting passage bound).suffixes_step
    operands := (halting passage bound).operands_step
    primary := (halting passage bound).primary_step
    items := (halting passage bound).items_step
    entries := (halting passage bound).entries_step
    function := (halting passage bound).function_step
    parameters := (halting passage bound).parameters_step
    block := (halting passage bound).block_step
    statement := (halting passage bound).statement_step
    declarations := (halting passage bound).declarations_step }

/-- Statements up to the end may be none at all. -/
theorem statements_halt (passage : Passage) (bound : Nat) :
    passage.Halts passage.Clear Grammar.statements 8 0 bound := by
  induction bound with
  | zero => exact .zero (Nat.succ_pos _)
  | succ bound inductionHypothesis =>
    refine .step fun larger tokens isLarger clear enough => ?_
    rw [Grammar.statements, Grammar.statements]
    refine .peek ?_
    cases tokens with
    | nil => exact .pure ⟨clear, le_rfl⟩
    | cons token others =>
      refine .bind ((halting passage bound).statement larger _ isLarger clear.has (by omega)) ?_
      rintro first middle ⟨clear, readFirst⟩
      refine .bind (inductionHypothesis larger middle isLarger clear (by omega)) ?_
      rintro statements rest ⟨clear, readFurther⟩
      exact .pure ⟨clear, by omega⟩

end Passage

end Shorthand
