/-
This file cuts the loops of the parser into turns.

A loop reads items, suffixes, operators or statements one after the other. In the rules it is
written as a recursion, which is the loop that runs a turn and then goes on or leaves. A turn that
goes on has read a token at least, so a loop takes no more turns than there are tokens.
-/

import Mathlib
import Shorthand.Proofs.Grammar.Run

namespace Shorthand

/-! ### Tokens that are left -/

/-- Tokens are the end of others, of which at least a number have been read. -/
def Remains (least : Nat) (tokens rest : List Token) : Prop :=
  rest <:+ tokens ∧ rest.length + least ≤ tokens.length

namespace Remains

variable {least more : Nat} {tokens middle rest : List Token}

theorem refl (tokens : List Token) : Remains 0 tokens tokens := ⟨List.suffix_rfl, le_rfl⟩

theorem cons (token : Token) (rest : List Token) : Remains 1 (token :: rest) rest :=
  ⟨List.suffix_cons token rest, le_rfl⟩

theorem trans (first : Remains least tokens middle) (second : Remains more middle rest) :
    Remains (least + more) tokens rest := by
  refine ⟨second.1.trans first.1, ?_⟩
  have := first.2
  have := second.2
  omega

theorem mono (remains : Remains more tokens rest) (fewer : least ≤ more) :
    Remains least tokens rest :=
  ⟨remains.1, (Nat.add_le_add_left fewer _).trans remains.2⟩

theorem append (phrase rest : List Token) : Remains phrase.length (phrase ++ rest) rest := by
  refine ⟨List.suffix_append phrase rest, ?_⟩
  rw [List.length_append, Nat.add_comm]

theorem tail (tokens : List Token) : Remains 0 tokens tokens.tail :=
  ⟨List.tail_suffix tokens, (List.tail_suffix tokens).length_le⟩

end Remains

/-! ### Turns -/

/-- What a turn of a loop comes to: another turn from a state, with what is then made of the value,
or the value. -/
inductive Turn (σ α : Type) where
  | again (state : σ) (change : α → α)
  | leave (value : α)

variable {σ α β : Type}

/-- What is done after a turn of a loop. -/
def Turn.resume (loop : σ → Grammar α) : Turn σ α → Grammar α
  | .again state change => do return change (← loop state)
  | .leave value => return value

/-- How many tokens a turn has to read: one, if it goes on. -/
def Turn.least : Turn σ α → Nat
  | .again _ _ => 1
  | .leave _ => 0

namespace Grammar

/-- A rule is a loop that runs turns, each of which reads a token or leaves the loop. -/
structure IsLoop (loop : Nat → σ → Grammar α) (turn : Nat → σ → Grammar (Turn σ α)) : Prop where
  runs : ∀ bound state, loop (bound + 1) state = turn bound state >>= Turn.resume (loop bound)
  advances : ∀ bound state tokens, Ensures (turn bound state) tokens fun outcome rest =>
    Remains outcome.least tokens rest

/-! ### The turns of the loops -/

/-- An item, behind which a comma goes on and a closing symbol leaves. -/
def separatedTurn (item : Grammar α) (closing : Symbol) (expectation : Expectation) :
    Grammar (Turn Unit (List α)) := do
  let first ← item
  if ← takes .comma then return .again () (first :: ·)
  else if ← takes closing then return .leave [first]
  else unexpected expectation

/-- A turn of the loop for the arguments of a call. -/
def operandsTurn (bound : Nat) (_ : Unit) : Grammar (Turn Unit (List Expr)) :=
  separatedTurn (assignment bound) (.closing .round) .commaOrParenthesis

/-- A turn of the loop for the items of a list. -/
def itemsTurn (bound : Nat) (_ : Unit) : Grammar (Turn Unit (List Expr)) := do
  if ← takes (.closing .square) then return .leave []
  else separatedTurn (assignment bound) (.closing .square) .commaOrBracket

/-- A key with its value. -/
def entry (bound : Nat) : Grammar (String × Expr) := do
  let token ← next
  match token.bind (·.lexeme.entryKey?) with
  | none => refuse (.unexpected token .propertyName)
  | some key =>
    expect .colon .colon
    return (key, ← assignment bound)

/-- A turn of the loop for the entries of an object. -/
def entriesTurn (bound : Nat) (_ : Unit) : Grammar (Turn Unit (List (String × Expr))) := do
  if ← takes (.closing .curly) then return .leave []
  else separatedTurn (entry bound) (.closing .curly) .commaOrBrace

/-- The name of a parameter. -/
def parameter : Grammar String := do
  match ← next with
  | none => refuse (.unexpected none .parameter)
  | some token =>
    match token.lexeme with
    | .name spelling =>
      if reservedWords.contains spelling then refuse (.badParameter token) else return spelling
    | _ => refuse (.badParameter token)

/-- A turn of the loop for parameters. -/
def parametersTurn (_ : Nat) (_ : Unit) : Grammar (Turn Unit (List String)) :=
  separatedTurn parameter (.closing .round) .commaOrParenthesis

/-- The initial value of a declared name, if there is one. -/
def initial (bound : Nat) : Grammar (Option Expr) := do
  match ← peek with
  | some (.symbol (.assign none)) => do
    let _ ← next
    pure (some (← assignment bound))
  | _ => pure none

/-- A turn of the loop for declarations. -/
def declarationsTurn (bound : Nat) (_ : Unit) :
    Grammar (Turn Unit (List (String × Option Expr))) := do
  let name ← name .variableName
  let initial ← initial bound
  if ← takes .comma then return .again () ((name, initial) :: ·)
  else
    endStatement
    return .leave [(name, initial)]

/-- A turn of the loop for the statements of a block. -/
def blockTurn (bound : Nat) (_ : Unit) : Grammar (Turn Unit (List Statement)) := do
  if ← takes (.closing .curly) then return .leave []
  else if (← peek).isNone then unexpected .closingBrace
  else
    let first ← statement bound
    return .again () (first :: ·)

/-- A turn of the loop for all statements up to the end. -/
def statementsTurn (bound : Nat) (_ : Unit) : Grammar (Turn Unit (List Statement)) := do
  if (← peek).isNone then return .leave []
  else
    let first ← statement bound
    return .again () (first :: ·)

/-- A turn of the loop for what follows an expression: a member, an index or a call. -/
def suffixesTurn (bound : Nat) (base : Expr) : Grammar (Turn Expr Expr) := do
  if ← takes .dot then
    match ← next with
    | some ⟨.name spelling, _⟩ => return .again (.member base spelling) id
    | token => refuse (.unexpected token .memberName)
  else if ← takes (.opening .square) then
    let key ← assignment bound
    expect (.closing .square) .closingBracket
    return .again (.index base key) id
  else if ← takes (.opening .round) then
    if ← takes (.closing .round) then return .again (.call base []) id
    else
      let operands ← operands bound
      return .again (.call base operands) id
  else return .leave base

/-- A turn of the loop for the operators of a level. -/
def operationsTurn (level bound : Nat) (left : Expr) : Grammar (Turn Expr Expr) := do
  match ← operatorFrom level with
  | none => return .leave left
  | some operator =>
    let right ← binary bound (operator.level + 1)
    return .again (.binary operator left right) id

/-! ### Steps one after the other -/

/-- Rules that follow one another may be put together in any way. -/
instance : LawfulMonad Grammar := by
  refine LawfulMonad.mk' Grammar ?_ ?_ ?_
  · intro α rule
    funext tokens
    show andThen rule done tokens = rule tokens
    rw [andThen]
    cases rule tokens <;> rfl
  · intro α β value next
    rfl
  · intro α β γ rule next further
    funext tokens
    show andThen (andThen rule next) further tokens =
      andThen rule (fun value => andThen (next value) further) tokens
    rw [andThen, andThen, andThen]
    cases rule tokens <;> rfl

theorem ite_bind (condition : Prop) [Decidable condition] (first second : Grammar α)
    (next : α → Grammar β) : (if condition then first else second) >>= next =
      if condition then first >>= next else second >>= next := by
  split <;> rfl

theorem refuse_bind (stop : Stop) (next : α → Grammar β) :
    (refuse stop : Grammar α) >>= next = refuse stop := rfl

theorem unexpected_bind (expected : Expectation) (next : α → Grammar β) :
    (unexpected expected : Grammar α) >>= next = unexpected expected := rfl

theorem bind_id (rule : Grammar α) : (do return id (← rule)) = rule := bind_pure rule

/-! ### Loops and their turns -/

theorem separatedTurn_resume (item : Grammar α) (closing : Symbol) (expectation : Expectation)
    (loop : Unit → Grammar (List α)) :
    separatedTurn item closing expectation >>= Turn.resume loop = (do
      let first ← item
      if ← takes .comma then return first :: (← loop ())
      else if ← takes closing then return [first]
      else unexpected expectation) := by
  simp only [separatedTurn, bind_assoc, ite_bind, pure_bind, unexpected_bind, Turn.resume]

theorem operands_runs (bound : Nat) :
    operands (bound + 1) = operandsTurn bound () >>= Turn.resume fun _ => operands bound := by
  rw [operandsTurn, separatedTurn_resume, operands]

theorem items_runs (bound : Nat) :
    items (bound + 1) = itemsTurn bound () >>= Turn.resume fun _ => items bound := by
  simp only [itemsTurn, bind_assoc, ite_bind, pure_bind, separatedTurn_resume, Turn.resume]
  rw [items]

theorem entries_runs (bound : Nat) :
    entries (bound + 1) = entriesTurn bound () >>= Turn.resume fun _ => entries bound := by
  simp only [entriesTurn, bind_assoc, ite_bind, pure_bind, separatedTurn_resume, Turn.resume, entry]
  rw [entries]
  refine bind_congr fun closes => if_congr Iff.rfl rfl (bind_congr fun token => ?_)
  cases token.bind (·.lexeme.entryKey?) with
  | none => rfl
  | some key => simp only [bind_assoc, pure_bind]

theorem parameters_runs (bound : Nat) :
    parameters (bound + 1) = parametersTurn bound () >>= Turn.resume fun _ => parameters bound := by
  simp only [parametersTurn, bind_assoc, separatedTurn_resume, parameter]
  rw [parameters]
  refine bind_congr fun found => ?_
  cases found with
  | none => rfl
  | some token =>
    cases isLexeme : token.lexeme with
    | name spelling => simp only [isLexeme, ite_bind, pure_bind, refuse_bind]
    | _ => simp only [isLexeme, refuse_bind]

theorem declarations_runs (bound : Nat) :
    declarations (bound + 1) =
      declarationsTurn bound () >>= Turn.resume fun _ => declarations bound := by
  simp only [declarationsTurn, bind_assoc, ite_bind, pure_bind, Turn.resume, initial]
  rw [declarations]
  refine bind_congr fun name => bind_congr fun found => ?_
  cases found with
  | none => rfl
  | some lexeme =>
    cases lexeme with
    | symbol symbol =>
      cases symbol with
      | assign operator =>
        cases operator with
        | none => simp only [bind_assoc, pure_bind]
        | some _ => rfl
      | _ => rfl
    | _ => rfl

theorem block_runs (bound : Nat) :
    block (bound + 1) = blockTurn bound () >>= Turn.resume fun _ => block bound := by
  simp only [blockTurn, bind_assoc, ite_bind, pure_bind, unexpected_bind, Turn.resume]
  rw [block]

theorem statements_runs (bound : Nat) :
    statements (bound + 1) = statementsTurn bound () >>= Turn.resume fun _ => statements bound := by
  simp only [statementsTurn, bind_assoc, ite_bind, pure_bind, Turn.resume]
  rw [statements]

theorem suffixes_runs (bound : Nat) (base : Expr) :
    suffixes (bound + 1) base = suffixesTurn bound base >>= Turn.resume (suffixes bound) := by
  simp only [suffixesTurn, bind_assoc, ite_bind, pure_bind, Turn.resume, bind_id]
  rw [suffixes]
  refine bind_congr fun isMember => if_congr Iff.rfl (bind_congr fun found => ?_) rfl
  cases found with
  | none => rfl
  | some token =>
    obtain ⟨lexeme, column⟩ := token
    cases lexeme with
    | name spelling => simp only [pure_bind, Turn.resume, bind_id]
    | _ => rfl

theorem operations_runs (level bound : Nat) (left : Expr) :
    operations (bound + 1) level left =
      operationsTurn level bound left >>= Turn.resume (operations bound level) := by
  simp only [operationsTurn, bind_assoc]
  rw [operations]
  refine bind_congr fun found => ?_
  cases found with
  | none => rfl
  | some operator => simp only [bind_assoc, pure_bind, Turn.resume, bind_id]

/-! ### Rules that read a token -/

/-- A rule that accepts has read a token at least. -/
def Progresses (rule : Grammar α) : Prop :=
  ∀ tokens, Ensures rule tokens fun _ rest => Remains 1 tokens rest

end Grammar

/-- A rule that reads phrases reads a token if no phrase of its kind is empty. -/
theorem Phrase.Reads.progresses {rule : Grammar α} {Means : α → List Token → Prop}
    (reads : Phrase.Reads rule Means)
    (positive : ∀ value phrase, Means value phrase → 0 < phrase.length) :
    Grammar.Progresses rule := by
  intro tokens
  refine (reads tokens).mono ?_
  rintro value rest ⟨phrase, rfl, means⟩
  exact (Remains.append phrase rest).mono (positive value phrase means)

/-- The word for a function is not yet an expression. -/
theorem Phrase.Primary.not_function {MayStand : List Token → Prop} {expr : Expr} {word : Token}
    (primary : Primary MayStand expr [word]) : ¬word.IsWord "function" := by
  generalize same : [word] = phrase at primary
  cases primary with
  | integer isLexeme | float isLexeme | string isLexeme | hole isLexeme =>
    cases same
    intro isWord
    cases isWord.symm.trans isLexeme
  | literalWord isWord isLiteral =>
    cases same
    intro isFunction
    cases isWord.symm.trans isFunction
    simp [literalWord?] at isLiteral
  | this isWord | arguments isWord =>
    cases same
    exact isWord.ne (by decide)
  | «variable» isName _ =>
    cases same
    intro isFunction
    cases isName.1.symm.trans isFunction
    exact absurd isName.2 (by decide)
  | parentheses | array | object | function => simp at same

namespace Grammar

/-- Every rule for an expression or a single statement reads a token. -/
structure Advancing (bound : Nat) : Prop where
  assignment : Progresses (assignment bound)
  conditional : Progresses (conditional bound)
  binary : ∀ level, Progresses (binary bound level)
  unary : Progresses (unary bound)
  suffixed : Progresses (suffixed bound)
  primary : Progresses (primary bound)
  function : Progresses (function bound)
  statement : Progresses (statement bound)

theorem function_progresses (bound : Nat) : Progresses (function bound) := by
  have isWord : Token.IsWord ⟨.name "function", 0⟩ "function" := rfl
  refine ((Phrase.sound bound).function _ isWord).progresses fun expr phrase primary => ?_
  cases phrase with
  | nil => exact absurd isWord primary.not_function
  | cons token rest => exact Nat.succ_pos _

theorem advancing (bound : Nat) : Advancing bound where
  assignment := (Phrase.sound bound).assignment.progresses fun _ _ phrase =>
    phrase.begins.length_pos
  conditional := (Phrase.sound bound).conditional.progresses fun _ _ phrase =>
    phrase.begins.length_pos
  binary level tokens := by
    refine ((Phrase.sound bound).binary level tokens).mono ?_
    rintro expr rest ⟨phrase, rfl, binary, _⟩
    exact (Remains.append phrase rest).mono binary.begins.length_pos
  unary := (Phrase.sound bound).unary.progresses fun _ _ phrase => phrase.begins.length_pos
  suffixed := (Phrase.sound bound).suffixed.progresses fun _ _ phrase => phrase.begins.length_pos
  primary := (Phrase.sound bound).primary.progresses fun _ _ phrase => phrase.begins.length_pos
  function := function_progresses bound
  statement tokens := by
    refine ((Phrase.sound bound).statement tokens).mono ?_
    rintro statement rest ⟨phrase, ending, rfl, statementPhrase, _⟩
    exact (Remains.append phrase rest).mono statementPhrase.begins.length_pos

/-! ### Turns read a token or leave -/

variable {bound : Nat} {tokens : List Token}

theorem separatedTurn_advances {item : Grammar α} (progresses : Progresses item) (closing : Symbol)
    (expectation : Expectation) :
    Ensures (separatedTurn item closing expectation) tokens fun outcome rest =>
      Remains outcome.least tokens rest := by
  refine .bind (progresses tokens) ?_
  rintro first _ remains
  refine .takes ?_ fun _ => .takes ?_ fun _ => .unexpected
  · rintro mark rest _ rfl
    exact .pure ((remains.trans (.cons mark rest)).mono (Nat.le_succ 1))
  · rintro mark rest _ rfl
    exact .pure ((remains.trans (.cons mark rest)).mono (Nat.zero_le 2))

theorem closing_advances {symbol : Symbol} {value : α} {others : Grammar (Turn σ α)}
    (advances : Ensures others tokens fun outcome rest => Remains outcome.least tokens rest) :
    Ensures (do if ← takes symbol then return .leave value else others) tokens
      fun outcome rest => Remains outcome.least tokens rest := by
  refine .takes ?_ fun _ => advances
  rintro mark rest _ rfl
  exact .pure ((Remains.cons mark rest).mono (Nat.zero_le 1))

theorem entry_progresses (bound : Nat) : Progresses (entry bound) := by
  intro tokens
  refine .next ?_
  cases tokens with
  | nil => exact .refuse
  | cons token others =>
    simp only [List.head?_cons, List.tail_cons, Option.bind_some]
    cases token.lexeme.entryKey? with
    | none => exact .refuse
    | some key =>
      refine .expect ?_
      rintro colon rest _ rfl
      refine .bind ((advancing bound).assignment rest) ?_
      rintro value left remains
      exact .pure ((((Remains.cons token _).trans (.cons colon rest)).trans remains).mono
        (Nat.le_add_left 1 2))

theorem parameter_progresses : Progresses parameter := by
  intro tokens
  refine .next ?_
  cases tokens with
  | nil => exact .refuse
  | cons token others =>
    simp only [List.head?_cons, List.tail_cons]
    cases token.lexeme with
    | name spelling =>
      simp only
      split
      · exact .refuse
      · exact .pure (.cons token others)
    | _ => exact .refuse

theorem initial_remains (bound : Nat) :
    Ensures (initial bound) tokens fun _ rest => Remains 0 tokens rest := by
  refine .peek ?_
  split
  · refine .next (.bind ((advancing bound).assignment _) ?_)
    rintro value rest remains
    exact .pure (((Remains.tail tokens).trans remains).mono (Nat.zero_le 1))
  · exact .pure (.refl tokens)

theorem endStatement_remains :
    Ensures endStatement tokens fun _ rest => Remains 0 tokens rest := by
  refine (Phrase.endStatement_closes tokens).mono ?_
  rintro _ rest ⟨phrase, ending, rfl, _, _⟩
  exact (Remains.append phrase rest).mono (Nat.zero_le _)

theorem declarationsTurn_advances :
    Ensures (declarationsTurn bound ()) tokens fun outcome rest =>
      Remains outcome.least tokens rest := by
  refine .bind name_ensures ?_
  rintro name others ⟨token, _, rfl⟩
  refine .bind (initial_remains bound) ?_
  rintro initial _ remains
  have read := (Remains.cons token others).trans remains
  refine .takes ?_ fun _ => .bind endStatement_remains ?_
  · rintro mark rest _ rfl
    exact .pure ((read.trans (.cons mark rest)).mono (Nat.le_succ 1))
  · rintro _ rest ended
    exact .pure ((read.trans ended).mono (Nat.zero_le 1))

/-- A statement is read, behind which there may be another one. -/
theorem statement_advances :
    Ensures (do
      let first ← statement bound
      return Turn.again () (first :: ·) : Grammar (Turn Unit (List Statement))) tokens
      fun outcome rest => Remains outcome.least tokens rest := by
  refine .bind ((advancing bound).statement tokens) ?_
  rintro first rest remains
  exact .pure remains

theorem blockTurn_advances :
    Ensures (blockTurn bound ()) tokens fun outcome rest =>
      Remains outcome.least tokens rest := by
  refine closing_advances (.peek ?_)
  split
  · exact .unexpected
  · exact statement_advances

theorem statementsTurn_advances :
    Ensures (statementsTurn bound ()) tokens fun outcome rest =>
      Remains outcome.least tokens rest := by
  refine .peek ?_
  split
  · exact .pure (.refl tokens)
  · exact statement_advances

theorem suffixesTurn_advances (base : Expr) :
    Ensures (suffixesTurn bound base) tokens fun outcome rest =>
      Remains outcome.least tokens rest := by
  have operands_advance (others : List Token) :
      Ensures (operands bound) others fun _ rest => Remains 0 others rest := by
    refine ((Phrase.sound bound).operands others).mono ?_
    rintro operands rest ⟨phrase, closing, rfl, _, _⟩
    exact ((Remains.append phrase _).trans (.cons closing rest)).mono (Nat.zero_le _)
  refine .takes ?_ fun _ => .takes ?_ fun _ => .takes ?_ fun _ => .pure (.refl tokens)
  · rintro dot others _ rfl
    refine .next ?_
    cases others with
    | nil => exact .refuse
    | cons word rest =>
      obtain ⟨lexeme, column⟩ := word
      cases lexeme with
      | name spelling =>
        exact .pure (((Remains.cons dot _).trans (.cons _ rest)).mono (Nat.le_succ 1))
      | _ => exact .refuse
  · rintro opening others _ rfl
    refine .bind ((advancing bound).assignment others) ?_
    rintro key _ remains
    refine .expect ?_
    rintro closing rest _ rfl
    exact .pure ((((Remains.cons opening others).trans remains).trans (.cons closing rest)).mono
      (Nat.le_add_left 1 2))
  · rintro opening others _ rfl
    refine .takes ?_ fun _ => .bind (operands_advance others) ?_
    · rintro closing rest _ rfl
      exact .pure (((Remains.cons opening _).trans (.cons closing rest)).mono (Nat.le_succ 1))
    · rintro operands rest remains
      exact .pure ((Remains.cons opening others).trans remains)

theorem operationsTurn_advances (level : Nat) (left : Expr) :
    Ensures (operationsTurn level bound left) tokens fun outcome rest =>
      Remains outcome.least tokens rest := by
  refine .bind operatorFrom_ensures ?_
  rintro _ others (⟨operator, sign, rfl, _, _, rfl⟩ | ⟨rfl, rfl, _⟩)
  · refine .bind ((advancing bound).binary _ others) ?_
    rintro right rest remains
    exact .pure (((Remains.cons sign others).trans remains).mono (Nat.le_succ 1))
  · exact .pure (.refl tokens)

/-! ### The loops of the parser -/

/-- All loops of the parser run turns. -/
structure Looping : Prop where
  statements : IsLoop (fun bound _ => statements bound) statementsTurn
  block : IsLoop (fun bound _ => block bound) blockTurn
  operands : IsLoop (fun bound _ => operands bound) operandsTurn
  items : IsLoop (fun bound _ => items bound) itemsTurn
  entries : IsLoop (fun bound _ => entries bound) entriesTurn
  parameters : IsLoop (fun bound _ => parameters bound) parametersTurn
  declarations : IsLoop (fun bound _ => declarations bound) declarationsTurn
  suffixes : IsLoop suffixes suffixesTurn
  operations : ∀ level, IsLoop (fun bound => operations bound level) (operationsTurn level)

theorem looping : Looping where
  statements := ⟨fun bound _ => statements_runs bound, fun _ _ _ => statementsTurn_advances⟩
  block := ⟨fun bound _ => block_runs bound, fun _ _ _ => blockTurn_advances⟩
  operands := ⟨fun bound _ => operands_runs bound, fun bound _ _ =>
    separatedTurn_advances (advancing bound).assignment _ _⟩
  items := ⟨fun bound _ => items_runs bound, fun bound _ _ =>
    closing_advances (separatedTurn_advances (advancing bound).assignment _ _)⟩
  entries := ⟨fun bound _ => entries_runs bound, fun bound _ _ =>
    closing_advances (separatedTurn_advances (entry_progresses bound) _ _)⟩
  parameters := ⟨fun bound _ => parameters_runs bound, fun _ _ _ =>
    separatedTurn_advances parameter_progresses _ _⟩
  declarations := ⟨fun bound _ => declarations_runs bound, fun _ _ _ => declarationsTurn_advances⟩
  suffixes := ⟨suffixes_runs, fun _ base _ => suffixesTurn_advances base⟩
  operations level := ⟨operations_runs level, fun _ left _ => operationsTurn_advances level left⟩

end Grammar

end Shorthand
