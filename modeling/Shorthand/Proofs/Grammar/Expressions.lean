/-
This file shows for every form of expression that its rule reads the phrase if the rules for the
parts read theirs.
-/

import Shorthand.Proofs.Grammar.Run

namespace Shorthand

namespace Phrase

/-! ### Operators -/

variable {rest : List Token}

theorem IsSuffixed.isRead {expr : Expr} {phrase : List Token} (suffixed : IsSuffixed expr phrase) :
    IsRead Grammar.suffixed 1 (fun rest => grip rest < 10) expr phrase := by
  obtain ⟨used, fewer, reads⟩ := suffixed
  intro bound rest large loose
  obtain ⟨left, same⟩ := Nat.exists_eq_add_of_le' (show 1 ≤ bound - 1 - used by omega)
  have differ {symbol : Symbol} (tight : symbol.grip = 10) : grip rest ≠ symbol.grip := by
    omega
  rw [reads bound rest large, same, Grammar.suffixes,
    Grammar.takes_absent (head_of_grip (differ rfl)),
    Grammar.takes_absent (head_of_grip (differ rfl)),
    Grammar.takes_absent (head_of_grip (differ rfl))]
  rfl

theorem IsBinary.isRead {level : Nat} {expr : Expr} {phrase : List Token}
    (binary : IsBinary level expr phrase) (bound : Nat) (rest : List Token)
    (large : 16 * phrase.length + 3 ≤ bound) (loose : grip rest < level + 3)
    (noSuffix : grip rest < 10) :
    Grammar.binary bound level (phrase ++ rest) = .accepted expr rest := by
  obtain ⟨used, fewer, reads⟩ := binary
  obtain ⟨left, same⟩ := Nat.exists_eq_add_of_le' (show 1 ≤ bound - 1 - used by omega)
  rw [reads bound level rest large (Nat.le_refl level) (Nat.le_of_lt loose) noSuffix, same,
    Grammar.operations, Grammar.bind_accepted (Grammar.operatorFrom_absent (below_of_grip loose))]
  rfl

theorem IsOperand.isBinary {level : Nat} {expr : Expr} {phrase : List Token}
    (operand : IsOperand expr phrase) (nonempty : 0 < phrase.length) :
    IsBinary level expr phrase := by
  refine ⟨0, nonempty, fun bound least rest large _ _ noSuffix => ?_⟩
  obtain ⟨bound, rfl⟩ := Nat.exists_eq_add_of_le' (show 1 ≤ bound by omega)
  rw [Grammar.binary, Grammar.bind_accepted (operand bound rest (by omega) noSuffix)]
  rfl

/-- After an operator its right operand is read to its end, since nothing behind it binds more
tightly than the operator, and the rule goes on with the whole operation. -/
theorem IsBinary.operation {level : Nat} {operator : BinaryOperator} {left right : Expr}
    {sign : Token} {first second : List Token} (bound : level ≤ operator.level)
    (leftRead : IsBinary operator.level left first) (isSign : sign.IsSymbol (.operator operator))
    (rightRead : IsBinary (operator.level + 1) right second) :
    IsBinary level (.binary operator left right) (first ++ sign :: second) := by
  have rightIsRead := rightRead.isRead
  obtain ⟨used, fewer, reads⟩ := leftRead
  refine ⟨used + 1, by simp; omega, fun limit least rest large isLeast loose noSuffix => ?_⟩
  rw [List.length_append, List.length_cons] at large
  have gripSign : grip (sign :: (second ++ rest)) = operator.level + 3 := grip_cons isSign
  have low : operator.level ≤ 6 := by cases operator <;> decide
  obtain ⟨further, same⟩ := Nat.exists_eq_add_of_le' (show 1 ≤ limit - 1 - used by omega)
  have same' : further = limit - 1 - (used + 1) := by omega
  rw [List.append_assoc, List.cons_append,
    reads limit least _ (by omega) (by omega) (by omega) (by omega), same, Grammar.operations,
    Grammar.bind_accepted (Grammar.operatorFrom_found isSign (by omega))]
  dsimp only
  rw [Grammar.bind_accepted (rightIsRead further rest (by omega) (by omega) noSuffix), same']

theorem IsBinary.isConditional {expr : Expr} {phrase : List Token}
    (binary : IsBinary 0 expr phrase) : IsConditional expr phrase := by
  intro bound rest large follows
  have loose : grip rest < 2 := by
    rcases follows with loose | ⟨loose, _⟩ <;> omega
  obtain ⟨bound, rfl⟩ := Nat.exists_eq_add_of_le' (show 1 ≤ bound by omega)
  have noQuestion : grip rest ≠ Symbol.question.grip := Nat.ne_of_lt loose
  rw [Grammar.conditional,
    Grammar.bind_accepted (binary.isRead bound rest (by omega) (by omega) (by omega)),
    Grammar.takes_absent (head_of_grip noQuestion)]
  rfl

theorem IsConditional.choice {condition positive negative : Expr} {question colon : Token}
    {first second third : List Token} (conditionRead : IsBinary 0 condition first)
    (isQuestion : question.IsSymbol .question) (positiveRead : IsAssignment positive second)
    (isColon : colon.IsSymbol .colon) (negativeRead : IsAssignment negative third) :
    IsConditional (.conditional condition positive negative)
      (first ++ question :: (second ++ colon :: third)) := by
  intro bound rest large follows
  have loose : grip rest = 0 := by
    rcases follows with loose | ⟨_, isTarget⟩
    · exact loose
    · exact absurd rfl isTarget
  simp only [List.length_append, List.length_cons] at large
  obtain ⟨bound, rfl⟩ := Nat.exists_eq_add_of_le' (show 1 ≤ bound by omega)
  have gripQuestion : grip (question :: (second ++ (colon :: (third ++ rest)))) = 2 :=
    grip_cons isQuestion
  simp only [List.append_assoc, List.cons_append]
  rw [Grammar.conditional,
    Grammar.bind_accepted (conditionRead.isRead bound _ (by omega) (by omega) (by omega)),
    Grammar.takes_found isQuestion,
    Grammar.bind_accepted (positiveRead bound _ (by omega) (grip_cons isColon)),
    Grammar.expect_found isColon,
    Grammar.bind_accepted (negativeRead bound rest (by omega) loose)]
  rfl

theorem IsConditional.isAssignment {expr : Expr} {phrase : List Token}
    (conditional : IsConditional expr phrase) : IsAssignment expr phrase := by
  intro bound rest large loose
  obtain ⟨bound, rfl⟩ := Nat.exists_eq_add_of_le' (show 1 ≤ bound by omega)
  rw [Grammar.assignment, Grammar.column_bind,
    Grammar.bind_accepted (conditional bound rest (by omega) (.inl loose)),
    Grammar.bind_accepted (Grammar.assignmentSign_absent loose)]
  rfl

theorem IsAssignment.assign {left value : Expr} {target : Target} {sign : Token}
    {operator : Option BinaryOperator} {first second : List Token}
    (leftRead : IsConditional left first) (isTarget : left.target? = some target)
    (isSign : sign.IsSymbol (.assign operator)) (valueRead : IsAssignment value second) :
    IsAssignment (.assign operator target value) (first ++ sign :: second) := by
  intro bound rest large loose
  rw [List.length_append, List.length_cons] at large
  obtain ⟨bound, rfl⟩ := Nat.exists_eq_add_of_le' (show 1 ≤ bound by omega)
  have follows : FollowsConditional left (sign :: (second ++ rest)) :=
    .inr ⟨grip_cons isSign, by rw [isTarget]; nofun⟩
  rw [List.append_assoc, List.cons_append, Grammar.assignment, Grammar.column_bind,
    Grammar.bind_accepted (leftRead bound _ (by omega) follows),
    Grammar.bind_accepted (Grammar.assignmentSign_found isSign)]
  simp only [isTarget]
  rw [Grammar.bind_accepted (valueRead bound rest (by omega) loose)]
  rfl

/-! ### Operands -/

theorem IsSuffixed.isOperand {expr : Expr} {phrase : List Token} (suffixed : IsSuffixed expr phrase)
    (begins : Begins BeginsSuffixed phrase) : IsOperand expr phrase := by
  intro bound rest large loose
  obtain ⟨bound, rfl⟩ := Nat.exists_eq_add_of_le' (show 1 ≤ bound by omega)
  have reads := suffixed.isRead bound rest (by omega) loose
  obtain ⟨token, others, rfl, begins⟩ := begins
  have noOperator : ((token :: (others ++ rest)).head?.map (·.lexeme)).bind
      Lexeme.unaryOperator? = none := begins.noOperator
  rw [List.cons_append, Grammar.unary, Grammar.takesWord_differs begins.notNew, Grammar.peek_bind,
    noOperator]
  exact reads

theorem IsSuffixed.new {word : Token} {expr : Expr} {phrase : List Token}
    (isWord : word.IsWord "new") (suffixed : IsSuffixed expr phrase) :
    IsOperand expr (word :: phrase) := by
  intro bound rest large loose
  rw [List.length_cons] at large
  obtain ⟨bound, rfl⟩ := Nat.exists_eq_add_of_le' (show 1 ≤ bound by omega)
  rw [List.cons_append, Grammar.unary, Grammar.takesWord_found isWord]
  exact suffixed.isRead bound rest (by omega) loose

theorem IsOperand.unary {sign : Token} {operator : UnaryOperator} {expr : Expr}
    {phrase : List Token} (isSign : sign.lexeme.unaryOperator? = some operator)
    (operand : IsOperand expr phrase) : IsOperand (.unary operator expr) (sign :: phrase) := by
  intro bound rest large loose
  rw [List.length_cons] at large
  obtain ⟨bound, rfl⟩ := Nat.exists_eq_add_of_le' (show 1 ≤ bound by omega)
  have notNew : ¬sign.IsWord "new" := by
    intro isWord
    rw [isWord, Lexeme.unaryOperator?_name (by decide)] at isSign
    cases isSign
  have isOperator : ((sign :: (phrase ++ rest)).head?.map (·.lexeme)).bind
      Lexeme.unaryOperator? = some operator := isSign
  rw [List.cons_append, Grammar.unary, Grammar.takesWord_differs notNew, Grammar.peek_bind,
    isOperator]
  dsimp only
  rw [Grammar.next_bind, List.tail_cons,
    Grammar.bind_accepted (operand bound rest (by omega) loose)]
  rfl

/-! ### Suffixes -/

theorem IsPrimary.isSuffixed {expr : Expr} {phrase : List Token} (primary : IsPrimary expr phrase)
    (nonempty : 0 < phrase.length) : IsSuffixed expr phrase := by
  refine ⟨0, nonempty, fun bound rest large => ?_⟩
  obtain ⟨bound, rfl⟩ := Nat.exists_eq_add_of_le' (show 1 ≤ bound by omega)
  rw [Grammar.suffixed, Grammar.bind_accepted (primary bound rest (by omega) trivial)]
  rfl

/-- A suffix behind a phrase is read in one more step. -/
theorem IsSuffixed.extend {base expr : Expr} {phrase suffix : List Token}
    (baseRead : IsSuffixed base phrase) (nonempty : 0 < suffix.length)
    (step : ∀ bound rest, 16 * suffix.length ≤ bound + 16 →
      Grammar.suffixes (bound + 1) base (suffix ++ rest) = Grammar.suffixes bound expr rest) :
    IsSuffixed expr (phrase ++ suffix) := by
  obtain ⟨used, fewer, reads⟩ := baseRead
  refine ⟨used + 1, by rw [List.length_append]; omega, fun bound rest large => ?_⟩
  rw [List.length_append] at large
  obtain ⟨further, same⟩ := Nat.exists_eq_add_of_le' (show 1 ≤ bound - 1 - used by omega)
  have same' : further = bound - 1 - (used + 1) := by omega
  rw [List.append_assoc, reads bound _ (by omega), same, step further rest (by omega), same']

theorem IsSuffixed.member {base : Expr} {name : String} {dot word : Token} {phrase : List Token}
    (baseRead : IsSuffixed base phrase) (isDot : dot.IsSymbol .dot) (isWord : word.IsWord name) :
    IsSuffixed (.member base name) (phrase ++ [dot, word]) := by
  refine baseRead.extend (Nat.succ_pos _) fun bound rest _ => ?_
  obtain ⟨lexeme, column⟩ := word
  rw [Token.IsWord] at isWord
  subst isWord
  rw [Grammar.suffixes, List.cons_append, Grammar.takes_found isDot]
  rfl

theorem IsSuffixed.index {base key : Expr} {opening closing : Token} {first second : List Token}
    (baseRead : IsSuffixed base first) (isOpening : opening.IsSymbol (.opening .square))
    (keyRead : IsAssignment key second) (isClosing : closing.IsSymbol (.closing .square)) :
    IsSuffixed (.index base key) (first ++ opening :: (second ++ [closing])) := by
  refine baseRead.extend (Nat.succ_pos _) fun bound rest large => ?_
  simp only [List.length_cons, List.length_append, List.length_nil] at large
  simp only [List.cons_append, List.append_assoc, List.nil_append]
  have notDot : ¬opening.IsSymbol .dot := isOpening.ne nofun
  rw [Grammar.suffixes, Grammar.takes_differs notDot, Grammar.takes_found isOpening,
    Grammar.bind_accepted (keyRead bound _ (by omega) (grip_cons isClosing)),
    Grammar.expect_found isClosing]

/-- A call is told from the other suffixes by its parenthesis. -/
theorem suffixes_of_call {base : Expr} {opening : Token} {bound : Nat} {rest : List Token}
    (isOpening : opening.IsSymbol (.opening .round)) :
    Grammar.suffixes (bound + 1) base (opening :: rest) =
      (do
        if ← Grammar.takes (.closing .round) then Grammar.suffixes bound (.call base [])
        else
          let operands ← Grammar.operands bound
          Grammar.suffixes bound (.call base operands) : Grammar Expr) rest := by
  have notDot : ¬opening.IsSymbol .dot := isOpening.ne nofun
  have notSquare : ¬opening.IsSymbol (.opening .square) := isOpening.ne nofun
  rw [Grammar.suffixes, Grammar.takes_differs notDot, Grammar.takes_differs notSquare,
    Grammar.takes_found isOpening]

theorem IsSuffixed.callEmpty {base : Expr} {opening closing : Token} {phrase : List Token}
    (baseRead : IsSuffixed base phrase) (isOpening : opening.IsSymbol (.opening .round))
    (isClosing : closing.IsSymbol (.closing .round)) :
    IsSuffixed (.call base []) (phrase ++ [opening, closing]) := by
  refine baseRead.extend (Nat.succ_pos _) fun bound rest _ => ?_
  rw [List.cons_append, suffixes_of_call isOpening, List.cons_append,
    Grammar.takes_found isClosing, List.nil_append]

theorem IsSuffixed.call {base : Expr} {operands : List Expr} {opening closing : Token}
    {first second : List Token} (baseRead : IsSuffixed base first)
    (isOpening : opening.IsSymbol (.opening .round)) (operandsRead : AreOperands operands second)
    (begins : Begins BeginsExpression second) (isClosing : closing.IsSymbol (.closing .round)) :
    IsSuffixed (.call base operands) (first ++ opening :: (second ++ [closing])) := by
  refine baseRead.extend (Nat.succ_pos _) fun bound rest large => ?_
  simp only [List.length_cons, List.length_append, List.length_nil] at large
  have notClosing : ∀ token ∈ (second ++ closing :: rest).head?,
      ¬token.IsSymbol (.closing .round) :=
    fun token isHead => Token.not_isSymbol_of_begins ((begins.append _).head token isHead) rfl
  simp only [List.cons_append, List.append_assoc, List.nil_append]
  rw [suffixes_of_call isOpening, Grammar.takes_absent notClosing,
    Grammar.bind_accepted (operandsRead bound closing rest isClosing (by omega))]

theorem Operands.begins {MayStand : List Token → Prop} {operands : List Expr}
    {phrase : List Token} (derivation : Operands MayStand operands phrase) :
    Begins BeginsExpression phrase := by
  cases derivation with
  | single assignment => exact assignment.begins
  | cons assignment _ _ => exact assignment.begins.append _

theorem AreOperands.single {expr : Expr} {phrase : List Token}
    (assignment : IsAssignment expr phrase) : AreOperands [expr] phrase := by
  intro bound closing rest isClosing large
  obtain ⟨bound, rfl⟩ := Nat.exists_eq_add_of_le' (show 1 ≤ bound by omega)
  have gripClosing : grip (closing :: rest) = 0 := grip_cons isClosing
  have notComma : ¬closing.IsSymbol .comma := isClosing.ne nofun
  rw [Grammar.operands, Grammar.bind_accepted (assignment bound _ (by omega) gripClosing),
    Grammar.takes_differs notComma, Grammar.takes_found isClosing]
  rfl

theorem AreOperands.cons {expr : Expr} {others : List Expr} {mark : Token}
    {first second : List Token} (assignment : IsAssignment expr first)
    (isComma : mark.IsSymbol .comma) (further : AreOperands others second) :
    AreOperands (expr :: others) (first ++ mark :: second) := by
  intro bound closing rest isClosing large
  rw [List.length_append, List.length_cons] at large
  obtain ⟨bound, rfl⟩ := Nat.exists_eq_add_of_le' (show 1 ≤ bound by omega)
  rw [List.append_assoc, List.cons_append, Grammar.operands,
    Grammar.bind_accepted (assignment bound _ (by omega) (grip_cons isComma)),
    Grammar.takes_found isComma,
    Grammar.bind_accepted (further bound closing rest isClosing (by omega))]
  rfl

/-! ### Primary expressions -/

theorem isPrimary_of_token {expr : Expr} {token : Token}
    (reads : ∀ bound rest, Grammar.primary (bound + 1) (token :: rest) = .accepted expr rest) :
    IsPrimary expr [token] := by
  intro bound rest large _
  rw [List.length_singleton] at large
  obtain ⟨bound, rfl⟩ := Nat.exists_eq_add_of_le' (show 1 ≤ bound by omega)
  exact reads bound rest

theorem isPrimary_of_word {expr : Expr} {token : Token} {spelling : String}
    (isWord : token.IsWord spelling) (other : spelling ∉ ["this", "arguments", "function"])
    (means : literalWord? spelling = none ∧ spelling ∉ reservedWords ∧ expr = .variable spelling ∨
      ∃ literal, literalWord? spelling = some literal ∧ expr = .literal literal) :
    IsPrimary expr [token] := by
  refine isPrimary_of_token fun bound rest => ?_
  have notThis : spelling ≠ "this" := fun same => other (by rw [same]; decide)
  have notArguments : spelling ≠ "arguments" := fun same => other (by rw [same]; decide)
  have notFunction : spelling ≠ "function" := fun same => other (by rw [same]; decide)
  rw [Token.IsWord] at isWord
  rw [Grammar.primary, Grammar.next_bind]
  simp only [List.head?_cons, List.tail_cons, isWord]
  rcases means with ⟨noLiteral, free, rfl⟩ | ⟨literal, isLiteral, rfl⟩
  · have notReserved : reservedWords.contains spelling = false := by simpa using free
    rw [noLiteral]
    simp only [notReserved]
    rfl
  · rw [isLiteral]
    rfl

theorem isPrimary_of_literalWord {token : Token} {word : String} {literal : Literal}
    (isWord : token.IsWord word) (isLiteral : literalWord? word = some literal) :
    IsPrimary (.literal literal) [token] := by
  refine isPrimary_of_word isWord (fun other => ?_) (.inr ⟨literal, isLiteral, rfl⟩)
  have noLiteral : ∀ word ∈ ["this", "arguments", "function"],
      (literalWord? word).isNone = true := by decide
  rw [Option.isNone_iff_eq_none.mp (noLiteral word other)] at isLiteral
  cases isLiteral

theorem isPrimary_of_variable {token : Token} {name : String} (isName : token.IsName name)
    (noLiteral : literalWord? name = none) : IsPrimary (.variable name) [token] := by
  refine isPrimary_of_word isName.1 (fun other => ?_) (.inl ⟨noLiteral, isName.2, rfl⟩)
  have reserved : ∀ word ∈ ["this", "arguments", "function"], word ∈ reservedWords := by decide
  exact isName.2 (reserved name other)

theorem IsAssignment.parentheses {expr : Expr} {opening closing : Token} {phrase : List Token}
    (isOpening : opening.IsSymbol (.opening .round)) (inner : IsAssignment expr phrase)
    (isClosing : closing.IsSymbol (.closing .round)) :
    IsPrimary expr (opening :: (phrase ++ [closing])) := by
  intro bound rest large _
  simp only [List.length_cons, List.length_append, List.length_nil] at large
  obtain ⟨bound, rfl⟩ := Nat.exists_eq_add_of_le' (show 1 ≤ bound by omega)
  rw [Token.IsSymbol] at isOpening
  simp only [List.cons_append, List.append_assoc, List.nil_append]
  rw [Grammar.primary, Grammar.next_bind]
  simp only [List.head?_cons, List.tail_cons, isOpening]
  rw [Grammar.bind_accepted (inner bound _ (by omega) (grip_cons isClosing)),
    Grammar.expect_found isClosing]
  rfl

theorem AreItems.array {items : List Expr} {opening closing : Token} {phrase : List Token}
    (isOpening : opening.IsSymbol (.opening .square)) (itemsRead : AreItems items phrase)
    (isClosing : closing.IsSymbol (.closing .square)) :
    IsPrimary (.array items) (opening :: (phrase ++ [closing])) := by
  intro bound rest large _
  simp only [List.length_cons, List.length_append, List.length_nil] at large
  obtain ⟨bound, rfl⟩ := Nat.exists_eq_add_of_le' (show 1 ≤ bound by omega)
  rw [Token.IsSymbol] at isOpening
  simp only [List.cons_append, List.append_assoc, List.nil_append]
  rw [Grammar.primary, Grammar.next_bind]
  simp only [List.head?_cons, List.tail_cons, isOpening]
  rw [Grammar.bind_accepted (itemsRead bound closing rest isClosing (by omega))]
  rfl

theorem AreEntries.object {entries : List (String × Expr)} {opening closing : Token}
    {phrase : List Token} (isOpening : opening.IsSymbol (.opening .curly))
    (entriesRead : AreEntries entries phrase) (isClosing : closing.IsSymbol (.closing .curly)) :
    IsPrimary (.object entries) (opening :: (phrase ++ [closing])) := by
  intro bound rest large _
  simp only [List.length_cons, List.length_append, List.length_nil] at large
  obtain ⟨bound, rfl⟩ := Nat.exists_eq_add_of_le' (show 1 ≤ bound by omega)
  rw [Token.IsSymbol] at isOpening
  simp only [List.cons_append, List.append_assoc, List.nil_append]
  rw [Grammar.primary, Grammar.next_bind]
  simp only [List.head?_cons, List.tail_cons, isOpening]
  rw [Grammar.bind_accepted (entriesRead bound closing rest isClosing (by omega))]
  rfl

theorem areItems_nil : AreItems [] [] := by
  intro bound closing rest isClosing large
  obtain ⟨bound, rfl⟩ := Nat.exists_eq_add_of_le' (show 1 ≤ bound by omega)
  rw [List.nil_append, Grammar.items, Grammar.takes_found isClosing]
  rfl

theorem AreItems.last {expr : Expr} {phrase : List Token} (assignment : IsAssignment expr phrase)
    (begins : Begins BeginsExpression phrase) : AreItems [expr] phrase := by
  intro bound closing rest isClosing large
  obtain ⟨bound, rfl⟩ := Nat.exists_eq_add_of_le' (show 1 ≤ bound by omega)
  have gripClosing : grip (closing :: rest) = 0 := grip_cons isClosing
  have notClosing : ∀ token ∈ (phrase ++ closing :: rest).head?,
      ¬token.IsSymbol (.closing .square) :=
    fun token isHead => Token.not_isSymbol_of_begins ((begins.append _).head token isHead) rfl
  have notComma : ¬closing.IsSymbol .comma := isClosing.ne nofun
  rw [Grammar.items, Grammar.takes_absent notClosing,
    Grammar.bind_accepted (assignment bound _ (by omega) gripClosing),
    Grammar.takes_differs notComma, Grammar.takes_found isClosing]
  rfl

theorem AreItems.cons {expr : Expr} {others : List Expr} {mark : Token} {first second : List Token}
    (assignment : IsAssignment expr first) (begins : Begins BeginsExpression first)
    (isComma : mark.IsSymbol .comma) (further : AreItems others second) :
    AreItems (expr :: others) (first ++ mark :: second) := by
  intro bound closing rest isClosing large
  rw [List.length_append, List.length_cons] at large
  obtain ⟨bound, rfl⟩ := Nat.exists_eq_add_of_le' (show 1 ≤ bound by omega)
  have notClosing : ∀ token ∈ (first ++ mark :: (second ++ closing :: rest)).head?,
      ¬token.IsSymbol (.closing .square) :=
    fun token isHead => Token.not_isSymbol_of_begins ((begins.append _).head token isHead) rfl
  rw [List.append_assoc, List.cons_append, Grammar.items, Grammar.takes_absent notClosing,
    Grammar.bind_accepted (assignment bound _ (by omega) (grip_cons isComma)),
    Grammar.takes_found isComma,
    Grammar.bind_accepted (further bound closing rest isClosing (by omega))]
  rfl

theorem areEntries_nil : AreEntries [] [] := by
  intro bound closing rest isClosing large
  obtain ⟨bound, rfl⟩ := Nat.exists_eq_add_of_le' (show 1 ≤ bound by omega)
  rw [List.nil_append, Grammar.entries, Grammar.takes_found isClosing]
  rfl

theorem not_closing_of_key {word : Token} {key : String}
    (isKey : word.lexeme.entryKey? = some key) : ¬word.IsSymbol (.closing .curly) := by
  intro isClosing
  rw [isClosing] at isKey
  cases isKey

theorem AreEntries.last {key : String} {expr : Expr} {word colon : Token} {phrase : List Token}
    (isKey : word.lexeme.entryKey? = some key) (isColon : colon.IsSymbol .colon)
    (assignment : IsAssignment expr phrase) :
    AreEntries [(key, expr)] (word :: colon :: phrase) := by
  intro bound closing rest isClosing large
  simp only [List.length_cons] at large
  obtain ⟨bound, rfl⟩ := Nat.exists_eq_add_of_le' (show 1 ≤ bound by omega)
  have gripClosing : grip (closing :: rest) = 0 := grip_cons isClosing
  have notComma : ¬closing.IsSymbol .comma := isClosing.ne nofun
  rw [List.cons_append, List.cons_append, Grammar.entries,
    Grammar.takes_differs (not_closing_of_key isKey), Grammar.next_bind]
  simp only [List.head?_cons, List.tail_cons, Option.bind_some, isKey]
  rw [Grammar.expect_found isColon,
    Grammar.bind_accepted (assignment bound _ (by omega) gripClosing),
    Grammar.takes_differs notComma, Grammar.takes_found isClosing]
  rfl

theorem AreEntries.cons {key : String} {expr : Expr} {others : List (String × Expr)}
    {word colon mark : Token} {first second : List Token}
    (isKey : word.lexeme.entryKey? = some key) (isColon : colon.IsSymbol .colon)
    (assignment : IsAssignment expr first) (isComma : mark.IsSymbol .comma)
    (further : AreEntries others second) :
    AreEntries ((key, expr) :: others) (word :: colon :: (first ++ mark :: second)) := by
  intro bound closing rest isClosing large
  simp only [List.length_cons, List.length_append] at large
  obtain ⟨bound, rfl⟩ := Nat.exists_eq_add_of_le' (show 1 ≤ bound by omega)
  simp only [List.cons_append, List.append_assoc]
  rw [Grammar.entries, Grammar.takes_differs (not_closing_of_key isKey), Grammar.next_bind]
  simp only [List.head?_cons, List.tail_cons, Option.bind_some, isKey]
  rw [Grammar.expect_found isColon,
    Grammar.bind_accepted (assignment bound _ (by omega) (grip_cons isComma)),
    Grammar.takes_found isComma,
    Grammar.bind_accepted (further bound closing rest isClosing (by omega))]
  rfl

/-! ### Functions -/

theorem Parameters.areRead {names : List String} {phrase : List Token}
    (parameters : Parameters names phrase) :
    ∀ bound closing rest, Token.IsSymbol closing (.closing .round) → phrase.length ≤ bound →
      Grammar.parameters bound (phrase ++ closing :: rest) = .accepted names rest := by
  induction parameters with
  | @single token spelling isName =>
    intro bound closing rest isClosing large
    rw [List.length_singleton] at large
    obtain ⟨bound, rfl⟩ := Nat.exists_eq_add_of_le' large
    have notReserved : reservedWords.contains spelling = false := by simpa using isName.2
    have notComma : ¬closing.IsSymbol .comma := isClosing.ne nofun
    rw [List.cons_append, List.nil_append, Grammar.parameters, Grammar.next_bind]
    simp only [List.head?_cons, List.tail_cons, isName.1, notReserved, Bool.false_eq_true, if_false]
    rw [Grammar.takes_differs notComma, Grammar.takes_found isClosing]
    rfl
  | @cons token mark spelling names others isName isComma further inductionHypothesis =>
    intro bound closing rest isClosing large
    simp only [List.length_cons] at large
    obtain ⟨bound, rfl⟩ := Nat.exists_eq_add_of_le' (show 1 ≤ bound by omega)
    have notReserved : reservedWords.contains spelling = false := by simpa using isName.2
    rw [List.cons_append, List.cons_append, Grammar.parameters, Grammar.next_bind]
    simp only [List.head?_cons, List.tail_cons, isName.1, notReserved, Bool.false_eq_true, if_false]
    rw [Grammar.takes_found isComma,
      Grammar.bind_accepted (inductionHypothesis bound closing rest isClosing (by omega))]
    rfl

/-- No name in front of a closing parenthesis is missing or left over. -/
theorem ParameterList.isRead {names : List String} {phrase : List Token}
    (parameters : ParameterList names phrase) {bound : Nat} {closing : Token} {rest : List Token}
    (isClosing : closing.IsSymbol (.closing .round)) (large : phrase.length ≤ bound)
    (next : List String → Grammar Expr) :
    (do if ← Grammar.takes (.closing .round) then next []
        else Grammar.parameters bound >>= next : Grammar Expr) (phrase ++ closing :: rest) =
      next names rest := by
  cases parameters with
  | none => exact Grammar.takes_found isClosing _ _
  | some parameters =>
    have notClosing : ∀ token ∈ (phrase ++ closing :: rest).head?,
        ¬token.IsSymbol (.closing .round) := by
      intro token isHead isSymbol
      cases parameters with
      | single isName =>
        rw [← Option.some.inj isHead] at isSymbol
        exact Token.not_isSymbol_of_isWord isName.1 _ isSymbol
      | cons isName _ _ =>
        rw [← Option.some.inj isHead] at isSymbol
        exact Token.not_isSymbol_of_isWord isName.1 _ isSymbol
    rw [Grammar.takes_absent notClosing,
      Grammar.bind_accepted (parameters.areRead bound closing rest isClosing large)]

theorem IsBlock.function {parameters : List String} {block : List Statement} {label : String}
    {word openingRound closingRound openingCurly closingCurly : Token}
    {first second third : List Token} (isWord : word.IsWord "function")
    (labelPhrase : Label label first) (isOpeningRound : openingRound.IsSymbol (.opening .round))
    (parametersPhrase : ParameterList parameters second)
    (isClosingRound : closingRound.IsSymbol (.closing .round))
    (isOpeningCurly : openingCurly.IsSymbol (.opening .curly)) (blockRead : IsBlock block third)
    (isClosingCurly : closingCurly.IsSymbol (.closing .curly)) :
    IsPrimary (.function parameters (.statements block) label)
      (word :: (first ++ openingRound :: (second ++ closingRound :: openingCurly ::
        (third ++ [closingCurly])))) := by
  intro bound rest large _
  simp only [List.length_cons, List.length_append, List.length_nil] at large
  obtain ⟨bound, rfl⟩ := Nat.exists_eq_add_of_le' (show 2 ≤ bound by omega)
  rw [Token.IsWord] at isWord
  simp only [List.cons_append, List.append_assoc, List.nil_append]
  rw [Grammar.primary, Grammar.next_bind]
  simp only [List.head?_cons, List.tail_cons, isWord]
  rw [Grammar.function, Grammar.peek_bind]
  have afterLabel : ∀ label : String, (do
      Grammar.expect (.opening .round) .openingParenthesis
      let names ← if ← Grammar.takes (.closing .round) then pure []
        else Grammar.parameters bound
      Grammar.expect (.opening .curly) .openingBrace
      return .function names (.statements (← Grammar.block bound)) label : Grammar Expr)
      (openingRound :: (second ++ closingRound :: openingCurly ::
        (third ++ closingCurly :: rest))) =
      .accepted (.function parameters (.statements block) label) rest := by
    intro label
    rw [Grammar.expect_found isOpeningRound]
    refine (parametersPhrase.isRead isClosingRound (by omega) _).trans ?_
    dsimp only
    rw [Grammar.expect_found isOpeningCurly,
      Grammar.bind_accepted (blockRead bound closingCurly rest isClosingCurly (by omega))]
    rfl
  cases labelPhrase with
  | none =>
    rw [List.nil_append, List.head?_cons, Option.map_some, isOpeningRound]
    exact afterLabel "function"
  | some isName =>
    rw [List.cons_append, List.nil_append, List.head?_cons, Option.map_some, isName.1]
    dsimp only
    rw [Grammar.bind_accepted (Grammar.name_found isName _)]
    exact afterLabel label

end Phrase

end Shorthand
