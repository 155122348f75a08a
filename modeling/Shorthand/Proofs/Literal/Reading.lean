/-
This file shows that the literal of a plain tree is scanned into tokens that read as one operand.

The operand of a negative integer has a sign in front, which is why it is an operand and no primary
expression. Its brackets are closed in the order in which they were opened, so inside of brackets
nothing of it is seen from the outside.
-/

import Mathlib
import Shorthand.Form
import Shorthand.Proofs.Grammar.Phrase
import Shorthand.Proofs.Literal.Scan

namespace Shorthand

/-! ### Plain trees -/

mutual

/-- Trees whose literals can be read back: no functions, dates and floating-point numbers, and
not the least integer, whose digits alone have more than 64 bits. -/
def Tree.IsPlain : Tree → Prop
  | .undefined | .null | .boolean _ | .string _ => True
  | .number (.integer value) => value ≠ Int64.minValue
  | .list items => AllPlain items
  | .map entries => EntriesPlain entries
  | _ => False

/-- All of some trees are plain. -/
def AllPlain : List Tree → Prop
  | [] => True
  | tree :: rest => tree.IsPlain ∧ AllPlain rest

/-- The trees of some entries are plain. -/
def EntriesPlain : List (String × Tree) → Prop
  | [] => True
  | (_, tree) :: rest => tree.IsPlain ∧ EntriesPlain rest

end

mutual

/-- The expression that the literal of a plain tree reads as. -/
def Tree.expr : Tree → Expr
  | .undefined => .literal .undefined
  | .null => .literal .null
  | .boolean value => .literal (.boolean value)
  | .number (.integer value) =>
    if value.toInt < 0 then
      .unary .negate (.literal (.number (.integer (Int64.ofInt value.toInt.natAbs))))
    else .literal (.number (.integer value))
  | .number (.float value) => .literal (.number (.float value))
  | .string value => .literal (.string value)
  | .list items => .array (itemExprs items)
  | .map entries => .object (entryExprs entries)
  | .function label => .variable label
  | .date _ _ => .variable "Date"

/-- The expressions that spell some trees. -/
def itemExprs : List Tree → List Expr
  | [] => []
  | tree :: rest => tree.expr :: itemExprs rest

/-- Some entries with the expressions that spell their trees. -/
def entryExprs : List (String × Tree) → List (String × Expr)
  | [] => []
  | (key, tree) :: rest => (key, tree.expr) :: entryExprs rest

end

namespace Literal

open Phrase (NoBrace)

/-! ### Brackets -/

/-- Inside of brackets the tokens are not seen from the outside. -/
def Balanced (tokens : List Token) : Prop :=
  ∀ (depth : Int) (rest : List Token), 0 < depth →
    topLevelFrom depth (tokens ++ rest) = topLevelFrom depth rest

theorem balanced_nil : Balanced [] := fun _ _ _ => rfl

theorem balanced_single {token : Token} (noBracket : token.lexeme.depthChange = 0) :
    Balanced [token] := by
  intro depth rest inside
  have notOutside : ¬(token.lexeme.depthChange = 0 ∧ depth = 0) := fun outside => by omega
  rw [List.cons_append, List.nil_append, topLevelFrom, if_neg notOutside, noBracket, add_zero]

theorem Balanced.append {tokens others : List Token} (balanced : Balanced tokens)
    (otherBalanced : Balanced others) : Balanced (tokens ++ others) := by
  intro depth rest inside
  rw [List.append_assoc, balanced depth _ inside, otherBalanced depth rest inside]

/-- Tokens between brackets leave nothing to be seen at the depth of the opening bracket. -/
theorem Balanced.enclosed {opening closing : Token} {tokens : List Token}
    {bracket closer : Bracket} (balanced : Balanced tokens)
    (isOpening : opening.IsSymbol (.opening bracket))
    (isClosing : closing.IsSymbol (.closing closer)) (depth : Int) (rest : List Token)
    (inside : 0 ≤ depth) :
    topLevelFrom depth (opening :: (tokens ++ closing :: rest)) = topLevelFrom depth rest := by
  have opens : opening.lexeme.depthChange = 1 := by
    rw [isOpening]
    rfl
  have closes : closing.lexeme.depthChange = -1 := by
    rw [isClosing]
    rfl
  rw [topLevelFrom, if_neg (by rw [opens]; omega), opens, balanced (depth + 1) _ (by omega),
    topLevelFrom, if_neg (by rw [closes]; omega), closes]
  congr 1
  omega

/-! ### Tokens of literals -/

/-- Tokens that read as the expression of a tree. -/
def Spells (tree : Tree) (tokens : List Token) : Prop :=
  Phrase.Operand NoBrace tree.expr tokens ∧ Balanced tokens

/-- Tokens spell the items of a list, and their brackets are in pairs. -/
def ItemsSpell (items : List Tree) (tokens : List Token) : Prop :=
  Phrase.Items NoBrace (itemExprs items) tokens ∧ Balanced tokens

/-- Tokens spell the entries of an object, and their brackets are in pairs. -/
def EntriesSpell (entries : List (String × Tree)) (tokens : List Token) : Prop :=
  Phrase.Entries NoBrace (entryExprs entries) tokens ∧ Balanced tokens

theorem Spells.assignment {tree : Tree} {tokens : List Token} (spells : Spells tree tokens) :
    Phrase.Assignment NoBrace tree.expr tokens := .plain (.plain (.plain spells.1))

/-- A token that is a literal by itself. -/
theorem spells_single {tree : Tree} {lexeme : Lexeme} (noBracket : lexeme.depthChange = 0)
    (primary : ∀ column, Phrase.Primary NoBrace tree.expr [⟨lexeme, column⟩]) (tokens : List Token)
    (single : IsSingle lexeme tokens) : Spells tree tokens := by
  obtain ⟨column, rfl⟩ := single
  exact ⟨.plain (.plain (primary column)), balanced_single noBracket⟩

/-- A word that is a literal. -/
theorem scans_word {tree : Tree} (word : String) {literal : Literal}
    (isPlain : Tree.isPlainKey word = true) (isLiteral : literalWord? word = some literal)
    (isExpr : tree.expr = .literal literal) : Scans Ends (Spells tree) word.toList := by
  refine (scans_name isPlain).mono (spells_single rfl fun column => ?_)
  rw [isExpr]
  exact .literalWord rfl isLiteral

theorem minValue_lt_toInt {value : Int64} (notLeast : value ≠ Int64.minValue) :
    Int64.minValue.toInt < value.toInt := by
  refine lt_of_le_of_ne value.minValue_le_toInt fun same => notLeast ?_
  exact (Int64.toInt_inj.mp same).symm

theorem scans_integer {value : Int64} (notLeast : value ≠ Int64.minValue) :
    Scans Ends (Spells (.number (.integer value))) (integerText value.toInt).toList := by
  have least : Int64.minValue.toInt = -9223372036854775808 := rfl
  have greatest : Int64.maxValue.toInt = 9223372036854775807 := rfl
  have lower := minValue_lt_toInt notLeast
  have upper : value.toInt ≤ Int64.maxValue.toInt := value.toInt_le
  have digits := scans_digits value.toInt.natAbs (by omega)
  rw [toList_integerText]
  by_cases negative : value.toInt < 0
  · rw [if_pos negative]
    refine scans_minus.append digits (fun rest _ => ?_) ?_
    · obtain ⟨first, others, begins, isDigit⟩ := toDigits_begins value.toInt.natAbs
      have isHead : first ∈ (Nat.toDigits 10 value.toInt.natAbs ++ rest).head? := by
        rw [begins]
        rfl
      exact ⟨first, isHead, isDigit⟩
    · rintro _ _ ⟨column, rfl⟩ ⟨next, rfl⟩
      rw [Spells, Tree.expr, if_pos negative]
      exact ⟨.unary rfl (.plain (.plain (.integer rfl))),
        (balanced_single rfl).append (balanced_single rfl)⟩
  · rw [if_neg negative]
    refine digits.mono (spells_single rfl fun column => ?_)
    rw [Tree.expr, if_neg negative, Int.natAbs_of_nonneg (Int.not_lt.mp negative),
      Int64.ofInt_toInt]
    exact .integer rfl

theorem scans_key (key : String) :
    Scans Ends (fun tokens => ∃ token : Token, tokens = [token] ∧
      token.lexeme.entryKey? = some key ∧ Balanced tokens) (Tree.keyText key).toList := by
  rw [Tree.keyText]
  split
  · rename_i isPlain
    refine (scans_name isPlain).mono fun tokens single => ?_
    obtain ⟨column, rfl⟩ := single
    exact ⟨⟨.name key, column⟩, rfl, rfl, balanced_single rfl⟩
  · refine ((scans_quoted key).weaken fun _ _ => trivial).mono fun tokens single => ?_
    obtain ⟨column, rfl⟩ := single
    exact ⟨⟨.string key, column⟩, rfl, rfl, balanced_single rfl⟩

theorem scans_nil {holds : List Token → Prop} (nothing : holds []) : Scans Ends holds [] := by
  intro column
  refine ⟨[], nothing, fun rest _ => ?_⟩
  rw [List.nil_append, List.length_nil, Nat.add_zero]
  cases Token.scanFrom 0 column rest <;> rfl

/-- A text between two brackets. -/
theorem Scans.enclose {holds enclosed : List Token → Prop} {text : List Char}
    {opening closing : Char} {bracket : Bracket} (scans : Scans Ends holds text)
    (isOpening : Scans (fun _ => True) (IsSingle (.symbol (.opening bracket))) [opening])
    (isClosing : Scans (fun _ => True) (IsSingle (.symbol (.closing bracket))) [closing])
    (isEnd : closing ∈ endMarks)
    (joins : ∀ first tokens last, Token.IsSymbol first (.opening bracket) → holds tokens →
      Token.IsSymbol last (.closing bracket) → enclosed (first :: (tokens ++ [last]))) :
    Scans (fun _ => True) enclosed (opening :: (text ++ [closing])) := by
  have inner : Scans (fun _ => True) (fun tokens => ∃ inside last, tokens = inside ++ [last] ∧
      holds inside ∧ Token.IsSymbol last (.closing bracket)) (text ++ [closing]) := by
    refine scans.append isClosing (fun rest _ => ?_) ?_
    · intro first isHead
      rwa [← Option.some.inj isHead]
    · rintro tokens _ property ⟨column, rfl⟩
      exact ⟨tokens, _, rfl, property, rfl⟩
  refine isOpening.append inner (fun _ _ => trivial) ?_
  rintro _ _ ⟨column, rfl⟩ ⟨tokens, last, rfl, property, isLast⟩
  exact joins _ tokens last rfl property isLast

/-- One text, a mark, and more behind it. -/
theorem Scans.sequence {first second both : List Token → Prop} {left right : List Char}
    {mark : Char} {symbol : Symbol} (scansLeft : Scans Ends first left)
    (isMark : Scans (fun _ => True) (IsSingle (.symbol symbol)) [mark]) (isEnd : mark ∈ endMarks)
    (scansRight : Scans Ends second right)
    (joins : ∀ tokens sign others, first tokens → Token.IsSymbol sign symbol → second others →
      both (tokens ++ sign :: others)) :
    Scans Ends both (left ++ mark :: right) := by
  have behind : Scans Ends (fun tokens => ∃ sign others, tokens = sign :: others ∧
      Token.IsSymbol sign symbol ∧ second others) (mark :: right) := by
    refine isMark.append scansRight (fun _ _ => trivial) ?_
    rintro _ others ⟨column, rfl⟩ property
    exact ⟨_, others, rfl, rfl, property⟩
  refine scansLeft.append behind (fun rest _ => ?_) ?_
  · intro head isHead
    rwa [← Option.some.inj isHead]
  · rintro tokens _ property ⟨sign, others, rfl, isSign, otherProperty⟩
    exact joins tokens sign others property isSign otherProperty

theorem literals_eq (before : List String) (items : List Tree) :
    Tree.literals before items = before.reverse ++ items.map Tree.literal := by
  induction items generalizing before with
  | nil => rw [Tree.literals, List.map_nil, List.append_nil]
  | cons item rest inductionHypothesis =>
    rw [Tree.literals, inductionHypothesis, List.reverse_cons, List.append_assoc]
    rfl

/-- The text of an entry of a map. -/
def entryLiteral (entry : String × Tree) : String :=
  Tree.keyText entry.1 ++ ":" ++ entry.2.literal

theorem entryLiterals_eq (before : List String) (entries : List (String × Tree)) :
    Tree.entryLiterals before entries = before.reverse ++ entries.map entryLiteral := by
  induction entries generalizing before with
  | nil => rw [Tree.entryLiterals, List.map_nil, List.append_nil]
  | cons entry rest inductionHypothesis =>
    obtain ⟨key, value⟩ := entry
    rw [Tree.entryLiterals, inductionHypothesis, List.reverse_cons, List.append_assoc]
    rfl

/-! ### Entries of maps -/

/-- Tokens that read as an entry of a map. -/
def EntrySpells (entry : String × Tree) (tokens : List Token) : Prop :=
  ∃ (word colon : Token) (value : List Token), tokens = word :: colon :: value ∧
    word.lexeme.entryKey? = some entry.1 ∧ colon.IsSymbol .colon ∧ Spells entry.2 value ∧
    Balanced tokens

theorem scans_entry (key : String) {tree : Tree}
    (scans : Scans Ends (Spells tree) tree.literal.toList) :
    Scans Ends (EntrySpells (key, tree)) (entryLiteral (key, tree)).toList := by
  have text : (entryLiteral (key, tree)).toList =
      (Tree.keyText key).toList ++ ':' :: tree.literal.toList := by
    rw [entryLiteral, String.toList_append, String.toList_append, List.append_assoc]
    rfl
  rw [text]
  refine (scans_key key).sequence (scans_mark ':' .colon (by decide)) (by decide) scans ?_
  rintro _ colon value ⟨word, rfl, isKey, balanced⟩ isColon spells
  have noBracket : colon.lexeme.depthChange = 0 := by
    rw [isColon]
    rfl
  exact ⟨word, colon, value, rfl, isKey, isColon, spells,
    balanced.append ((balanced_single noBracket).append spells.2)⟩

/-! ### Literals -/

mutual

theorem scans_literal : ∀ tree : Tree, tree.IsPlain →
    Scans Ends (Spells tree) tree.literal.toList
  | .undefined, _ => by
    rw [Tree.literal]
    exact scans_word "undefined" rfl rfl rfl
  | .null, _ => by
    rw [Tree.literal]
    exact scans_word "null" rfl rfl rfl
  | .boolean true, _ => by
    rw [Tree.literal]
    exact scans_word "true" rfl rfl rfl
  | .boolean false, _ => by
    rw [Tree.literal]
    exact scans_word "false" rfl rfl rfl
  | .number (.integer _), isPlain => scans_integer isPlain
  | .number (.float _), isPlain | .function _, isPlain | .date _ _, isPlain => False.elim isPlain
  | .string value, _ =>
    ((scans_quoted value).weaken fun _ _ => trivial).mono
      (spells_single rfl fun _ => .string rfl)
  | .list items, isPlain => by
    have text : (Tree.list items).literal.toList =
        '[' :: ((",".intercalate (items.map Tree.literal)).toList ++ [']']) := by
      rw [Tree.literal, literals_eq, String.toList_append, String.toList_append]
      rfl
    rw [text]
    refine Scans.weaken (Scans.enclose (scans_items items isPlain)
      (scans_mark '[' (.opening .square) (by decide))
      (scans_mark ']' (.closing .square) (by decide)) (by decide) ?_) fun _ _ => trivial
    intro first tokens last isOpening itemsSpell isClosing
    refine ⟨.plain (.plain (.array isOpening itemsSpell.1 isClosing)), fun depth rest inside => ?_⟩
    rw [List.cons_append, List.append_assoc]
    exact itemsSpell.2.enclosed isOpening isClosing depth rest (Int.le_of_lt inside)
  | .map entries, isPlain => by
    have text : (Tree.map entries).literal.toList =
        '\x7b' :: ((",".intercalate (entries.map entryLiteral)).toList ++ ['\x7d']) := by
      rw [Tree.literal, entryLiterals_eq, String.toList_append, String.toList_append]
      rfl
    rw [text]
    refine Scans.weaken (Scans.enclose (scans_entries entries isPlain)
      (scans_mark '\x7b' (.opening .curly) (by decide))
      (scans_mark '\x7d' (.closing .curly) (by decide)) (by decide) ?_) fun _ _ => trivial
    intro first tokens last isOpening entriesSpell isClosing
    refine ⟨.plain (.plain (.object isOpening entriesSpell.1 isClosing)),
      fun depth rest inside => ?_⟩
    rw [List.cons_append, List.append_assoc]
    exact entriesSpell.2.enclosed isOpening isClosing depth rest (Int.le_of_lt inside)

theorem scans_items : ∀ items : List Tree, AllPlain items →
    Scans Ends (ItemsSpell items) (",".intercalate (items.map Tree.literal)).toList
  | [], _ => scans_nil ⟨.nil, balanced_nil⟩
  | [tree], isPlain => by
    rw [List.map_cons, List.map_nil, String.intercalate_singleton]
    exact (scans_literal tree isPlain.1).mono fun _ spells => ⟨.last spells.assignment, spells.2⟩
  | tree :: next :: rest, isPlain => by
    have first := scans_literal tree isPlain.1
    have further := scans_items (next :: rest) isPlain.2
    rw [List.map_cons] at further
    rw [List.map_cons, List.map_cons, String.intercalate_cons_cons, String.toList_append,
      String.toList_append, List.append_assoc]
    refine first.sequence (scans_mark ',' .comma (by decide)) (by decide) further ?_
    intro tokens comma others spells isComma itemsSpell
    have noBracket : comma.lexeme.depthChange = 0 := by
      rw [isComma]
      rfl
    exact ⟨.cons spells.assignment isComma itemsSpell.1,
      spells.2.append ((balanced_single noBracket).append itemsSpell.2)⟩

theorem scans_entries : ∀ entries : List (String × Tree), EntriesPlain entries →
    Scans Ends (EntriesSpell entries) (",".intercalate (entries.map entryLiteral)).toList
  | [], _ => scans_nil ⟨.nil, balanced_nil⟩
  | [(key, tree)], isPlain => by
    rw [List.map_cons, List.map_nil, String.intercalate_singleton]
    refine (scans_entry key (scans_literal tree isPlain.1)).mono ?_
    rintro _ ⟨word, colon, value, rfl, isKey, isColon, spells, balanced⟩
    exact ⟨.last isKey isColon spells.assignment, balanced⟩
  | (key, tree) :: next :: rest, isPlain => by
    have first := scans_entry key (scans_literal tree isPlain.1)
    have further := scans_entries (next :: rest) isPlain.2
    rw [List.map_cons] at further
    rw [List.map_cons, List.map_cons, String.intercalate_cons_cons, String.toList_append,
      String.toList_append, List.append_assoc]
    refine first.sequence (scans_mark ',' .comma (by decide)) (by decide) further ?_
    rintro _ comma others ⟨word, colon, value, rfl, isKey, isColon, spells, balanced⟩ isComma
      entriesSpell
    have noBracket : comma.lexeme.depthChange = 0 := by
      rw [isComma]
      rfl
    exact ⟨.cons isKey isColon spells.assignment isComma entriesSpell.1,
      balanced.append ((balanced_single noBracket).append entriesSpell.2)⟩

end

end Literal

end Shorthand
