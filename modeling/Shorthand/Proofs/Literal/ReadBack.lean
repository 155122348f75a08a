/-
This file shows that the literal of a value, put in parentheses, is a program that makes the value
again.

The parentheses are what keeps the literal of a map from being read as a block: behind them no
token is seen outside of brackets, so the program is an expression.
-/

import Mathlib
import Shorthand.Proofs.Grammar.Exact
import Shorthand.Proofs.Lexical.Refinement
import Shorthand.Proofs.Literal.Evaluate

namespace Shorthand

/-! ### Reading the program -/

/-- The tokens of an expression in parentheses that nothing is seen of from the outside. -/
def IsEnclosed (expr : Expr) (tokens : List Token) : Prop :=
  Phrase.Assignment Phrase.NoBrace expr tokens ∧
    ∃ first rest, tokens = first :: rest ∧ first.IsSymbol (.opening .round) ∧ topLevel tokens = []

theorem scans_enclosed {tree : Tree} (isPlain : tree.IsPlain) :
    Literal.Scans (fun _ => True) (IsEnclosed tree.expr)
      ('(' :: (tree.literal.toList ++ [')'])) := by
  refine (Literal.scans_literal tree isPlain).enclose
    (Literal.scans_mark '(' (.opening .round) (by decide))
    (Literal.scans_mark ')' (.closing .round) (by decide)) (by decide) ?_
  intro first tokens last isOpening spells isClosing
  refine ⟨?_, first, _, rfl, isOpening, ?_⟩
  · exact .plain (.plain (.plain (.plain (.plain
      (.parentheses isOpening spells.assignment isClosing)))))
  · exact spells.2.enclosed isOpening isClosing 0 [] (Int.le_refl 0)

theorem IsEnclosed.isExpression {expr : Expr} {tokens : List Token}
    (enclosed : IsEnclosed expr tokens) : isStatementBody tokens = false := by
  obtain ⟨_, ⟨lexeme, column⟩, rest, rfl, isOpening, nothing⟩ := enclosed
  cases isOpening
  unfold isStatementBody looksLikeStatements
  rw [nothing]
  rfl

/-- The program that a plain tree in parentheses is read as. -/
theorem parseProgram_literal {tree : Tree} (isPlain : tree.IsPlain) :
    Definition.parseProgram ("(" ++ tree.literal ++ ")") =
      .ok ⟨[], .expression tree.expr, "(" ++ tree.literal ++ ")"⟩ := by
  obtain ⟨tokens, enclosed, scanned⟩ := scans_enclosed isPlain 0
  have isExpression := enclosed.isExpression
  obtain ⟨assignment, first, rest, rfl, _⟩ := enclosed
  have characters :
      ("(" ++ tree.literal ++ ")").toList = '(' :: (tree.literal.toList ++ [')']) := by
    rw [String.toList_append, String.toList_append]
    rfl
  have scan : Token.scanSome ("(" ++ tree.literal ++ ")") = .ok (first :: rest) := by
    have whole := scanned [] trivial
    rw [List.append_nil, ← characters] at whole
    rw [Token.scanSome, Token.scan, whole]
    exact congrArg Except.ok (List.append_nil (first :: rest))
  rw [Definition.parseProgram, scan]
  show (Body.parse _ (isStatementBody (first :: rest)) (first :: rest) >>= _) = _
  rw [isExpression, Body.parse, if_neg Bool.false_ne_true, Expr.parse_of_phrase assignment]
  rfl

/-! ### Running it -/

/-- A program of an expression without names has a routine without slots. -/
theorem resolve_expression {expr : Expr} {code : Code}
    (resolves : ∀ source, expr.resolve source = pure code) (label : String) (heap : Heap) :
    Definition.resolve ⟨[], .expression expr, label⟩ heap =
      .ok (⟨[], 0, [], .expression code, label⟩, heap) := by
  simp only [Definition.resolve, Body.resolve, resolves]
  rfl

/-- Calling the function of such a program evaluates the expression. -/
theorem call_expression {expr : Expr} {code : Code}
    (resolves : ∀ source, expr.resolve source = pure code) (label : String)
    (world : World SlotClosure) (context : Value) (arguments : List Value) :
    ∃ function made frame heap,
      Definition.compile ⟨[], .expression expr, label⟩ world = (.value function, made) ∧
        call function context arguments made =
          code.evaluate (slotEngine.machineWithin 999999) frame ⟨heap, made.closures⟩ := by
  let closure : SlotClosure := ⟨⟨[], 0, [], .expression code, label⟩, []⟩
  obtain ⟨function, made, compiled⟩ : ∃ function made,
      Action.newClosure closure 0 label world = (.value function, made) := ⟨_, _, rfl⟩
  have called : call function context arguments made =
      closure.run (slotEngine.machineWithin 999999) context arguments made :=
    slotEngine.invoke_newClosure compiled 999999 context arguments
  obtain ⟨frame, heap, entered⟩ : ∃ frame heap,
      closure.enter context arguments made = (.value frame, ⟨heap, made.closures⟩) := ⟨_, _, rfl⟩
  refine ⟨function, made, frame, heap, ?_, ?_⟩
  · rw [Definition.compile, resolve_expression resolves]
    exact compiled
  · rw [called, SlotClosure.run, Action.bind_value entered]
    rfl

/-- The value of a program is what its expression denotes. -/
theorem Denotes.evaluate {expr : Expr} {tree : Tree} (denotes : Denotes expr tree)
    {source : String} (parsed : Definition.parseProgram source = .ok ⟨[], .expression expr, source⟩)
    (world : World SlotClosure) :
    ∃ result after, Shorthand.evaluate source world = (.value result, after) ∧
      Unfolds after.heap result tree := by
  obtain ⟨code, resolves, builds⟩ := denotes
  obtain ⟨function, made, frame, heap, compiled, called⟩ :=
    call_expression resolves source world .undefined []
  have compiles : machine.compileProgram source world = (.value function, made) := by
    rw [Machine.compileProgram, parsed]
    exact compiled
  obtain ⟨result, after, runs, _, unfolds⟩ :=
    builds (slotEngine.machineWithin 999999) frame heap made.closures
  refine ⟨result, ⟨after, made.closures⟩, ?_, unfolds⟩
  rw [Shorthand.evaluate, Action.bind_value compiles, called]
  exact runs

/-- The literal of a value whose tree is plain is read back. -/
theorem literal_reads_back {heap : Heap} {value : Value} {tree : Tree}
    (unfolds : Unfolds heap value tree) (isPlain : tree.IsPlain) (world : World SlotClosure) :
    ∃ result after, evaluate ("(" ++ value.literal heap ++ ")") world = (.value result, after) ∧
      Unfolds after.heap result tree := by
  have same : value.literal heap = tree.literal := congrArg Tree.literal unfolds.ofValue_eq
  rw [same]
  exact (unfolds.denotes isPlain).evaluate (parseProgram_literal isPlain) world

/-- A heap with a list of a negative number and a map, whose key is no name and whose text has a
quotation mark. -/
def nestedHeap : Heap :=
  { Heap.empty with
    lists := #[#[.number (.integer (-1)), .map ⟨0⟩]]
    maps := #[Table.empty.insert "a b" (.string "\"")] }

/-- The tree of the list `[-1, {'a b': '"'}]`. -/
def nestedTree : Tree :=
  .list [.number (.integer (-1)), .map [("a b", .string "\"")]]

/-- The literal of that list, read in a world of its own, makes a list with the same tree. -/
theorem nested_reads_back :
    Unfolds nestedHeap (.list ⟨0⟩) nestedTree ∧ nestedTree.IsPlain ∧
      "(" ++ (Value.list ⟨0⟩).literal nestedHeap ++ ")" = "([-1,\x7b\"a b\":\"\\\"\"\x7d])" ∧
      ∃ result after, evaluate ("(" ++ (Value.list ⟨0⟩).literal nestedHeap ++ ")") .empty =
        (.value result, after) ∧ Unfolds after.heap result nestedTree := by
  have entries : EntriesUnfold nestedHeap (Table.empty.insert "a b" (.string "\"")).entries
      [("a b", .string "\"")] := .cons (.string "\"") .nil
  have unfolds : Unfolds nestedHeap (.list ⟨0⟩) nestedTree :=
    .list rfl (.cons (.number _) (.cons (.map rfl entries) .nil))
  have notLeast : (-1 : Int64) ≠ Int64.minValue := by decide
  have isPlain : nestedTree.IsPlain := ⟨notLeast, ⟨trivial, trivial⟩, trivial⟩
  exact ⟨unfolds, isPlain, by rfl, literal_reads_back unfolds isPlain .empty⟩

end Shorthand
