/-
This file shows where in a source the scanner looks for a lexeme, and what it finds there.

It looks at the first character, behind each blank and behind each lexeme that it has found. So a
token stands at a column that it has come to, with the lexeme that begins there, and a source that
is refused has such a column where no lexeme begins.
-/

import Mathlib
import Shorthand.Proofs.Grammar.Phrase
import Shorthand.Proofs.Scan.Local

namespace Shorthand

namespace Token

/-! ### Columns that the scanner comes to -/

/-- The columns at which a blank or a lexeme of a text is looked for. -/
inductive Reaches (characters : List Char) : Nat → Prop where
  | start : Reaches characters 0
  | blank {column : Nat} {first : Char} {rest : List Char} (reached : Reaches characters column)
      (ahead : characters.drop column = first :: rest) (isBlank : Text.isBlank first = true) :
      Reaches characters (column + 1)
  | lexeme {column length : Nat} {first : Char} {rest : List Char} {lexeme : Lexeme}
      (reached : Reaches characters column) (ahead : characters.drop column = first :: rest)
      (notBlank : Text.isBlank first = false)
      (found : Lexeme.head first rest = .ok (lexeme, length)) : Reaches characters (column + length)

/-- At a column that the scanner comes to it looks for a lexeme, with an outcome. -/
def LooksAt (characters : List Char) (column : Nat) (outcome : Except Fault (Lexeme × Nat)) :
    Prop :=
  Reaches characters column ∧ ∃ first rest, characters.drop column = first :: rest ∧
    Text.isBlank first = false ∧ Lexeme.head first rest = outcome

variable {characters ahead : List Char} {skipped column : Nat}

theorem drop_succ_of_drop {first : Char} (same : characters.drop column = first :: ahead) :
    characters.drop (column + 1) = ahead := by
  rw [← List.drop_drop, same, List.drop_one, List.tail_cons]

theorem getElem?_of_drop {first : Char} (same : characters.drop column = first :: ahead) :
    characters[column]? = some first := by
  rw [← List.head?_drop, same, List.head?_cons]

/-- A text is divided into the lexemes that begin at the columns of its tokens, or it is refused at
a column where none begins. -/
inductive Sees (characters : List Char) : Except (Refusal × Nat) (List Token) → Prop where
  | tokens {tokens : List Token}
      (stand : ∀ token ∈ tokens, ∃ length,
        LooksAt characters token.column (.ok (token.lexeme, length))) :
      Sees characters (.ok tokens)
  | fault {fault : Fault} {column : Nat} (looks : LooksAt characters column (.error fault)) :
      Sees characters (.error (fault.refusal, column + fault.offset))

theorem scanFrom_sees (same : characters.drop column = ahead)
    (reached : Reaches characters (column + skipped)) :
    Sees characters (scanFrom skipped column ahead) := by
  fun_induction scanFrom skipped column ahead with
  | case1 => exact .tokens fun _ member => absurd member List.not_mem_nil
  | case2 column first rest left inductionHypothesis =>
    refine inductionHypothesis (drop_succ_of_drop same) ?_
    rwa [Nat.add_right_comm, Nat.add_assoc]
  | case3 column first rest isBlank inductionHypothesis =>
    exact inductionHypothesis (drop_succ_of_drop same) (.blank reached same isBlank)
  | case4 column first rest notBlank fault found =>
    exact .fault ⟨reached, first, rest, same, eq_false_of_ne_true notBlank, found⟩
  | case5 column first rest notBlank lexeme length found inductionHypothesis =>
    have notBlank : Text.isBlank first = false := eq_false_of_ne_true notBlank
    obtain ⟨own, _, _, isLength, _⟩ := Lexeme.head_isOwn found
    have behind : Reaches characters (column + 1 + (length - 1)) := by
      convert Reaches.lexeme reached same notBlank found using 1
      omega
    have further := inductionHypothesis (drop_succ_of_drop same) behind
    cases others : scanFrom (length - 1) (column + 1) rest with
    | error fault =>
      rw [others] at further
      exact further
    | ok tokens =>
      rw [others] at further
      obtain ⟨stand⟩ := further
      exact .tokens (List.forall_mem_cons.mpr
        ⟨⟨length, reached, first, rest, same, notBlank, found⟩, stand⟩)

theorem scanFrom_zero_sees (characters : List Char) :
    Sees characters (scanFrom 0 0 characters) := scanFrom_sees List.drop_zero .start

/-- Every token of a source is the lexeme that begins at its column. -/
theorem looksAt_of_scan {code : String} {tokens : List Token} (scanned : scan code = .ok tokens)
    {token : Token} (member : token ∈ tokens) :
    ∃ length, LooksAt code.toList token.column (.ok (token.lexeme, length)) := by
  have sees := scanFrom_zero_sees code.toList
  rw [scan_eq_ok.mp scanned] at sees
  cases sees with
  | tokens stand => exact stand token member

end Token

/-! ### What begins a text -/

namespace Lexeme

variable {first : Char} {rest : List Char} {lexeme : Lexeme} {length : Nat}

theorem numberAt_isNumber {characters : List Char}
    (found : numberAt characters = .ok (lexeme, length)) :
    (∃ value, lexeme = .integer value) ∨ ∃ value, lexeme = .float value := by
  unfold numberAt at found
  dsimp only at found
  split at found
  · cases found
  · split at found
    · cases found
      exact .inl ⟨_, rfl⟩
    · split at found
      · cases found
        exact .inr ⟨_, rfl⟩
      · cases found

/-- Of the lexemes in a source only names name something, and their characters stand there. -/
theorem head_names {name : String} (found : head first rest = .ok (lexeme, length))
    (names : lexeme.Names name) : lexeme = .name name ∧ name.toList <+: first :: rest := by
  unfold head at found
  split at found
  case isTrue =>
    rcases numberAt_isNumber found with ⟨value, rfl⟩ | ⟨value, rfl⟩ <;> exact names.elim
  case isFalse =>
    split at found
    case isTrue =>
      cases found
      cases names
      exact ⟨rfl, by rw [String.toList_ofList]; exact List.takeWhile_prefix _⟩
    case isFalse =>
      split at found
      case isTrue =>
        cases body : stringBody first 1 rest with
        | error fault =>
          rw [body] at found
          cases found
        | ok result =>
          rw [body] at found
          cases found
          exact names.elim
      case isFalse =>
        split at found <;> cases found
        exact names.elim

end Lexeme

end Shorthand
