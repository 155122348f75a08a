/-
This file proves that dividing a source into tokens loses nothing and is local.

From the first token on a source is one piece after another, each with the text of a token and the
blanks behind it. A piece that is scanned alone is that token and nothing else, so what a token is
does not depend on what comes after its piece or before it.
-/

import Mathlib
import Shorthand.Proofs.Scan.Extent

namespace Shorthand

namespace Token

/-- The column at which the token with an index begins. With no token left, the source ends
there. -/
def start (tokens : List Token) (finish index : Nat) : Nat :=
  (tokens[index]?.map (·.column)).getD finish

@[simp]
theorem start_succ (token : Token) (tokens : List Token) (finish index : Nat) :
    start (token :: tokens) finish (index + 1) = start tokens finish index := rfl

/-- The part of a source from a column up to another one. -/
def piece (code : String) (column stop : Nat) : String :=
  String.ofList ((code.toList.drop column).take (stop - column))

/-! ### A source piece by piece -/

/-- The characters from a column on are the pieces of tokens. -/
inductive Divided : Nat → List Char → List Token → Prop where
  | done (column : Nat) : Divided column [] []
  | token {column : Nat} {lexeme : Lexeme} {own rest : List Char} {tokens : List Token} :
      own ≠ [] → (∀ anywhere, scanFrom 0 anywhere own = .ok [⟨lexeme, anywhere⟩]) →
        Divided (column + own.length) rest tokens →
        Divided column (own ++ rest) (⟨lexeme, column⟩ :: tokens)

theorem scanFrom_blank {blanks : List Char} (areBlank : Blank blanks) (column : Nat) :
    scanFrom 0 column blanks = .ok [] := by
  induction blanks generalizing column with
  | nil => rfl
  | cons first blanks inductionHypothesis =>
    obtain ⟨isBlank, areBlank⟩ := List.forall_mem_cons.mp areBlank
    rw [scanFrom]
    exact (if_pos isBlank).trans (inductionHypothesis areBlank _)

/-- The text of a lexeme with blanks behind it is one token. -/
theorem scanFrom_single {first : Char} {own blanks : List Char} {lexeme : Lexeme}
    (notBlank : Text.isBlank first = false) (areBlank : Blank blanks)
    (found : Lexeme.head first (own ++ blanks) = .ok (lexeme, own.length + 1)) (column : Nat) :
    scanFrom 0 column (first :: (own ++ blanks)) = .ok [⟨lexeme, column⟩] := by
  rw [scanFrom]
  simp only [notBlank, Bool.false_eq_true, if_false, found, Nat.add_sub_cancel]
  rw [Literal.scanFrom_skip, scanFrom_blank areBlank]
  rfl

/-- A source is blanks and then the pieces of its tokens. The characters that are skipped belong to
a token that has been found before. -/
theorem divided_of_scanFrom {skipped column : Nat} {characters : List Char} {tokens : List Token}
    (scanned : scanFrom skipped column characters = .ok tokens) :
    ∃ blanks rest, characters.drop skipped = blanks ++ rest ∧ Blank blanks ∧
      Divided (column + skipped + blanks.length) rest tokens := by
  fun_induction scanFrom skipped column characters generalizing tokens with
  | case1 =>
    cases scanned
    exact ⟨[], [], List.drop_nil, .nil, .done _⟩
  | case2 column first rest left inductionHypothesis =>
    obtain ⟨blanks, rest', same, areBlank, divided⟩ := inductionHypothesis scanned
    refine ⟨blanks, rest', same, areBlank, ?_⟩
    rwa [Nat.add_assoc column, Nat.add_comm 1] at divided
  | case3 column first rest isBlank inductionHypothesis =>
    obtain ⟨blanks, rest', same, areBlank, divided⟩ := inductionHypothesis scanned
    refine ⟨first :: blanks, rest', congrArg (first :: ·) same,
      List.forall_mem_cons.mpr ⟨isBlank, areBlank⟩, ?_⟩
    rwa [List.length_cons, Nat.add_comm blanks.length, ← Nat.add_assoc, Nat.add_right_comm column]
  | case4 => cases scanned
  | case5 column first rest notBlank lexeme length found inductionHypothesis =>
    cases others : scanFrom (length - 1) (column + 1) rest with
    | error fault =>
      rw [others] at scanned
      cases scanned
    | ok tokens =>
      rw [others] at scanned
      cases scanned
      obtain ⟨own, left, rfl, isLength, again⟩ := Lexeme.head_isOwn found
      obtain ⟨blanks, rest', same, areBlank, divided⟩ := inductionHypothesis others
      rw [isLength, Nat.add_sub_cancel] at same divided
      rw [List.drop_left] at same
      have found' := again blanks areBlank
      rw [isLength] at found'
      have whole : first :: (own ++ left) = first :: (own ++ blanks) ++ rest' := by
        rw [same, List.cons_append, List.append_assoc]
      refine ⟨[], first :: (own ++ left), rfl, .nil, ?_⟩
      rw [whole]
      refine .token (List.cons_ne_nil _ _)
        (scanFrom_single (eq_false_of_ne_true notBlank) areBlank found') ?_
      convert divided using 1
      rw [List.length_cons, List.length_append]
      simp only [List.length_nil]
      omega

/-! ### The columns of the pieces -/

section Columns

variable {column : Nat} {characters : List Char} {tokens : List Token}

/-- The first token begins where the pieces do. -/
theorem Divided.start_zero (divided : Divided column characters tokens) :
    start tokens (column + characters.length) 0 = column := by
  cases divided with
  | done => rfl
  | token => rfl

/-- Every token has a piece of its own, from its column up to the next one. -/
theorem Divided.piece (divided : Divided column characters tokens) (index : Nat)
    (inside : index < tokens.length) :
    ∃ before own after, characters = before ++ own ++ after ∧ own ≠ [] ∧
      start tokens (column + characters.length) index = column + before.length ∧
      start tokens (column + characters.length) (index + 1) =
        column + before.length + own.length ∧
      ∀ anywhere, scanFrom 0 anywhere own = .ok [⟨tokens[index].lexeme, anywhere⟩] := by
  induction divided generalizing index with
  | done => cases inside
  | @token column lexeme own rest tokens some_ scanned divided inductionHypothesis =>
    rw [List.length_append, ← Nat.add_assoc]
    cases index with
    | zero => exact ⟨[], own, rest, rfl, some_, rfl, divided.start_zero, scanned⟩
    | succ index =>
      obtain ⟨before, next, after, same, nonempty, begins, ends, scannedNext⟩ :=
        inductionHypothesis index (Nat.lt_of_succ_lt_succ inside)
      refine ⟨own ++ before, next, after, ?_, nonempty, ?_, ?_, scannedNext⟩
      · rw [same]
        simp only [List.append_assoc]
      · rw [start_succ, begins, List.length_append, Nat.add_assoc]
      · rw [start_succ, ends, List.length_append, Nat.add_assoc column]

/-- Every column lies in the piece of a token. -/
theorem Divided.covers (divided : Divided column characters tokens) {place : Nat}
    (lower : column ≤ place) (upper : place < column + characters.length) :
    ∃ index < tokens.length, start tokens (column + characters.length) index ≤ place ∧
      place < start tokens (column + characters.length) (index + 1) := by
  induction divided with
  | done => exact absurd upper (Nat.not_lt.mpr lower)
  | @token column lexeme own rest tokens _ _ divided inductionHypothesis =>
    rw [List.length_append, ← Nat.add_assoc] at upper ⊢
    by_cases inFirst : place < column + own.length
    · refine ⟨0, Nat.zero_lt_succ _, lower, ?_⟩
      rwa [start_succ, divided.start_zero]
    · obtain ⟨index, inside, begins, ends⟩ := inductionHypothesis (Nat.not_lt.mp inFirst) upper
      exact ⟨index + 1, Nat.succ_lt_succ inside, begins, ends⟩

theorem Divided.start_strictMonoOn (divided : Divided column characters tokens) :
    StrictMonoOn (start tokens (column + characters.length)) (Set.Iic tokens.length) := by
  refine strictMonoOn_Iic_of_lt_succ fun index inside => ?_
  obtain ⟨before, own, after, _, nonempty, begins, ends, _⟩ := divided.piece index inside
  have positive := List.length_pos_iff.mpr nonempty
  rw [Order.succ_eq_add_one, begins, ends]
  omega

end Columns

/-! ### A whole source -/

theorem scan_eq_ok {code : String} {tokens : List Token} :
    scan code = .ok tokens ↔ scanFrom 0 0 code.toList = .ok tokens := by
  rw [scan]
  cases scanFrom 0 0 code.toList with
  | error fault => exact ⟨nofun, nofun⟩
  | ok found => rw [Except.ok.injEq, Except.ok.injEq]

/-- A source that is divided into tokens is blanks up to the first of them and then one piece for
each, from its column up to the next one or the end. Every piece is scanned alone into its token,
and every character that is not blank lies in exactly one of them. -/
theorem scan_local {code : String} {tokens : List Token} (scanned : scan code = .ok tokens) :
    start tokens code.length tokens.length = code.length ∧
    StrictMonoOn (start tokens code.length) (Set.Iic tokens.length) ∧
    (∀ column < start tokens code.length 0, ∀ character ∈ code.toList[column]?,
      Text.isBlank character = true) ∧
    (∀ index (inside : index < tokens.length),
      scan (piece code (start tokens code.length index) (start tokens code.length (index + 1))) =
        .ok [⟨tokens[index].lexeme, 0⟩]) ∧
    ∀ column, ∀ character ∈ code.toList[column]?, Text.isBlank character = false →
      ∃! index, index < tokens.length ∧ start tokens code.length index ≤ column ∧
        column < start tokens code.length (index + 1) := by
  obtain ⟨blanks, rest, same, areBlank, divided⟩ := divided_of_scanFrom (scan_eq_ok.mp scanned)
  rw [List.drop_zero] at same
  rw [Nat.zero_add] at divided
  have finish : code.length = blanks.length + rest.length := by
    rw [← String.length_toList, same, List.length_append]
  have increasing := divided.start_strictMonoOn
  have first := divided.start_zero
  rw [← finish] at increasing first
  have before : ∀ column < start tokens code.length 0, ∀ character ∈ code.toList[column]?,
      Text.isBlank character = true := by
    intro column lower character found
    rw [first] at lower
    rw [same, List.getElem?_append_left lower] at found
    exact areBlank character (List.mem_of_getElem? found)
  refine ⟨?_, increasing, before, fun index inside => ?_, fun column character found notBlank => ?_⟩
  · rw [start, List.getElem?_eq_none le_rfl]
    rfl
  · obtain ⟨earlier, own, after, parts, _, begins, ends, scannedOwn⟩ := divided.piece index inside
    rw [← finish] at begins ends
    have own_piece : piece code (start tokens code.length index)
        (start tokens code.length (index + 1)) = String.ofList own := by
      have text : code.toList = (blanks ++ earlier) ++ (own ++ after) := by
        rw [same, parts]
        simp only [List.append_assoc]
      rw [piece, begins, ends, Nat.add_sub_cancel_left, text, ← List.length_append,
        List.drop_left, List.take_left]
    rw [own_piece, scan_eq_ok, String.toList_ofList]
    exact scannedOwn 0
  · have lower : start tokens code.length 0 ≤ column := by
      by_contra outside
      rw [before column (Nat.not_le.mp outside) character found] at notBlank
      cases notBlank
    have upper : column < code.length := by
      rw [← String.length_toList]
      exact (List.getElem?_eq_some_iff.mp found).1
    rw [first] at lower
    rw [finish] at upper
    obtain ⟨index, inside, begins, ends⟩ := divided.covers lower upper
    rw [← finish] at begins ends
    refine ⟨index, ⟨inside, begins, ends⟩, fun other ⟨otherInside, otherBegins, otherEnds⟩ => ?_⟩
    -- Of two pieces one ends where the other begins or before that.
    rcases Nat.lt_trichotomy other index with isLess | rfl | isGreater
    · have apart : start tokens code.length (other + 1) ≤ start tokens code.length index :=
        increasing.monotoneOn (Set.mem_Iic.mpr otherInside) (Set.mem_Iic.mpr inside.le) isLess
      omega
    · rfl
    · have apart : start tokens code.length (index + 1) ≤ start tokens code.length other :=
        increasing.monotoneOn (Set.mem_Iic.mpr inside) (Set.mem_Iic.mpr otherInside.le) isGreater
      omega

/-- A source with tokens of most kinds, with blanks and without any between them. -/
def mixed : String := " 12.length>=x - '\\'\\u0041'!==\"- -\"\t"

/-- The tokens of that text. -/
def mixedTokens : List Token :=
  [⟨.integer 12, 1⟩, ⟨.symbol .dot, 3⟩, ⟨.name "length", 4⟩,
    ⟨.symbol (.operator .greaterEqual), 10⟩, ⟨.name "x", 12⟩, ⟨.symbol (.operator .subtract), 14⟩,
    ⟨.string "'A", 16⟩, ⟨.symbol (.operator .notSame), 26⟩, ⟨.string "- -", 29⟩]

theorem mixed_scan : scan mixed = .ok mixedTokens := by cbv

/-- The pieces of that text are scanned alone, and the minus inside of its last string is in one
token only. -/
theorem mixed_local : scan mixed = .ok mixedTokens ∧
    StrictMonoOn (start mixedTokens mixed.length) (Set.Iic 9) ∧
    scan (piece mixed (start mixedTokens mixed.length 0) (start mixedTokens mixed.length 1)) =
      .ok [⟨.integer 12, 0⟩] ∧
    scan (piece mixed (start mixedTokens mixed.length 8) (start mixedTokens mixed.length 9)) =
      .ok [⟨.string "- -", 0⟩] ∧
    ∃! index, index < 9 ∧ start mixedTokens mixed.length index ≤ 32 ∧
      32 < start mixedTokens mixed.length (index + 1) := by
  obtain ⟨_, increasing, _, pieces, covers⟩ := scan_local mixed_scan
  exact ⟨mixed_scan, increasing, pieces 0 (by decide), pieces 8 (by decide),
    covers 32 '-' rfl (by decide)⟩

end Token

end Shorthand
