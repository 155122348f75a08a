/-
This file says what the texts that literals are made of are scanned into.

A text is scanned the same way at every column and in front of every text that may follow it. A
mark can stand in front of anything. A number or a name goes on as far as it can, so what follows
it has to end it, and in a literal one of five marks does.
-/

import Mathlib
import Shorthand.Token.Scan
import Shorthand.Value.Tree

namespace Shorthand

namespace Literal

/-- A text is scanned into tokens with a property in front of every text that may follow. -/
def Scans (Follows : List Char → Prop) (holds : List Token → Prop) (text : List Char) : Prop :=
  ∀ column, ∃ tokens, holds tokens ∧ ∀ rest, Follows rest →
    Token.scanFrom 0 column (text ++ rest) =
      (Token.scanFrom 0 (column + text.length) rest).map (tokens ++ ·)

/-- The tokens are a single one with a lexeme. -/
def IsSingle (lexeme : Lexeme) (tokens : List Token) : Prop :=
  ∃ column, tokens = [⟨lexeme, column⟩]

/-- The marks that end a number or a name in a literal. -/
def endMarks : List Char := [',', ':', ')', ']', '\x7d']

/-- The text is empty or begins with a mark that ends what is in front of it. -/
def Ends (rest : List Char) : Prop := ∀ first ∈ rest.head?, first ∈ endMarks

variable {Follows : List Char → Prop}

theorem Scans.mono {holds weaker : List Token → Prop} {text : List Char}
    (scans : Scans Follows holds text) (implies : ∀ tokens, holds tokens → weaker tokens) :
    Scans Follows weaker text := by
  intro column
  obtain ⟨tokens, property, reads⟩ := scans column
  exact ⟨tokens, implies tokens property, reads⟩

theorem Scans.weaken {Fewer : List Char → Prop} {holds : List Token → Prop} {text : List Char}
    (scans : Scans Follows holds text) (implies : ∀ rest, Fewer rest → Follows rest) :
    Scans Fewer holds text := by
  intro column
  obtain ⟨tokens, property, reads⟩ := scans column
  exact ⟨tokens, property, fun rest fewer => reads rest (implies rest fewer)⟩

/-- Two texts one after the other are scanned into the tokens of both. -/
theorem Scans.append {Between : List Char → Prop} {first second both : List Token → Prop}
    {left right : List Char} (scansLeft : Scans Between first left)
    (scansRight : Scans Follows second right)
    (meets : ∀ rest, Follows rest → Between (right ++ rest))
    (joins : ∀ tokens others, first tokens → second others → both (tokens ++ others)) :
    Scans Follows both (left ++ right) := by
  intro column
  obtain ⟨tokens, property, reads⟩ := scansLeft column
  obtain ⟨others, otherProperty, readsOthers⟩ := scansRight (column + left.length)
  refine ⟨tokens ++ others, joins tokens others property otherProperty, fun rest follows => ?_⟩
  rw [List.append_assoc, reads _ (meets rest follows), readsOthers rest follows,
    List.length_append, Nat.add_assoc]
  cases Token.scanFrom 0 (column + (left.length + right.length)) rest with
  | error fault => rfl
  | ok found => exact congrArg Except.ok (List.append_assoc tokens others found).symm

/-! ### One token -/

/-- The characters of a token after its first one are skipped. -/
theorem scanFrom_skip (skipped : List Char) (column : Nat) (rest : List Char) :
    Token.scanFrom skipped.length column (skipped ++ rest) =
      Token.scanFrom 0 (column + skipped.length) rest := by
  induction skipped generalizing column with
  | nil => rfl
  | cons first skipped inductionHypothesis =>
    rw [List.length_cons, List.cons_append, Token.scanFrom, inductionHypothesis]
    congr 1
    omega

/-- A text that is one lexeme is scanned into one token. -/
theorem scans_single {lexeme : Lexeme} {first : Char} {others : List Char}
    (notBlank : Text.isBlank first = false)
    (head : ∀ rest, Follows rest →
      Lexeme.head first (others ++ rest) = .ok (lexeme, others.length + 1)) :
    Scans Follows (IsSingle lexeme) (first :: others) := by
  intro column
  refine ⟨[⟨lexeme, column⟩], ⟨column, rfl⟩, fun rest follows => ?_⟩
  rw [List.cons_append, Token.scanFrom]
  simp only [notBlank, Bool.false_eq_true, if_false, head rest follows, Nat.add_sub_cancel]
  rw [scanFrom_skip, List.length_cons]
  congr 2
  omega

/-- The marks of a literal are symbols whatever follows them. -/
theorem scans_mark (mark : Char) (symbol : Symbol)
    (isMark : (mark, symbol) ∈ [(',', Symbol.comma), (':', Symbol.colon),
      ('(', Symbol.opening .round), (')', Symbol.closing .round),
      ('[', Symbol.opening .square), (']', Symbol.closing .square),
      ('\x7b', Symbol.opening .curly), ('\x7d', Symbol.closing .curly)]) :
    Scans (fun _ => True) (IsSingle (.symbol symbol)) [mark] := by
  simp only [List.mem_cons, Prod.mk.injEq, List.not_mem_nil, or_false] at isMark
  rcases isMark with ⟨rfl, rfl⟩ | ⟨rfl, rfl⟩ | ⟨rfl, rfl⟩ | ⟨rfl, rfl⟩ | ⟨rfl, rfl⟩ | ⟨rfl, rfl⟩ |
    ⟨rfl, rfl⟩ | ⟨rfl, rfl⟩ <;> exact scans_single rfl fun rest _ => rfl

/-! ### Strings -/

/-- The characters that are written as a backslash with a letter, and their letters. -/
def escapes : List (Char × Char) :=
  [('"', '"'), ('\\', '\\'), ('\n', 'n'), ('\r', 'r'), ('\t', 't')]

/-- A character is written as itself, or as a backslash with its letter. -/
theorem plainForm_cases (character : Char) :
    (Text.plainForm character = [character] ∧ character ≠ '"' ∧ character ≠ '\\') ∨
      ∃ letter, (character, letter) ∈ escapes ∧ Text.plainForm character = ['\\', letter] := by
  unfold Text.plainForm
  split
  · exact .inr ⟨'"', by decide, rfl⟩
  · exact .inr ⟨'\\', by decide, rfl⟩
  · exact .inr ⟨'n', by decide, rfl⟩
  · exact .inr ⟨'r', by decide, rfl⟩
  · exact .inr ⟨'t', by decide, rfl⟩
  · rename_i notQuote notBackslash _ _ _
    exact .inl ⟨rfl, notQuote, notBackslash⟩

/-- A letter stands for its character. -/
theorem escaped?_of_mem {character letter : Char} (isEscape : (character, letter) ∈ escapes) :
    Lexeme.escaped? letter = some character ∧ letter ≠ 'u' := by
  have each : ∀ pair ∈ escapes, Lexeme.escaped? pair.2 = some pair.1 ∧ pair.2 ≠ 'u' := by decide
  exact each _ isEscape

section Steps

variable {quote character : Char} {rest body : List Char} {offset length : Nat}

theorem stringBody_plain (notQuote : character ≠ quote) (notBackslash : character ≠ '\\')
    (reads : Lexeme.stringBody quote (offset + 1) rest = .ok (body, length)) :
    Lexeme.stringBody quote offset (character :: rest) = .ok (character :: body, length) := by
  unfold Lexeme.stringBody
  rw [if_neg notQuote, if_pos notBackslash, reads]
  rfl

theorem stringBody_escaped {letter : Char} (notQuote : '\\' ≠ quote)
    (isEscape : Lexeme.escaped? letter = some character) (notCodePoint : letter ≠ 'u')
    (reads : Lexeme.stringBody quote (offset + 2) rest = .ok (body, length)) :
    Lexeme.stringBody quote offset ('\\' :: letter :: rest) = .ok (character :: body, length) := by
  unfold Lexeme.stringBody
  rw [if_neg notQuote, if_neg (by decide)]
  split
  · contradiction
  · rename_i same
    exact absurd (List.cons.inj same).1 notCodePoint
  · rename_i same
    exact absurd (List.cons.inj same).1 notCodePoint
  · rename_i same
    obtain ⟨rfl, rfl⟩ := List.cons.inj same
    rw [isEscape]
    simp only [reads]
    rfl

theorem stringBody_codePoint {d₁ d₂ d₃ d₄ : Char} (notQuote : '\\' ≠ quote)
    (isPoint : Lexeme.codePoint? [d₁, d₂, d₃, d₄] = some character)
    (reads : Lexeme.stringBody quote (offset + 6) rest = .ok (body, length)) :
    Lexeme.stringBody quote offset ('\\' :: 'u' :: d₁ :: d₂ :: d₃ :: d₄ :: rest) =
      .ok (character :: body, length) := by
  unfold Lexeme.stringBody
  rw [if_neg notQuote, if_neg (by decide)]
  simp only [isPoint, reads]
  rfl

end Steps

/-- The characters of a quoted text are read back, up to the closing quotation mark. -/
theorem stringBody_quoted (text rest : List Char) (offset : Nat) :
    Lexeme.stringBody '"' offset (text.flatMap Text.plainForm ++ '"' :: rest) =
      .ok (text, offset + (text.flatMap Text.plainForm).length + 1) := by
  induction text generalizing offset with
  | nil =>
    rw [List.flatMap_nil, List.nil_append]
    unfold Lexeme.stringBody
    rw [if_pos rfl]
    rfl
  | cons first text inductionHypothesis =>
    rw [List.flatMap_cons, List.append_assoc, List.length_append]
    rcases plainForm_cases first with ⟨form, notQuote, notBackslash⟩ | ⟨letter, isEscape, form⟩
    · rw [form]
      refine stringBody_plain notQuote notBackslash ((inductionHypothesis (offset + 1)).trans ?_)
      rw [List.length_singleton, Nat.add_assoc offset 1]
    · obtain ⟨means, notU⟩ := escaped?_of_mem isEscape
      rw [form]
      refine stringBody_escaped (by decide) means notU ((inductionHypothesis (offset + 2)).trans ?_)
      rw [List.length_cons, List.length_singleton, Nat.add_assoc offset 2]

theorem scans_quoted (text : String) :
    Scans (fun _ => True) (IsSingle (.string text)) (Text.quoted Text.plainForm text).toList := by
  rw [Text.quoted, String.toList_ofList, List.cons_append]
  refine scans_single rfl fun rest _ => ?_
  have body := stringBody_quoted text.toList rest 1
  rw [List.append_assoc, List.cons_append, List.nil_append]
  have head : Lexeme.head '"' (text.toList.flatMap Text.plainForm ++ '"' :: rest) =
      (Lexeme.stringBody '"' 1 (text.toList.flatMap Text.plainForm ++ '"' :: rest)).map
        fun found => (.string (String.ofList found.1), found.2) := rfl
  rw [head, body, List.length_append, List.length_singleton, Except.map, String.ofList_toList,
    Nat.add_comm 1]

/-! ### Blanks -/

/-- The code points of the blank characters. -/
def blankPoints : List Nat :=
  List.range' 0x9 5 ++ [0x20, 0x85, 0xA0, 0x1680] ++ List.range' 0x2000 11 ++
    [0x2028, 0x2029, 0x202F, 0x205F, 0x3000]

theorem mem_blankPoints {character : Char} (isBlank : Text.isBlank character = true) :
    character.toNat ∈ blankPoints := by
  simp only [Text.isBlank, Text.CharacterSet.contains, Text.blanks,
    Text.CharacterSet.covers] at isBlank
  simp only [blankPoints, List.mem_append, List.mem_range'_1, List.mem_cons, List.not_mem_nil,
    or_false]
  grind

/-- A character that a name can start with is not blank. -/
theorem notBlank_of_isNameStart {character : Char} (starts : Text.isNameStart character = true) :
    Text.isBlank character = false := by
  rw [← Bool.not_eq_true]
  intro isBlank
  have noLetters : ∀ point ∈ blankPoints,
      Text.CharacterSet.covers Text.letters.ranges point = false := by decide +kernel
  have noLetter : Text.isLetter character = false := noLetters _ (mem_blankPoints isBlank)
  rw [Text.isNameStart, noLetter] at starts
  simp only [Bool.false_or, Bool.or_eq_true, beq_iff_eq] at starts
  rcases starts with rfl | rfl
  · cases isBlank
  · cases isBlank

theorem notBlank_of_isDigit {character : Char} (isDigit : character.isDigit = true) :
    Text.isBlank character = false := by
  rw [← Bool.not_eq_true]
  intro isBlank
  have member := mem_blankPoints isBlank
  have outside : ∀ point ∈ blankPoints, point < 48 ∨ 57 < point := by decide
  rw [Char.isDigit, Bool.and_eq_true, decide_eq_true_eq, decide_eq_true_eq] at isDigit
  have lower : 48 ≤ character.toNat := isDigit.1
  have upper : character.toNat ≤ 57 := isDigit.2
  have apart := outside _ member
  omega

/-! ### Numbers -/

/-- What ends a token is no digit, no part of a name and no part of a number. -/
theorem endMarks_end : ∀ mark ∈ endMarks, mark.isDigit = false ∧ Text.isNamePart mark = false ∧
    Text.isNameStart mark = false ∧ mark ≠ '.' ∧ mark ≠ 'e' ∧ mark ≠ 'E' := by
  intro mark member
  simp only [endMarks, List.mem_cons, List.not_mem_nil, or_false] at member
  rcases member with rfl | rfl | rfl | rfl | rfl <;>
    exact ⟨rfl, rfl, rfl, by decide, by decide, by decide⟩

theorem numberPart_digits {digits rest : List Char} (areDigits : ∀ digit ∈ digits, digit.isDigit)
    (ends : Ends rest) : Lexeme.numberPart true (digits ++ rest) = digits := by
  induction digits with
  | nil =>
    rw [List.nil_append]
    cases rest with
    | nil => rfl
    | cons first others =>
      obtain ⟨noDigit, _, _, noPoint, notSmall, notLarge⟩ := endMarks_end first (ends first rfl)
      unfold Lexeme.numberPart
      rw [if_neg (by rw [noDigit]; decide), if_neg (fun point => noPoint point.1),
        if_neg (by rintro (same | same); exacts [notSmall same, notLarge same])]
  | cons first digits inductionHypothesis =>
    obtain ⟨isDigit, areDigits⟩ := List.forall_mem_cons.mp areDigits
    rw [List.cons_append]
    unfold Lexeme.numberPart
    rw [if_pos isDigit, inductionHypothesis areDigits]

/-- The digits of a natural number begin with a digit, so there is one. -/
theorem toDigits_begins (size : Nat) : ∃ digit others, Nat.toDigits 10 size = digit :: others ∧
    digit.isDigit = true := by
  cases digits : Nat.toDigits 10 size with
  | nil => exact absurd digits Nat.toDigits_ne_nil
  | cons digit others =>
    have member : digit ∈ Nat.toDigits 10 size := digits ▸ List.mem_cons_self
    exact ⟨digit, others, rfl, Nat.isDigit_of_mem_toDigits (by decide) (by decide) member⟩

/-- Only the number zero is written with a zero in front. -/
theorem head?_toDigits {size : Nat} (positive : 0 < size) :
    (Nat.toDigits 10 size).head? ≠ some '0' := by
  induction size using Nat.strongRecOn with
  | ind size inductionHypothesis =>
    rcases Nat.lt_or_ge size 10 with isDigit | isLonger
    · have noZero : ∀ digit < 10, 0 < digit → some digit.digitChar ≠ some '0' := by decide
      rw [Nat.toDigits_of_lt_base isDigit]
      exact noZero size isDigit positive
    · rw [Nat.toDigits_of_base_le (by decide) isLonger,
        List.head?_append_of_ne_nil _ Nat.toDigits_ne_nil]
      exact inductionHypothesis (size / 10) (Nat.div_lt_self positive (by decide))
        (Nat.div_pos isLonger (by decide))

/-- The digits of an integer that has 64 bits are scanned into that integer. -/
theorem scans_digits (size : Nat) (bounded : (size : Int) ≤ Int64.maxValue.toInt) :
    Scans Ends (IsSingle (.integer (Int64.ofInt size))) (Nat.toDigits 10 size) := by
  have areDigits : ∀ digit ∈ Nat.toDigits 10 size, digit.isDigit = true :=
    fun digit member => Nat.isDigit_of_mem_toDigits (by decide) (by decide) member
  have value : Nat.ofDigitChars 10 (Nat.toDigits 10 size) 0 = size :=
    Nat.ofDigitChars_ten_toDigits
  have word : wordOf? (size : Int) = some (Int64.ofInt size) := by
    have lower : Int64.minValue.toInt ≤ 0 := by decide
    exact if_pos ⟨by omega, bounded⟩
  obtain ⟨first, others, digits, isDigit⟩ := toDigits_begins size
  rw [digits] at areDigits value ⊢
  have notBlank : Text.isBlank first = false := notBlank_of_isDigit isDigit
  refine scans_single notBlank fun rest ends => ?_
  have part : Lexeme.numberPart true (first :: (others ++ rest)) = first :: others :=
    numberPart_digits areDigits ends
  have noLetter : (rest.head?.filter Text.isNameStart) = none := by
    rw [Option.filter_eq_none_iff]
    intro letter isHead
    rw [(endMarks_end letter (ends letter isHead)).2.2.1]
    decide
  have allDigits : (first :: others).all Char.isDigit = true :=
    List.all_eq_true.mpr areDigits
  have number : Lexeme.numberAt (first :: (others ++ rest)) =
      .ok (.integer (Int64.ofInt size), (first :: others).length) := by
    unfold Lexeme.numberAt
    simp only [part]
    have left : (first :: (others ++ rest)).drop (first :: others).length = rest :=
      @List.drop_left _ (first :: others) rest
    rw [left, noLetter, allDigits, if_pos rfl, value, word]
  unfold Lexeme.head
  rw [if_pos (.inl isDigit), number, List.length_cons]

/-- A sign in front of a digit is not part of a longer symbol. -/
theorem scans_minus :
    Scans (fun rest => ∃ digit ∈ rest.head?, digit.isDigit = true)
      (IsSingle (.symbol (.operator .subtract))) ['-'] := by
  refine scans_single rfl fun rest digit => ?_
  obtain ⟨first, isHead, isDigit⟩ := digit
  cases rest with
  | nil => cases isHead
  | cons head others =>
    rw [← Option.some.inj isHead] at isDigit
    have notEqual : head ≠ '=' := by
      rintro rfl
      cases isDigit
    have notGreater : head ≠ '>' := by
      rintro rfl
      cases isDigit
    have symbol : Lexeme.symbolAt? ('-' :: head :: others) = some (.operator .subtract, 1) := by
      rw [Lexeme.symbolAt?]
      · exact fun _ same => notEqual (List.cons.inj same).1
      · exact fun _ same => notGreater (List.cons.inj same).1
    have noNumber : ¬('-'.isDigit = true ∨
        '-' = '.' ∧ Lexeme.startsWithDigit (head :: others) = true) := by
      rintro (isDigit | ⟨isPoint, _⟩)
      · exact absurd isDigit (by decide)
      · exact absurd isPoint (by decide)
    rw [List.nil_append]
    unfold Lexeme.head
    rw [if_neg noNumber, if_neg (by decide), if_neg (by decide), symbol]
    rfl

/-- The text of an integer is its digits, with a sign in front of them if it is negative. -/
theorem toList_integerText (value : Int) : (integerText value).toList =
    if value < 0 then '-' :: Nat.toDigits 10 value.natAbs else Nat.toDigits 10 value.natAbs := by
  cases value with
  | ofNat size =>
    have nonnegative : ¬Int.ofNat size < 0 := Int.not_lt.mpr (Int.natCast_nonneg size)
    rw [if_neg nonnegative]
    exact Nat.toList_repr
  | negSucc size =>
    rw [if_pos (Int.negSucc_lt_zero size)]
    have text : integerText (Int.negSucc size) = "-" ++ (size + 1).repr := rfl
    rw [text, String.toList_append, Nat.toList_repr]
    rfl

/-! ### Names -/

theorem not_isDigit_of_isNameStart {character : Char}
    (starts : Text.isNameStart character = true) :
    character.isDigit = false := by
  rw [← Bool.not_eq_true]
  intro isDigit
  rw [Char.isDigit, Bool.and_eq_true, decide_eq_true_eq, decide_eq_true_eq] at isDigit
  have upper : character.toNat ≤ 57 := isDigit.2
  have noLetter : Text.isLetter character = false := if_pos (by omega)
  rw [Text.isNameStart, noLetter] at starts
  simp only [Bool.false_or, Bool.or_eq_true, beq_iff_eq] at starts
  rcases starts with rfl | rfl
  · exact absurd isDigit.2 (by decide)
  · exact absurd isDigit.1 (by decide)

theorem isNamePart_of_isNameStart {character : Char}
    (starts : Text.isNameStart character = true) : Text.isNamePart character = true := by
  rw [Text.isNameStart, Bool.or_eq_true, Bool.or_eq_true] at starts
  rw [Text.isNamePart, Bool.or_eq_true, Bool.or_eq_true, Bool.or_eq_true]
  tauto

/-- A name does not begin like a number. -/
theorem noNumber_of_isNameStart {first : Char} (starts : Text.isNameStart first = true)
    (rest : List Char) :
    ¬(first.isDigit = true ∨ first = '.' ∧ Lexeme.startsWithDigit rest = true) := by
  rw [not_isDigit_of_isNameStart starts]
  rintro (digit | ⟨rfl, _⟩)
  · cases digit
  · exact absurd starts (by decide +kernel)

theorem takeWhile_isNamePart {name rest : List Char} (areParts : name.all Text.isNamePart = true)
    (stops : ∀ next ∈ rest.head?, Text.isNamePart next = false) :
    (name ++ rest).takeWhile Text.isNamePart = name := by
  rw [List.takeWhile_append_of_pos (List.all_eq_true.mp areParts)]
  have nothing : rest.takeWhile Text.isNamePart = [] := by
    cases rest with
    | nil => rfl
    | cons next others => exact List.takeWhile_cons_of_neg (by rw [stops next rfl]; decide)
  rw [nothing, List.append_nil]

/-- A plain key is scanned into a name, as are the words of literals. -/
theorem scans_name {name : String} (isPlain : Tree.isPlainKey name = true) :
    Scans Ends (IsSingle (.name name)) name.toList := by
  rw [Tree.isPlainKey] at isPlain
  cases characters : name.toList with
  | nil => rw [characters] at isPlain; cases isPlain
  | cons first others =>
    rw [characters] at isPlain
    obtain ⟨starts, areParts⟩ := Bool.and_eq_true_iff.mp isPlain
    refine scans_single (notBlank_of_isNameStart starts) fun rest ends => ?_
    have all : (first :: others).all Text.isNamePart = true := by
      rw [List.all_cons, isNamePart_of_isNameStart starts, areParts]
      rfl
    have taken : (first :: (others ++ rest)).takeWhile Text.isNamePart = first :: others :=
      takeWhile_isNamePart all fun next isHead => (endMarks_end next (ends next isHead)).2.1
    unfold Lexeme.head
    rw [if_neg (noNumber_of_isNameStart starts _), if_pos starts]
    simp only [taken]
    rw [← characters, String.ofList_toList, characters, List.length_cons]

end Literal

end Shorthand
