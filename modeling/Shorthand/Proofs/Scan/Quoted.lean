/-
This file says which texts are strings between two quotes.

A string is written with one part for each character: the character itself, a backslash with a
letter, or a backslash with four hexadecimal digits. A string token is found just where such parts
and the quote that closes them follow the one that opens them. The code point is read like any
number, so a plus sign may take the place of the first digit. Without such a sign there are no
other strings.
-/

import Mathlib
import Shorthand.Proofs.Number.Hexadecimal
import Shorthand.Proofs.Scan.Extent

namespace Shorthand

namespace Lexeme

variable {quote character : Char} {rest body written : List Char} {offset length : ℕ}

/-! ### The parts of a string -/

/-- The letters that follow a backslash, and the characters they stand for. -/
def letters : List (Char × Char) :=
  [('n', '\n'), ('t', '\t'), ('r', '\r'), ('0', '\x00'), ('\\', '\\'), ('\x27', '\x27'), ('"', '"')]

/-- Hexadecimal digits of a length write the code point of a character, which no surrogate is. -/
def IsCodePoint (length : ℕ) (digits : List Char) (character : Char) : Prop :=
  digits.length = length ∧ ∃ point, IsHexadecimal digits point ∧
    ¬(0xD800 ≤ point ∧ point ≤ 0xDFFF) ∧ character = Char.ofNat point

/-- What a character of a string is written with. -/
inductive IsPart (quote : Char) : List Char → Char → Prop where
  | plain {character : Char} (notQuote : character ≠ quote) (notBackslash : character ≠ '\\') :
    IsPart quote [character] character
  | letter {letter character : Char} (isEscape : (letter, character) ∈ letters) :
    IsPart quote ['\\', letter] character
  | codePoint {digits : List Char} {character : Char} (isPoint : IsCodePoint 4 digits character) :
    IsPart quote ('\\' :: 'u' :: digits) character

/-- What a character of a string may be written with as well: the sign takes the place of the
first digit. -/
def IsSigned (part : List Char) (character : Char) : Prop :=
  ∃ digits, part = '\\' :: 'u' :: '+' :: digits ∧ IsCodePoint 3 digits character

/-- What a character is written with, with and without a sign. -/
def IsReadable (quote : Char) (part : List Char) (character : Char) : Prop :=
  IsPart quote part character ∨ IsSigned part character

/-- The parts of a text one after the other, with a character for each. -/
inductive Written (Part : List Char → Char → Prop) : List Char → List Char → Prop where
  | nil : Written Part [] []
  | cons {part written body : List Char} {character : Char} (isPart : Part part character)
    (further : Written Part written body) : Written Part (part ++ written) (character :: body)

/-- After its opening quote, a string is written up to its closing quote. -/
structure Closes (Part : List Char → Char → Prop) (quote : Char)
    (rest written others body : List Char) : Prop where
  same : rest = written ++ quote :: others
  isWritten : Written Part written body

/-! ### Code points -/

/-- Up to four digits write no number beyond the code points. -/
theorem named?_eq_some {digits : List Char} (few : digits.length ≤ 4) :
    ((hexValue? digits).bind fun point =>
        if point.isValidChar then some (Char.ofNat point) else none) = some character ↔
      IsCodePoint digits.length digits character := by
  rw [Option.bind_eq_some_iff, IsCodePoint, and_iff_right rfl]
  refine exists_congr fun point => ?_
  rw [hexValue?_eq_some, Option.ite_none_right_eq_some, Option.some.injEq, eq_comm (a := character)]
  refine and_congr_right fun isNumber => and_congr_left fun _ => ?_
  have small : point < 16 ^ 4 :=
    Nat.lt_of_lt_of_le isNumber.lt (Nat.pow_le_pow_right (by decide) few)
  rw [Nat.isValidChar]
  omega

theorem codePoint?_eq_some {digits : List Char} (four : digits.length = 4) :
    codePoint? digits = some character ↔
      IsCodePoint 4 digits character ∨ IsSigned ('\\' :: 'u' :: digits) character := by
  by_cases sign : ∃ others, digits = '+' :: others
  · obtain ⟨others, rfl⟩ := sign
    have three : others.length = 3 := Nat.succ.inj four
    have noDigits : ¬IsCodePoint 4 ('+' :: others) character := by
      rintro ⟨-, point, ⟨-, digits, areDigits, -⟩, -⟩
      cases areDigits with
      | cons isDigit => exact not_isHexDigit_plus _ isDigit
    have reads : codePoint? ('+' :: others) = some character ↔ _ :=
      @named?_eq_some character others (by omega)
    rw [reads, three, or_iff_right noDigits]
    constructor
    · exact fun isPoint => ⟨others, rfl, isPoint⟩
    · rintro ⟨digits, same, isPoint⟩
      cases same
      exact isPoint
  · have noSign : ¬IsSigned ('\\' :: 'u' :: digits) character := by
      rintro ⟨others, same, -⟩
      cases same
      exact sign ⟨others, rfl⟩
    have unsigned : codePoint? digits = (hexValue? digits).bind fun point =>
        if point.isValidChar then some (Char.ofNat point) else none := by
      rw [codePoint?]
      exact fun others same => sign ⟨others, same⟩
    rw [unsigned, named?_eq_some (Nat.le_of_eq four), four, or_iff_left noSign]

theorem escaped?_eq_some {letter : Char} :
    escaped? letter = some character ↔ (letter, character) ∈ letters := by
  constructor
  · intro isEscape
    unfold escaped? at isEscape
    split at isEscape <;> cases isEscape <;> decide
  · intro isMember
    have each : ∀ pair ∈ letters, escaped? pair.1 = some pair.2 := by decide
    exact each _ isMember

/-! ### The reader -/

theorem stringBody_readable (notBackslash : '\\' ≠ quote) {part : List Char}
    (isReadable : IsReadable quote part character)
    (reads : stringBody quote (offset + part.length) rest = .ok (body, length)) :
    stringBody quote offset (part ++ rest) = .ok (character :: body, length) := by
  have readsPoint {digits : List Char} (four : digits.length = 4)
      (isPoint : IsCodePoint 4 digits character ∨ IsSigned ('\\' :: 'u' :: digits) character)
      (reads : stringBody quote (offset + 6) rest = .ok (body, length)) :
      stringBody quote offset ('\\' :: 'u' :: digits ++ rest) =
        .ok (character :: body, length) := by
    obtain ⟨d₁, d₂, d₃, d₄, rfl⟩ := List.length_eq_four.mp four
    exact Literal.stringBody_codePoint notBackslash ((codePoint?_eq_some four).mpr isPoint) reads
  rcases isReadable with isPart | isSigned
  · cases isPart with
    | plain notQuote notBackslash => exact Literal.stringBody_plain notQuote notBackslash reads
    | @letter letter _ isEscape =>
      have notU : ∀ pair ∈ letters, pair.1 ≠ 'u' := by decide
      exact Literal.stringBody_escaped notBackslash (escaped?_eq_some.mpr isEscape)
        (notU _ isEscape) reads
    | @codePoint digits _ isPoint =>
      refine readsPoint isPoint.1 (.inl isPoint) ?_
      rwa [List.length_cons, List.length_cons, isPoint.1] at reads
  · obtain ⟨digits, rfl, isPoint⟩ := isSigned
    refine readsPoint (congrArg Nat.succ isPoint.1) (.inr ⟨digits, rfl, isPoint⟩) ?_
    rwa [List.length_cons, List.length_cons, List.length_cons, isPoint.1] at reads

theorem stringBody_written (notBackslash : '\\' ≠ quote)
    (isWritten : Written (IsReadable quote) written body) (others : List Char) :
    stringBody quote offset (written ++ quote :: others) =
      .ok (body, offset + written.length + 1) := by
  induction isWritten generalizing offset with
  | nil =>
    rw [List.nil_append, stringBody.eq_def]
    exact if_pos rfl
  | @cons part written body character isPart _ inductionHypothesis =>
    rw [List.append_assoc, List.length_append, ← Nat.add_assoc]
    exact stringBody_readable notBackslash isPart inductionHypothesis

/-- The source of what is read so far goes on with a part for the next character. -/
theorem Closes.step {part : List Char} (isReadable : IsReadable quote part character)
    (inductionHypothesis : ∀ {length body},
      stringBody quote (offset + part.length) rest = .ok (body, length) →
        ∃ written others, Closes (IsReadable quote) quote rest written others body ∧
          length = offset + part.length + written.length + 1)
    (found : (stringBody quote (offset + part.length) rest).map
      (fun (body, length) => (character :: body, length)) = .ok (body, length)) :
    ∃ written others, Closes (IsReadable quote) quote (part ++ rest) written others body ∧
      length = offset + written.length + 1 := by
  cases inner : stringBody quote (offset + part.length) rest with
  | error fault =>
    rw [inner] at found
    cases found
  | ok result =>
    rw [inner] at found
    cases found
    obtain ⟨written, others, closes, isLength⟩ := inductionHypothesis inner
    refine ⟨part ++ written, others, ⟨?_, .cons isReadable closes.isWritten⟩, ?_⟩
    · rw [closes.same, List.append_assoc]
    · rw [isLength, List.length_append, Nat.add_assoc offset]

theorem closes_of_stringBody (found : stringBody quote offset rest = .ok (body, length)) :
    ∃ written others, Closes (IsReadable quote) quote rest written others body ∧
      length = offset + written.length + 1 := by
  fun_induction stringBody quote offset rest generalizing body length with
  | case1 | case4 | case6 | case7 | case8 | case10 => cases found
  | case2 offset rest =>
    cases found
    exact ⟨[], rest, ⟨rfl, .nil⟩, rfl⟩
  | case3 offset first rest notQuote notBackslash inductionHypothesis =>
    exact @Closes.step _ _ _ _ _ _ [first] (.inl (.plain notQuote notBackslash))
      inductionHypothesis found
  | case5 offset first notQuote isBackslash d₁ d₂ d₃ d₄ rest character isPoint
      inductionHypothesis =>
    cases not_not.mp isBackslash
    refine @Closes.step _ _ _ _ _ _ ['\\', 'u', d₁, d₂, d₃, d₄] ?_ inductionHypothesis found
    exact ((codePoint?_eq_some rfl).mp isPoint).imp_left .codePoint
  | case9 offset first notQuote isBackslash letter rest _ notU character isEscape
      inductionHypothesis =>
    cases not_not.mp isBackslash
    exact @Closes.step _ _ _ _ _ _ ['\\', letter] (.inl (.letter (escaped?_eq_some.mp isEscape)))
      inductionHypothesis found

/-! ### The token -/

/-- Without a plus sign behind a backslash and its letter, there are only the other parts. -/
theorem Written.isPart (isWritten : Written (IsReadable quote) written body)
    (unsigned : ¬['\\', 'u', '+'] <:+: written) : Written (IsPart quote) written body := by
  induction isWritten with
  | nil => exact .nil
  | @cons part written body character isReadable _ inductionHypothesis =>
    rcases isReadable with isPart | ⟨digits, rfl, -⟩
    · exact .cons isPart (inductionHypothesis fun isInside => unsigned
        (isInside.trans (List.suffix_append _ _).isInfix))
    · exact absurd (List.prefix_append ['\\', 'u', '+'] (digits ++ written)).isInfix unsigned

theorem Written.isReadable (isWritten : Written (IsPart quote) written body) :
    Written (IsReadable quote) written body := by
  induction isWritten with
  | nil => exact .nil
  | cons isPart _ inductionHypothesis => exact .cons (.inl isPart) inductionHypothesis

theorem Closes.isReadable {others : List Char} (closes : Closes (IsPart quote) quote rest written
    others body) : Closes (IsReadable quote) quote rest written others body :=
  ⟨closes.same, closes.isWritten.isReadable⟩

section

variable (isQuote : quote = '"' ∨ quote = '\x27')
include isQuote

theorem head_quote (rest : List Char) : head quote rest =
    (stringBody quote 1 rest).map fun found => (.string (String.ofList found.1), found.2) := by
  rcases isQuote with rfl | rfl <;> rfl

theorem head_quote_eq_ok {lexeme : Lexeme} : head quote rest = .ok (lexeme, length) ↔
    ∃ written others body, Closes (IsReadable quote) quote rest written others body ∧
      lexeme = .string (String.ofList body) ∧ length = written.length + 2 := by
  have notBackslash : '\\' ≠ quote := by rcases isQuote with rfl | rfl <;> decide
  rw [head_quote isQuote]
  constructor
  · intro found
    cases inner : stringBody quote 1 rest with
    | error fault =>
      rw [inner] at found
      cases found
    | ok result =>
      rw [inner] at found
      cases found
      obtain ⟨written, others, closes, isLength⟩ := closes_of_stringBody inner
      exact ⟨written, others, result.1, closes, rfl, by omega⟩
  · rintro ⟨written, others, body, ⟨rfl, isWritten⟩, rfl, rfl⟩
    rw [stringBody_written notBackslash isWritten others, Nat.add_comm 1]
    rfl

/-- The scan goes on behind the closing quote. -/
theorem scanFrom_quoted (column : ℕ) {others : List Char}
    (closes : Closes (IsReadable quote) quote rest written others body) :
    Token.scanFrom 0 column (quote :: rest) =
      (Token.scanFrom 0 (column + (written.length + 2)) others).map
        (⟨.string (String.ofList body), column⟩ :: ·) := by
  have notBlank : Text.isBlank quote = false := by rcases isQuote with rfl | rfl <;> rfl
  have isHead := (head_quote_eq_ok isQuote).mpr ⟨written, others, body, closes, rfl, rfl⟩
  have skips := Literal.scanFrom_skip (written ++ [quote]) (column + 1) others
  rw [List.length_append, List.length_singleton, List.append_assoc, List.singleton_append,
    ← closes.same, Nat.add_assoc column, Nat.add_comm 1] at skips
  rw [Token.scanFrom]
  simp only [notBlank, Bool.false_eq_true, if_false, isHead, Nat.add_succ_sub_one, skips]

/-- What follows an opening quote makes a string token just if it is written with the parts of a
string, up to a quote that closes it, and otherwise it is refused. The token has the characters of
the parts, and the scan goes on behind the closing quote. A part is a character other than the quote
and the backslash, a backslash with its letter, or a backslash with the four digits of a code point
that is no surrogate, of which the first may be a plus sign. So the other parts alone make a token
with their characters too, and without that sign nothing else does. -/
theorem string_token_by_parts (rest : List Char) :
    (∀ lexeme length, head quote rest = .ok (lexeme, length) ↔
      ∃ written others body, Closes (IsReadable quote) quote rest written others body ∧
        lexeme = .string (String.ofList body) ∧ length = written.length + 2) ∧
    (∀ written others body, Closes (IsReadable quote) quote rest written others body →
      ∀ column, Token.scanFrom 0 column (quote :: rest) =
        (Token.scanFrom 0 (column + (written.length + 2)) others).map
          (⟨.string (String.ofList body), column⟩ :: ·)) ∧
    (∀ written others body, Closes (IsPart quote) quote rest written others body →
      Closes (IsReadable quote) quote rest written others body) ∧
    (¬['\\', 'u', '+'] <:+: rest →
      ∀ written others body, Closes (IsReadable quote) quote rest written others body →
        Closes (IsPart quote) quote rest written others body) := by
  refine ⟨fun _ _ => head_quote_eq_ok isQuote, fun _ _ _ closes column =>
    scanFrom_quoted isQuote column closes, fun _ _ _ => .isReadable, ?_⟩
  rintro unsigned written others body ⟨rfl, isWritten⟩
  exact ⟨rfl, isWritten.isPart fun isInside =>
    unsigned (isInside.trans (List.prefix_append _ _).isInfix)⟩

end

/-- A text with escapes of each kind and the other quote, and with a token behind it. -/
def escapedText : List Char := "a\"\\n\\u0041\\\\\\\x27\x27;".toList

/-- The parts of that text make up the characters of its token, and what follows the closing quote
is scanned on its own. -/
theorem escapedText_token :
    ('\x27' = '"' ∨ '\x27' = '\x27') ∧ ¬['\\', 'u', '+'] <:+: escapedText ∧
      (∃ written others, Closes (IsPart '\x27') '\x27' escapedText written others
        ['a', '"', '\n', 'A', '\\', '\x27']) ∧
      head '\x27' escapedText = .ok (.string "a\"\nA\\\x27", 16) ∧
      Token.scanFrom 0 0 ('\x27' :: escapedText) =
        .ok [⟨.string "a\"\nA\\\x27", 0⟩, ⟨.symbol .semicolon, 16⟩] := by
  have isPoint : IsCodePoint 4 ['0', '0', '4', '1'] 'A' :=
    ⟨rfl, 0x41, hexValue?_eq_some.mp rfl, by decide, rfl⟩
  have isWritten : Written (IsPart '\x27')
      (['a'] ++ (['"'] ++ (['\\', 'n'] ++ (['\\', 'u', '0', '0', '4', '1'] ++
        (['\\', '\\'] ++ (['\\', '\x27'] ++ []))))))
      ['a', '"', '\n', 'A', '\\', '\x27'] :=
    .cons (.plain (by decide) (by decide)) (.cons (.plain (by decide) (by decide))
      (.cons (.letter (by decide)) (.cons (.codePoint isPoint)
        (.cons (.letter (by decide)) (.cons (.letter (by decide)) .nil)))))
  have closes : Closes (IsPart '\x27') '\x27' escapedText _ [';'] _ := ⟨rfl, isWritten⟩
  have unsigned : ¬['\\', 'u', '+'] <:+: escapedText := by decide
  obtain ⟨reads, goesOn, includes, excludes⟩ := string_token_by_parts (.inr rfl) escapedText
  have again := excludes unsigned _ _ _ (includes _ _ _ closes)
  refine ⟨.inr rfl, unsigned, ⟨_, _, again⟩,
    (reads _ _).mpr ⟨_, _, _, includes _ _ _ closes, rfl, rfl⟩,
    (goesOn _ _ _ (includes _ _ _ closes) 0).trans ?_⟩
  rfl

/-- A code point with a sign, and the closing quote. -/
def signedText : List Char := ['\\', 'u', '+', '0', '4', '1', '\x27']

/-- The plus sign in front of three digits makes a token, and it is in no part of a string. -/
theorem signed_string_token :
    head '\x27' signedText = .ok (.string "A", 8) ∧
      ∀ written others body, ¬Closes (IsPart '\x27') '\x27' signedText written others body := by
  refine ⟨rfl, ?_⟩
  rintro written others body ⟨same, isWritten⟩
  cases isWritten with
  | nil => exact absurd (List.cons.inj same).1 (by decide)
  | cons isPart =>
    cases isPart with
    | plain _ notBackslash => exact notBackslash (List.cons.inj same).1.symm
    | @letter letter _ isEscape =>
      have notU : ∀ pair ∈ letters, pair.1 ≠ 'u' := by decide
      exact notU _ isEscape (List.cons.inj (List.cons.inj same).2).1.symm
    | codePoint isPoint =>
      obtain ⟨-, point, ⟨nonempty, digits, areDigits, -⟩, -⟩ := isPoint
      cases areDigits with
      | nil => exact nonempty rfl
      | cons isDigit =>
        have isSign := (List.cons.inj (List.cons.inj (List.cons.inj same).2).2).1
        exact not_isHexDigit_plus _ (isSign ▸ isDigit)

end Lexeme

end Shorthand
