/-
This file shows that the strings and integers of a document are read as they were written.

A string ends at its closing quotation mark, whatever comes after it. An integer goes on as far as
it can, so what comes after it has to end it. In a document that is a comma, a closing bracket, the
end of a line or the end of the text.
-/

import Mathlib
import Shorthand.Json.Read
import Shorthand.Json.Write
import Shorthand.Proofs.Literal.Scan

namespace Shorthand.Json

/-! ### Strings -/

/-- The characters that have a letter in a document, and their letters. -/
def escapes : List (Char × Char) := ('\x08', 'b') :: ('\x0c', 'f') :: Literal.escapes

/-- A letter stands for its character. -/
theorem escaped?_of_mem {character letter : Char} (isEscape : (character, letter) ∈ escapes) :
    escaped? letter = some character ∧ letter ≠ 'u' := by
  have each : ∀ pair ∈ escapes, escaped? pair.2 = some pair.1 ∧ pair.2 ≠ 'u' := by decide
  exact each _ isEscape

/-- The written forms of a character: itself, a backslash with its letter, or its code point. -/
theorem stringForm_cases (character : Char) :
    (stringForm character = [character] ∧ character ≠ '"' ∧ character ≠ '\\' ∧
        ¬character < ' ') ∨
      (∃ letter, (character, letter) ∈ escapes ∧ stringForm character = ['\\', letter]) ∨
      (character < ' ' ∧ stringForm character =
        ['\\', 'u', '0', '0', (character.toNat / 16).digitChar,
          (character.toNat % 16).digitChar]) := by
  unfold stringForm
  split
  · exact .inr (.inl ⟨'b', by decide, rfl⟩)
  · exact .inr (.inl ⟨'f', by decide, rfl⟩)
  · rcases Literal.plainForm_cases character with
      ⟨form, notQuote, notBackslash⟩ | ⟨letter, isEscape, form⟩
    · rw [if_neg (not_not.mpr form)]
      by_cases isControl : character < ' '
      · rw [if_pos isControl]
        exact .inr (.inr ⟨isControl, rfl⟩)
      · rw [if_neg isControl]
        exact .inl ⟨rfl, notQuote, notBackslash, isControl⟩
    · have different : Text.plainForm character ≠ [character] := by
        rw [form]
        exact fun same => List.cons_ne_nil _ _ (List.cons.inj same).2
      rw [if_pos different]
      exact .inr (.inl
        ⟨letter, List.mem_cons_of_mem _ (List.mem_cons_of_mem _ isEscape), form⟩)

/-- The four digits of a control character are those of its code point. -/
theorem hexValue?_control : ∀ point < 32,
    hexValue? ['0', '0', (point / 16).digitChar, (point % 16).digitChar] = some point := by
  decide

section Steps

variable {before : List Char} {count : Nat} {character : Char} {rest : List Char}

theorem stringFrom_plain (notQuote : character ≠ '"') (notBackslash : character ≠ '\\')
    (notControl : ¬character < ' ') :
    stringFrom before count (character :: rest) =
      stringFrom (character :: before) (count + 1) rest := by
  rw [stringFrom.eq_def]
  split
  · contradiction
  · rename_i same
    exact absurd (List.cons.inj same).1 notQuote
  · rename_i same
    exact absurd (List.cons.inj same).1 notBackslash
  · rename_i same
    exact absurd (List.cons.inj same).1 notBackslash
  · rename_i same
    obtain ⟨rfl, rfl⟩ := List.cons.inj same
    exact if_neg (not_or.mpr ⟨notBackslash, notControl⟩)

theorem stringFrom_escape {letter : Char} (means : escaped? letter = some character)
    (notU : letter ≠ 'u') :
    stringFrom before count ('\\' :: letter :: rest) =
      stringFrom (character :: before) (count + 2) rest := by
  rw [stringFrom.eq_def]
  split
  · contradiction
  · rename_i same
    exact absurd (List.cons.inj same).1 (by decide)
  · rename_i same
    exact absurd (List.cons.inj (List.cons.inj same).2).1 notU
  · rename_i same
    obtain ⟨rfl, rfl⟩ := List.cons.inj (List.cons.inj same).2
    rw [means]
  · rename_i noLetter same
    obtain ⟨isBackslash, others⟩ := List.cons.inj same
    exact (noLetter letter rest isBackslash.symm others.symm).elim

theorem stringFrom_control (isControl : character < ' ') :
    stringFrom before count ('\\' :: 'u' :: '0' :: '0' :: (character.toNat / 16).digitChar ::
        (character.toNat % 16).digitChar :: rest) =
      stringFrom (character :: before) (count + 6) rest := by
  have small : character.toNat < 32 := isControl
  have noFirst : isFirstHalf character.toNat = false := by
    rw [isFirstHalf, Bool.and_eq_false_iff]
    exact .inl (decide_eq_false (by omega))
  have noSecond : isSecondHalf character.toNat = false := by
    rw [isSecondHalf, Bool.and_eq_false_iff]
    exact .inl (decide_eq_false (by omega))
  rw [stringFrom.eq_def]
  simp only [hexValue?_control _ small, noFirst, noSecond, Bool.false_eq_true, if_false,
    Char.ofNat_toNat]

end Steps

/-- One character of a string is read from its written form. -/
theorem stringFrom_form (before : List Char) (count : Nat) (character : Char)
    (rest : List Char) :
    stringFrom before count (stringForm character ++ rest) =
      stringFrom (character :: before) (count + (stringForm character).length) rest := by
  rcases stringForm_cases character with
    ⟨form, notQuote, notBackslash, notControl⟩ | ⟨letter, isEscape, form⟩ | ⟨isControl, form⟩
  · rw [form]
    exact stringFrom_plain notQuote notBackslash notControl
  · rw [form]
    exact stringFrom_escape (escaped?_of_mem isEscape).1 (escaped?_of_mem isEscape).2
  · rw [form]
    exact stringFrom_control isControl

theorem stringFrom_text (text : List Char) (before : List Char) (count : Nat)
    (rest : List Char) :
    stringFrom before count (text.flatMap stringForm ++ '"' :: rest) =
      some (String.ofList (before.reverse ++ text),
        count + (text.flatMap stringForm).length + 1) := by
  induction text generalizing before count with
  | nil => rw [List.append_nil]; rfl
  | cons first text inductionHypothesis =>
    rw [List.flatMap_cons, List.append_assoc, stringFrom_form, inductionHypothesis,
      List.reverse_cons, List.append_assoc, List.singleton_append, List.length_append,
      Nat.add_assoc count]

/-- A string is one mark in front of every text. -/
theorem markAt?_string (text : String) (rest : List Char) :
    markAt? (stringCharacters text ++ rest) =
      some (.leaf (.string text), (stringCharacters text).length) := by
  have body := stringFrom_text text.toList [] 1 rest
  have mark : markAt? (stringCharacters text ++ rest) =
      (stringFrom [] 1 (text.toList.flatMap stringForm ++ ['"'] ++ rest)).map
        fun found => (.leaf (.string found.1), found.2) := rfl
  rw [mark, List.append_assoc, List.singleton_append, body, List.reverse_nil, List.nil_append,
    Option.map_some, String.ofList_toList, stringCharacters, List.cons_append, List.length_cons,
    List.length_append, List.length_singleton, Nat.add_comm 1]

/-! ### Integers -/

/-- What may come after a value in a document. -/
def Ends (rest : List Char) : Prop := ∀ first ∈ rest.head?, first ∈ [',', ']', '\x7d', '\n']

theorem Ends.nil : Ends [] := nofun

/-- What ends a number goes on with none. -/
theorem Ends.not_number {rest : List Char} (ends : Ends rest) : ∀ first ∈ rest.head?,
    first.isDigit = false ∧ first ≠ '.' ∧ first ≠ 'e' ∧ first ≠ 'E' := by
  intro first isHead
  have member := ends first isHead
  simp only [List.mem_cons, List.not_mem_nil, or_false] at member
  rcases member with rfl | rfl | rfl | rfl <;> decide

theorem digitsAt?_append {digits rest : List Char} (some_ : digits ≠ [])
    (areDigits : ∀ digit ∈ digits, digit.isDigit = true) (ends : Ends rest) :
    digitsAt? (digits ++ rest) = some digits := by
  have nothing : rest.takeWhile Char.isDigit = [] := by
    cases rest with
    | nil => rfl
    | cons first others =>
      exact List.takeWhile_cons_of_neg (by rw [(ends.not_number first rfl).1]; decide)
  have taken : (digits ++ rest).takeWhile Char.isDigit = digits := by
    rw [List.takeWhile_append_of_pos areDigits, nothing, List.append_nil]
  rw [digitsAt?, taken]
  exact if_neg (by rw [List.isEmpty_iff]; exact some_)

theorem wholeAt?_toDigits (size : Nat) {rest : List Char} (ends : Ends rest) :
    wholeAt? (Nat.toDigits 10 size ++ rest) = some (Nat.toDigits 10 size) := by
  rcases Nat.eq_zero_or_pos size with rfl | positive
  · rfl
  · have found : digitsAt? (Nat.toDigits 10 size ++ rest) = some (Nat.toDigits 10 size) :=
      digitsAt?_append Nat.toDigits_ne_nil
        (fun _ member => Nat.isDigit_of_mem_toDigits (by decide) (by decide) member) ends
    have notZero := Literal.head?_toDigits positive
    rw [← found, wholeAt?.eq_def]
    split
    · rename_i others same
      have isZero := congrArg List.head? same
      rw [List.head?_append_of_ne_nil _ Nat.toDigits_ne_nil] at isZero
      exact absurd isZero notZero
    · rfl

theorem fractionAt?_ends {rest : List Char} (ends : Ends rest) :
    fractionAt? rest = some (none, 0) := by
  rw [fractionAt?.eq_def]
  split
  · exact absurd rfl (ends.not_number '.' rfl).2.1
  · rfl

theorem exponentAt?_ends {rest : List Char} (ends : Ends rest) :
    exponentAt? rest = some (none, 0) := by
  cases rest with
  | nil => rfl
  | cons first others =>
    obtain ⟨_, _, notSmall, notLarge⟩ := ends.not_number first rfl
    exact if_neg (not_or.mpr ⟨notSmall, notLarge⟩)

theorem integerText_begins (value : Int) : ∃ first others,
    (integerText value).toList = first :: others ∧ (first = '-' ∨ first.isDigit = true) := by
  rw [Literal.toList_integerText]
  split
  · exact ⟨'-', _, rfl, .inl rfl⟩
  · obtain ⟨digit, others, begins, isDigit⟩ := Literal.toDigits_begins value.natAbs
    exact ⟨digit, others, begins, .inr isDigit⟩

/-- Digits with or without a sign in front are the shape of an integer. -/
theorem writtenAt?_digits (negative : Bool) (size : Nat) {rest : List Char} (ends : Ends rest) :
    writtenAt? ((if negative then ['-'] else []) ++ (Nat.toDigits 10 size ++ rest)) =
      some (⟨negative, Nat.toDigits 10 size, none, none⟩,
        (if negative then 1 else 0) + (Nat.toDigits 10 size).length) := by
  have noMinus : ¬(Nat.toDigits 10 size).head? = some '-' := by
    obtain ⟨digit, others, begins, isDigit⟩ := Literal.toDigits_begins size
    rw [begins]
    rintro ⟨⟩
    exact absurd isDigit (by decide)
  have afterWhole : (Nat.toDigits 10 size ++ rest).drop (Nat.toDigits 10 size).length = rest :=
    List.drop_left
  have afterSign : ('-' :: (Nat.toDigits 10 size ++ rest)).drop
      (1 + (Nat.toDigits 10 size).length) = rest := by
    rw [Nat.add_comm, List.drop_succ_cons, afterWhole]
  rw [writtenAt?]
  cases negative with
  | true =>
    simp [wholeAt?_toDigits size ends, fractionAt?_ends ends, exponentAt?_ends ends, afterSign]
  | false =>
    simp [noMinus, wholeAt?_toDigits size ends, fractionAt?_ends ends,
      exponentAt?_ends ends, afterWhole]

/-- The shape of an integer of 64 bits is that integer. -/
theorem number?_integer (value : Int64) :
    Written.number? ⟨decide (value.toInt < 0), Nat.toDigits 10 value.toInt.natAbs, none, none⟩ =
      some (.integer value) := by
  have word : wordOf? value.toInt = some value := by
    rw [wordOf?, if_pos ⟨value.minValue_le_toInt, value.toInt_le⟩, Int64.ofInt_toInt]
  have size : Nat.ofDigitChars 10 (Nat.toDigits 10 value.toInt.natAbs) 0 = value.toInt.natAbs :=
    Nat.ofDigitChars_ten_toDigits
  rw [Written.number?]
  by_cases isNegative : value.toInt < 0
  · have same : -(value.toInt.natAbs : Int) = value.toInt := by omega
    have notZero : ¬(value.toInt.natAbs : Int) = 0 := by omega
    simp only [size, isNegative, decide_true, if_true, notZero, if_false, same, word,
      Option.isSome_none, Bool.or_self, Bool.false_eq_true]
  · have same : (value.toInt.natAbs : Int) = value.toInt := by omega
    simp only [size, isNegative, decide_false, same, word, if_false, Option.isSome_none,
      Bool.or_self, Bool.false_eq_true]

/-- The mark of a number begins with a sign or a digit. -/
theorem markAt?_number {first : Char} (begins : first = '-' ∨ first.isDigit = true)
    (rest : List Char) :
    markAt? (first :: rest) = (writtenAt? (first :: rest)).bind fun found =>
      found.1.number?.bind fun number => some (.leaf (.number number), found.2) := by
  have noMark : ∀ mark ∈ ['[', ']', '\x7b', '\x7d', ',', ':', 'n', 't', 'f', '"'],
      first ≠ mark := by
    rintro mark member rfl
    rcases begins with rfl | isDigit
    · revert member
      decide
    · simp only [List.mem_cons, List.not_mem_nil, or_false] at member
      rcases member with rfl | rfl | rfl | rfl | rfl | rfl | rfl | rfl | rfl | rfl <;> cases isDigit
  rw [markAt?.eq_def]
  split
  case h_1 same | h_2 same | h_3 same | h_4 same | h_5 same | h_6 same | h_7 same | h_8 same
  | h_9 same | h_10 same => exact absurd (List.cons.inj same).1 (noMark _ (by decide))
  case h_11 => rfl

/-- An integer is one mark if what comes after it ends it. -/
theorem markAt?_integer (value : Int64) {rest : List Char} (ends : Ends rest) :
    markAt? ((integerText value.toInt).toList ++ rest) =
      some (.leaf (.number (.integer value)), (integerText value.toInt).toList.length) := by
  have shape := writtenAt?_digits (decide (value.toInt < 0)) value.toInt.natAbs ends
  have text : (integerText value.toInt).toList ++ rest =
      (if decide (value.toInt < 0) then ['-'] else []) ++
        (Nat.toDigits 10 value.toInt.natAbs ++ rest) := by
    rw [Literal.toList_integerText]
    by_cases isNegative : value.toInt < 0 <;> simp [isNegative]
  have length : (integerText value.toInt).toList.length =
      (if decide (value.toInt < 0) then 1 else 0) +
        (Nat.toDigits 10 value.toInt.natAbs).length := by
    rw [Literal.toList_integerText]
    by_cases isNegative : value.toInt < 0 <;> simp [isNegative, Nat.add_comm]
  obtain ⟨first, others, begins, isNumber⟩ := integerText_begins value.toInt
  have whole : first :: (others ++ rest) = (integerText value.toInt).toList ++ rest := by
    rw [begins, List.cons_append]
  rw [← whole, markAt?_number isNumber, whole, text, shape, length]
  simp only [Option.bind_some, number?_integer]

end Shorthand.Json
