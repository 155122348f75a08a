/-
This file says which texts stand for numbers.

Blanks around the text mean nothing. What is left is empty, infinity with a sign or without, a
decimal numeral, or hexadecimal digits behind their prefix. These digits are read as an integer of
64 bits, so they may have a sign themselves, and too many of them are no number.
-/

import Mathlib
import Shorthand.Proofs.Number.Exact
import Shorthand.Proofs.Number.Hexadecimal
import Shorthand.Proofs.Number.Numeral
import Shorthand.Proofs.Number.Scientific
import Shorthand.Proofs.Scan.Extent

namespace Shorthand

open Numeral (signs Unsigned IsDecimal)

variable {text characters digits : List Char}

/-! ### Blanks around a text -/

/-- The characters between the blanks at both ends of a text. -/
structure IsTrimmed (text characters : List Char) : Prop where
  surrounds : ∃ before after, text = before ++ (characters ++ after) ∧ Blank before ∧ Blank after
  first : ∀ first ∈ characters.head?, Text.isBlank first = false
  last : ∀ last ∈ characters.getLast?, Text.isBlank last = false

theorem dropBlanks_spec (text : List Char) :
    (∃ before, text = before ++ Text.dropBlanks text ∧ Blank before) ∧
      ∀ first ∈ (Text.dropBlanks text).head?, Text.isBlank first = false := by
  refine ⟨⟨text.takeWhile Text.isBlank, List.takeWhile_append_dropWhile.symm,
    fun _ => List.mem_takeWhile_imp⟩, fun first isHead => ?_⟩
  have ends := List.head?_dropWhile_not Text.isBlank text
  rw [← Text.dropBlanks, Option.mem_def.mp isHead] at ends
  exact ends

theorem isTrimmed_trim (text : List Char) : IsTrimmed text (Text.trim text) := by
  obtain ⟨⟨before, same, blankBefore⟩, first⟩ := dropBlanks_spec text
  obtain ⟨⟨after, sameAfter, blankAfter⟩, last⟩ := dropBlanks_spec (Text.dropBlanks text).reverse
  have rest : Text.dropBlanks text = Text.trim text ++ after.reverse := by
    rw [Text.trim, ← List.reverse_append, ← sameAfter, List.reverse_reverse]
  refine ⟨⟨before, after.reverse, by rw [← rest, ← same], blankBefore, fun blank isMember =>
    blankAfter blank (List.mem_reverse.mp isMember)⟩, fun character isHead => ?_, ?_⟩
  · refine first character ?_
    rw [rest, List.head?_append, Option.mem_def.mp isHead]
    rfl
  · rw [Text.trim, List.getLast?_reverse]
    exact last

/-! ### Hexadecimal words -/

/-- Hexadecimal digits with a sign or without write an integer of 64 bits. -/
def IsHexWord (characters : List Char) : Prop :=
  ∃ sign ∈ signs, ∃ digits size, characters = sign ++ digits ∧ IsHexadecimal digits size ∧
    Int64.minValue.toInt ≤ (if sign = ['-'] then -(size : ℤ) else size) ∧
    (if sign = ['-'] then -(size : ℤ) else size) ≤ Int64.maxValue.toInt

/-- Hexadecimal digits alone, as many as there are. -/
def AreHexDigits (characters : List Char) : Prop := ∃ size, IsHexadecimal characters size

theorem IsHexDigit.unsigned {first : Char} {value : ℕ} (isDigit : IsHexDigit first value)
    (rest : List Char) : Unsigned (first :: rest) := by
  have found := hexDigit?_eq_some.mpr isDigit
  rintro _ ⟨⟩
  constructor <;> rintro rfl <;> cases found

theorem IsHexadecimal.unsigned {value : ℕ} (isNumber : IsHexadecimal digits value) :
    Unsigned digits := by
  obtain ⟨nonempty, values, areDigits, -⟩ := isNumber
  cases areDigits with
  | nil => exact absurd rfl nonempty
  | cons isDigit => exact isDigit.unsigned _

theorem isSome_hexWord? : (hexWord? characters).isSome = true ↔ IsHexWord characters := by
  constructor
  · intro found
    obtain ⟨sign, isSign, same, isNegative⟩ := Numeral.append_readSign characters
    rw [hexWord?] at found
    generalize Numeral.readSign characters = signed at found same isNegative
    obtain ⟨negative, digits⟩ := signed
    dsimp only at found same isNegative
    obtain ⟨word, isWord⟩ := Option.isSome_iff_exists.mp found
    obtain ⟨size, isSize, inside⟩ := Option.bind_eq_some_iff.mp isWord
    simp only [isNegative, decide_eq_true_eq] at inside
    exact ⟨sign, isSign, digits, size, same, hexValue?_eq_some.mp isSize,
      isSome_wordOf?.mp (Option.isSome_of_eq_some inside)⟩
  · rintro ⟨sign, isSign, digits, size, rfl, isNumber, inside⟩
    rw [hexWord?, Numeral.readSign_append isSign isNumber.unsigned]
    simp only [hexValue?_eq_some.mpr isNumber, Option.bind_some, decide_eq_true_eq]
    exact isSome_wordOf?.mpr inside

theorem isHexWord_iff (unsigned : Unsigned characters)
    (small : ∀ size : ℕ, IsHexadecimal characters size → size ≤ Int64.maxValue.toInt) :
    IsHexWord characters ↔ AreHexDigits characters := by
  have least := Int64.toInt_minValue
  constructor
  · rintro ⟨sign, isSign, digits, size, rfl, isNumber, -⟩
    simp only [signs, List.mem_cons, List.not_mem_nil, or_false] at isSign
    rcases isSign with rfl | rfl | rfl
    · exact ⟨size, isNumber⟩
    · exact absurd rfl (unsigned '+' rfl).1
    · exact absurd rfl (unsigned '-' rfl).2
  · rintro ⟨size, isNumber⟩
    refine ⟨[], by decide, characters, size, rfl, isNumber, ?_⟩
    rw [if_neg (by decide)]
    exact ⟨by omega, small size isNumber⟩

/-! ### The grammar -/

/-- The prefix of hexadecimal digits, in either case. -/
def IsPrefixed (characters digits : List Char) : Prop :=
  characters = '0' :: 'x' :: digits ∨ characters = '0' :: 'X' :: digits

/-- The text of a number, where hexadecimal digits may be of any form. -/
inductive IsNumeric (IsHex : List Char → Prop) : List Char → Prop where
  | empty : IsNumeric IsHex []
  | infinity {sign : List Char} (isSign : sign ∈ signs) :
    IsNumeric IsHex (sign ++ "Infinity".toList)
  | decimal {characters : List Char} (isDecimal : IsDecimal characters) :
    IsNumeric IsHex characters
  | hexadecimal {characters digits : List Char} (isPrefixed : IsPrefixed characters digits)
    (isHex : IsHex digits) : IsNumeric IsHex characters

theorem IsNumeric.imp {IsHex IsOther : List Char → Prop} (isNumeric : IsNumeric IsHex characters)
    (implies : ∀ digits, IsPrefixed characters digits → IsHex digits → IsOther digits) :
    IsNumeric IsOther characters := by
  cases isNumeric with
  | empty => exact .empty
  | infinity isSign => exact .infinity isSign
  | decimal isDecimal => exact .decimal isDecimal
  | hexadecimal isPrefixed isHex => exact .hexadecimal isPrefixed (implies _ isPrefixed isHex)

/-- The prefix begins no other number. -/
theorem not_isDecimal_of_isPrefixed (isPrefixed : IsPrefixed characters digits) :
    ¬IsDecimal characters := by
  rw [← Numeral.isSome_read?]
  rcases isPrefixed with rfl | rfl <;> exact Bool.false_ne_true

theorem isNumeric_iff_of_isPrefixed {IsHex : List Char → Prop}
    (isPrefixed : IsPrefixed characters digits) : IsNumeric IsHex characters ↔ IsHex digits := by
  refine ⟨fun isNumeric => ?_, .hexadecimal isPrefixed⟩
  cases isNumeric with
  | empty => rcases isPrefixed with same | same <;> cases same
  | @infinity sign isSign =>
    have apart : ∀ sign ∈ signs, (sign ++ "Infinity".toList).head? ≠ some '0' := by decide
    rcases isPrefixed with same | same <;> exact absurd (by rw [same]; rfl) (apart sign isSign)
  | decimal isDecimal => exact absurd isDecimal (not_isDecimal_of_isPrefixed isPrefixed)
  | hexadecimal isPrefixedToo isHex =>
    rcases isPrefixed with rfl | rfl <;> rcases isPrefixedToo with same | same <;> cases same <;>
      exact isHex

/-! ### The coercion -/

theorem isNaN_numberOfText_of_isPrefixed {text : String}
    (isPrefixed : IsPrefixed (Text.trim text.toList) digits) :
    (numberOfText text).isNaN = false ↔ IsHexWord digits := by
  rw [← isSome_hexWord?, numberOfText]
  rcases isPrefixed with same | same <;> simp only [same] <;> cases hexWord? digits with
  | none => exact iff_of_false (by decide) Bool.false_ne_true
  | some word => exact iff_of_true (isNaN_ofInt _) rfl

theorem isNaN_numberOfText_of_not_isPrefixed {text : String}
    (nonempty : Text.trim text.toList ≠ [])
    (noPrefix : ∀ digits, ¬IsPrefixed (Text.trim text.toList) digits) :
    (numberOfText text).isNaN = false ↔
      (∃ sign ∈ signs, Text.trim text.toList = sign ++ "Infinity".toList) ∨
        IsDecimal (Text.trim text.toList) := by
  rw [numberOfText]
  split
  · exact absurd ‹_› nonempty
  · exact absurd (.inl ‹_›) (noPrefix _)
  · exact absurd (.inr ‹_›) (noPrefix _)
  · generalize Text.trim text.toList = characters
    have isInfinity : (∃ sign ∈ signs, characters = sign ++ "Infinity".toList) ↔
        characters = "Infinity".toList ∨ characters = "+Infinity".toList ∨
          characters = "-Infinity".toList := by
      simp only [signs, List.mem_cons, List.not_mem_nil, or_false, exists_eq_or_imp,
        exists_eq_left]
      rfl
    rw [isInfinity, ← or_assoc]
    split_ifs with positive negative
    · exact iff_of_true rfl (.inl (.inl positive))
    · exact iff_of_true rfl (.inl (.inr negative))
    · rw [or_iff_right (not_or.mpr ⟨positive, negative⟩), ← Numeral.isSome_read?]
      cases Numeral.read? characters with
      | none => exact iff_of_false (by decide) Bool.false_ne_true
      | some numeral => exact iff_of_true numeral.isNaN_toFloat rfl

theorem isNaN_numberOfText {text : String} :
    (numberOfText text).isNaN = false ↔ IsNumeric IsHexWord (Text.trim text.toList) := by
  by_cases empty : Text.trim text.toList = []
  · rw [numberOfText, empty]
    exact iff_of_true rfl .empty
  by_cases isPrefixed : ∃ digits, IsPrefixed (Text.trim text.toList) digits
  · obtain ⟨digits, isPrefixed⟩ := isPrefixed
    rw [isNaN_numberOfText_of_isPrefixed isPrefixed, isNumeric_iff_of_isPrefixed isPrefixed]
  · rw [isNaN_numberOfText_of_not_isPrefixed empty (not_exists.mp isPrefixed)]
    generalize Text.trim text.toList = characters at empty isPrefixed
    constructor
    · rintro (⟨sign, isSign, rfl⟩ | isDecimal)
      · exact .infinity isSign
      · exact .decimal isDecimal
    · intro isNumeric
      cases isNumeric with
      | empty => exact absurd rfl empty
      | infinity isSign => exact .inl ⟨_, isSign, rfl⟩
      | decimal isDecimal => exact .inr isDecimal
      | hexadecimal isPrefixedToo => exact absurd ⟨_, isPrefixedToo⟩ isPrefixed

/-- A text stands for a number just if it is numeric without the blanks around it: if it is empty,
infinity, a decimal numeral, or the prefix with hexadecimal digits that write an integer of 64 bits
and may have a sign. So where there is no such sign, and the digits write no greater integer, it
does just if the prefix is followed by hexadecimal digits alone, or if it is one of the others. -/
theorem number_iff_numeric_text (text : String) :
    IsTrimmed text.toList (Text.trim text.toList) ∧
    ((numberOfText text).isNaN = false ↔ IsNumeric IsHexWord (Text.trim text.toList)) ∧
    ((∀ digits, IsPrefixed (Text.trim text.toList) digits → Unsigned digits ∧
        ∀ size : ℕ, IsHexadecimal digits size → size ≤ Int64.maxValue.toInt) →
      ((numberOfText text).isNaN = false ↔ IsNumeric AreHexDigits (Text.trim text.toList))) := by
  refine ⟨isTrimmed_trim _, isNaN_numberOfText, fun plain => ?_⟩
  have same (digits : List Char) (isPrefixed : IsPrefixed (Text.trim text.toList) digits) :
      IsHexWord digits ↔ AreHexDigits digits :=
    isHexWord_iff (plain digits isPrefixed).1 (plain digits isPrefixed).2
  rw [isNaN_numberOfText]
  exact ⟨fun isNumeric => isNumeric.imp fun digits isPrefixed => (same digits isPrefixed).mp,
    fun isNumeric => isNumeric.imp fun digits isPrefixed => (same digits isPrefixed).mpr⟩

/-- A hexadecimal text with blanks around it is a number. -/
theorem number_of_hexadecimal_text :
    (∀ digits, IsPrefixed (Text.trim " 0xfF\n".toList) digits → Unsigned digits ∧
        ∀ size : ℕ, IsHexadecimal digits size → size ≤ Int64.maxValue.toInt) ∧
      (numberOfText " 0xfF\n").isNaN = false ∧ IsTrimmed " 0xfF\n".toList "0xfF".toList := by
  have most := Int64.toInt_maxValue
  have isNumber : hexValue? ['f', 'F'] = some 255 := rfl
  have isText : Text.trim " 0xfF\n".toList = '0' :: 'x' :: ['f', 'F'] := by decide
  have plain : ∀ digits, IsPrefixed (Text.trim " 0xfF\n".toList) digits → Unsigned digits ∧
      ∀ size : ℕ, IsHexadecimal digits size → size ≤ Int64.maxValue.toInt := by
    intro digits isPrefixed
    rw [isText] at isPrefixed
    rcases isPrefixed with same | same <;> cases same
    refine ⟨(hexValue?_eq_some.mp isNumber).unsigned, fun size isSize => ?_⟩
    cases isNumber.symm.trans (hexValue?_eq_some.mpr isSize)
    omega
  obtain ⟨isTrimmed, -, isNumeric⟩ := number_iff_numeric_text " 0xfF\n"
  rw [isText] at isTrimmed
  refine ⟨plain, (isNumeric plain).mpr ?_, isTrimmed⟩
  rw [isText]
  exact .hexadecimal (.inl rfl) ⟨255, hexValue?_eq_some.mp isNumber⟩

/-- A sign behind the prefix makes a number, although it is no digit, and hexadecimal digits that
write the integer after the greatest word make none. -/
theorem hexadecimal_text_as_word :
    (numberOfText "0x-10").isNaN = false ∧ ¬IsNumeric AreHexDigits (Text.trim "0x-10".toList) ∧
      (numberOfText "0x8000000000000000").isNaN = true ∧
      IsNumeric AreHexDigits (Text.trim "0x8000000000000000".toList) := by
  refine ⟨by decide, fun isNumeric => ?_, by decide, .hexadecimal (.inl rfl) ?_⟩
  · obtain ⟨size, isSize⟩ := (isNumeric_iff_of_isPrefixed (.inl rfl)).mp isNumeric
    cases hexValue?_eq_some.mpr isSize
  · exact ⟨_, hexValue?_eq_some.mp rfl⟩

end Shorthand
