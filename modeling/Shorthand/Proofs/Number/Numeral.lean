/-
This file says which texts are decimal numerals.

A numeral is a sign, digits with or without a point, and an exponent. The sign and the exponent may
be missing, and so may the digits on either side of the point, but not on both. An exponent has a
letter, a sign that may be missing, and at least one digit.
-/

import Mathlib
import Shorthand.Decimal.Numeral

namespace Shorthand

namespace Numeral

variable {characters digits rest sign : List Char}

/-! ### The grammar -/

/-- What may stand where a sign can. -/
def signs : List (List Char) := [[], ['+'], ['-']]

/-- Characters are decimal digits. -/
def AreDigits (characters : List Char) : Prop :=
  ∀ character ∈ characters, character.isDigit = true

/-- The digits of a numeral, with a point among them or not. -/
inductive IsMantissa : List Char → Prop where
  | whole {whole : List Char} (areDigits : AreDigits whole) (nonempty : whole ≠ []) :
    IsMantissa whole
  | point {whole fraction : List Char} (areDigits : AreDigits whole)
    (areDigitsToo : AreDigits fraction) (nonempty : ¬(whole = [] ∧ fraction = [])) :
    IsMantissa (whole ++ '.' :: fraction)

/-- The exponent of a numeral, which may be missing. -/
inductive IsExponent : List Char → Prop where
  | missing : IsExponent []
  | power {letter : Char} {sign digits : List Char} (isLetter : letter = 'e' ∨ letter = 'E')
    (isSign : sign ∈ signs) (areDigits : AreDigits digits) (nonempty : digits ≠ []) :
    IsExponent (letter :: (sign ++ digits))

/-- A decimal numeral. -/
def IsDecimal (characters : List Char) : Prop :=
  ∃ sign mantissa exponent, characters = sign ++ (mantissa ++ exponent) ∧ sign ∈ signs ∧
    IsMantissa mantissa ∧ IsExponent exponent

/-! ### Signs and digits -/

/-- No sign begins the characters. -/
def Unsigned (characters : List Char) : Prop :=
  ∀ first ∈ characters.head?, first ≠ '+' ∧ first ≠ '-'

theorem append_readSign (characters : List Char) :
    ∃ sign ∈ signs, characters = sign ++ (readSign characters).2 ∧
      (readSign characters).1 = decide (sign = ['-']) := by
  rw [readSign.eq_def]
  split
  · exact ⟨['-'], by decide, rfl, rfl⟩
  · exact ⟨['+'], by decide, rfl, rfl⟩
  · exact ⟨[], by decide, rfl, rfl⟩

theorem readSign_append (isSign : sign ∈ signs) (unsigned : Unsigned rest) :
    readSign (sign ++ rest) = (decide (sign = ['-']), rest) := by
  simp only [signs, List.mem_cons, List.not_mem_nil, or_false] at isSign
  rcases isSign with rfl | rfl | rfl
  · cases rest with
    | nil => rfl
    | cons first rest =>
      obtain ⟨noPlus, noMinus⟩ := unsigned first rfl
      rw [List.nil_append, readSign.eq_def]
      split
      · cases ‹first :: rest = _›
        exact absurd rfl noMinus
      · cases ‹first :: rest = _›
        exact absurd rfl noPlus
      · rfl
  · rfl
  · rfl

theorem Unsigned.of_isDigit {first : Char} (isDigit : first.isDigit = true) (rest : List Char) :
    Unsigned (first :: rest) := by
  rintro _ ⟨⟩
  constructor <;> rintro rfl <;> cases isDigit

theorem AreDigits.unsigned (areDigits : AreDigits digits) (nonempty : digits ≠ [])
    (rest : List Char) : Unsigned (digits ++ rest) := by
  cases digits with
  | nil => exact absurd rfl nonempty
  | cons first digits => exact .of_isDigit (areDigits first List.mem_cons_self) _

/-- The digits at the head of a text end in front of the first other character. -/
theorem AreDigits.span (areDigits : AreDigits digits)
    (ends : ∀ first ∈ rest.head?, first.isDigit = false) :
    (digits ++ rest).takeWhile Char.isDigit = digits ∧
      (digits ++ rest).dropWhile Char.isDigit = rest := by
  rw [List.takeWhile_append_of_pos areDigits, List.dropWhile_append_of_pos areDigits]
  cases rest with
  | nil => exact ⟨List.append_nil _, rfl⟩
  | cons first rest =>
    have noDigit : ¬first.isDigit = true := by
      rw [ends first rfl]
      exact Bool.false_ne_true
    exact ⟨by rw [List.takeWhile_cons_of_neg noDigit, List.append_nil],
      List.dropWhile_cons_of_neg noDigit⟩

theorem areDigits_takeWhile (characters : List Char) :
    AreDigits (characters.takeWhile Char.isDigit) := fun _ => List.mem_takeWhile_imp

/-! ### The reader -/

theorem isSome_readExponent?_cons {letter : Char} :
    (readExponent? (letter :: rest)).isSome = true ↔
      (letter = 'e' ∨ letter = 'E') ∧ (readSign rest).2 ≠ [] ∧ AreDigits (readSign rest).2 := by
  rw [readExponent?]
  generalize readSign rest = signed
  obtain ⟨negative, digits⟩ := signed
  dsimp only
  have refuses : (digits.isEmpty || !digits.all Char.isDigit) = true ↔
      ¬(digits ≠ [] ∧ AreDigits digits) := by
    rw [Bool.or_eq_true, List.isEmpty_iff, Bool.not_eq_true', ← Bool.not_eq_true,
      List.all_eq_true, not_and_or, not_not]
    rfl
  by_cases isLetter : letter = 'e' ∨ letter = 'E'
  · rw [if_pos isLetter, and_iff_right isLetter]
    by_cases isNumber : digits ≠ [] ∧ AreDigits digits
    · rw [if_neg fun refused => refuses.mp refused isNumber]
      exact iff_of_true rfl isNumber
    · rw [if_pos (refuses.mpr isNumber)]
      exact iff_of_false Bool.false_ne_true isNumber
  · rw [if_neg isLetter]
    exact iff_of_false Bool.false_ne_true fun isExponent => isLetter isExponent.1

theorem isSome_readExponent? :
    (readExponent? characters).isSome = true ↔ IsExponent characters := by
  constructor
  · intro found
    cases characters with
    | nil => exact .missing
    | cons letter rest =>
      obtain ⟨isLetter, nonempty, areDigits⟩ := isSome_readExponent?_cons.mp found
      obtain ⟨sign, isSign, same, -⟩ := append_readSign rest
      rw [same]
      exact .power isLetter isSign areDigits nonempty
  · intro isExponent
    cases isExponent with
    | missing => rfl
    | @power letter sign digits isLetter isSign areDigits nonempty =>
      have unsigned := areDigits.unsigned nonempty []
      rw [List.append_nil] at unsigned
      rw [isSome_readExponent?_cons, readSign_append isSign unsigned]
      exact ⟨isLetter, nonempty, areDigits⟩

theorem IsExponent.ends (isExponent : IsExponent rest) :
    ∀ first ∈ rest.head?, first.isDigit = false ∧ first ≠ '.' := by
  cases isExponent with
  | missing => exact nofun
  | power isLetter =>
    rintro _ ⟨⟩
    rcases isLetter with rfl | rfl <;> decide

/-- With a digit on one side of the point, it depends on the exponent whether a numeral is found. -/
theorem isSome_map_readExponent? (negative : Bool) (whole fraction : List Char) :
    (if (whole.isEmpty && fraction.isEmpty) = true then none
      else (readExponent? rest).map fun exponent =>
        Numeral.mk negative whole fraction exponent).isSome = true ↔
      ¬(whole = [] ∧ fraction = []) ∧ IsExponent rest := by
  have refuses : (whole.isEmpty && fraction.isEmpty) = true ↔ whole = [] ∧ fraction = [] := by
    rw [Bool.and_eq_true, List.isEmpty_iff, List.isEmpty_iff]
  by_cases empty : whole = [] ∧ fraction = []
  · rw [if_pos (refuses.mpr empty)]
    exact iff_of_false Bool.false_ne_true fun found => found.1 empty
  · rw [if_neg (mt refuses.mp empty), Option.isSome_map, and_iff_right empty, isSome_readExponent?]

/-- A point behind the first digits is followed by further digits and the exponent. -/
theorem isSome_read?_point (areDigits : AreDigits digits)
    (same : (readSign characters).2 = digits ++ '.' :: rest) :
    (read? characters).isSome = true ↔
      ¬(digits = [] ∧ rest.takeWhile Char.isDigit = []) ∧
        IsExponent (rest.dropWhile Char.isDigit) := by
  obtain ⟨taken, dropped⟩ := @AreDigits.span digits ('.' :: rest) areDigits (by rintro _ ⟨⟩; rfl)
  rw [read?]
  generalize readSign characters = signed at same
  obtain ⟨negative, unsigned⟩ := signed
  subst same
  simp only [taken, dropped]
  exact isSome_map_readExponent? ..

/-- Without a point the exponent follows the digits. -/
theorem isSome_read?_whole (areDigits : AreDigits digits)
    (ends : ∀ first ∈ rest.head?, first.isDigit = false ∧ first ≠ '.')
    (same : (readSign characters).2 = digits ++ rest) :
    (read? characters).isSome = true ↔ digits ≠ [] ∧ IsExponent rest := by
  obtain ⟨taken, dropped⟩ := areDigits.span fun first isHead => (ends first isHead).1
  rw [read?]
  generalize readSign characters = signed at same
  obtain ⟨negative, unsigned⟩ := signed
  subst same
  simp only [taken, dropped]
  split
  · exact absurd rfl (ends '.' rfl).2
  · rw [isSome_map_readExponent?, and_iff_left rfl]

theorem isDecimal_of_isSome (found : (read? characters).isSome = true) :
    IsDecimal characters := by
  obtain ⟨sign, isSign, same, -⟩ := append_readSign characters
  have areDigits := areDigits_takeWhile (readSign characters).2
  have parts := @List.takeWhile_append_dropWhile _ Char.isDigit (readSign characters).2
  have ends := List.head?_dropWhile_not Char.isDigit (readSign characters).2
  generalize (readSign characters).2.takeWhile Char.isDigit = whole at areDigits parts
  generalize (readSign characters).2.dropWhile Char.isDigit = after at parts ends
  by_cases point : ∃ rest, after = '.' :: rest
  · obtain ⟨rest, rfl⟩ := point
    obtain ⟨nonempty, isExponent⟩ := (isSome_read?_point areDigits parts.symm).mp found
    refine ⟨sign, _, _, ?_, isSign, .point areDigits (areDigits_takeWhile rest) nonempty,
      isExponent⟩
    rw [List.append_assoc, List.cons_append, List.takeWhile_append_dropWhile, parts, ← same]
  · have noPoint : ∀ first ∈ after.head?, first.isDigit = false ∧ first ≠ '.' := by
      cases after with
      | nil => exact nofun
      | cons first rest =>
        rintro _ ⟨⟩
        refine ⟨ends, ?_⟩
        rintro rfl
        exact point ⟨rest, rfl⟩
    obtain ⟨nonempty, isExponent⟩ :=
      (isSome_read?_whole areDigits noPoint parts.symm).mp found
    exact ⟨sign, whole, after, by rw [parts, ← same], isSign, .whole areDigits nonempty,
      isExponent⟩

theorem IsDecimal.isSome (isDecimal : IsDecimal characters) :
    (read? characters).isSome = true := by
  obtain ⟨sign, mantissa, exponent, rfl, isSign, isMantissa, isExponent⟩ := isDecimal
  cases isMantissa with
  | whole areDigits nonempty =>
    have unsigned := congrArg Prod.snd
      (readSign_append isSign (areDigits.unsigned nonempty exponent))
    exact (isSome_read?_whole areDigits isExponent.ends unsigned).mpr ⟨nonempty, isExponent⟩
  | @point whole fraction areDigits areDigitsToo nonempty =>
    have starts : Unsigned (whole ++ '.' :: (fraction ++ exponent)) := by
      by_cases empty : whole = []
      · rw [empty]
        rintro _ ⟨⟩
        decide
      · exact areDigits.unsigned empty _
    obtain ⟨taken, dropped⟩ := areDigitsToo.span fun first isHead =>
      (isExponent.ends first isHead).1
    have unsigned := congrArg Prod.snd (readSign_append isSign starts)
    rw [List.append_assoc, List.cons_append, isSome_read?_point areDigits unsigned, taken, dropped]
    exact ⟨nonempty, isExponent⟩

theorem isSome_read? : (read? characters).isSome = true ↔ IsDecimal characters :=
  ⟨isDecimal_of_isSome, IsDecimal.isSome⟩

end Numeral

end Shorthand
