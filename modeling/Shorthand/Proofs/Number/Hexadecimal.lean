/-
This file says which characters are hexadecimal digits, and which number digits write.

There are sixteen digits, of which six are letters in either case. Digits write the number to the
base sixteen, the last one the lowest, and no digit at all writes none.
-/

import Mathlib
import Shorthand.Number.Text

namespace Shorthand

/-- A character is the hexadecimal digit with a value, written in either case. -/
def IsHexDigit (character : Char) (value : ℕ) : Prop :=
  value < 16 ∧ (character = value.digitChar ∨ character = value.digitChar.toUpper)

/-- Characters are hexadecimal digits, at least one, and write a number. -/
def IsHexadecimal (characters : List Char) (value : ℕ) : Prop :=
  characters ≠ [] ∧ ∃ digits : List ℕ, List.Forall₂ IsHexDigit characters digits ∧
    value = Nat.ofDigits 16 digits.reverse

theorem hexDigit?_eq_some {character : Char} {value : ℕ} :
    hexDigit? character = some value ↔ IsHexDigit character value := by
  constructor
  · intro found
    have small : character.toNat < 128 := by
      rw [hexDigit?] at found
      split_ifs at found with isDigit lower upper
      · rw [Char.isDigit, Bool.and_eq_true, decide_eq_true_eq, decide_eq_true_eq] at isDigit
        exact Nat.lt_of_le_of_lt isDigit.2 (by decide)
      · exact Nat.lt_of_le_of_lt lower.2 (by decide)
      · exact Nat.lt_of_le_of_lt upper.2 (by decide)
    have each : ∀ point < 128, ∀ value ∈ hexDigit? (Char.ofNat point), value < 16 ∧
        (Char.ofNat point = value.digitChar ∨ Char.ofNat point = value.digitChar.toUpper) := by
      decide +kernel
    have isDigit := each _ small value (by rw [Char.ofNat_toNat]; exact found)
    rwa [Char.ofNat_toNat] at isDigit
  · rintro ⟨small, rfl | rfl⟩
    · have each : ∀ value < 16, hexDigit? value.digitChar = some value := by decide
      exact each value small
    · have each : ∀ value < 16, hexDigit? value.digitChar.toUpper = some value := by decide
      exact each value small

/-- A plus sign is no digit. -/
theorem not_isHexDigit_plus (value : ℕ) : ¬IsHexDigit '+' value := fun isDigit =>
  nomatch hexDigit?_eq_some.mpr isDigit

theorem ofDigits_reverse_cons (digit start : ℕ) (digits : List ℕ) :
    Nat.ofDigits 16 (digit :: digits).reverse + 16 ^ (digit :: digits).length * start =
      Nat.ofDigits 16 digits.reverse + 16 ^ digits.length * (16 * start + digit) := by
  rw [List.reverse_cons, Nat.ofDigits_append, Nat.ofDigits_singleton, List.length_reverse,
    List.length_cons]
  ring

/-- Each digit adds to sixteen times what the digits before it write. -/
theorem foldlM_hexDigit? {characters : List Char} {start value : ℕ} :
    characters.foldlM (fun value character => (hexDigit? character).map (16 * value + ·)) start =
        some value ↔
      ∃ digits : List ℕ, List.Forall₂ IsHexDigit characters digits ∧
        value = Nat.ofDigits 16 digits.reverse + 16 ^ digits.length * start := by
  induction characters generalizing start with
  | nil =>
    rw [List.foldlM_nil]
    constructor
    · rintro ⟨⟩
      exact ⟨[], .nil, by simp⟩
    · rintro ⟨digits, areDigits, rfl⟩
      cases areDigits
      simp
  | cons character characters inductionHypothesis =>
    rw [List.foldlM_cons, Option.bind_eq_bind, Option.bind_eq_some_iff]
    constructor
    · rintro ⟨next, isNext, further⟩
      obtain ⟨digit, isDigit, rfl⟩ := Option.map_eq_some_iff.mp isNext
      obtain ⟨digits, areDigits, rfl⟩ := inductionHypothesis.mp further
      exact ⟨digit :: digits, .cons (hexDigit?_eq_some.mp isDigit) areDigits,
        (ofDigits_reverse_cons digit start digits).symm⟩
    · rintro ⟨digits, areDigits, rfl⟩
      cases areDigits with
      | @cons _ digit _ digits isDigit areDigits =>
        refine ⟨16 * start + digit, ?_, inductionHypothesis.mpr
          ⟨digits, areDigits, ofDigits_reverse_cons digit start digits⟩⟩
        rw [hexDigit?_eq_some.mpr isDigit, Option.map_some]

theorem hexValue?_eq_some {characters : List Char} {value : ℕ} :
    hexValue? characters = some value ↔ IsHexadecimal characters value := by
  rw [hexValue?, IsHexadecimal]
  split_ifs with empty
  · exact iff_of_false nofun fun isNumber => isNumber.1 (List.isEmpty_iff.mp empty)
  · rw [foldlM_hexDigit?, and_iff_right (mt List.isEmpty_iff.mpr empty)]
    simp only [Nat.mul_zero, Nat.add_zero]

theorem IsHexadecimal.lt {characters : List Char} {value : ℕ}
    (isNumber : IsHexadecimal characters value) : value < 16 ^ characters.length := by
  obtain ⟨-, digits, areDigits, rfl⟩ := isNumber
  have small : ∀ digit ∈ digits, digit < 16 := by
    induction areDigits with
    | nil => exact List.forall_mem_nil _
    | cons isDigit _ inductionHypothesis =>
      exact List.forall_mem_cons.mpr ⟨isDigit.1, inductionHypothesis⟩
  have bound := Nat.ofDigits_lt_base_pow_length (by decide) fun digit isMember =>
    small digit (List.mem_reverse.mp isMember)
  rwa [List.length_reverse, ← areDigits.length_eq] at bound

end Shorthand
