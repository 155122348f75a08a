/-
This file shows what stands at the places where the scanner finds a fault.

No lexeme begins where the scanner looks for one: a letter follows a number or its digits are none,
a string has a bad escape or no end, or the character means nothing. The fault lies at the first
character, and only for a bad escape at a later one.
-/

import Mathlib
import Shorthand.Proofs.Forms.Reading
import Shorthand.Proofs.Scan.Begin

namespace Shorthand

/-- What characters have at the place of a fault among them. -/
inductive Fault.Lies : List Char → Fault → Prop where
  | badNumber {text characters : List Char} (nonempty : text ≠ []) (begins : text <+: characters) :
      Lies characters ⟨.badNumber (String.ofList text), 0⟩
  | badEscape {characters : List Char} {letter : Char} {offset : Nat}
      (stands : characters[offset]? = some letter) : Lies characters ⟨.badEscape letter, offset⟩
  | unterminatedString {quote : Char} {rest : List Char} (isQuote : quote = '"' ∨ quote = '\x27') :
      Lies (quote :: rest) ⟨.unterminatedString, 0⟩
  | badCharacter (first : Char) (rest : List Char) : Lies (first :: rest) ⟨.badCharacter first, 0⟩

namespace Lexeme

variable {first : Char} {rest : List Char} {fault : Fault}

/-- A number is refused with its own characters and at most the letter behind them. -/
theorem numberAt_lies (isNumber : first.isDigit = true ∨ first = '.' ∧ startsWithDigit rest = true)
    (refused : numberAt (first :: rest) = .error fault) : fault.Lies (first :: rest) := by
  have isPrefix := numberPart_isPrefix true (first :: rest)
  have nonempty : numberPart true (first :: rest) ≠ [] := by
    obtain ⟨own, _, _, isPart, _⟩ := numberPart_begins isNumber
    rw [isPart]
    exact List.cons_ne_nil first own
  unfold numberAt at refused
  dsimp only at refused
  split at refused
  case h_1 letter isLetter =>
    cases refused
    refine .badNumber (List.concat_ne_nil letter _) ?_
    have isHead := (Option.filter_eq_some_iff.mp isLetter).1
    obtain ⟨others, behind⟩ := List.head?_eq_some_iff.mp isHead
    refine ⟨others, ?_⟩
    rw [List.append_assoc, List.singleton_append, ← behind]
    exact List.prefix_iff_eq_append.mp isPrefix
  case h_2 =>
    split at refused
    case h_1 => cases refused
    case h_2 =>
      split at refused
      case h_1 => cases refused
      case h_2 =>
        cases refused
        exact .badNumber nonempty isPrefix

/-- A string that is refused has no end, or it has a bad escape at its place among the characters
behind the offset. -/
def StringFault (offset : Nat) (rest : List Char) (fault : Fault) : Prop :=
  fault = ⟨.unterminatedString, 0⟩ ∨
    ∃ letter place, fault = ⟨.badEscape letter, offset + place⟩ ∧ rest[place]? = some letter

/-- A fault behind some characters of a string is one of the whole string. -/
theorem StringFault.behind {offset : Nat} (written : List Char)
    (isFault : StringFault (offset + written.length) rest fault) :
    StringFault offset (written ++ rest) fault := by
  refine isFault.imp_right ?_
  rintro ⟨letter, place, rfl, stands⟩
  refine ⟨letter, written.length + place, by rw [Nat.add_assoc], ?_⟩
  rwa [List.getElem?_append_right (Nat.le_add_right _ _), Nat.add_sub_cancel_left]

theorem stringBody_fault {quote : Char} {offset : Nat}
    (refused : stringBody quote offset rest = .error fault) : StringFault offset rest fault := by
  fun_induction stringBody quote offset rest with
  | case1 | case4 | case7 =>
    cases refused
    exact .inl rfl
  | case2 => cases refused
  | case3 offset first rest _ _ inductionHypothesis =>
    exact .behind [first] (inductionHypothesis (except_map_eq_error.mp refused))
  | case5 offset first _ _ d₁ d₂ d₃ d₄ rest _ _ inductionHypothesis =>
    exact .behind [first, 'u', d₁, d₂, d₃, d₄]
      (inductionHypothesis (except_map_eq_error.mp refused))
  | case9 offset first _ _ letter rest _ _ _ _ inductionHypothesis =>
    exact .behind [first, letter] (inductionHypothesis (except_map_eq_error.mp refused))
  | case6 | case8 | case10 =>
    cases refused
    exact .inr ⟨_, 1, rfl, rfl⟩

/-- Characters that begin no lexeme have what the fault says at its place. -/
theorem head_lies (refused : head first rest = .error fault) : fault.Lies (first :: rest) := by
  unfold head at refused
  split at refused
  case isTrue isNumber => exact numberAt_lies isNumber refused
  case isFalse =>
    split at refused
    case isTrue => cases refused
    case isFalse =>
      split at refused
      case isTrue isQuote =>
        cases body : stringBody first 1 rest with
        | ok result =>
          rw [body] at refused
          cases refused
        | error found =>
          rw [body] at refused
          cases refused
          rcases stringBody_fault body with rfl | ⟨letter, place, rfl, stands⟩
          · exact .unterminatedString isQuote
          · refine .badEscape ?_
            rwa [Nat.add_comm, List.getElem?_cons_succ]
      case isFalse =>
        split at refused <;> cases refused
        exact .badCharacter first rest

end Lexeme

end Shorthand
