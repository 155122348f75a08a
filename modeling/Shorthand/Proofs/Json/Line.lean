/-
This file shows that the compact text of a document has no control characters.

The signs and digits of a document are none, and a control character in a string is written as a
backslash with a letter or with four digits. So such a text is a single line, whatever texts the
document is about.
-/

import Mathlib
import Shorthand.Proofs.Json.Document

namespace Shorthand

/-- Characters from the space on, none of which breaks a line. -/
def OnOneLine (characters : List Char) : Prop := ∀ character ∈ characters, ¬character < ' '

namespace OnOneLine

variable {first second : List Char}

theorem nil : OnOneLine [] := fun _ member => absurd member List.not_mem_nil

theorem cons {character : Char} (isFirst : ¬character < ' ') (others : OnOneLine first) :
    OnOneLine (character :: first) := List.forall_mem_cons.mpr ⟨isFirst, others⟩

theorem append (isFirst : OnOneLine first) (isSecond : OnOneLine second) :
    OnOneLine (first ++ second) := List.forall_mem_append.mpr ⟨isFirst, isSecond⟩

theorem of_subset (isFirst : OnOneLine first) (subset : second ⊆ first) : OnOneLine second :=
  fun character member => isFirst character (subset member)

theorem replicate {character : Char} (isFirst : ¬character < ' ') (count : Nat) :
    OnOneLine (List.replicate count character) := by
  intro other member
  rw [List.eq_of_mem_replicate member]
  exact isFirst

theorem intercalate {parts : List (List Char)} (separator : OnOneLine first)
    (each : ∀ part ∈ parts, OnOneLine part) : OnOneLine (first.intercalate parts) := by
  induction parts with
  | nil => exact nil
  | cons part parts inductionHypothesis =>
    obtain ⟨isPart, others⟩ := List.forall_mem_cons.mp each
    cases parts with
    | nil =>
      rw [List.intercalate_singleton]
      exact isPart
    | cons next parts =>
      rw [List.intercalate_cons_cons]
      exact (isPart.append separator).append (inductionHypothesis others)

theorem noLineFeed (isFirst : OnOneLine first) : '\n' ∉ first :=
  fun member => isFirst '\n' member (by decide)

end OnOneLine

/-! ### Numbers -/

theorem onOneLine_digitsOf (number : Nat) : OnOneLine (digitsOf number) := by
  intro character member isControl
  have isDigit : character.isDigit = true :=
    Nat.isDigit_of_mem_toDigits (by decide) (by decide) member
  have atLeast : '0'.toNat ≤ character.toNat := (Char.isDigit_iff_toNat.mp isDigit).1
  have below : character.toNat < ' '.toNat := isControl
  exact absurd (atLeast.trans_lt below) (by decide)

theorem onOneLine_withPoint {digits : List Char} (areDigits : OnOneLine digits) (places : Nat) :
    OnOneLine (withPoint digits places) := by
  rw [withPoint]
  split
  · exact areDigits
  · have zeros : OnOneLine (List.replicate (places + 1 - digits.length) '0') :=
      OnOneLine.replicate (by decide) _
    have padded := zeros.append areDigits
    exact (padded.of_subset (List.take_subset _ _)).append
      (.cons (by decide) (padded.of_subset (List.drop_subset _ _)))

theorem Decimal.onOneLine_positional (decimal : Decimal) : OnOneLine decimal.positional := by
  rw [positional]
  split
  · exact (onOneLine_digitsOf _).append (.replicate (by decide) _)
  · exact onOneLine_withPoint (onOneLine_digitsOf _) _

theorem Decimal.onOneLine_scientific (decimal : Decimal) : OnOneLine decimal.scientific := by
  have digits := onOneLine_digitsOf decimal.digits
  have rest := digits.of_subset (List.drop_subset 1 _)
  have fraction : OnOneLine (if ((digitsOf decimal.digits).drop 1).isEmpty then []
      else '.' :: (digitsOf decimal.digits).drop 1) := by
    split
    · exact .nil
    · exact .cons (by decide) rest
  have sign : ¬(if decimal.leadingExponent < 0 then '-' else '+') < ' ' := by
    split <;> decide
  exact ((digits.of_subset (List.take_subset 1 _)).append fraction).append
    (.cons (by decide) (.cons sign (onOneLine_digitsOf _)))

namespace Json

theorem onOneLine_floatDigits (fraction : Binary) : OnOneLine (floatDigits fraction) := by
  have positional := (fraction.shortest .toEven).onOneLine_positional
  rw [floatDigits]
  split
  · split
    · exact positional
    · exact positional.append (.cons (by decide) (.cons (by decide) .nil))
  · exact Decimal.onOneLine_scientific _

theorem onOneLine_number (number : Number) : OnOneLine (numberCharacters number) := by
  cases number with
  | integer value =>
    rw [numberCharacters, Literal.toList_integerText]
    split
    · exact .cons (by decide) (onOneLine_digitsOf _)
    · exact onOneLine_digitsOf _
  | float value =>
    rw [numberCharacters]
    split
    · rename_i fraction _
      split
      · exact .cons (by decide) (onOneLine_floatDigits fraction)
      · exact onOneLine_floatDigits fraction
    · simp [OnOneLine]

/-! ### Strings -/

theorem onOneLine_stringForm (character : Char) : OnOneLine (stringForm character) := by
  rcases stringForm_cases character with
    ⟨form, _, _, notControl⟩ | ⟨letter, isEscape, form⟩ | ⟨isControl, form⟩
  · rw [form]
    exact .cons notControl .nil
  · have each : ∀ pair ∈ escapes, ¬pair.2 < ' ' := by decide
    rw [form]
    exact .cons (by decide) (.cons (each _ isEscape) .nil)
  · have digits : ∀ point < 32,
        ¬(point / 16).digitChar < ' ' ∧ ¬(point % 16).digitChar < ' ' := by decide
    obtain ⟨high, low⟩ := digits character.toNat isControl
    rw [form]
    exact .cons (by decide) (.cons (by decide) (.cons (by decide) (.cons (by decide)
      (.cons high (.cons low .nil)))))

theorem onOneLine_string (text : String) : OnOneLine (stringCharacters text) := by
  refine .cons (by decide) (OnOneLine.append ?_ (.cons (by decide) .nil))
  intro character member
  obtain ⟨written, _, inForm⟩ := List.mem_flatMap.mp member
  exact onOneLine_stringForm written character inForm

/-! ### Documents -/

theorem onOneLine_enclosed {opening closing : Char} {parts : List (List Char)} (depth : Nat)
    (opens : ¬opening < ' ') (closes : ¬closing < ' ') (each : ∀ part ∈ parts, OnOneLine part) :
    OnOneLine (Layout.compact.enclosed depth opening closing parts) := by
  cases parts with
  | nil => exact .cons opens (.cons closes .nil)
  | cons part parts =>
    refine OnOneLine.append (.append (.cons opens ?_) .nil) (.cons closes .nil)
    exact OnOneLine.append .nil (.intercalate (.cons (by decide) .nil) each)

mutual

theorem onOneLine_characters : ∀ (document : Json) (depth : Nat),
    OnOneLine (document.characters .compact depth)
  | .null, _ | .boolean true, _ | .boolean false, _ => by
    rw [characters]
    simp [OnOneLine]
  | .number value, _ => by
    rw [characters]
    exact onOneLine_number value
  | .string value, _ => by
    rw [characters]
    exact onOneLine_string value
  | .list items, depth => by
    rw [characters, itemCharacters_eq]
    refine onOneLine_enclosed depth (by decide) (by decide) fun part member => ?_
    exact onOneLine_items items (depth + 1) part member
  | .map entries, depth => by
    rw [characters, entryCharacters_eq]
    refine onOneLine_enclosed depth (by decide) (by decide) fun part member => ?_
    exact onOneLine_entries entries (depth + 1) part member

theorem onOneLine_items : ∀ (items : List Json) (depth : Nat),
    ∀ part ∈ items.map (characters .compact depth), OnOneLine part
  | [], _ => fun _ member => absurd member List.not_mem_nil
  | item :: rest, depth => by
    rw [List.map_cons]
    exact List.forall_mem_cons.mpr ⟨onOneLine_characters item depth, onOneLine_items rest depth⟩

theorem onOneLine_entries : ∀ (entries : List (String × Json)) (depth : Nat),
    ∀ part ∈ entries.map (entryText .compact depth), OnOneLine part
  | [], _ => fun _ member => absurd member List.not_mem_nil
  | (key, value) :: rest, depth => by
    rw [List.map_cons]
    refine List.forall_mem_cons.mpr ⟨?_, onOneLine_entries rest depth⟩
    exact ((onOneLine_string key).append (.cons (by decide) .nil)).append
      (onOneLine_characters value depth)

end

/-- The compact text of a document is a single line. -/
theorem onOneLine_text (document : Json) : OnOneLine (document.text .compact).toList := by
  rw [text, String.toList_ofList]
  exact onOneLine_characters document 0

end Json

end Shorthand
