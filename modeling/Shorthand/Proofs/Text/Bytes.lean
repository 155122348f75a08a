/-
This file shows that a text may be looked for in the bytes of another one.

A character is encoded by one to four bytes, of which the first differs from all that come later
in a character. So the bytes of a text that is not empty are found only where a character begins,
and what is found first among the bytes is found first among the characters. Counting the
characters in front of it never meets a part of a character.
-/

import Mathlib
import Shorthand.Proofs.Text.Occurrence

namespace Shorthand.Text

/-! ### Texts as bytes -/

/-- The bytes of a text, one character after the other. -/
def bytes (text : List Char) : List UInt8 := text.flatMap String.utf8EncodeChar

/-- The offset of the first occurrence of some bytes. -/
def byteOffset? (pattern : List UInt8) : List UInt8 → Option ℕ
  | [] => if pattern.isEmpty then some 0 else none
  | byte :: rest =>
    if pattern.isPrefixOf (byte :: rest) then some 0
    else (byteOffset? pattern rest).map (· + 1)

/-- How many characters are in front of an offset, unless it is inside of a character or beyond
the end. -/
def charactersBefore? : List Char → ℕ → Option ℕ
  | [], offset => if offset = 0 then some 0 else none
  | character :: rest, offset =>
    if offset = 0 then some 0
    else if (String.utf8EncodeChar character).length ≤ offset then
      (charactersBefore? rest (offset - (String.utf8EncodeChar character).length)).map (· + 1)
    else none

/-- The offset at which the character at a position begins. -/
def offsetOf (text : List Char) (position : ℕ) : ℕ := (bytes (text.take position)).length

variable {pattern text : List Char} {character other : Char} {first : UInt8}
  {found rest skipped : List UInt8}

theorem bytes_cons : bytes (character :: text) = String.utf8EncodeChar character ++ bytes text :=
  List.flatMap_cons

theorem offsetOf_succ (position : ℕ) : offsetOf (character :: text) (position + 1) =
    offsetOf text position + (String.utf8EncodeChar character).length := by
  rw [offsetOf, offsetOf, List.take_succ_cons, bytes_cons, List.length_append, Nat.add_comm]

theorem bytes_eq_nil (empty : bytes text = []) : text = [] := by
  cases text with
  | nil => rfl
  | cons character text =>
    rw [bytes_cons, List.append_eq_nil_iff] at empty
    exact absurd empty.1 String.utf8EncodeChar_ne_nil

/-! ### The first byte of a character -/

theorem encodeChar_eq_cons (character : Char) : ∃ first later,
    String.utf8EncodeChar character = first :: later ∧ first.IsUTF8FirstByte ∧
      ∀ byte ∈ later, ¬byte.IsUTF8FirstByte := by
  cases encoded : String.utf8EncodeChar character with
  | nil => exact absurd encoded String.utf8EncodeChar_ne_nil
  | cons first later =>
    have isFirst (index : ℕ) (bound : index < (first :: later).length) :
        (first :: later)[index].IsUTF8FirstByte ↔ index = 0 := by
      simp only [← encoded]
      exact UInt8.isUTF8FirstByte_getElem_utf8EncodeChar
    refine ⟨first, later, rfl, (isFirst 0 (Nat.zero_lt_succ _)).mpr rfl, fun byte member => ?_⟩
    obtain ⟨index, bound, rfl⟩ := List.getElem_of_mem member
    exact fun begins =>
      absurd ((isFirst (index + 1) (Nat.succ_lt_succ bound)).mp begins) (Nat.succ_ne_zero _)

/-- Bytes that begin with two characters begin with the same one twice. -/
theorem eq_of_encodeChar_append
    (same : String.utf8EncodeChar character ++ found = String.utf8EncodeChar other ++ rest) :
    character = other := by
  have decoded := congrArg (fun bytes : List UInt8 => bytes.toByteArray.utf8DecodeChar? 0) same
  simp only [List.toByteArray_append, ByteArray.utf8DecodeChar?_utf8EncodeChar_append] at decoded
  exact Option.some.inj decoded

/-- A text begins with another one if its bytes begin with those of the other. -/
theorem bytes_prefix_iff : bytes pattern <+: bytes text ↔ pattern <+: text := by
  constructor
  · intro begins
    induction pattern generalizing text with
    | nil => exact List.nil_prefix
    | cons character pattern inductionHypothesis =>
      obtain ⟨more, same⟩ := begins
      rw [bytes_cons, List.append_assoc] at same
      cases text with
      | nil => exact absurd (List.append_eq_nil_iff.mp same).1 String.utf8EncodeChar_ne_nil
      | cons other text =>
        rw [bytes_cons] at same
        obtain rfl := eq_of_encodeChar_append same
        exact List.cons_prefix_cons.mpr
          ⟨rfl, inductionHypothesis ⟨more, List.append_cancel_left same⟩⟩
  · rintro ⟨more, rfl⟩
    rw [bytes, bytes, List.flatMap_append]
    exact List.prefix_append _ _

/-! ### The search among bytes -/

theorem byteOffset?_cons_differs {pattern : List UInt8} {byte : UInt8}
    (differs : ¬pattern <+: byte :: rest) :
    byteOffset? pattern (byte :: rest) = (byteOffset? pattern rest).map (· + 1) :=
  if_neg fun occurs => differs (List.isPrefixOf_iff_prefix.mp occurs)

/-- Bytes at which no character begins are passed over. -/
theorem byteOffset?_skip (begins : first.IsUTF8FirstByte)
    (later : ∀ byte ∈ skipped, ¬byte.IsUTF8FirstByte) :
    byteOffset? (first :: found) (skipped ++ rest) =
      (byteOffset? (first :: found) rest).map (· + skipped.length) := by
  induction skipped with
  | nil =>
    rw [List.nil_append, List.length_nil]
    exact Option.map_id'.symm
  | cons byte skipped inductionHypothesis =>
    obtain ⟨isLater, later⟩ := List.forall_mem_cons.mp later
    have differs : ¬first :: found <+: byte :: (skipped ++ rest) := by
      intro occurs
      rw [(List.cons_prefix_cons.mp occurs).1] at begins
      exact isLater begins
    rw [List.cons_append, byteOffset?_cons_differs differs, inductionHypothesis later,
      Option.map_map, List.length_cons]
    rfl

/-- A text that is not empty is found among the bytes where it is found among the characters. -/
theorem byteOffset?_of_ne_nil (some_ : pattern ≠ []) :
    byteOffset? (bytes pattern) (bytes text) = (positionOf? pattern text).map (offsetOf text) := by
  have notEmpty : bytes pattern ≠ [] := fun empty => some_ (bytes_eq_nil empty)
  obtain ⟨first, found, isPattern, begins⟩ :
      ∃ first found, bytes pattern = first :: found ∧ first.IsUTF8FirstByte := by
    obtain ⟨character, others, rfl⟩ := List.exists_cons_of_ne_nil some_
    obtain ⟨first, later, encoded, begins, -⟩ := encodeChar_eq_cons character
    exact ⟨first, later ++ bytes others, by rw [bytes_cons, encoded, List.cons_append], begins⟩
  induction text with
  | nil =>
    have absent : positionOf? pattern [] = none := if_neg (by rwa [List.isEmpty_iff])
    rw [absent]
    exact if_neg (by rwa [List.isEmpty_iff])
  | cons character text inductionHypothesis =>
    obtain ⟨head, later, encoded, -, others⟩ := encodeChar_eq_cons character
    have whole : bytes (character :: text) = head :: (later ++ bytes text) := by
      rw [bytes_cons, encoded, List.cons_append]
    by_cases occurs : pattern <+: character :: text
    · have isFirst : byteOffset? (bytes pattern) (bytes (character :: text)) = some 0 := by
        rw [whole]
        refine if_pos (List.isPrefixOf_iff_prefix.mpr ?_)
        rw [← whole]
        exact bytes_prefix_iff.mpr occurs
      rw [isFirst, positionOf?_cons_occurs occurs]
      rfl
    · have differs : ¬bytes pattern <+: head :: (later ++ bytes text) := by
        rwa [← whole, bytes_prefix_iff]
      rw [whole, byteOffset?_cons_differs differs, positionOf?_cons_differs occurs,
        isPattern, byteOffset?_skip begins others, ← isPattern, inductionHypothesis,
        Option.map_map, Option.map_map, Option.map_map]
      refine Option.map_congr fun position _ => ?_
      rw [Function.comp_apply, Function.comp_apply, Function.comp_apply, offsetOf_succ, encoded,
        List.length_cons, Nat.add_assoc]

/-- A text is found among the bytes where it is found among the characters. -/
theorem byteOffset?_bytes :
    byteOffset? (bytes pattern) (bytes text) = (positionOf? pattern text).map (offsetOf text) := by
  rcases eq_or_ne pattern [] with rfl | some_
  · have atStart : positionOf? [] text = some 0 := by cases text <;> rfl
    have alsoBytes (found : List UInt8) : byteOffset? [] found = some 0 := by cases found <;> rfl
    rw [atStart]
    exact alsoBytes _
  · exact byteOffset?_of_ne_nil some_

/-- In front of the offset of a position there are as many characters as the position says. -/
theorem charactersBefore?_offsetOf {position : ℕ} (inside : position ≤ text.length) :
    charactersBefore? text (offsetOf text position) = some position := by
  induction text generalizing position with
  | nil =>
    obtain rfl := Nat.le_zero.mp inside
    rfl
  | cons character text inductionHypothesis =>
    cases position with
    | zero => exact if_pos rfl
    | succ position =>
      have positive := List.length_pos_iff.mpr (@String.utf8EncodeChar_ne_nil character)
      rw [charactersBefore?, offsetOf_succ, if_neg (by omega), if_pos (Nat.le_add_left _ _),
        Nat.add_sub_cancel, inductionHypothesis (Nat.le_of_succ_le_succ inside)]
      rfl

end Shorthand.Text
