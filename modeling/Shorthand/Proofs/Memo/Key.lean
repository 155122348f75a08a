/-
This file shows that a memo tells lists of integers and booleans apart.

The text of an integer has only digits and a sign in it, and that of a boolean only letters. None
of them is empty and none has a comma in it, so a key can be split into the texts that it was
joined of, and each of these belongs to one integer or boolean. No cell is read for that: the key
is the same in every heap.
-/

import Mathlib
import Shorthand.Combine
import Shorthand.Proofs.Method.Names
import Shorthand.Proofs.World.Ends

namespace Shorthand

/-! ### Joined texts -/

/-- Texts without the mark between them and with no empty one are known when they are joined. -/
theorem intercalate_injective {α : Type} [DecidableEq α] {mark : α} {left right : List (List α)}
    (leftParts : ∀ part ∈ left, part ≠ [] ∧ mark ∉ part)
    (rightParts : ∀ part ∈ right, part ≠ [] ∧ mark ∉ part)
    (same : [mark].intercalate left = [mark].intercalate right) : left = right := by
  have split {parts : List (List α)} (areParts : ∀ part ∈ parts, part ≠ [] ∧ mark ∉ part) :
      parts = (([mark].intercalate parts).splitOn mark).filter (· ≠ []) := by
    by_cases empty : parts = []
    · subst empty
      simp [List.splitOn_nil]
    · rw [List.splitOn_intercalate mark (fun part member => (areParts part member).2) empty,
        List.filter_eq_self.mpr]
      exact fun part member => decide_eq_true (areParts part member).1
  rw [split leftParts, same, ← split rightParts]

/-- Lists with the same images are the same if equal images belong to equal items. -/
theorem eq_of_map_eq {α β : Type} {view other : α → β} {left right : List α}
    (injective : ∀ first ∈ left, ∀ second ∈ right, view first = other second → first = second)
    (same : left.map view = right.map other) : left = right := by
  induction left generalizing right with
  | nil => exact (List.map_eq_nil_iff.mp same.symm).symm
  | cons first rest inductionHypothesis =>
    cases right with
    | nil => cases same
    | cons second others =>
      obtain ⟨sameFirst, sameRest⟩ := List.cons.inj same
      rw [injective first List.mem_cons_self second List.mem_cons_self sameFirst,
        inductionHypothesis (fun item member next isNext => injective item
          (List.mem_cons_of_mem _ member) next (List.mem_cons_of_mem _ isNext)) sameRest]

/-! ### Texts of integers and booleans -/

/-- Values that are integers and booleans. -/
inductive Value.IsDiscrete : Value → Prop where
  | boolean (truth : Bool) : IsDiscrete (.boolean truth)
  | integer (word : Int64) : IsDiscrete (.number (.integer word))

theorem isDigit_of_mem_integerText {value : ℤ} {character : Char}
    (member : character ∈ (integerText value).toList) :
    character = '-' ∨ character.isDigit = true := by
  have digits {size : ℕ} (isDigit : character ∈ Nat.toDigits 10 size) :
      character.isDigit = true := Nat.isDigit_of_mem_toDigits (by decide) (by decide) isDigit
  rw [Literal.toList_integerText] at member
  split at member
  · exact (List.mem_cons.mp member).imp_right digits
  · exact .inr (digits member)

namespace Value

variable {value other : Value}

/-- The text of a boolean. -/
theorem itemText_boolean (heap : Heap) (truth : Bool) :
    (boolean truth).itemText heap = if truth then "true" else "false" := by
  rw [itemText, rawText_leaf fun _ => Value.noConfusion]
  rfl

theorem itemText_integer (heap : Heap) (word : Int64) :
    (number (.integer word)).itemText heap = integerText word.toInt := by
  rw [itemText, rawText_leaf fun _ => Value.noConfusion]
  rfl

/-- The text is not empty and has no comma in it. -/
theorem IsDiscrete.isPart (discrete : value.IsDiscrete) (heap : Heap) :
    (value.itemText heap).toList ≠ [] ∧ ',' ∉ (value.itemText heap).toList := by
  cases discrete with
  | boolean truth =>
    rw [itemText_boolean]
    cases truth <;> decide
  | integer word =>
    rw [itemText_integer]
    refine ⟨?_, fun comma => ?_⟩
    · rw [Literal.toList_integerText]
      split
      · exact List.cons_ne_nil _ _
      · exact Nat.toDigits_ne_nil
    · rcases isDigit_of_mem_integerText comma with isSign | isDigit
      · exact absurd isSign (by decide)
      · exact absurd isDigit (by decide)

/-- The text of a boolean has a letter in it, as that of no integer does. -/
theorem integerText_ne_boolean (word : ℤ) (truth : Bool) :
    integerText word ≠ if truth then "true" else "false" := by
  intro same
  have letter : 'e' ∈ (integerText word).toList := by
    rw [same]
    cases truth <;> decide
  rcases isDigit_of_mem_integerText letter with isSign | isDigit
  · exact absurd isSign (by decide)
  · exact absurd isDigit (by decide)

/-- The text belongs to one integer or boolean. -/
theorem IsDiscrete.eq_of_itemText (discrete : value.IsDiscrete) (discreteToo : other.IsDiscrete)
    {heap heapToo : Heap} (same : value.itemText heap = other.itemText heapToo) :
    value = other := by
  cases discrete with
  | boolean truth =>
    rw [itemText_boolean] at same
    cases discreteToo with
    | boolean truthToo =>
      rw [itemText_boolean] at same
      cases truth <;> cases truthToo <;> first | rfl | exact absurd same (by decide)
    | integer word =>
      rw [itemText_integer] at same
      exact absurd same.symm (integerText_ne_boolean _ truth)
  | integer word =>
    rw [itemText_integer] at same
    cases discreteToo with
    | boolean truth =>
      rw [itemText_boolean] at same
      exact absurd same (integerText_ne_boolean _ truth)
    | integer wordToo =>
      rw [itemText_integer] at same
      rw [Int64.toInt_inj.mp (Int.repr_inj.mp same)]

theorem IsDiscrete.itemText_eq (discrete : value.IsDiscrete) (heap heapToo : Heap) :
    value.itemText heap = value.itemText heapToo := by
  cases discrete with
  | boolean truth => rw [itemText_boolean, itemText_boolean]
  | integer word => rw [itemText_integer, itemText_integer]

end Value

/-! ### Keys -/

namespace Combine

/-- Whether all arguments are integers and booleans. -/
def AllDiscrete (arguments : List Value) : Prop := ∀ argument ∈ arguments, argument.IsDiscrete

/-- Integers and booleans have texts. -/
theorem AllDiscrete.haveTexts {arguments : List Value} (discrete : AllDiscrete arguments)
    (heap : Heap) : haveTexts heap arguments = true := by
  rw [Combine.haveTexts, List.all_eq_true]
  intro argument member
  cases discrete argument member with
  | boolean truth => exact Value.hasText_leaf fun _ => Value.noConfusion
  | integer word => exact Value.hasText_number _

theorem AllDiscrete.memoKey_eq {arguments : List Value} (discrete : AllDiscrete arguments)
    (heap heapToo : Heap) : memoKey heap arguments = memoKey heapToo arguments :=
  congrArg _ (List.map_congr_left fun argument member =>
    (discrete argument member).itemText_eq heap heapToo)

/-- Different lists of integers and booleans have different keys. -/
theorem AllDiscrete.eq_of_memoKey {left right : List Value} (isLeft : AllDiscrete left)
    (isRight : AllDiscrete right) {heap heapToo : Heap}
    (same : memoKey heap left = memoKey heapToo right) : left = right := by
  have parts {arguments : List Value} (discrete : AllDiscrete arguments) (heap : Heap) :
      ∀ part ∈ (arguments.map (·.itemText heap)).map String.toList, part ≠ [] ∧ ',' ∉ part := by
    intro part member
    obtain ⟨text, isText, rfl⟩ := List.mem_map.mp member
    obtain ⟨argument, isArgument, rfl⟩ := List.mem_map.mp isText
    exact (discrete argument isArgument).isPart heap
  have characters := congrArg String.toList same
  rw [memoKey, memoKey, String.toList_intercalate, String.toList_intercalate] at characters
  have texts := intercalate_injective (parts isLeft heap) (parts isRight heapToo) characters
  rw [List.map_map, List.map_map] at texts
  refine eq_of_map_eq (fun first isFirst second isSecond sameText => ?_) texts
  exact (isLeft first isFirst).eq_of_itemText (isRight second isSecond)
    (String.toList_inj.mp sameText)

end Combine

end Shorthand
