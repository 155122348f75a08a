/-
This file reckons with positions in words of 64 bits.

A sum is taken only if it is a word, and an item is read only where there is one. So an operation
that is written with these has an answer only if it neither overflows nor reads outside of a list.
-/

import Mathlib
import Shorthand.Proofs.Number.Exact

namespace Shorthand

namespace Word

/-- The sum of two words, if it is a word. -/
def sum? (left right : Int64) : Option Int64 := wordOf? (left.toInt + right.toInt)

/-- How many items there are. -/
def length {α : Type} (items : Array α) : Int64 := Int64.ofNat items.size

/-- A position that counts from the end if it is negative. -/
def fromEnd? (length position : Int64) : Option Int64 :=
  if position < 0 then sum? length position else some position

/-- The item at a position, if there is one. -/
def item? {α : Type} (items : Array α) (position : Int64) : Option α :=
  if 0 ≤ position then items[position.toInt.toNat]? else none

/-- The items from a position up to another one, if they are in order and not beyond the end. -/
def range? {α : Type} (items : Array α) (first last : Int64) : Option (Array α) :=
  if 0 ≤ first ∧ first ≤ last ∧ last ≤ length items then
    some (items.extract first.toInt.toNat last.toInt.toNat)
  else none

variable {α : Type} {items : Array α} {left right position : Int64}

/-! ### Words as integers -/

theorem toInt_max : (max left right).toInt = max left.toInt right.toInt := by
  rw [show max left right = if left ≤ right then right else left from rfl, max_def]
  simp only [Int64.le_iff_toInt_le]
  split <;> rfl

theorem toInt_min : (min left right).toInt = min left.toInt right.toInt := by
  rw [show min left right = if left ≤ right then left else right from rfl, min_def]
  simp only [Int64.le_iff_toInt_le]
  split <;> rfl

theorem nonneg_iff : 0 ≤ position ↔ 0 ≤ position.toInt := Int64.le_iff_toInt_le

theorem neg_iff : position < 0 ↔ position.toInt < 0 := Int64.lt_iff_toInt_lt

theorem toInt_length (short : items.size ≤ Int64.maxValue.toInt) :
    (length items).toInt = items.size := by
  have most := Int64.toInt_maxValue
  exact Int64.toInt_ofNat_of_lt (by omega)

/-! ### Sums and items -/

/-- A sum between two words is a word. -/
theorem sum?_of_mem (left right low high : Int64) (least : low.toInt ≤ left.toInt + right.toInt)
    (most : left.toInt + right.toInt ≤ high.toInt) :
    ∃ sum, sum? left right = some sum ∧ sum.toInt = left.toInt + right.toInt := by
  have lowest := low.minValue_le_toInt
  have highest := high.toInt_le
  have isWord : sum? left right = some (Int64.ofInt (left.toInt + right.toInt)) :=
    if_pos ⟨lowest.trans least, most.trans highest⟩
  exact ⟨_, isWord, (wordOf?_eq_some.mp isWord).symm⟩

/-- Counting from the end never overflows. -/
theorem fromEnd?_eq {length : Int64} (isLength : 0 ≤ length.toInt) (position : Int64) :
    ∃ sum, fromEnd? length position = some sum ∧
      sum.toInt = if position.toInt < 0 then length.toInt + position.toInt else position.toInt := by
  rw [fromEnd?]
  simp only [neg_iff]
  by_cases negative : position.toInt < 0
  · rw [if_pos negative, if_pos negative]
    exact sum?_of_mem length position position length (by omega) (by omega)
  · rw [if_neg negative, if_neg negative]
    exact ⟨position, rfl, rfl⟩

theorem item?_eq_getD (default : α) (nonneg : 0 ≤ position.toInt)
    (bound : position.toInt.toNat < items.size) :
    item? items position = some (items.getD position.toInt.toNat default) := by
  rw [item?, if_pos (nonneg_iff.mpr nonneg), Array.getD_eq_getD_getElem?,
    Array.getElem?_eq_getElem bound, Option.getD_some]

end Word

end Shorthand
