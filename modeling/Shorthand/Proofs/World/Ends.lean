/-
This file says when looking through values comes to an end, and what becomes of actions that wait
for it.

A value with nothing inside is looked through at once, at every depth. What lists and maps have
inside is a matter of their cells alone.
-/

import Shorthand.Proofs.Alike.Basic
import Shorthand.Value.Operate

namespace Shorthand

/-! ### Actions -/

/-- How an evaluation ends that comes to a value if it comes to an end. -/
def Outcome.ofOption {α : Type} : Option α → Outcome α
  | some result => .value result
  | none => .exhausted

namespace Action

variable {Closure α β : Type} {ends : Heap → Bool} {world : World Closure}

theorem readIf_value (isEnd : ends world.heap = true) (view : Heap → α) :
    readIf ends view world = (.value (view world.heap), world) := if_pos isEnd

theorem readIf_exhausted (noEnd : ends world.heap = false) (view : Heap → α) :
    readIf ends view world = (.exhausted, world) := by
  rw [readIf, noEnd]
  rfl

theorem readIf_bind (isEnd : ends world.heap = true) (view : Heap → α)
    (next : α → Action Closure β) :
    (readIf ends view >>= next) world = next (view world.heap) world :=
  bind_value (readIf_value isEnd view)

theorem readIf_eq_ofOption (ends : Heap → Bool) (view : Heap → α) (world : World Closure) :
    readIf ends view world =
      (.ofOption (if ends world.heap then some (view world.heap) else none), world) := by
  rw [readIf]
  cases ends world.heap <;> rfl

/-- Where nothing changes the world, the first end that does not come is the last of it. -/
theorem bind_ofOption {first : Action Closure α} {next : α → Action Closure β} {found : Option α}
    {further : α → Option β} (ends : first world = (.ofOption found, world))
    (goesOn : ∀ value, next value world = (.ofOption (further value), world)) :
    (first >>= next) world = (.ofOption (found.bind further), world) := by
  cases found with
  | some value => exact (bind_value ends).trans (goesOn value)
  | none => exact bind_exhausted ends next

/-- Either the end comes, or nothing that follows is done. -/
theorem readIf_bind_cases (ends : Heap → Bool) (view : Heap → α) (next : α → Action Closure β)
    (world : World Closure) :
    (readIf ends view >>= next) world = next (view world.heap) world ∨
      (readIf ends view >>= next) world = (.exhausted, world) := by
  cases isEnd : ends world.heap with
  | true => exact .inl (readIf_bind isEnd view next)
  | false => exact .inr (bind_exhausted (readIf_exhausted isEnd view) next)

end Action

/-! ### Values -/

namespace Value

variable {inside : Value → List Value} {heap : Heap} {value : Value}

theorem endsWithin_of_nil (nothing : inside value = []) (depth : Nat) :
    value.endsWithin inside depth = true := by
  cases depth <;> simp [endsWithin, nothing]

/-- A value that is no list has a plain text. -/
theorem hasText_leaf (notList : ∀ cell, value ≠ .list cell) : value.hasText heap = true := by
  refine endsWithin_of_nil ?_ _
  cases value with
  | list cell => exact absurd rfl (notList cell)
  | _ => rfl

theorem hasText_string (text : String) : (Value.string text).hasText heap = true :=
  hasText_leaf fun _ => Value.noConfusion

theorem hasText_number (number : Number) : (Value.number number).hasText heap = true :=
  hasText_leaf fun _ => Value.noConfusion

/-- Only a list has no plain text. -/
theorem isList_of_noText (noText : value.hasText heap = false) : ∃ cell, value = .list cell := by
  by_contra noList
  rw [hasText_leaf fun cell same => noList ⟨cell, same⟩] at noText
  exact Bool.noConfusion noText

/-- A list of values that are no lists has a plain text. -/
theorem hasText_list {cell : ListRef}
    (leaves : ∀ item ∈ (heap.readList cell).toList, ∀ other, item ≠ .list other) :
    (Value.list cell).hasText heap = true := by
  rw [hasText]
  cases size : heap.lists.size with
  | zero =>
    have nothing : heap.readList cell = #[] := by
      rw [Heap.readList, Array.eq_empty_of_size_eq_zero size]
      rfl
    exact endsWithin_of_nil (congrArg Array.toList nothing) 0
  | succ depth =>
    rw [endsWithin, List.all_eq_true]
    intro item member
    refine endsWithin_of_nil ?_ depth
    cases item with
    | list other => exact absurd rfl (leaves _ member other)
    | _ => rfl

/-- A value that is neither a list nor a map has a literal. -/
theorem hasLiteral_leaf (notList : ∀ cell, value ≠ .list cell)
    (notMap : ∀ cell, value ≠ .map cell) : value.hasLiteral heap = true := by
  refine endsWithin_of_nil ?_ _
  cases value with
  | list cell => exact absurd rfl (notList cell)
  | map cell => exact absurd rfl (notMap cell)
  | _ => rfl

/-- An operator on values that have plain texts comes to an end. -/
theorem unaryEnds_of_hasText (hasText : value.hasText heap = true) (operator : UnaryOperator) :
    value.unaryEnds heap operator = true := by
  cases operator with
  | negate | plus => exact hasText
  | not | typeOf => rfl

theorem binaryEnds_of_hasText {left right : Value} (leftText : left.hasText heap = true)
    (rightText : right.hasText heap = true) (operator : BinaryOperator) :
    left.binaryEnds heap operator right = true := by
  cases operator with
  | same | notSame | and | or => rfl
  | equal | notEqual =>
    simp only [binaryEnds, looselyEqualEnds, leftText, rightText, Bool.or_true, Bool.and_self]
  | _ => simp only [binaryEnds, leftText, rightText, Bool.and_self]

/-- Whether a value has a plain text is a matter of the lists in the heap. -/
theorem hasText_congr {other : Heap} (lists : other.lists = heap.lists) :
    hasText other = hasText heap := by
  have items : other.items = heap.items := by
    funext value
    cases value <;> simp only [Heap.items, Heap.readList, lists]
  funext value
  rw [hasText, hasText, items, lists]

/-- Whether a value has a literal is a matter of the lists and maps in the heap. -/
theorem hasLiteral_congr {other : Heap} (lists : other.lists = heap.lists)
    (maps : other.maps = heap.maps) : hasLiteral other = hasLiteral heap := by
  have parts : other.parts = heap.parts := by
    funext value
    cases value <;> simp only [Heap.parts, Heap.items, Heap.readList, Heap.readMap, lists, maps]
  funext value
  rw [hasLiteral, hasLiteral, parts, lists, maps]

end Value

end Shorthand
