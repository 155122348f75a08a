/-
This file holds sets of characters as ranges of code points.

A property of characters, such as being a letter, is a table of closed ranges in ascending
order. Membership walks the table and stops at the first range that begins after the
character, so a character near the start of the code space is decided after a few steps
however long the table is.
-/

namespace Shorthand.Text

/-- A set of characters: closed ranges of code points, ascending and apart. -/
structure CharacterSet where
  ranges : List (Nat × Nat)

namespace CharacterSet

/-- Whether a code point lies in one of the ranges. The walk stops as soon as a range begins
after the point, which is right because the ranges ascend. -/
def covers : List (Nat × Nat) → Nat → Bool
  | [], _ => false
  | (first, last) :: rest, point =>
    if point < first then false
    else if point ≤ last then true
    else covers rest point

/-- Whether a character belongs to the set. -/
def contains (set : CharacterSet) (character : Char) : Bool :=
  covers set.ranges character.toNat

end CharacterSet

end Shorthand.Text
