/-
This file finds one text inside another, counting positions in characters.

Occurrences are looked for from left to right. Splitting cuts at every occurrence that does
not overlap the one before, so joining the parts with the separator gives the text back.
-/

namespace Shorthand.Text

/-- The position of the first occurrence of a pattern. The empty pattern occurs at once. -/
def positionOf? (pattern : List Char) : List Char → Option Nat
  | [] => if pattern.isEmpty then some 0 else none
  | character :: rest =>
    if pattern.isPrefixOf (character :: rest) then some 0
    else (positionOf? pattern rest).map (· + 1)

/-- The parts of a text between the occurrences of a separator. `part` holds the characters
of the current part in reverse, and `skipped` counts those of the last occurrence that are
still to be passed over. -/
def splitFrom (separator part : List Char) (skipped : Nat) : List Char → List (List Char)
  | [] => [part.reverse]
  | character :: rest =>
    match skipped with
    | left + 1 => splitFrom separator part left rest
    | 0 =>
      if separator.isPrefixOf (character :: rest) then
        part.reverse :: splitFrom separator [] (separator.length - 1) rest
      else splitFrom separator (character :: part) 0 rest

/-- The parts of a text between the occurrences of a separator. The empty separator stands
between any two characters, and no part is left of the first or right of the last. -/
def split (separator text : List Char) : List (List Char) :=
  if separator.isEmpty then text.map ([·]) else splitFrom separator [] 0 text

/-- The parts joined by a separator. -/
def join (separator : List Char) (parts : List (List Char)) : List Char :=
  separator.intercalate parts

end Shorthand.Text
