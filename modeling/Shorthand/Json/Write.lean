/-
This file writes documents of JSON as text, in the usual way.

A document is written without blanks, or over several lines with the parts of lists and maps
indented. A floating-point number always has a point or an exponent, which tells it from an
integer.
-/

import Shorthand.Json.Library

namespace Shorthand

namespace Layout

/-- What stands between the parts of a document at a depth. -/
def lineBreak (layout : Layout) (depth : Nat) : List Char :=
  match layout with
  | .compact => []
  | .indented => '\n' :: List.replicate (2 * depth) ' '

/-- What stands between a key and its value. -/
def keyEnd (layout : Layout) : List Char :=
  match layout with
  | .compact => [':']
  | .indented => [':', ' ']

/-- The parts of a list or map at a depth between its brackets. -/
def enclosed (layout : Layout) (depth : Nat) (opening closing : Char) :
    List (List Char) → List Char
  | [] => [opening, closing]
  | parts =>
    opening :: layout.lineBreak (depth + 1) ++
      (',' :: layout.lineBreak (depth + 1)).intercalate parts ++
      layout.lineBreak depth ++ [closing]

end Layout

namespace Json

/-! ### Numbers and strings -/

/-- The digits of a floating-point number. Those of the usual sizes have a point, the others an
exponent. A half goes to the even digit. -/
def floatDigits (fraction : Binary) : List Char :=
  let decimal := fraction.shortest .toEven
  if -5 ≤ decimal.leadingExponent ∧ decimal.leadingExponent ≤ 15 then
    if decimal.exponent < 0 then decimal.positional else decimal.positional ++ ['.', '0']
  else decimal.scientific

/-- The characters of a number. -/
def numberCharacters : Number → List Char
  | .integer value => (integerText value.toInt).toList
  | .float value =>
    match Binary.ofFloat? value with
    | some fraction =>
      if fraction.negative then '-' :: floatDigits fraction else floatDigits fraction
    | none => "null".toList

/-- A character in a string: control characters have a letter or four hexadecimal digits after a
backslash. -/
def stringForm (character : Char) : List Char :=
  match character with
  | '\x08' => ['\\', 'b']
  | '\x0c' => ['\\', 'f']
  | _ =>
    if Text.plainForm character ≠ [character] then Text.plainForm character
    else if character < ' ' then
      '\\' :: 'u' :: '0' :: '0' :: (character.toNat / 16).digitChar ::
        [(character.toNat % 16).digitChar]
    else [character]

/-- The characters of a string with its quotation marks. -/
def stringCharacters (text : String) : List Char :=
  '"' :: text.toList.flatMap stringForm ++ ['"']

/-! ### Documents -/

mutual

/-- The characters of a document that stands at a depth. -/
def characters (layout : Layout) (depth : Nat) : Json → List Char
  | .null => "null".toList
  | .boolean value => if value then "true".toList else "false".toList
  | .number value => numberCharacters value
  | .string value => stringCharacters value
  | .list items => layout.enclosed depth '[' ']' (itemCharacters layout (depth + 1) [] items)
  | .map entries =>
    layout.enclosed depth '\x7b' '\x7d' (entryCharacters layout (depth + 1) [] entries)

/-- The characters of each item, after those before them in reverse. -/
def itemCharacters (layout : Layout) (depth : Nat) (before : List (List Char)) :
    List Json → List (List Char)
  | [] => before.reverse
  | item :: rest => itemCharacters layout depth (item.characters layout depth :: before) rest

/-- The characters of each entry, after those before them in reverse. -/
def entryCharacters (layout : Layout) (depth : Nat) (before : List (List Char)) :
    List (String × Json) → List (List Char)
  | [] => before.reverse
  | (key, value) :: rest =>
    entryCharacters layout depth
      ((stringCharacters key ++ layout.keyEnd ++ value.characters layout depth) :: before) rest

end

/-- The text of a document. -/
def text (layout : Layout) (document : Json) : String :=
  String.ofList (document.characters layout 0)

end Json

end Shorthand
