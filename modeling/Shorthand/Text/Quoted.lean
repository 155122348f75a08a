/-
This file puts texts between quotation marks.

Every character has a written form, most of them the character itself. Quotation marks and the
backslash always need another form, or the end of the text could not be told.
-/

import Shorthand.Text.Invisible

namespace Shorthand.Text

/-- A text between double quotation marks, with the written form of every character. -/
def quoted (form : Char → List Char) (text : String) : String :=
  String.ofList ('"' :: text.toList.flatMap form ++ ['"'])

/-- A backslash and a letter for line feed, carriage return and tab, and a backslash before
the quotation mark and the backslash. -/
def plainForm : Char → List Char
  | '"' => ['\\', '"']
  | '\\' => ['\\', '\\']
  | '\n' => ['\\', 'n']
  | '\r' => ['\\', 'r']
  | '\t' => ['\\', 't']
  | character => [character]

/-- Like `plainForm`, with a form of its own for the null character and the code point in
hexadecimal digits for all other characters that show no mark of their own. -/
def visibleForm (character : Char) : List Char :=
  if character = '\x00' then ['\\', '0']
  else if plainForm character ≠ [character] then plainForm character
  else if isInvisible character then
    '\\' :: 'u' :: '\x7b' :: Nat.toDigits 16 character.toNat ++ ['\x7d']
  else [character]

end Shorthand.Text
