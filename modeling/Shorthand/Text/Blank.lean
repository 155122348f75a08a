/-
This file holds the blank characters, those with the Unicode property White_Space, and the
removal of blanks around a text.
-/

import Shorthand.Text.CharacterSet

namespace Shorthand.Text

/-- The characters with the property White_Space. -/
def blanks : CharacterSet where
  ranges := [
    (0x9, 0xD), (0x20, 0x20), (0x85, 0x85), (0xA0, 0xA0), (0x1680, 0x1680), (0x2000, 0x200A),
    (0x2028, 0x2029), (0x202F, 0x202F), (0x205F, 0x205F), (0x3000, 0x3000)]

/-- Whether a character is blank. -/
def isBlank (character : Char) : Bool := blanks.contains character

/-- The text without its leading blanks. -/
def dropBlanks (text : List Char) : List Char := text.dropWhile isBlank

/-- The text without the blanks at both ends. -/
def trim (text : List Char) : List Char := (dropBlanks (dropBlanks text).reverse).reverse

/-- Whether the text holds nothing but blanks. -/
def isBlankText (text : List Char) : Bool := text.all isBlank

end Shorthand.Text
