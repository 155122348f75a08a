/-
This file reads text as documents of JSON.

The text is divided into marks: brackets, commas, colons, and values without parts. A reader
takes one mark after the other and keeps the lists and maps that are open around its place,
the innermost first. At most 127 of them may be open.
-/

import Shorthand.Json.Numeral
import Shorthand.Json.Write

namespace Shorthand.Json

/-! ### Marks -/

/-- What a text of a document is made of. -/
inductive Mark where
  | openList
  | closeList
  | openMap
  | closeMap
  | comma
  | colon
  | leaf (value : Json)

/-- The character that a letter after a backslash stands for. -/
def escaped? : Char → Option Char
  | '"' => some '"'
  | '\\' => some '\\'
  | '/' => some '/'
  | 'b' => some '\x08'
  | 'f' => some '\x0c'
  | 'n' => some '\n'
  | 'r' => some '\r'
  | 't' => some '\t'
  | _ => none

/-- Whether a number of 16 bits is the first half of a pair that stands for one character. -/
def isFirstHalf (unit : Nat) : Bool := 0xD800 ≤ unit && unit < 0xDC00

/-- Whether a number of 16 bits is the second half of a pair. -/
def isSecondHalf (unit : Nat) : Bool := 0xDC00 ≤ unit && unit < 0xE000

/-- The character that a pair of halves stands for. -/
def joined (first second : Nat) : Char :=
  Char.ofNat (0x10000 + 0x400 * (first - 0xD800) + (second - 0xDC00))

/-- The string that ends at the first closing quotation mark of a text, with the characters
before it in reverse, and the count of all its characters with those before. -/
def stringFrom (before : List Char) (count : Nat) : List Char → Option (String × Nat)
  | [] => none
  | '"' :: _ => some (String.ofList before.reverse, count + 1)
  | '\\' :: 'u' :: d₁ :: d₂ :: d₃ :: d₄ :: rest =>
    match hexValue? [d₁, d₂, d₃, d₄] with
    | none => none
    | some unit =>
      if isSecondHalf unit then none
      else if isFirstHalf unit then
        match rest with
        | '\\' :: 'u' :: d₅ :: d₆ :: d₇ :: d₈ :: rest =>
          match (hexValue? [d₅, d₆, d₇, d₈]).filter isSecondHalf with
          | some second => stringFrom (joined unit second :: before) (count + 12) rest
          | none => none
        | _ => none
      else stringFrom (Char.ofNat unit :: before) (count + 6) rest
  | '\\' :: letter :: rest =>
    match escaped? letter with
    | some character => stringFrom (character :: before) (count + 2) rest
    | none => none
  | first :: rest =>
    if first = '\\' ∨ first < ' ' then none else stringFrom (first :: before) (count + 1) rest

/-- The mark that begins a text and the count of its characters, at least one. -/
def markAt? : List Char → Option (Mark × Nat)
  | '[' :: _ => some (.openList, 1)
  | ']' :: _ => some (.closeList, 1)
  | '\x7b' :: _ => some (.openMap, 1)
  | '\x7d' :: _ => some (.closeMap, 1)
  | ',' :: _ => some (.comma, 1)
  | ':' :: _ => some (.colon, 1)
  | 'n' :: 'u' :: 'l' :: 'l' :: _ => some (.leaf .null, 4)
  | 't' :: 'r' :: 'u' :: 'e' :: _ => some (.leaf (.boolean true), 4)
  | 'f' :: 'a' :: 'l' :: 's' :: 'e' :: _ => some (.leaf (.boolean false), 5)
  | '"' :: rest => (stringFrom [] 1 rest).map fun (text, count) => (.leaf (.string text), count)
  | characters => do
    let (written, count) ← writtenAt? characters
    let number ← written.number?
    some (.leaf (.number number), count)

/-! ### The reader -/

/-- A list or map that is open. -/
inductive Container where
  /-- A list with its items in reverse. -/
  | list (items : List Json)
  /-- A map with its entries and the key of the value that is read now. -/
  | map (entries : Table Json) (key : String)

/-- The place of a reader within the containers that are open. -/
inductive Place where
  /-- In front of a value. -/
  | value
  /-- After an opening square bracket. -/
  | listStart
  /-- After an opening curly bracket. -/
  | mapStart
  /-- In front of a key. -/
  | key (entries : Table Json)
  /-- After a key. -/
  | keyEnd (entries : Table Json) (key : String)
  /-- After a value. -/
  | valueEnd (value : Json)

/-- A reader of a document. -/
structure Reader where
  outer : List Container
  place : Place

/-- How many lists and maps may be open. -/
def greatestDepth : Nat := 127

namespace Reader

/-- The reader in front of a document. -/
def start : Reader := ⟨[], .value⟩

/-- The reader at a place in a further container, if one may still be opened. -/
def enter (outer : List Container) (place : Place) : Option Reader :=
  if outer.length < greatestDepth then some ⟨outer, place⟩ else none

/-- Takes the mark that begins a value. -/
def takeValue (outer : List Container) : Mark → Option Reader
  | .openList => enter outer .listStart
  | .openMap => enter outer .mapStart
  | .leaf value => some ⟨outer, .valueEnd value⟩
  | _ => none

/-- Takes a key. -/
def takeKey (outer : List Container) (entries : Table Json) : Mark → Option Reader
  | .leaf (.string key) => some ⟨outer, .keyEnd entries key⟩
  | _ => none

/-- Takes the mark after a value in a container. -/
def takeEnd (value : Json) : List Container → Mark → Option Reader
  | .list items :: outer, .comma => some ⟨.list (value :: items) :: outer, .value⟩
  | .list items :: outer, .closeList => some ⟨outer, .valueEnd (.list (value :: items).reverse)⟩
  | .map entries key :: outer, .comma => some ⟨outer, .key (entries.insert key value)⟩
  | .map entries key :: outer, .closeMap =>
    some ⟨outer, .valueEnd (.map (entries.insert key value).entries)⟩
  | _, _ => none

/-- Takes a mark, if it may stand at the place. -/
def take (reader : Reader) (mark : Mark) : Option Reader :=
  match reader.place, mark with
  | .value, _ => takeValue reader.outer mark
  | .listStart, .closeList => some ⟨reader.outer, .valueEnd (.list [])⟩
  | .listStart, _ => takeValue (.list [] :: reader.outer) mark
  | .mapStart, .closeMap => some ⟨reader.outer, .valueEnd (.map [])⟩
  | .mapStart, _ => takeKey reader.outer Table.empty mark
  | .key entries, _ => takeKey reader.outer entries mark
  | .keyEnd entries key, .colon => some ⟨.map entries key :: reader.outer, .value⟩
  | .keyEnd _ _, _ => none
  | .valueEnd value, _ => takeEnd value reader.outer mark

/-- The document that was read, if it has ended. -/
def document? (reader : Reader) : Option Json :=
  match reader with
  | ⟨[], .valueEnd value⟩ => some value
  | _ => none

end Reader

/-- Whether a character may stand between marks. -/
def isSpace (character : Char) : Bool :=
  character == ' ' || character == '\n' || character == '\t' || character == '\r'

/-- Reads a text to its end. `skipped` counts the characters at its head that belong to the
mark before. -/
def readFrom (skipped : Nat) (reader : Reader) : List Char → Option Reader
  | [] => some reader
  | first :: rest =>
    match skipped with
    | left + 1 => readFrom left reader rest
    | 0 =>
      if isSpace first then readFrom 0 reader rest
      else
        match markAt? (first :: rest) with
        | some (mark, count) =>
          match reader.take mark with
          | some reader => readFrom (count - 1) reader rest
          | none => none
        | none => none

/-- The document that a text is. -/
def read? (text : String) : Option Json := (readFrom 0 Reader.start text.toList).bind (·.document?)

/-- The library that programs run with. -/
def Library.usual : Library where
  write layout document := .ok (document.text layout)
  read text :=
    match read? text with
    | some document => .ok document
    | none => .error "malformed document"

end Shorthand.Json
