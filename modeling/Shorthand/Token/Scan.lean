/-
This file divides a source into tokens.

Outside of strings blanks separate tokens and mean nothing else. At every other place one
lexeme begins, found from the characters at hand: numbers and names extend as far as they can,
strings up to their closing quote, and of the symbols the longest one counts.
-/

import Shorthand.CompileError
import Shorthand.Text.Letter

namespace Shorthand

/-- Why no lexeme begins at a place, and how many characters after it the fault lies. -/
structure Fault where
  refusal : Refusal
  offset : Nat

namespace Lexeme

/-! ### Numbers -/

/-- Whether the characters begin with a digit. -/
def startsWithDigit : List Char → Bool
  | [] => false
  | first :: _ => first.isDigit

/-- The characters of a number at the head of a text: digits, a point before a digit unless a
point or an exponent came earlier, and the letter of an exponent with its sign. -/
def numberPart (pointAllowed : Bool) : List Char → List Char
  | [] => []
  | first :: rest =>
    if first.isDigit then first :: numberPart pointAllowed rest
    else if first = '.' ∧ pointAllowed ∧ startsWithDigit rest then
      first :: numberPart false rest
    else if first = 'e' ∨ first = 'E' then
      match rest with
      | [] => [first]
      | sign :: others =>
        if sign = '+' ∨ sign = '-' then first :: sign :: numberPart false others
        else first :: numberPart false (sign :: others)
    else []

/-- The number that begins a text and the count of its characters. A number of digits alone is
an integer if it has 64 bits. A letter right after the number is a fault. -/
def numberAt (characters : List Char) : Except Fault (Lexeme × Nat) :=
  let part := numberPart true characters
  let bad (text : List Char) : Except Fault (Lexeme × Nat) :=
    .error ⟨.badNumber (String.ofList text), 0⟩
  match (characters.drop part.length).head?.filter Text.isNameStart with
  | some letter => bad (part ++ [letter])
  | none =>
    let word? := if part.all Char.isDigit then wordOf? (Nat.ofDigitChars 10 part 0) else none
    match word? with
    | some word => .ok (.integer word, part.length)
    | none =>
      match Numeral.read? part with
      | some numeral => .ok (.float numeral.toFloat, part.length)
      | none => bad part

/-! ### Strings -/

/-- The character that a letter after a backslash stands for. -/
def escaped? : Char → Option Char
  | 'n' => some '\n'
  | 't' => some '\t'
  | 'r' => some '\r'
  | '0' => some '\x00'
  | '\\' => some '\\'
  | '\x27' => some '\x27'
  | '"' => some '"'
  | _ => none

/-- The character with a code point in hexadecimal digits, which may have a plus sign before
them. Surrogates are no characters. -/
def codePoint? (digits : List Char) : Option Char :=
  let unsigned :=
    match digits with
    | '+' :: rest => rest
    | _ => digits
  (hexValue? unsigned).bind fun point => if point.isValidChar then some (Char.ofNat point) else none

/-- The characters of a string after a number of characters of its source, up to the closing
quote, and the length of the source with both quotes. A text that ends first is a fault at
the opening quote. A bad escape is a fault at the letter after its backslash, unless the text
ends there. -/
def stringBody (quote : Char) (offset : Nat) : List Char → Except Fault (List Char × Nat)
  | [] => .error ⟨.unterminatedString, 0⟩
  | first :: rest =>
    if first = quote then .ok ([], offset + 1)
    else if first ≠ '\\' then
      (stringBody quote (offset + 1) rest).map fun (body, length) => (first :: body, length)
    else
      match rest with
      | [] => .error ⟨.unterminatedString, 0⟩
      | 'u' :: d₁ :: d₂ :: d₃ :: d₄ :: others =>
        match codePoint? [d₁, d₂, d₃, d₄] with
        | some character =>
          (stringBody quote (offset + 6) others).map fun (body, length) =>
            (character :: body, length)
        | none => .error ⟨.badEscape 'u', offset + 1⟩
      | 'u' :: digits =>
        match codePoint? digits with
        | some _ => .error ⟨.unterminatedString, 0⟩
        | none => .error ⟨.badEscape 'u', offset + 1⟩
      | letter :: others =>
        match escaped? letter with
        | some character =>
          (stringBody quote (offset + 2) others).map fun (body, length) =>
            (character :: body, length)
        | none => .error ⟨.badEscape letter, offset + 1⟩

/-! ### Symbols -/

/-- The symbol that begins a text and the count of its characters. -/
def symbolAt? : List Char → Option (Symbol × Nat)
  | '=' :: '=' :: '=' :: _ => some (.operator .same, 3)
  | '!' :: '=' :: '=' :: _ => some (.operator .notSame, 3)
  | '=' :: '=' :: _ => some (.operator .equal, 2)
  | '!' :: '=' :: _ => some (.operator .notEqual, 2)
  | '<' :: '=' :: _ => some (.operator .lessEqual, 2)
  | '>' :: '=' :: _ => some (.operator .greaterEqual, 2)
  | '+' :: '=' :: _ => some (.assign (some .add), 2)
  | '-' :: '=' :: _ => some (.assign (some .subtract), 2)
  | '*' :: '=' :: _ => some (.assign (some .multiply), 2)
  | '/' :: '=' :: _ => some (.assign (some .divide), 2)
  | '-' :: '>' :: _ => some (.arrow, 2)
  | '&' :: '&' :: _ => some (.operator .and, 2)
  | '|' :: '|' :: _ => some (.operator .or, 2)
  | '(' :: _ => some (.opening .round, 1)
  | ')' :: _ => some (.closing .round, 1)
  | '[' :: _ => some (.opening .square, 1)
  | ']' :: _ => some (.closing .square, 1)
  | '\x7b' :: _ => some (.opening .curly, 1)
  | '\x7d' :: _ => some (.closing .curly, 1)
  | ',' :: _ => some (.comma, 1)
  | '.' :: _ => some (.dot, 1)
  | ';' :: _ => some (.semicolon, 1)
  | ':' :: _ => some (.colon, 1)
  | '?' :: _ => some (.question, 1)
  | '%' :: _ => some (.operator .remainder, 1)
  | '+' :: _ => some (.operator .add, 1)
  | '-' :: _ => some (.operator .subtract, 1)
  | '*' :: _ => some (.operator .multiply, 1)
  | '/' :: _ => some (.operator .divide, 1)
  | '<' :: _ => some (.operator .less, 1)
  | '>' :: _ => some (.operator .greater, 1)
  | '=' :: _ => some (.assign none, 1)
  | '!' :: _ => some (.bang, 1)
  | _ => none

/-! ### All lexemes -/

/-- The lexeme that begins a text and the count of its characters, at least one. -/
def head (first : Char) (rest : List Char) : Except Fault (Lexeme × Nat) :=
  if first.isDigit ∨ first = '.' ∧ startsWithDigit rest then numberAt (first :: rest)
  else if Text.isNameStart first then
    let name := (first :: rest).takeWhile Text.isNamePart
    .ok (.name (String.ofList name), name.length)
  else if first = '"' ∨ first = '\x27' then
    (stringBody first 1 rest).map fun (body, length) => (.string (String.ofList body), length)
  else
    match symbolAt? (first :: rest) with
    | some (sign, length) => .ok (.symbol sign, length)
    | none => .error ⟨.badCharacter first, 0⟩

end Lexeme

namespace Token

/-- The tokens of a text that begins at a column. `skipped` counts the characters at its head
that belong to the token before. A fault comes with its column. -/
def scanFrom (skipped column : Nat) : List Char → Except (Refusal × Nat) (List Token)
  | [] => .ok []
  | first :: rest =>
    match skipped with
    | left + 1 => scanFrom left (column + 1) rest
    | 0 =>
      if Text.isBlank first then scanFrom 0 (column + 1) rest
      else
        match Lexeme.head first rest with
        | .error fault => .error (fault.refusal, column + fault.offset)
        | .ok (lexeme, length) =>
          (scanFrom (length - 1) (column + 1) rest).map (⟨lexeme, column⟩ :: ·)

/-- The tokens of a source. -/
def scan (code : String) : Except CompileError (List Token) :=
  match scanFrom 0 0 code.toList with
  | .ok tokens => .ok tokens
  | .error (refusal, column) => .error ⟨refusal, column, code⟩

end Token

end Shorthand
