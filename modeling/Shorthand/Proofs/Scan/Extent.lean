/-
This file says how far a lexeme extends: it is found again from its own characters alone.

What a number, a name, a string or a symbol is found from is a text at the head of the source. The
character after it has been looked at only to see that it does not go on, and neither a blank nor
the end makes anything go on. So each reader has one lemma: the characters it takes are at the head
of the text, their count is the one it gives, and in front of blanks it finds the same.
-/

import Mathlib
import Shorthand.Proofs.Literal.Scan

namespace Shorthand

/-- A text of blanks only. -/
def Blank (characters : List Char) : Prop := ∀ character ∈ characters, Text.isBlank character = true

theorem Blank.nil : Blank [] := fun _ member => nomatch member

theorem isNamePart_of_isBlank {character : Char} (isBlank : Text.isBlank character = true) :
    Text.isNamePart character = false := by
  have noNumerals : ∀ point ∈ Literal.blankPoints,
      Text.CharacterSet.covers Text.numerals.ranges point = false := by decide +kernel
  have noNumeral : Text.isNumeral character = false :=
    noNumerals _ (Literal.mem_blankPoints isBlank)
  have noStart : Text.isNameStart character = false := by
    rw [← Bool.not_eq_true]
    intro starts
    exact absurd (Literal.notBlank_of_isNameStart starts) (by rw [isBlank]; decide)
  rw [Text.isNameStart, Bool.or_eq_false_iff, Bool.or_eq_false_iff] at noStart
  rw [Text.isNamePart, noNumeral, noStart.1.1, noStart.1.2, noStart.2]
  rfl

theorem isDigit_of_isBlank {character : Char} (isBlank : Text.isBlank character = true) :
    character.isDigit = false := by
  rw [← Bool.not_eq_true]
  intro isDigit
  exact absurd (Literal.notBlank_of_isDigit isDigit) (by rw [isBlank]; decide)

/-- A blank is none of the characters that begin a token or that a token goes on with. -/
theorem ne_of_isBlank {character other : Char} (isBlank : Text.isBlank character = true)
    (notBlank : Text.isBlank other = false) : character ≠ other := by
  rintro rfl
  exact absurd isBlank (by rw [notBlank]; decide)

namespace Lexeme

/-! ### Numbers -/

theorem startsWithDigit_blank {blanks : List Char} (areBlank : Blank blanks) :
    startsWithDigit blanks = false := by
  cases blanks with
  | nil => rfl
  | cons first blanks => exact isDigit_of_isBlank (areBlank first List.mem_cons_self)

/-- A text begins with a digit if it does so when the rest of it is replaced by blanks. -/
theorem startsWithDigit_of_own {own others blanks : List Char} (areBlank : Blank blanks)
    (starts : startsWithDigit (own ++ blanks) = true) : startsWithDigit (own ++ others) = true := by
  cases own with
  | nil => exact absurd starts (by rw [List.nil_append, startsWithDigit_blank areBlank]; decide)
  | cons first own => exact starts

/-! What a number goes on with, one equation for each case. -/

theorem numberPart_digit {first : Char} (isDigit : first.isDigit = true) (pointAllowed : Bool)
    (rest : List Char) :
    numberPart pointAllowed (first :: rest) = first :: numberPart pointAllowed rest := by
  rw [numberPart.eq_def]
  exact if_pos isDigit

theorem numberPart_point {rest : List Char} (digit : startsWithDigit rest = true) :
    numberPart true ('.' :: rest) = '.' :: numberPart false rest := by
  rw [numberPart.eq_def]
  exact (if_neg (by decide)).trans (if_pos ⟨rfl, rfl, digit⟩)

theorem numberPart_exponent {letter : Char} (isExponent : letter = 'e' ∨ letter = 'E')
    (pointAllowed : Bool) (rest : List Char) :
    numberPart pointAllowed (letter :: rest) =
      match rest with
      | [] => [letter]
      | sign :: others =>
        if sign = '+' ∨ sign = '-' then letter :: sign :: numberPart false others
        else letter :: numberPart false (sign :: others) := by
  have noDigit : ¬letter.isDigit = true := by
    rcases isExponent with rfl | rfl <;> decide
  have noPoint : letter ≠ '.' := by
    rcases isExponent with rfl | rfl <;> decide
  rw [numberPart.eq_def]
  exact (if_neg noDigit).trans ((if_neg fun point => noPoint point.1).trans (if_pos isExponent))

/-- The letter of an exponent without a sign. -/
theorem numberPart_unsigned {letter : Char} (isExponent : letter = 'e' ∨ letter = 'E')
    (pointAllowed : Bool) {rest : List Char}
    (noSign : ∀ sign ∈ rest.head?, ¬(sign = '+' ∨ sign = '-')) :
    numberPart pointAllowed (letter :: rest) = letter :: numberPart false rest := by
  rw [numberPart_exponent isExponent]
  cases rest with
  | nil => rfl
  | cons sign others => exact if_neg (noSign sign rfl)

theorem numberPart_blank {blanks : List Char} (areBlank : Blank blanks) (pointAllowed : Bool) :
    numberPart pointAllowed blanks = [] := by
  cases blanks with
  | nil => rfl
  | cons first blanks =>
    have isBlank := areBlank first List.mem_cons_self
    have noExponent : ¬(first = 'e' ∨ first = 'E') :=
      not_or.mpr ⟨ne_of_isBlank isBlank (by decide), ne_of_isBlank isBlank (by decide)⟩
    rw [numberPart.eq_def]
    simp only [isDigit_of_isBlank isBlank, Bool.false_eq_true, if_false, noExponent,
      ne_of_isBlank isBlank (show Text.isBlank '.' = false by decide), false_and]

/-- The characters of a number are at the head of the text. -/
theorem numberPart_isPrefix (pointAllowed : Bool) (characters : List Char) :
    numberPart pointAllowed characters <+: characters := by
  fun_induction numberPart pointAllowed characters with
  | case1 => exact List.nil_prefix
  | case2 _ first _ _ inductionHypothesis
  | case3 _ first _ _ _ inductionHypothesis
  | case6 _ first _ _ _ _ _ _ inductionHypothesis =>
    exact List.prefix_cons_inj first |>.mpr inductionHypothesis
  | case4 => exact List.prefix_rfl
  | case5 _ first _ _ sign _ _ _ inductionHypothesis =>
    exact List.prefix_cons_inj first |>.mpr (List.prefix_cons_inj sign |>.mpr inductionHypothesis)
  | case7 => exact List.nil_prefix

theorem startsWithDigit_numberPart {pointAllowed : Bool} {characters blanks : List Char}
    (starts : startsWithDigit characters = true) :
    startsWithDigit (numberPart pointAllowed characters ++ blanks) = true := by
  cases characters with
  | nil => cases starts
  | cons first rest =>
    rw [numberPart_digit starts]
    exact starts

/-- In front of blanks the characters of a number are a whole number again. -/
theorem numberPart_numberPart {blanks : List Char} (areBlank : Blank blanks) (pointAllowed : Bool)
    (characters : List Char) :
    numberPart pointAllowed (numberPart pointAllowed characters ++ blanks) =
      numberPart pointAllowed characters := by
  have noSignInBlanks : ∀ sign ∈ blanks.head?, ¬(sign = '+' ∨ sign = '-') := by
    intro sign isHead
    have isBlank := areBlank sign (List.mem_of_mem_head? isHead)
    exact not_or.mpr ⟨ne_of_isBlank isBlank (by decide), ne_of_isBlank isBlank (by decide)⟩
  fun_induction numberPart pointAllowed characters with
  | case1 => exact numberPart_blank areBlank _
  | case2 _ first rest isDigit inductionHypothesis =>
    rw [List.cons_append, numberPart_digit isDigit, inductionHypothesis]
  | case3 _ first rest _ point inductionHypothesis =>
    obtain ⟨rfl, rfl, digit⟩ := point
    rw [List.cons_append, numberPart_point (startsWithDigit_numberPart digit), inductionHypothesis]
  | case4 _ first _ isExponent =>
    rw [List.singleton_append, numberPart_unsigned isExponent _ noSignInBlanks,
      numberPart_blank areBlank]
  | case5 _ first _ isExponent sign others isSign _ inductionHypothesis =>
    rw [List.cons_append, List.cons_append, numberPart_exponent isExponent]
    exact (if_pos isSign).trans (by rw [inductionHypothesis])
  | case6 _ first _ isExponent sign others noSign _ inductionHypothesis =>
    have unsigned : ∀ next ∈ (numberPart false (sign :: others) ++ blanks).head?,
        ¬(next = '+' ∨ next = '-') := by
      intro next isHead
      cases part : numberPart false (sign :: others) with
      | nil =>
        rw [part] at isHead
        exact noSignInBlanks next isHead
      | cons head taken =>
        have isPrefix := numberPart_isPrefix false (sign :: others)
        rw [part] at isHead isPrefix
        cases isHead
        rw [(List.cons_prefix_cons.mp isPrefix).1]
        exact noSign
    rw [List.cons_append, numberPart_unsigned isExponent _ unsigned, inductionHypothesis]
  | case7 => exact numberPart_blank areBlank _

theorem noLetter_blank {blanks : List Char} (areBlank : Blank blanks) :
    blanks.head?.filter Text.isNameStart = none := by
  rw [Option.filter_eq_none_iff]
  intro letter isHead starts
  have isBlank := areBlank letter (List.mem_of_mem_head? isHead)
  exact absurd (Literal.notBlank_of_isNameStart starts) (by rw [isBlank]; decide)

/-- A number is found from its own characters. -/
theorem numberAt_extent {characters : List Char} {lexeme : Lexeme} {length : Nat}
    (found : numberAt characters = .ok (lexeme, length)) :
    length = (numberPart true characters).length ∧ ∀ blanks, Blank blanks →
      numberAt (numberPart true characters ++ blanks) = .ok (lexeme, length) := by
  have noLetter : ((characters.drop (numberPart true characters).length).head?.filter
      Text.isNameStart) = none := by
    unfold numberAt at found
    dsimp only at found
    split at found
    · cases found
    · assumption
  refine ⟨?_, fun blanks areBlank => ?_⟩
  · unfold numberAt at found
    simp only [noLetter] at found
    split at found
    · cases found
      rfl
    · split at found
      · cases found
        rfl
      · cases found
  · rw [← found]
    unfold numberAt
    simp only [numberPart_numberPart areBlank, List.drop_left, noLetter_blank areBlank, noLetter]

/-! ### Strings -/

/-- The rest of a string is found from characters at the head of the text, whatever follows. -/
def StringExtent (quote : Char) (offset : Nat) (rest body : List Char) (length : Nat) : Prop :=
  ∃ own others, rest = own ++ others ∧ length = offset + own.length ∧
    ∀ more, stringBody quote offset (own ++ more) = .ok (body, length)

/-- One character of a string, from the characters that it is written with. -/
theorem StringExtent.step {quote character : Char} {offset length : Nat} (written : List Char)
    {rest body : List Char}
    (inductionHypothesis : ∀ {length body},
      stringBody quote (offset + written.length) rest = .ok (body, length) →
        StringExtent quote (offset + written.length) rest body length)
    (reads : ∀ {rest body length},
      stringBody quote (offset + written.length) rest = .ok (body, length) →
        stringBody quote offset (written ++ rest) = .ok (character :: body, length))
    (found : (stringBody quote (offset + written.length) rest).map
      (fun (body, length) => (character :: body, length)) = .ok (body, length)) :
    StringExtent quote offset (written ++ rest) body length := by
  cases inner : stringBody quote (offset + written.length) rest with
  | error fault =>
    rw [inner] at found
    cases found
  | ok result =>
    rw [inner] at found
    cases found
    obtain ⟨own, others, same, isLength, readsOwn⟩ := inductionHypothesis inner
    refine ⟨written ++ own, others, ?_, ?_, fun more => ?_⟩
    · rw [same, List.append_assoc]
    · rw [isLength, List.length_append, Nat.add_assoc]
    · rw [List.append_assoc]
      exact reads (readsOwn more)

/-- A string ends at its closing quote. -/
theorem stringBody_extent {quote : Char} {offset length : Nat} {rest body : List Char}
    (found : stringBody quote offset rest = .ok (body, length)) :
    StringExtent quote offset rest body length := by
  fun_induction stringBody quote offset rest generalizing body length with
  | case1 | case4 | case6 | case7 | case8 | case10 => cases found
  | case2 offset rest =>
    cases found
    refine ⟨[quote], rest, rfl, rfl, fun more => ?_⟩
    rw [List.singleton_append, stringBody.eq_def]
    exact if_pos rfl
  | case3 offset first rest notQuote notBackslash inductionHypothesis =>
    exact StringExtent.step [first] inductionHypothesis
      (Literal.stringBody_plain notQuote notBackslash) found
  | case5 offset first notQuote isBackslash d₁ d₂ d₃ d₄ rest character isPoint
      inductionHypothesis =>
    cases not_not.mp isBackslash
    exact StringExtent.step ['\\', 'u', d₁, d₂, d₃, d₄] inductionHypothesis
      (Literal.stringBody_codePoint notQuote isPoint) found
  | case9 offset first notQuote isBackslash letter rest _ notU character isEscape
      inductionHypothesis =>
    cases not_not.mp isBackslash
    exact StringExtent.step ['\\', letter] inductionHypothesis
      (Literal.stringBody_escaped notQuote isEscape notU) found

/-! ### Symbols -/

/-- The symbols that another one extends, with their text. No blank extends them. -/
theorem symbolAt?_blank (text : List Char) {sign : Symbol}
    (isText : (text, sign) ∈ [(['+'], Symbol.operator .add), (['-'], .operator .subtract),
      (['*'], .operator .multiply), (['/'], .operator .divide), (['<'], .operator .less),
      (['>'], .operator .greater), (['='], .assign none), (['!'], .bang),
      (['=', '='], .operator .equal), (['!', '='], .operator .notEqual)])
    {blanks : List Char} (areBlank : Blank blanks) :
    symbolAt? (text ++ blanks) = some (sign, text.length) := by
  simp only [List.mem_cons, Prod.mk.injEq, List.not_mem_nil, or_false] at isText
  cases blanks with
  | nil =>
    rcases isText with ⟨rfl, rfl⟩ | ⟨rfl, rfl⟩ | ⟨rfl, rfl⟩ | ⟨rfl, rfl⟩ | ⟨rfl, rfl⟩ | ⟨rfl, rfl⟩ |
      ⟨rfl, rfl⟩ | ⟨rfl, rfl⟩ | ⟨rfl, rfl⟩ | ⟨rfl, rfl⟩ <;> rfl
  | cons next blanks =>
    have isBlank := areBlank next List.mem_cons_self
    have notEqual := ne_of_isBlank isBlank (show Text.isBlank '=' = false by decide)
    have notGreater := ne_of_isBlank isBlank (show Text.isBlank '>' = false by decide)
    rcases isText with ⟨rfl, rfl⟩ | ⟨rfl, rfl⟩ | ⟨rfl, rfl⟩ | ⟨rfl, rfl⟩ | ⟨rfl, rfl⟩ | ⟨rfl, rfl⟩ |
      ⟨rfl, rfl⟩ | ⟨rfl, rfl⟩ | ⟨rfl, rfl⟩ | ⟨rfl, rfl⟩ <;>
      simp only [List.cons_append, List.nil_append] <;> rw [symbolAt?] <;> grind

/-- A symbol is found from its own characters. -/
theorem symbolAt?_extent {first : Char} {rest : List Char} {sign : Symbol} {length : Nat}
    (found : symbolAt? (first :: rest) = some (sign, length)) :
    ∃ own others, rest = own ++ others ∧ length = own.length + 1 ∧ ∀ blanks, Blank blanks →
      symbolAt? (first :: (own ++ blanks)) = some (sign, length) := by
  unfold symbolAt? at found
  split at found
  case h_1 same | h_2 same =>
    cases same
    cases found
    exact ⟨['=', '='], _, rfl, rfl, fun _ _ => rfl⟩
  case h_3 same | h_4 same =>
    cases same
    cases found
    exact ⟨['='], _, rfl, rfl, fun _ areBlank => symbolAt?_blank [_, '='] (by decide) areBlank⟩
  case h_5 same | h_6 same | h_7 same | h_8 same | h_9 same | h_10 same =>
    cases same
    cases found
    exact ⟨['='], _, rfl, rfl, fun _ _ => rfl⟩
  case h_11 same | h_12 same | h_13 same =>
    cases same
    cases found
    exact ⟨[_], _, rfl, rfl, fun _ _ => rfl⟩
  case h_14 same | h_15 same | h_16 same | h_17 same | h_18 same | h_19 same | h_20 same
  | h_21 same | h_22 same | h_23 same | h_24 same | h_25 same =>
    cases same
    cases found
    exact ⟨[], _, rfl, rfl, fun _ _ => rfl⟩
  case h_26 same | h_27 same | h_28 same | h_29 same | h_30 same | h_31 same | h_32 same
  | h_33 same =>
    cases same
    cases found
    exact ⟨[], _, rfl, rfl, fun _ areBlank => symbolAt?_blank [_] (by decide) areBlank⟩
  case h_34 => cases found

/-! ### All lexemes -/

/-- A number goes on with characters at the head of the text that follows its first one, and still
begins like a number when those are all that is left. -/
theorem numberPart_begins {first : Char} {rest : List Char}
    (isNumber : first.isDigit = true ∨ first = '.' ∧ startsWithDigit rest = true) :
    ∃ own others, rest = own ++ others ∧ numberPart true (first :: rest) = first :: own ∧
      ∀ blanks, first.isDigit = true ∨ first = '.' ∧ startsWithDigit (own ++ blanks) = true := by
  rcases isNumber with isDigit | ⟨rfl, digit⟩
  · obtain ⟨others, same⟩ := numberPart_isPrefix true rest
    exact ⟨_, others, same.symm, numberPart_digit isDigit true rest, fun _ => .inl isDigit⟩
  · obtain ⟨others, same⟩ := numberPart_isPrefix false rest
    exact ⟨_, others, same.symm, numberPart_point digit,
      fun _ => .inr ⟨rfl, startsWithDigit_numberPart digit⟩⟩

/-- A lexeme is found from characters at the head of the text, at least one, and is found from them
again in front of blanks and at the end. -/
def IsOwn (first : Char) (rest : List Char) (lexeme : Lexeme) (length : Nat) : Prop :=
  ∃ own others, rest = own ++ others ∧ length = own.length + 1 ∧
    ∀ blanks, Blank blanks → head first (own ++ blanks) = .ok (lexeme, length)

section

variable {first : Char} {rest : List Char} {lexeme : Lexeme} {length : Nat}

theorem IsOwn.number (isNumber : first.isDigit = true ∨ first = '.' ∧ startsWithDigit rest = true)
    (found : numberAt (first :: rest) = .ok (lexeme, length)) :
    IsOwn first rest lexeme length := by
  obtain ⟨own, others, same, part, begins⟩ := numberPart_begins isNumber
  obtain ⟨isLength, again⟩ := numberAt_extent found
  rw [part] at isLength again
  refine ⟨own, others, same, isLength, fun blanks areBlank => ?_⟩
  rw [head, if_pos (begins blanks)]
  exact again blanks areBlank

theorem IsOwn.name (starts : Text.isNameStart first = true) :
    IsOwn first rest (.name (String.ofList (first :: rest.takeWhile Text.isNamePart)))
      (first :: rest.takeWhile Text.isNamePart).length := by
  refine ⟨rest.takeWhile Text.isNamePart, rest.dropWhile Text.isNamePart,
    List.takeWhile_append_dropWhile.symm, rfl, fun blanks areBlank => ?_⟩
  have areParts : (first :: rest.takeWhile Text.isNamePart).all Text.isNamePart = true := by
    rw [List.all_cons, Literal.isNamePart_of_isNameStart starts, List.all_takeWhile]
    rfl
  have taken := Literal.takeWhile_isNamePart areParts fun next isHead =>
    isNamePart_of_isBlank (areBlank next (List.mem_of_mem_head? isHead))
  rw [head, if_neg (Literal.noNumber_of_isNameStart starts _), if_pos starts, ← List.cons_append]
  simp only [taken]

theorem IsOwn.string {body : List Char} (noName : ¬Text.isNameStart first = true)
    (isQuote : first = '"' ∨ first = '\x27')
    (found : stringBody first 1 rest = .ok (body, length)) :
    IsOwn first rest (.string (String.ofList body)) length := by
  obtain ⟨own, others, same, isLength, again⟩ := stringBody_extent found
  have noNumber : ∀ characters, ¬(first.isDigit = true ∨
      first = '.' ∧ startsWithDigit characters = true) := by
    rcases isQuote with rfl | rfl <;> simp
  refine ⟨own, others, same, by rw [isLength, Nat.add_comm], fun blanks _ => ?_⟩
  rw [head, if_neg (noNumber _), if_neg noName, if_pos isQuote, again blanks]
  rfl

theorem IsOwn.symbol {sign : Symbol}
    (noNumber : ¬(first.isDigit = true ∨ first = '.' ∧ startsWithDigit rest = true))
    (noName : ¬Text.isNameStart first = true) (noQuote : ¬(first = '"' ∨ first = '\x27'))
    (found : symbolAt? (first :: rest) = some (sign, length)) :
    IsOwn first rest (.symbol sign) length := by
  obtain ⟨own, others, rfl, isLength, again⟩ := symbolAt?_extent found
  refine ⟨own, others, rfl, isLength, fun blanks areBlank => ?_⟩
  have noNumberAgain : ¬(first.isDigit = true ∨
      first = '.' ∧ startsWithDigit (own ++ blanks) = true) := fun isNumber =>
    noNumber (isNumber.imp_right fun ⟨isPoint, digit⟩ =>
      ⟨isPoint, startsWithDigit_of_own areBlank digit⟩)
  rw [head, if_neg noNumberAgain, if_neg noName, if_neg noQuote, again blanks areBlank]

/-- Every lexeme is found from its own characters. -/
theorem head_isOwn (found : head first rest = .ok (lexeme, length)) :
    IsOwn first rest lexeme length := by
  unfold head at found
  split at found
  case isTrue isNumber => exact .number isNumber found
  case isFalse noNumber =>
    split at found
    case isTrue starts =>
      rw [List.takeWhile_cons_of_pos (Literal.isNamePart_of_isNameStart starts)] at found
      cases found
      exact .name starts
    case isFalse noName =>
      split at found
      case isTrue isQuote =>
        cases body : stringBody first 1 rest with
        | error fault =>
          rw [body] at found
          cases found
        | ok result =>
          rw [body] at found
          cases found
          exact .string noName isQuote body
      case isFalse noQuote =>
        split at found
        case h_1 sign symbolLength symbol =>
          cases found
          exact .symbol noNumber noName noQuote symbol
        case h_2 => cases found

end

end Lexeme

end Shorthand
