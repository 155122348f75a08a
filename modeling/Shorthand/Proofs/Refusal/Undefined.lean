/-
This file shows where a name that nothing provides is reported.

Every name that a function leaves to its surroundings stands in a token of its source. Its column is
found by looking for the characters of the name, so it is that of the token unless the characters
stand earlier in the source as part of something else.
-/

import Mathlib
import Shorthand.Proofs.Free.Parameters
import Shorthand.Proofs.Scan.Begin

namespace Shorthand

/-! ### The first occurrence of a text -/

/-- A text is found where it stands or before that. -/
theorem Text.positionOf?_of_prefix {pattern text : List Char} {place : Nat}
    (stands : pattern <+: text.drop place) :
    ∃ position ≤ place, positionOf? pattern text = some position ∧
      pattern <+: text.drop position := by
  induction text generalizing place with
  | nil =>
    rw [List.drop_nil, List.prefix_nil] at stands
    subst stands
    exact ⟨0, Nat.zero_le _, rfl, List.nil_prefix⟩
  | cons character rest inductionHypothesis =>
    rw [positionOf?]
    split
    · rename_i isPrefix
      exact ⟨0, Nat.zero_le _, rfl, List.isPrefixOf_iff_prefix.mp isPrefix⟩
    · rename_i noPrefix
      cases place with
      | zero => exact absurd (List.isPrefixOf_iff_prefix.mpr stands) noPrefix
      | succ place =>
        obtain ⟨position, atMost, found, isPrefix⟩ := inductionHypothesis stands
        exact ⟨position + 1, Nat.succ_le_succ atMost, by rw [found]; rfl, isPrefix⟩

/-! ### Names and the tokens they stand in -/

/-- The body of a function is laid out in tokens, among which names of parameters may have been
added. -/
def Definition.IsLaidOut (definition : Definition) (tokens : List Token) : Prop :=
  ∃ read, LaidOut [.ofBody definition.body] read ∧
    ∀ token ∈ read, token ∈ tokens ∨ ∃ name ∈ definition.parameters, token.lexeme.Names name

theorem Definition.IsLaidOut.exists_names {definition : Definition} {tokens : List Token}
    (isLaidOut : definition.IsLaidOut tokens) {use : Use} (member : use ∈ definition.uses) :
    ∃ token ∈ tokens, token.lexeme.Names use.name := by
  obtain ⟨read, laidOut, origin⟩ := isLaidOut
  obtain ⟨noParameter, place, free, _⟩ := Definition.mem_uses.mp member
  obtain ⟨token, isRead, names⟩ := laidOut.exists_names ⟨0, _, place, rfl, rfl, free⟩
  rcases origin token isRead with isToken | ⟨name, isParameter, namesParameter⟩
  · exact ⟨token, isToken, names⟩
  · rw [← namesParameter.text, names.text] at isParameter
    exact absurd isParameter noParameter

/-- Functions around a body add no tokens. -/
theorem LaidOut.curried {body : Body} {tokens : List Token}
    (laidOut : LaidOut [.ofBody body] tokens) (label : String) (parameters : List (List String)) :
    LaidOut [.ofBody (Shorthand.curried label body parameters).body] tokens := by
  induction parameters with
  | nil => exact laidOut
  | cons first rest inductionHypothesis =>
    cases rest with
    | nil => exact laidOut
    | cons second rest => exact .single rfl (.single rfl inductionHypothesis)

variable {code : String} {tokens : List Token}

theorem Definition.isLaidOut_of_body {definition : Definition} {statements : Bool}
    (parsed : Body.parse code statements tokens = .ok definition.body) :
    definition.IsLaidOut tokens :=
  ⟨tokens, Body.laidOut_of_parse parsed, fun _ member => .inl member⟩

/-- A function whose first parameter stands for a missing operand. -/
theorem Definition.isLaidOut_of_hole {definition : Definition} {expr : Expr} {read : List Token}
    (parsed : Expr.parse code read = .ok expr) (isBody : definition.body = .expression expr)
    (isParameter : holeName 0 ∈ definition.parameters)
    (origin : ∀ token ∈ read, token ∈ tokens ∨ token.lexeme = .hole 0) :
    definition.IsLaidOut tokens := by
  refine ⟨read, ?_, fun token member => (origin token member).imp_right fun isHole => ?_⟩
  · rw [isBody]
    exact .single rfl (Expr.phrase_of_parse parsed).laidOut
  · exact ⟨holeName 0, isParameter, by rw [isHole]; rfl⟩

theorem Definition.isLaidOut_of_arrow {definition : Definition}
    (parsed : parseArrow code tokens = .ok definition) : definition.IsLaidOut tokens := by
  have splits := splitAtArrows_splits 0 [] tokens
  rw [parseArrow] at parsed
  obtain ⟨parameters, _, rest⟩ := except_bind_eq_ok.mp parsed
  split at rest
  · cases rest
  · obtain ⟨body, isBody, same⟩ := except_bind_eq_ok.mp rest
    cases same
    exact ⟨_, (Body.laidOut_of_parse isBody).curried code parameters,
      fun _ member => .inl (splits.last_subset member)⟩

/-- The function of a form is laid out in the tokens of its source. -/
theorem Form.isLaidOut {statementsAllowed : Bool} {form : Form}
    (read : Form.ofTokens code statementsAllowed tokens = .ok form) (label : String) :
    (form.definition label).IsLaidOut tokens := by
  have reading := Form.ofTokens_readAs code statementsAllowed tokens
  rw [read] at reading
  generalize same : (.ok form : Except CompileError Form) = result at reading
  cases reading with
  | combinator operator =>
    cases same
    refine ⟨[Token.hole 0 0, Token.hole 1 0], ?_, ?_⟩
    · exact .single rfl (.single rfl (.name rfl rfl (.name rfl rfl .nil)))
    · rintro token (_ | ⟨_, _ | ⟨_, ⟨⟩⟩⟩)
      · exact .inr ⟨holeName 0, List.mem_cons_self, rfl⟩
      · exact .inr ⟨holeName 1, List.mem_cons_of_mem _ List.mem_cons_self, rfl⟩
  | leftMissing | memberAccess =>
    obtain ⟨expr, parsed, rfl⟩ := except_map_eq_ok.mp same.symm
    refine Definition.isLaidOut_of_hole parsed rfl List.mem_cons_self fun token member => ?_
    exact (List.mem_cons.mp member).symm.imp_right fun isHole => by rw [isHole]; rfl
  | rightMissing =>
    obtain ⟨expr, parsed, rfl⟩ := except_map_eq_ok.mp same.symm
    refine Definition.isLaidOut_of_hole parsed rfl List.mem_cons_self fun token member => ?_
    refine (List.mem_append.mp member).imp_right fun isHole => ?_
    rw [List.mem_singleton.mp isHole]
    rfl
  | arrow =>
    obtain ⟨definition, parsed, rfl⟩ := except_map_eq_ok.mp same.symm
    have isLaidOut := Definition.isLaidOut_of_arrow parsed
    exact isLaidOut
  | bare =>
    obtain ⟨definition, parsed, rfl⟩ := except_map_eq_ok.mp same.symm
    rw [Definition.parseBare_eq] at parsed
    obtain ⟨body, isBody, rfl⟩ := except_map_eq_ok.mp parsed
    exact Definition.isLaidOut_of_body isBody

/-! ### Where a name is reported -/

/-- A function that a source is read as, as a shorthand or as a program. -/
inductive Definition.IsReadFrom (code : String) : Definition → Prop where
  | shorthand {statementsAllowed : Bool} {form : Form}
      (read : Form.parse code statementsAllowed = .ok form) : IsReadFrom code (form.definition code)
  | program {definition : Definition} (read : parseProgram code = .ok definition) :
      IsReadFrom code definition

theorem Definition.IsReadFrom.isLaidOut {definition : Definition}
    (isRead : definition.IsReadFrom code) :
    definition.label = code ∧ ∃ tokens, Token.scan code = .ok tokens ∧
      definition.IsLaidOut tokens := by
  cases isRead with
  | @shorthand _ form read =>
    obtain ⟨tokens, scanned, read⟩ := except_bind_eq_ok.mp read
    refine ⟨?_, tokens, (Token.scanSome_eq_ok.mp scanned).1, Form.isLaidOut read code⟩
    cases form <;> rfl
  | program read =>
    obtain ⟨tokens, scanned, _⟩ := except_bind_eq_ok.mp read
    rw [parseProgram_eq scanned] at read
    obtain ⟨body, parsed, rfl⟩ := except_map_eq_ok.mp read
    exact ⟨rfl, tokens, (Token.scanSome_eq_ok.mp scanned).1, isLaidOut_of_body parsed⟩

/-- The snippet of an error begins with the characters that stand at its column, as far as it
goes. -/
theorem CompileError.prefix_snippet {error : CompileError} {text : List Char}
    (stands : text <+: error.code.toList.drop error.column) :
    text.take 20 <+: error.snippet.toList := by
  rw [snippet, String.toList_ofList]
  exact stands.take 20

/-- A function that is refused when it is made has a name that nothing provides, which stands in a
token of its source. The error points at such a token, if the characters of the name stand nowhere
in front of all of them, and its snippet begins with the name, cut off after twenty characters. -/
theorem undefined_name_stands {code : String} {definition : Definition}
    (isRead : definition.IsReadFrom code) {world after : World SlotClosure} {error : CompileError}
    (refused : definition.compile world = (.failure (.compile error), after)) :
    ∃ name tokens, error.refusal = .undefinedName name ∧ error.code = code ∧
      Token.scan code = .ok tokens ∧ (∃ column, ⟨.name name, column⟩ ∈ tokens) ∧
      ((∀ column, name.toList <+: code.toList.drop column →
        ∃ earlier ≤ column, ⟨.name name, earlier⟩ ∈ tokens) → ⟨.name name, error.column⟩ ∈ tokens) ∧
      name.toList.take 20 <+: error.snippet.toList := by
  obtain ⟨isLabel, tokens, scanned, isLaidOut⟩ := isRead.isLaidOut
  rcases definition.compile_cases world with
    ⟨_, function, further, made⟩ | ⟨use, member, _, isRefused⟩
  · rw [made] at refused
    cases refused
  rw [isRefused, isLabel] at refused
  cases refused
  -- A token with the name has its characters at its column.
  have stands : ∀ {token : Token}, token ∈ tokens → token.lexeme.Names use.name →
      token.lexeme = .name use.name ∧ use.name.toList <+: code.toList.drop token.column := by
    intro token isToken names
    obtain ⟨length, _, first, rest, ahead, _, found⟩ := Token.looksAt_of_scan scanned isToken
    rw [ahead]
    exact Lexeme.head_names found names
  obtain ⟨token, isToken, names⟩ := isLaidOut.exists_names member
  obtain ⟨isName, isPrefix⟩ := stands isToken names
  obtain ⟨position, _, found, isFirst⟩ := Text.positionOf?_of_prefix isPrefix
  have column_eq : (undefinedName code use.name).column = position := by
    rw [undefinedName, found]
    rfl
  refine ⟨use.name, tokens, rfl, rfl, scanned, ⟨token.column, ?_⟩, fun nowhereEarlier => ?_, ?_⟩
  · rw [← isName]
    exact isToken
  · rw [column_eq]
    obtain ⟨earlier, atMost, isEarlier⟩ := nowhereEarlier position isFirst
    obtain ⟨first, firstAtMost, foundFirst, _⟩ :=
      Text.positionOf?_of_prefix (stands isEarlier rfl).2
    rw [found] at foundFirst
    cases foundFirst
    rwa [Nat.le_antisymm firstAtMost atMost]
  · refine CompileError.prefix_snippet ?_
    rw [column_eq]
    exact isFirst

/-- A sum with a name that nothing provides. -/
def sumWithName : Definition :=
  ⟨[], .expression (.binary .add (.literal (.number (.integer 1))) (.variable "Foo")), "1 + Foo"⟩

theorem sumWithName_scan : Token.scan "1 + Foo" =
    .ok [⟨.integer 1, 0⟩, ⟨.symbol (.operator .add), 2⟩, ⟨.name "Foo", 4⟩] := by cbv

theorem sumWithName_read : Definition.parseProgram "1 + Foo" = .ok sumWithName := by cbv

/-- The error points at the token of the name. -/
theorem sumWithName_reported :
    sumWithName.IsReadFrom "1 + Foo" ∧
    sumWithName.compile .empty =
      (.failure (.compile ⟨.undefinedName "Foo", 4, "1 + Foo"⟩), .empty) ∧
    ∃ tokens, Token.scan "1 + Foo" = .ok tokens ∧ ⟨.name "Foo", 4⟩ ∈ tokens := by
  have isRead : sumWithName.IsReadFrom "1 + Foo" := .program sumWithName_read
  have refused : sumWithName.compile .empty =
      (.failure (.compile ⟨.undefinedName "Foo", 4, "1 + Foo"⟩), .empty) := rfl
  obtain ⟨name, tokens, isName, _, scanned, _, points, _⟩ := undefined_name_stands isRead refused
  cases isName
  rw [sumWithName_scan] at scanned
  cases scanned
  refine ⟨isRead, refused, _, sumWithName_scan, points fun column stands => ⟨4, ?_, by simp⟩⟩
  by_contra earlier
  have nowhere : ∀ column < 4, ¬"Foo".toList <+: "1 + Foo".toList.drop column := by decide
  exact nowhere column (Nat.not_le.mp earlier) stands

/-- A string in front of a name whose characters it has. -/
def namedString : Definition :=
  ⟨[], .expression (.binary .add (.literal (.string "Foo")) (.variable "Foo")), "'Foo' + Foo"⟩

theorem namedString_scan : Token.scan "'Foo' + Foo" =
    .ok [⟨.string "Foo", 0⟩, ⟨.symbol (.operator .add), 6⟩, ⟨.name "Foo", 8⟩] := by cbv

theorem namedString_read : Definition.parseProgram "'Foo' + Foo" = .ok namedString := by cbv

/-- A definition whose name is longer than the part of a code that messages show. -/
def longName : Definition :=
  ⟨[], .expression (.variable "ALongNameOfTwentyFour123"), "ALongNameOfTwentyFour123"⟩

theorem longName_scan : Token.scanSome "ALongNameOfTwentyFour123" =
    .ok [⟨.name "ALongNameOfTwentyFour123", 0⟩] := by cbv

theorem longName_read : Definition.parseProgram "ALongNameOfTwentyFour123" = .ok longName := by
  have noStatements : isStatementBody [⟨.name "ALongNameOfTwentyFour123", 0⟩] = false := by cbv
  rw [Definition.parseProgram_eq longName_scan, noStatements]
  rfl

/-- Of a string and a name with the same characters the error points at the string, and the snippet
of an error has only the first characters of a long name. -/
theorem undefined_name_misplaced :
    namedString.IsReadFrom "'Foo' + Foo" ∧
    namedString.compile .empty =
      (.failure (.compile ⟨.undefinedName "Foo", 1, "'Foo' + Foo"⟩), .empty) ∧
    Token.scan "'Foo' + Foo" =
      .ok [⟨.string "Foo", 0⟩, ⟨.symbol (.operator .add), 6⟩, ⟨.name "Foo", 8⟩] ∧
    longName.IsReadFrom "ALongNameOfTwentyFour123" ∧
    longName.compile .empty = (.failure (.compile ⟨.undefinedName "ALongNameOfTwentyFour123", 0,
      "ALongNameOfTwentyFour123"⟩), .empty) ∧
    CompileError.snippet ⟨.undefinedName "ALongNameOfTwentyFour123", 0,
      "ALongNameOfTwentyFour123"⟩ = "ALongNameOfTwentyFou" :=
  ⟨.program namedString_read, rfl, namedString_scan, .program longName_read, rfl, rfl⟩

end Shorthand
