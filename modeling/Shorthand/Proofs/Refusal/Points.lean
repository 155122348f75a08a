/-
This file shows that the error of a refused source points at what it is about.

The scanner is refused at the place of a fault, and the rules of the grammar at a token or at the
end. They read the tokens of a source, a part of them behind an arrow, or all of them with a hole at
one end. The hole has the column of a token or of the end, and is itself never refused.
-/

import Mathlib
import Shorthand.Proofs.Progress.Rules
import Shorthand.Proofs.Refusal.Fault

namespace Shorthand

/-! ### Places in a source -/

/-- A token is one of those that a source is divided into. -/
def Token.IsOf (token : Token) (code : String) : Prop :=
  ∃ tokens, Token.scan code = .ok tokens ∧ token ∈ tokens

/-- What a source has at the column that a refusal points at. -/
inductive Refusal.PointsAt (code : String) : Refusal → Nat → Prop where
  | unexpectedToken {token : Token} (isToken : token.IsOf code)
      (noHole : ∀ position, token.lexeme ≠ .hole position) (expected : Expectation) :
      PointsAt code (.unexpectedToken token.lexeme expected) token.column
  | unexpectedEnd (expected : Expectation) : PointsAt code (.unexpectedEnd expected) code.length
  | badCharacter {character : Char} {column : Nat}
      (stands : code.toList[column]? = some character) :
      PointsAt code (.badCharacter character) column
  | badNumber {text : String} {column : Nat} (nonempty : text.toList ≠ [])
      (stands : text.toList <+: code.toList.drop column) : PointsAt code (.badNumber text) column
  | badEscape {letter : Char} {column : Nat} (stands : code.toList[column]? = some letter) :
      PointsAt code (.badEscape letter) column
  | unterminatedString {quote : Char} {column : Nat} (reached : Token.Reaches code.toList column)
      (stands : code.toList[column]? = some quote) (isQuote : quote = '"' ∨ quote = '\x27') :
      PointsAt code .unterminatedString column
  | badAssignTarget {token : Token} (isToken : token.IsOf code) :
      PointsAt code .badAssignTarget token.column
  | badParameter {token : Token} (isToken : token.IsOf code) (found : Lexeme) :
      PointsAt code (.badParameter found) token.column
  | empty (areBlank : Blank code.toList) : PointsAt code .empty 0

/-- An error is about a source, quotes it from its column on, and points at its reason there. -/
structure CompileError.Points (code : String) (error : CompileError) : Prop where
  isCode : error.code = code
  inside : error.column ≤ code.length
  quotes : error.snippet.toList = (code.toList.drop error.column).take 20
  pointsAt : error.refusal.PointsAt code error.column

variable {code : String} {token : Token}

theorem Token.IsOf.not_hole (isToken : token.IsOf code) (position : Nat) :
    token.lexeme ≠ .hole position := by
  intro isHole
  obtain ⟨tokens, scanned, member⟩ := isToken
  obtain ⟨length, _, first, rest, _, _, found⟩ := looksAt_of_scan scanned member
  rw [isHole] at found
  cases (Lexeme.head_names found rfl).1

theorem lt_length_of_getElem? {column : Nat} {character : Char}
    (stands : code.toList[column]? = some character) : column < code.length := by
  rw [← String.length_toList]
  exact (List.getElem?_eq_some_iff.mp stands).1

theorem Token.IsOf.column_lt (isToken : token.IsOf code) : token.column < code.length := by
  obtain ⟨tokens, scanned, member⟩ := isToken
  obtain ⟨length, _, first, rest, ahead, _⟩ := looksAt_of_scan scanned member
  exact lt_length_of_getElem? (getElem?_of_drop ahead)

theorem Refusal.PointsAt.inside {refusal : Refusal} {column : Nat}
    (pointsAt : refusal.PointsAt code column) : column ≤ code.length := by
  cases pointsAt with
  | unexpectedToken isToken | badAssignTarget isToken | badParameter isToken =>
    exact isToken.column_lt.le
  | unexpectedEnd => exact le_rfl
  | badCharacter stands | badEscape stands | unterminatedString _ stands =>
    exact (lt_length_of_getElem? stands).le
  | badNumber nonempty stands =>
    by_contra outside
    rw [List.drop_of_length_le (by rw [String.length_toList]; omega), List.prefix_nil] at stands
    exact nonempty stands
  | empty => exact Nat.zero_le _

theorem Refusal.PointsAt.points {refusal : Refusal} {column : Nat}
    (pointsAt : refusal.PointsAt code column) :
    CompileError.Points code ⟨refusal, column, code⟩ where
  isCode := rfl
  inside := pointsAt.inside
  quotes := String.toList_ofList
  pointsAt

/-! ### The scanner -/

/-- A fault lies where the scanner has looked for a lexeme, or behind that. -/
theorem Fault.pointsAt {fault : Fault} {column : Nat}
    (looks : Token.LooksAt code.toList column (.error fault)) :
    fault.refusal.PointsAt code (column + fault.offset) := by
  obtain ⟨reached, first, rest, ahead, _, refused⟩ := looks
  have lies := Lexeme.head_lies refused
  rw [← ahead] at lies
  generalize same : code.toList.drop column = behind at lies
  cases lies with
  | badNumber nonempty begins =>
    rw [← same] at begins
    exact .badNumber (by rwa [String.toList_ofList]) (by rwa [String.toList_ofList])
  | badEscape stands =>
    rw [← same, List.getElem?_drop] at stands
    exact .badEscape stands
  | unterminatedString isQuote =>
    exact .unterminatedString reached (Token.getElem?_of_drop same) isQuote
  | badCharacter => exact .badCharacter (Token.getElem?_of_drop same)

theorem Token.points_of_scan {error : CompileError} (refused : scan code = .error error) :
    error.Points code := by
  have sees := scanFrom_zero_sees code.toList
  rw [scan] at refused
  split at refused
  · cases refused
  · rename_i refusal column isFault
    cases refused
    rw [isFault] at sees
    generalize same :
      (.error (refusal, column) : Except (Refusal × Nat) (List Token)) = outcome at sees
    cases sees with
    | tokens => cases same
    | fault looks =>
      cases same
      exact (Fault.pointsAt looks).points

/-- A source without tokens has blanks only. -/
theorem Token.blank_of_scan (scanned : scan code = .ok []) : Blank code.toList := by
  obtain ⟨blanks, rest, same, areBlank, divided⟩ := divided_of_scanFrom (scan_eq_ok.mp scanned)
  generalize isEmpty : ([] : List Token) = tokens at divided
  cases divided with
  | done =>
    rw [List.drop_zero, List.append_nil] at same
    rwa [same]
  | token => cases isEmpty

theorem Token.scanSome_of_blank (areBlank : Blank code.toList) :
    scanSome code = .error ⟨.empty, 0, code⟩ := by
  have scanned : scan code = .ok [] := scan_eq_ok.mpr (scanFrom_blank areBlank 0)
  rw [scanSome, scanned]
  rfl

theorem Token.points_of_scanSome {error : CompileError} (refused : scanSome code = .error error) :
    error.Points code := by
  rcases except_bind_eq_error.mp refused with refused | ⟨tokens, scanned, refused⟩
  · exact points_of_scan refused
  · cases tokens with
    | nil =>
      cases refused
      exact (Refusal.PointsAt.empty (blank_of_scan scanned)).points
    | cons => cases refused

/-! ### The grammar -/

/-- A passage of a source has tokens of it but for the gaps, and one of them stands at the column of
each but the last. -/
structure Passage.IsOf (passage : Passage) (code : String) : Prop where
  isToken : ∀ token ∈ passage.tokens, ¬passage.IsGap token → token.IsOf code
  column : ∀ before first second after, passage.tokens = before ++ first :: second :: after →
    ∃ token : Token, token.IsOf code ∧ token.column = first.column

theorem Passage.IsOf.points {passage : Passage} (isOf : passage.IsOf code) {stop : Stop}
    (marks : passage.Marks stop) : (stop.toError code).Points code := by
  cases marks with
  | unexpected member noGap =>
    have isToken := isOf.isToken _ member noGap
    exact (Refusal.PointsAt.unexpectedToken isToken isToken.not_hole _).points
  | atEnd => exact (Refusal.PointsAt.unexpectedEnd _).points
  | target same =>
    obtain ⟨token, isToken, isColumn⟩ := isOf.column _ _ _ _ same
    rw [← isColumn]
    exact (Refusal.PointsAt.badAssignTarget isToken).points
  | parameter member noGap =>
    exact (Refusal.PointsAt.badParameter (isOf.isToken _ member noGap) _).points

/-- A rule that reads all tokens of a passage is refused as it is, or at a token that it leaves. -/
theorem Passage.IsOf.points_of_readAll {α : Type} {passage : Passage} (isOf : passage.IsOf code)
    {Begins : List Token → Prop} {rule : Nat → Grammar α} {rank least : Nat} {error : CompileError}
    (halts : passage.Halts Begins rule rank least (depthBound passage.tokens))
    (begins : Begins passage.tokens) (small : rank ≤ 16)
    (refused : (rule (depthBound passage.tokens)).readAll code passage.tokens = .error error) :
    error.Points code := by
  rw [Grammar.readAll] at refused
  cases halts _ _ le_rfl begins (le_depthBound _ small) with
  | refused ends _ marks =>
    rw [ends] at refused
    cases refused
    exact isOf.points marks
  | @accepted value rest ends _ post =>
    rw [ends] at refused
    cases rest with
    | nil => cases refused
    | cons token rest =>
      cases refused
      exact isOf.points (post.1.marks .endOfInput)

theorem Passage.IsOf.points_of_parse {passage : Passage} (isOf : passage.IsOf code)
    {error : CompileError} (refused : Expr.parse code passage.tokens = .error error) :
    error.Points code :=
  isOf.points_of_readAll (passage.halting _).assignment List.suffix_rfl (by decide) refused

/-! ### Parts of a source -/

section

variable {tokens : List Token} {error : CompileError}

theorem Passage.whole_isOf (areTokens : ∀ token ∈ tokens, token.IsOf code) :
    (whole tokens).IsOf code where
  isToken token member _ := areTokens token member
  column before first second after same := by
    refine ⟨first, areTokens first ?_, rfl⟩
    have member : first ∈ (whole tokens).tokens := by
      rw [same]
      exact List.mem_append_right _ List.mem_cons_self
    exact member

theorem Body.points_of_parse {statements : Bool} (areTokens : ∀ token ∈ tokens, token.IsOf code)
    (refused : Body.parse code statements tokens = .error error) : error.Points code := by
  have isOf := Passage.whole_isOf areTokens
  rw [Body.parse] at refused
  split at refused
  · exact isOf.points_of_readAll ((Passage.whole tokens).statements_halt _)
      ⟨List.suffix_rfl, fun _ _ => id⟩ (by decide) (except_map_eq_error.mp refused)
  · exact isOf.points_of_parse (except_map_eq_error.mp refused)

/-- The tokens of a source behind a hole. -/
def Passage.behindHole (column : Nat) (areTokens : ∀ token ∈ tokens, token.IsOf code) :
    Passage where
  tokens := Token.hole 0 column :: tokens
  IsGap token := ∃ position, token.lexeme = .hole position
  isHole _ := id
  follows before first second after same := by
    rintro ⟨position, isHole⟩
    have isToken : second ∈ tokens := by
      cases before with
      | nil =>
        obtain ⟨_, rfl⟩ := List.cons.inj same
        exact List.mem_cons_self
      | cons head before =>
        obtain ⟨_, rfl⟩ := List.cons.inj same
        simp
    exact absurd isHole ((areTokens second isToken).not_hole position)

/-- The hole stands at the column of the first token. -/
theorem Passage.behindHole_isOf {first : Token} {rest : List Token}
    (areTokens : ∀ token ∈ first :: rest, token.IsOf code) :
    (behindHole first.column areTokens).IsOf code where
  isToken token member noGap := by
    rcases List.mem_cons.mp member with rfl | isToken
    · exact absurd ⟨0, rfl⟩ noGap
    · exact areTokens token isToken
  column before token second after same := by
    cases before with
    | nil =>
      obtain ⟨rfl, _⟩ := List.cons.inj same
      exact ⟨first, areTokens first List.mem_cons_self, rfl⟩
    | cons head before =>
      refine ⟨token, areTokens token ?_, rfl⟩
      rw [(List.cons.inj same).2]
      exact List.mem_append_right _ List.mem_cons_self

/-- Two tokens after each other among tokens and one more are the last of them and that one, or
stand after each other before. -/
theorem append_singleton_split {before after : List Token} {first second further : Token}
    (same : tokens ++ [further] = before ++ first :: second :: after) :
    (second = further ∧ tokens = before ++ [first]) ∨
      ∃ others, tokens = before ++ first :: second :: others := by
  rcases List.eq_nil_or_concat' after with rfl | ⟨others, last, rfl⟩
  · have same : tokens ++ [further] = before ++ [first] ++ [second] := by
      rw [same, List.append_assoc]
      rfl
    obtain ⟨isFront, isLast⟩ := List.append_inj' same rfl
    exact .inl ⟨(List.singleton_inj.mp isLast).symm, isFront⟩
  · have same : tokens ++ [further] = before ++ first :: second :: others ++ [last] := by
      rw [same, List.append_assoc]
      rfl
    exact .inr ⟨others, (List.append_inj' same rfl).1⟩

/-- The tokens of a source in front of a hole. An operator is the last of them. -/
def Passage.beforeHole {front : List Token} {last : Token} {operator : BinaryOperator}
    (column : Nat) (areTokens : ∀ token ∈ front ++ [last], token.IsOf code)
    (isOperator : last.IsSymbol (.operator operator)) : Passage where
  tokens := front ++ [last] ++ [Token.hole 0 column]
  IsGap token := ∃ position, token.lexeme = .hole position
  isHole _ := id
  follows before first second after same := by
    rintro ⟨position, isHole⟩
    rcases append_singleton_split same with ⟨_, same⟩ | ⟨others, same⟩
    · have isLast := List.singleton_inj.mp (List.append_inj' same rfl).2
      exact ⟨operator, isLast ▸ isOperator⟩
    · have isToken : second ∈ front ++ [last] := by
        rw [same]
        simp
      exact absurd isHole ((areTokens second isToken).not_hole position)

theorem Passage.beforeHole_isOf {front : List Token} {last : Token} {operator : BinaryOperator}
    {column : Nat} (areTokens : ∀ token ∈ front ++ [last], token.IsOf code)
    (isOperator : last.IsSymbol (.operator operator)) :
    (beforeHole column areTokens isOperator).IsOf code where
  isToken token member noGap := by
    rcases List.mem_append.mp member with isToken | isHole
    · exact areTokens token isToken
    · cases List.mem_singleton.mp isHole
      exact absurd ⟨0, rfl⟩ noGap
  column before first second after same := by
    refine ⟨first, areTokens first ?_, rfl⟩
    rcases append_singleton_split same with ⟨_, same⟩ | ⟨others, same⟩ <;>
    · rw [same]
      exact List.mem_append_right _ List.mem_cons_self

/-! ### Arrows -/

/-- Names that are refused as parameters are refused at one of their tokens, or at the arrow behind
them. -/
theorem parameterNames_points {mark : Token} {wantsName afterComma : Bool}
    (areTokens : ∀ token ∈ tokens, token.IsOf code) (isToken : mark.IsOf code)
    (refused : parameterNames code mark.column wantsName afterComma tokens = .error error) :
    error.Points code := by
  have points : ∀ {token : Token} (found : Lexeme), token.IsOf code →
      CompileError.Points code ⟨.badParameter found, token.column, code⟩ :=
    fun found isToken => (Refusal.PointsAt.badParameter isToken found).points
  fun_induction parameterNames code mark.column wantsName afterComma tokens with
  | case1 =>
    cases refused
    exact points _ isToken
  | case2 => cases refused
  | case4 _ _ _ _ _ _ inductionHypothesis =>
    exact inductionHypothesis (List.forall_mem_cons.mp areTokens).2 (except_map_eq_error.mp refused)
  | case5 _ _ _ _ inductionHypothesis =>
    exact inductionHypothesis (List.forall_mem_cons.mp areTokens).2 refused
  | case3 | case6 =>
    cases Except.error.inj refused
    exact points _ (List.forall_mem_cons.mp areTokens).1

theorem arrowParameters_points {mark : Token}
    (areTokens : ∀ token ∈ tokens, token.IsOf code) (isToken : mark.IsOf code)
    (refused : arrowParameters code mark.column tokens = .error error) : error.Points code := by
  unfold arrowParameters at refused
  split at refused
  · split at refused
    · refine parameterNames_points (fun token member => ?_) isToken refused
      exact areTokens token (List.mem_cons_of_mem _ (List.mem_of_mem_dropLast member))
    · exact parameterNames_points areTokens isToken refused
  · exact parameterNames_points areTokens isToken refused

theorem Definition.points_of_parseArrow (areTokens : ∀ token ∈ tokens, token.IsOf code)
    (refused : parseArrow code tokens = .error error) : error.Points code := by
  have splits := splitAtArrows_splits 0 [] tokens
  rw [parseArrow] at refused
  rcases except_bind_eq_error.mp refused with refused | ⟨parameters, _, refused⟩
  · obtain ⟨⟨part, column⟩, member, refused⟩ := exists_of_mapM_error refused
    obtain ⟨subset, mark, isMark, rfl⟩ := splits.of_mem member
    exact arrowParameters_points (fun token isToken => areTokens token (subset isToken))
      (areTokens mark isMark) refused
  · split at refused
    · cases refused
      exact (Refusal.PointsAt.unexpectedEnd .arrowBody).points
    · rcases except_bind_eq_error.mp refused with refused | ⟨body, _, ⟨⟩⟩
      exact Body.points_of_parse
        (fun token isToken => areTokens token (splits.last_subset isToken)) refused

/-! ### Forms -/

theorem Form.points_of_tokens {statementsAllowed : Bool}
    (areTokens : ∀ token ∈ tokens, token.IsOf code)
    (refused : Form.ofTokens code statementsAllowed tokens = .error error) : error.Points code := by
  have reading := Form.ofTokens_readAs code statementsAllowed tokens
  rw [refused] at reading
  generalize same : (.error error : Except CompileError Form) = result at reading
  cases reading with
  | combinator => cases same
  | leftMissing isFirst | memberAccess isFirst =>
    subst isFirst
    exact (Passage.behindHole_isOf areTokens).points_of_parse (except_map_eq_error.mp same.symm)
  | rightMissing isLast isOperator =>
    subst isLast
    exact (Passage.beforeHole_isOf areTokens isOperator).points_of_parse
      (except_map_eq_error.mp same.symm)
  | arrow => exact Definition.points_of_parseArrow areTokens (except_map_eq_error.mp same.symm)
  | bare =>
    have refused := except_map_eq_error.mp same.symm
    rw [Definition.parseBare_eq] at refused
    exact Body.points_of_parse areTokens (except_map_eq_error.mp refused)

end

/-- A source is refused with an error, as a shorthand or as a program. -/
inductive CompileError.IsRefusalOf (code : String) : CompileError → Prop where
  | shorthand {statementsAllowed : Bool} {error : CompileError}
      (refused : Form.parse code statementsAllowed = .error error) : IsRefusalOf code error
  | program {error : CompileError} (refused : Definition.parseProgram code = .error error) :
      IsRefusalOf code error

theorem Token.areTokens_of_scanSome {tokens : List Token} (scanned : scanSome code = .ok tokens) :
    ∀ token ∈ tokens, token.IsOf code :=
  fun _ member => ⟨tokens, (scanSome_eq_ok.mp scanned).1, member⟩

theorem CompileError.IsRefusalOf.points {error : CompileError}
    (isRefusal : error.IsRefusalOf code) : error.Points code := by
  cases isRefusal with
  | shorthand refused =>
    rcases except_bind_eq_error.mp refused with refused | ⟨tokens, scanned, refused⟩
    · exact Token.points_of_scanSome refused
    · exact Form.points_of_tokens (Token.areTokens_of_scanSome scanned) refused
  | program refused =>
    rcases except_bind_eq_error.mp refused with unscanned | ⟨tokens, scanned, _⟩
    · exact Token.points_of_scanSome unscanned
    · rw [Definition.parseProgram_eq scanned] at refused
      exact Body.points_of_parse (Token.areTokens_of_scanSome scanned)
        (except_map_eq_error.mp refused)

/-- A refusal as empty is that of blanks only. -/
theorem Refusal.PointsAt.blank {column : Nat} (pointsAt : PointsAt code .empty column) :
    Blank code.toList := by
  cases pointsAt
  assumption

/-- A source that is refused, as a shorthand or as a program, is quoted from the column of the error
on, which is inside of it. What the reason speaks of stands there: a token of the source, its end,
a character that means nothing, a number that is none, the letter of an escape or a quote that is
not closed. Only blanks are refused as empty, and they always are. -/
theorem refusal_points (code : String) :
    (∀ error, CompileError.IsRefusalOf code error → error.Points code) ∧
    (∀ statementsAllowed,
      (∃ error, Form.parse code statementsAllowed = .error error ∧ error.refusal = .empty) ↔
        Blank code.toList) ∧
    ((∃ error, Definition.parseProgram code = .error error ∧ error.refusal = .empty) ↔
      Blank code.toList) := by
  have blank : ∀ error, CompileError.IsRefusalOf code error → error.refusal = .empty →
      Blank code.toList := by
    intro error isRefusal isEmpty
    have pointsAt := isRefusal.points.pointsAt
    rw [isEmpty] at pointsAt
    exact pointsAt.blank
  refine ⟨fun _ => CompileError.IsRefusalOf.points, fun statementsAllowed => ⟨?_, ?_⟩, ?_, ?_⟩
  · rintro ⟨error, refused, isEmpty⟩
    exact blank error (.shorthand refused) isEmpty
  · intro areBlank
    refine ⟨⟨.empty, 0, code⟩, ?_, rfl⟩
    rw [Form.parse, Token.scanSome_of_blank areBlank]
    rfl
  · rintro ⟨error, refused, isEmpty⟩
    exact blank error (.program refused) isEmpty
  · intro areBlank
    refine ⟨⟨.empty, 0, code⟩, ?_, rfl⟩
    rw [Definition.parseProgram, Token.scanSome_of_blank areBlank]
    rfl

theorem assignedSection_refused : Form.parse "* a = 1" false =
    .error ⟨.badAssignTarget, 0, "* a = 1"⟩ := by cbv

/-- The hole in front of the operator is the target, and the error points at the operator. -/
theorem assignedSection_points :
    CompileError.IsRefusalOf "* a = 1" ⟨.badAssignTarget, 0, "* a = 1"⟩ ∧
    CompileError.Points "* a = 1" ⟨.badAssignTarget, 0, "* a = 1"⟩ := by
  have isRefusal : CompileError.IsRefusalOf "* a = 1" ⟨.badAssignTarget, 0, "* a = 1"⟩ :=
    .shorthand assignedSection_refused
  exact ⟨isRefusal, (refusal_points "* a = 1").1 _ isRefusal⟩

end Shorthand
