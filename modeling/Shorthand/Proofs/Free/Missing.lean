/-
This file says what the names in a shorthand with a missing operand mean.

The missing operand stands in the tokens as a hole, and the function of the shorthand has one
parameter, with the name that a hole reads. So a name of the source is this parameter only if it is
spelled as that name is. Every other name has to be bound inside of the shorthand or has to be a
global name.
-/

import Mathlib
import Shorthand.Proofs.Refusal.Undefined

namespace Shorthand

/-- A form is an expression with a missing operand. -/
inductive Form.Lacks (body : Expr) : Form → Prop where
  | operatorSection (operator : BinaryOperator) (missing : Side) :
      Lacks body (.operatorSection operator missing body)
  | memberAccess : Lacks body (.memberAccess body)

variable {code : String} {statementsAllowed : Bool} {form : Form} {body : Expr}

theorem Form.Lacks.definition_eq (lacks : form.Lacks body) (label : String) :
    form.definition label = ⟨[holeName 0], .expression body, label⟩ := by
  cases lacks <;> rfl

/-- A form with a missing operand is read from the tokens of its source and a hole at one of their
ends. -/
theorem Form.Lacks.parsed {tokens : List Token} (lacks : form.Lacks body)
    (read : Form.ofTokens code statementsAllowed tokens = .ok form) :
    ∃ hole holed, hole.lexeme = .hole 0 ∧ (holed = hole :: tokens ∨ holed = tokens ++ [hole]) ∧
      Expr.parse code holed = .ok body := by
  have reading := Form.ofTokens_readAs code statementsAllowed tokens
  rw [read] at reading
  generalize same : (.ok form : Except CompileError Form) = result at reading
  cases reading with
  | combinator operator =>
    cases same
    cases lacks
  | leftMissing | memberAccess =>
    obtain ⟨expr, parsed, rfl⟩ := except_map_eq_ok.mp same.symm
    cases lacks
    exact ⟨_, _, rfl, .inl rfl, parsed⟩
  | rightMissing =>
    obtain ⟨expr, parsed, rfl⟩ := except_map_eq_ok.mp same.symm
    cases lacks
    exact ⟨_, _, rfl, .inr rfl, parsed⟩
  | arrow | bare =>
    obtain ⟨definition, _, rfl⟩ := except_map_eq_ok.mp same.symm
    cases lacks

/-- Tokens of a source and a hole: what names something there is the hole, or an identifier of the
source that is spelled as the name. -/
theorem Token.eq_hole_or_name {tokens holed : List Token} {hole token : Token} {name : String}
    (scanned : Token.scan code = .ok tokens)
    (isHoled : holed = hole :: tokens ∨ holed = tokens ++ [hole]) (member : token ∈ holed)
    (names : token.lexeme.Names name) :
    token = hole ∨ token ∈ tokens ∧ token.lexeme = .name name := by
  have origin : token = hole ∨ token ∈ tokens := by
    rcases isHoled with rfl | rfl
    · exact List.mem_cons.mp member
    · exact (List.mem_append.mp member).symm.imp_left List.mem_singleton.mp
  refine origin.imp_right fun isToken => ⟨isToken, ?_⟩
  obtain ⟨_, _, _, _, _, _, found⟩ := Token.looksAt_of_scan scanned isToken
  exact (Lexeme.head_names found names).1

/-- A function whose parameter is for a missing operand is made, or it is refused for a name that is
free in its body and spelled otherwise. -/
theorem compile_holed_cases (body : Body) (label : String) (world : World SlotClosure) :
    (∀ use place, body.FreeAt use place → use.name = holeName 0 ∨ use.IsGlobal) ∧
        (∃ function after, (Definition.mk [holeName 0] body label).compile world =
          (.value function, after)) ∨
      ∃ use place, body.FreeAt use place ∧ use.name ≠ holeName 0 ∧ ¬use.IsGlobal ∧
        (Definition.mk [holeName 0] body label).compile world =
          (.failure (.compile (undefinedName label use.name)), world) := by
  rcases (Definition.mk [holeName 0] body label).compile_cases world with
    ⟨globals, made⟩ | ⟨use, member, notGlobal, refused⟩
  · refine .inl ⟨fun use place free => ?_, made⟩
    by_cases isHole : use.name = holeName 0
    · exact .inl isHole
    · exact .inr (globals use (Definition.mem_uses.mpr
        ⟨fun isParameter => isHole (List.mem_singleton.mp isParameter), place, free⟩))
  · obtain ⟨noParameter, place, free⟩ := Definition.mem_uses.mp member
    exact .inr ⟨use, place, free, fun isHole => noParameter (List.mem_singleton.mpr isHole),
      notGlobal, refused⟩

/-- The names that are free in a shorthand with a missing operand are the hole, which is read from
a token of its own, and identifiers of the source. The shorthand becomes a function just if each of
them is spelled as the name of the hole or is a global name and nowhere assigned to, and otherwise
it is refused for one that is not so, as a name that is not defined. Where no identifier of the
source is spelled as the name of the hole, all identifiers that are free have to be global
names. -/
theorem missing_operand_binds {code : String} {statementsAllowed : Bool} {form : Form} {body : Expr}
    (read : Form.parse code statementsAllowed = .ok form) (lacks : form.Lacks body) :
    ∃ tokens hole holed position, Token.scan code = .ok tokens ∧ hole.lexeme = .hole 0 ∧
      (holed = hole :: tokens ∨ holed = tokens ++ [hole]) ∧
      Standing (Body.expression body).FreeAt holed position ∧
      (∀ use place, (Body.expression body).FreeAt use place → holed[position place]? = some hole ∨
        ∃ token ∈ tokens, holed[position place]? = some token ∧ token.lexeme = .name use.name) ∧
      ∀ world : World SlotClosure,
        ((∃ function after,
          machine.compile code statementsAllowed world = (.value function, after)) ↔
          ∀ use place, (Body.expression body).FreeAt use place →
            use.name = holeName 0 ∨ use.IsGlobal) ∧
        ((∃ function after,
          machine.compile code statementsAllowed world = (.value function, after)) ∨
          ∃ use place, (Body.expression body).FreeAt use place ∧ use.name ≠ holeName 0 ∧
            ¬use.IsGlobal ∧ machine.compile code statementsAllowed world =
              (.failure (.compile (undefinedName code use.name)), world)) ∧
        ((∀ token ∈ tokens, token.lexeme ≠ .name (holeName 0)) →
          ∀ use place, (Body.expression body).FreeAt use place →
            holed[position place]? ≠ some hole → ¬use.IsGlobal →
            ∃ (refused : Use) (other : List Nat), (Body.expression body).FreeAt refused other ∧
              refused.name ≠ holeName 0 ∧ ¬refused.IsGlobal ∧
              machine.compile code statementsAllowed world =
                (.failure (.compile (undefinedName code refused.name)), world)) := by
  obtain ⟨tokens, scannedSome, ofTokens⟩ := except_bind_eq_ok.mp read
  have scanned := (Token.scanSome_eq_ok.mp scannedSome).1
  obtain ⟨hole, holed, isHole, isHoled, parsed⟩ := lacks.parsed ofTokens
  have laidOut : LaidOut [.ofBody (.expression body)] holed :=
    .single rfl (Expr.phrase_of_parse parsed).laidOut
  obtain ⟨position, standing⟩ := Body.standing_of_laidOut laidOut
  have identified : ∀ use place, (Body.expression body).FreeAt use place →
      holed[position place]? = some hole ∨
        ∃ token ∈ tokens, holed[position place]? = some token ∧ token.lexeme = .name use.name := by
    intro use place free
    obtain ⟨token, found, names⟩ := standing.names use place free
    rcases Token.eq_hole_or_name scanned isHoled (List.mem_of_getElem? found) names with
      rfl | ⟨isToken, isName⟩
    · exact .inl found
    · exact .inr ⟨token, isToken, found, isName⟩
  refine ⟨tokens, hole, holed, position, scanned, isHole, isHoled, standing, identified, ?_⟩
  intro world
  have compiled : machine.compile code statementsAllowed world =
      (Definition.mk [holeName 0] (.expression body) code).compile world := by
    rw [Machine.compile, read, ← lacks.definition_eq]
    rfl
  rw [compiled]
  rcases compile_holed_cases (.expression body) code world with
    ⟨settled, made⟩ | ⟨refused, place, free, notHole, notGlobal, isRefused⟩
  · refine ⟨iff_of_true made settled, .inl made, fun nowhere use place free notHole notGlobal => ?_⟩
    rcases identified use place free with isHole | ⟨token, isToken, _, isName⟩
    · exact absurd isHole notHole
    · refine ((settled use place free).elim (fun same => ?_) notGlobal).elim
      exact nowhere token isToken (by rw [isName, same])
  · refine ⟨iff_of_false ?_ fun settled => ?_,
      .inr ⟨refused, place, free, notHole, notGlobal, isRefused⟩,
      fun _ _ _ _ _ _ => ⟨refused, place, free, notHole, notGlobal, isRefused⟩⟩
    · rintro ⟨function, after, made⟩
      rw [isRefused] at made
      cases made
    · exact (settled refused place free).elim notHole notGlobal

/-- A comparison with a name that nothing provides. -/
def limited : Expr := .binary .greater (.variable "$1") (.variable "limit")

/-- The name is neither bound by the section nor provided, so no function is made. -/
theorem limited_refused :
    Form.parse "> limit" true = .ok (.operatorSection .greater .left limited) ∧
    (Form.operatorSection .greater .left limited).Lacks limited ∧
    ¬∃ function after, machine.compile "> limit" true .empty = (.value function, after) := by
  have read : Form.parse "> limit" true = .ok (.operatorSection .greater .left limited) := by cbv
  have lacks : (Form.operatorSection .greater .left limited).Lacks limited := .operatorSection _ _
  obtain ⟨_, _, _, _, _, _, _, _, _, compiled⟩ := missing_operand_binds read lacks
  refine ⟨read, lacks, fun made => ?_⟩
  have free : (Body.expression limited).FreeAt (.read "limit") [0, 1] := by
    have unbound : (Use.read "limit").name ∉ (Part.ofExpr limited).binders := List.not_mem_nil
    refine ⟨Part.freeAt_cons.mpr ⟨List.not_mem_nil, _, rfl, Part.freeAt_cons.mpr
      ⟨unbound, _, rfl, .here rfl⟩⟩, ?_⟩
    intro declares
    cases declares.mem
  rcases (compiled .empty).1.mp made _ _ free with isHole | isGlobal
  · exact absurd isHole (by decide)
  · simp [Use.IsGlobal] at isGlobal

/-- A comparison of the missing operand with an identifier that is spelled as its name. -/
def comparedWithHole : Form :=
  .operatorSection .greater .left (.binary .greater (.variable "$1") (.variable "$1"))

theorem comparedWithHole_scan :
    Token.scan "> $1" = .ok [⟨.symbol (.operator .greater), 0⟩, ⟨.name "$1", 2⟩] := by cbv

theorem comparedWithHole_read : Form.parse "> $1" true = .ok comparedWithHole := by cbv

/-- An identifier that is spelled as the name of the hole is bound, although it is no global
name. -/
theorem spelled_as_hole_binds :
    Token.scan "> $1" = .ok [⟨.symbol (.operator .greater), 0⟩, ⟨.name "$1", 2⟩] ∧
    Form.parse "> $1" true = .ok comparedWithHole ∧ ¬(Use.read "$1").IsGlobal ∧
    ∃ function after, machine.compile "> $1" true .empty = (.value function, after) := by
  refine ⟨comparedWithHole_scan, comparedWithHole_read, by simp [Use.IsGlobal], ?_⟩
  rw [Machine.compile, comparedWithHole_read]
  exact ⟨_, _, rfl⟩

end Shorthand
