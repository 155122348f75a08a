/-
This file shows that the places of names are ordered as the names are in the source.

The tokens of a phrase are laid out as its parts are: those of a part stand together, and behind
those of the parts to the left. So every name has a token of its own, and a smaller place has an
earlier token.
-/

import Mathlib
import Shorthand.Proofs.Forms.Reading
import Shorthand.Proofs.Free.Part
import Shorthand.Proofs.Grammar.Exact

namespace Shorthand

/-! ### Parts laid out in tokens -/

/-- The names in nodes stand in tokens from left to right. -/
inductive LaidOut : List Part → List Token → Prop where
  | nil : LaidOut [] []
  | skip {token : Token} {parts : List Part} {tokens : List Token}
      (further : LaidOut parts tokens) : LaidOut parts (token :: tokens)
  | name {part : Part} {parts : List Part} {use : Use} {token : Token} {tokens : List Token}
      (isUse : part.use? = some use) (isName : token.lexeme.Names use.name)
      (further : LaidOut parts tokens) : LaidOut (part :: parts) (token :: tokens)
  | part {part : Part} {parts : List Part} {first second : List Token} (noUse : part.use? = none)
      (inside : LaidOut part.children first) (further : LaidOut parts second) :
      LaidOut (part :: parts) (first ++ second)

namespace LaidOut

variable {parts others : List Part} {tokens first second : List Token}

theorem append (laidOut : LaidOut parts first) (further : LaidOut others second) :
    LaidOut (parts ++ others) (first ++ second) := by
  induction laidOut with
  | nil => exact further
  | skip _ inductionHypothesis => exact .skip inductionHypothesis
  | name isUse isName _ inductionHypothesis => exact .name isUse isName inductionHypothesis
  | part noUse inside _ _ inductionHypothesis =>
    rw [List.append_assoc]
    exact .part noUse inside inductionHypothesis

/-- Tokens that no names are looked for in. -/
theorem skipped : ∀ tokens, LaidOut [] tokens
  | [] => .nil
  | _ :: tokens => .skip (skipped tokens)

theorem before (laidOut : LaidOut parts first) (second : List Token) :
    LaidOut parts (first ++ second) := by
  rw [← List.append_nil parts]
  exact laidOut.append (skipped second)

theorem behind (first : List Token) (laidOut : LaidOut parts second) :
    LaidOut parts (first ++ second) := (skipped first).append laidOut

/-- A node that is no name itself is laid out as its parts are. -/
theorem single {part : Part} (noUse : part.use? = none) (inside : LaidOut part.children tokens) :
    LaidOut [part] tokens := by
  rw [← List.append_nil tokens]
  exact .part noUse inside .nil

/-- A node that has no names. -/
theorem leaf {part : Part} (noUse : part.use? = none) (noParts : part.children = [])
    (tokens : List Token) : LaidOut [part] tokens := by
  refine .single noUse ?_
  rw [noParts]
  exact skipped tokens

/-- A target is laid out as the expression of its form. -/
theorem target {expr : Expr} {target : Target} (laidOut : LaidOut [.ofExpr expr] tokens)
    (isTarget : expr.target? = some target) : LaidOut [.ofTarget target] tokens := by
  generalize same : [Part.ofExpr expr] = parts at laidOut
  induction laidOut with
  | nil => cases same
  | skip _ inductionHypothesis => exact .skip (inductionHypothesis same)
  | name isUse isName further =>
    obtain ⟨rfl, rfl⟩ := List.cons.inj same
    cases expr <;> cases isUse
    cases isTarget
    exact .name rfl isName further
  | part noUse inside further =>
    obtain ⟨rfl, rfl⟩ := List.cons.inj same
    cases expr <;> cases isTarget
    · cases noUse
    · exact .part rfl inside further
    · exact .part rfl inside further

end LaidOut

/-! ### Positions -/

/-- Places at which names are free have positions in tokens. At each position is the name, and a
smaller place has an earlier position. -/
structure Positions (Free : Use → List Nat → Prop) (tokens : List Token)
    (position : List Nat → Nat) : Prop where
  reads : ∀ use place, Free use place →
    ∃ token, tokens[position place]? = some token ∧ token.lexeme.text = use.name
  ascending : ∀ use place other later, Free use place → Free other later → place < later →
    position place < position later

/-- Places at which names are free stand at positions in tokens: the token at each position names
what is free there, and a smaller place has an earlier position. -/
structure Standing (Free : Use → List Nat → Prop) (tokens : List Token)
    (position : List Nat → Nat) : Prop where
  names : ∀ use place, Free use place →
    ∃ token, tokens[position place]? = some token ∧ token.lexeme.Names use.name
  ascending : ∀ use place other later, Free use place → Free other later → place < later →
    position place < position later

theorem Standing.positions {Free : Use → List Nat → Prop} {tokens : List Token}
    {position : List Nat → Nat} (standing : Standing Free tokens position) :
    Positions Free tokens position where
  reads use place free := by
    obtain ⟨token, isToken, names⟩ := standing.names use place free
    exact ⟨token, isToken, names.text⟩
  ascending := standing.ascending

/-- A name is free at a place in one of some nodes, which the place begins with. -/
def FreeAmong (parts : List Part) (use : Use) (place : List Nat) : Prop :=
  ∃ index part rest, parts[index]? = some part ∧ place = index :: rest ∧ part.FreeAt use rest

/-- A node that is a name has no parts, so only that name is free in it. -/
theorem Part.FreeAt.of_use {part : Part} {use other : Use} {place : List Nat}
    (free : part.FreeAt other place) (isUse : part.use? = some use) :
    place = [] ∧ other = use := by
  have noParts : part.children = [] := by
    rcases part with (expr | target | statement | body)
    · cases expr <;> first | rfl | cases isUse
    · cases target <;> first | rfl | cases isUse
    · cases isUse
    · cases isUse
  cases place with
  | nil => exact ⟨rfl, Option.some.inj ((Part.freeAt_nil.mp free).symm.trans isUse)⟩
  | cons index place =>
    obtain ⟨_, child, isChild, _⟩ := Part.freeAt_cons.mp free
    rw [noParts] at isChild
    cases isChild

/-- A name that is free in a node that is no name is free in a part of it. -/
theorem Part.FreeAt.among {part : Part} {use : Use} {place : List Nat}
    (free : part.FreeAt use place) (noUse : part.use? = none) :
    FreeAmong part.children use place := by
  cases place with
  | nil =>
    rw [Part.freeAt_nil, noUse] at free
    cases free
  | cons index place =>
    obtain ⟨_, child, isChild, free⟩ := Part.freeAt_cons.mp free
    exact ⟨index, child, place, isChild, rfl, free⟩

/-- The positions for a node and those for the nodes behind it, whose tokens come after it. -/
def joined (inside : List Nat → Nat) (length : Nat) (further : List Nat → Nat) : List Nat → Nat
  | [] => 0
  | 0 :: place => inside place
  | (index + 1) :: place => length + further (index :: place)

namespace Standing

variable {parts : List Part} {tokens first second : List Token} {position : List Nat → Nat}

theorem mono {Free Fewer : Use → List Nat → Prop} (standing : Standing Free tokens position)
    (implies : ∀ use place, Fewer use place → Free use place) :
    Standing Fewer tokens position where
  names use place free := standing.names use place (implies use place free)
  ascending use place other later free otherFree :=
    standing.ascending use place other later (implies use place free)
      (implies other later otherFree)

theorem skip {Free : Use → List Nat → Prop} (standing : Standing Free tokens position)
    (token : Token) : Standing Free (token :: tokens) fun place => position place + 1 where
  names := standing.names
  ascending use place other later free otherFree smaller :=
    Nat.succ_lt_succ (standing.ascending use place other later free otherFree smaller)

theorem name {part : Part} {use : Use} {token : Token} (isUse : part.use? = some use)
    (isName : token.lexeme.Names use.name) :
    Standing (fun use place => part.FreeAt use place) [token] fun _ => 0 := by
  refine ⟨fun other place free => ⟨token, rfl, ?_⟩, ?_⟩
  · rw [(free.of_use isUse).2]
    exact isName
  · intro other place another later free otherFree smaller
    rw [(free.of_use isUse).1, (otherFree.of_use isUse).1] at smaller
    exact absurd smaller (List.lt_irrefl [])

/-- The names in nodes one after the other stand in tokens if their tokens stand one after the
other. -/
theorem join {part : Part} {inside further : List Nat → Nat}
    (standing : Standing (fun use place => part.FreeAt use place) first inside)
    (others : Standing (FreeAmong parts) second further) :
    Standing (FreeAmong (part :: parts)) (first ++ second)
      (joined inside first.length further) where
  names := by
    rintro use _ ⟨index, found, place, isPart, rfl, free⟩
    cases index with
    | zero =>
      cases isPart
      obtain ⟨token, isToken, isName⟩ := standing.names use place free
      obtain ⟨bound, _⟩ := List.getElem?_eq_some_iff.mp isToken
      refine ⟨token, ?_, isName⟩
      rw [joined, List.getElem?_append_left bound]
      exact isToken
    | succ index =>
      obtain ⟨token, isToken, isName⟩ :=
        others.names use (index :: place) ⟨index, found, place, isPart, rfl, free⟩
      refine ⟨token, ?_, isName⟩
      rw [joined, List.getElem?_append_right (Nat.le_add_right _ _), Nat.add_sub_cancel_left]
      exact isToken
  ascending := by
    rintro use _ other _ ⟨index, found, place, isPart, rfl, free⟩
      ⟨another, next, later, isNext, rfl, nextFree⟩ smaller
    rw [List.cons_lt_cons_iff] at smaller
    cases index with
    | zero =>
      cases isPart
      cases another with
      | zero =>
        cases isNext
        rw [joined, joined]
        refine standing.ascending use place other later free nextFree ?_
        simpa using smaller
      | succ another =>
        obtain ⟨token, isToken, _⟩ := standing.names use place free
        obtain ⟨bound, _⟩ := List.getElem?_eq_some_iff.mp isToken
        rw [joined, joined]
        exact Nat.lt_of_lt_of_le bound (Nat.le_add_right _ _)
    | succ index =>
      cases another with
      | zero => simp at smaller
      | succ another =>
        rw [joined, joined]
        refine Nat.add_lt_add_left (others.ascending use _ other _
          ⟨index, found, place, isPart, rfl, free⟩
          ⟨another, next, later, isNext, rfl, nextFree⟩ ?_) _
        rw [List.cons_lt_cons_iff]
        simpa using smaller

end Standing

/-- The names in nodes laid out in tokens stand at positions there. -/
theorem LaidOut.standing {parts : List Part} {tokens : List Token}
    (laidOut : LaidOut parts tokens) :
    ∃ position, Standing (FreeAmong parts) tokens position := by
  induction laidOut with
  | nil =>
    have nowhere : ∀ use place, ¬FreeAmong [] use place := by
      rintro use place ⟨index, part, rest, isPart, _⟩
      cases isPart
    exact ⟨fun _ => 0, fun use place free => absurd free (nowhere use place),
      fun use place _ _ free => absurd free (nowhere use place)⟩
  | skip _ inductionHypothesis =>
    obtain ⟨position, standing⟩ := inductionHypothesis
    exact ⟨_, standing.skip _⟩
  | name isUse isName _ inductionHypothesis =>
    obtain ⟨position, standing⟩ := inductionHypothesis
    exact ⟨_, (Standing.name isUse isName).join standing⟩
  | @part part _ _ _ noUse _ _ insideHypothesis inductionHypothesis =>
    obtain ⟨inside, insideStanding⟩ := insideHypothesis
    obtain ⟨position, standing⟩ := inductionHypothesis
    exact ⟨_, (insideStanding.mono fun use place free => free.among noUse).join standing⟩

/-- A name that is free in nodes laid out in tokens is the name of one of these. -/
theorem LaidOut.exists_names {parts : List Part} {tokens : List Token} {use : Use}
    {place : List Nat} (laidOut : LaidOut parts tokens) (free : FreeAmong parts use place) :
    ∃ token ∈ tokens, token.lexeme.Names use.name := by
  induction laidOut generalizing place with
  | nil =>
    obtain ⟨index, part, rest, isPart, _⟩ := free
    cases isPart
  | skip _ inductionHypothesis =>
    obtain ⟨token, member, names⟩ := inductionHypothesis free
    exact ⟨token, List.mem_cons_of_mem _ member, names⟩
  | name isUse isName _ inductionHypothesis =>
    obtain ⟨index, found, rest, isPart, rfl, free⟩ := free
    cases index with
    | zero =>
      cases isPart
      rw [(free.of_use isUse).2]
      exact ⟨_, List.mem_cons_self, isName⟩
    | succ index =>
      obtain ⟨token, member, names⟩ := inductionHypothesis ⟨index, found, rest, isPart, rfl, free⟩
      exact ⟨token, List.mem_cons_of_mem _ member, names⟩
  | part noUse _ _ insideHypothesis inductionHypothesis =>
    obtain ⟨index, found, rest, isPart, rfl, free⟩ := free
    cases index with
    | zero =>
      cases isPart
      obtain ⟨token, member, names⟩ := insideHypothesis (free.among noUse)
      exact ⟨token, List.mem_append_left _ member, names⟩
    | succ index =>
      obtain ⟨token, member, names⟩ := inductionHypothesis ⟨index, found, rest, isPart, rfl, free⟩
      exact ⟨token, List.mem_append_right _ member, names⟩

/-! ### Phrases -/

namespace Phrase

variable {MayStand : List Token → Prop}

theorem filterMap_declarations (name : String) (initial : Option Expr)
    (rest : List (String × Option Expr)) :
    ((name, initial) :: rest).filterMap (·.2) = initial.toList ++ rest.filterMap (·.2) := by
  cases initial <;> rfl

mutual

theorem Assignment.laidOut {expr : Expr} {phrase : List Token} :
    Assignment MayStand expr phrase → LaidOut [.ofExpr expr] phrase
  | .plain conditional => conditional.laidOut
  | .assign leftPhrase isTarget _ valuePhrase =>
    .single rfl ((leftPhrase.laidOut.target isTarget).append (.skip valuePhrase.laidOut))

theorem Conditional.laidOut {expr : Expr} {phrase : List Token} :
    Conditional MayStand expr phrase → LaidOut [.ofExpr expr] phrase
  | .plain binary => binary.laidOut
  | .choice conditionPhrase _ positivePhrase _ negativePhrase =>
    .single rfl (conditionPhrase.laidOut.append
      (.skip (positivePhrase.laidOut.append (.skip negativePhrase.laidOut))))

theorem Binary.laidOut {level : Nat} {expr : Expr} {phrase : List Token} :
    Binary MayStand level expr phrase → LaidOut [.ofExpr expr] phrase
  | .plain operand => operand.laidOut
  | .operation _ leftPhrase _ rightPhrase =>
    .single rfl (leftPhrase.laidOut.append (.skip rightPhrase.laidOut))

theorem Operand.laidOut {expr : Expr} {phrase : List Token} :
    Operand MayStand expr phrase → LaidOut [.ofExpr expr] phrase
  | .plain suffixed => suffixed.laidOut
  | .new _ suffixed => .skip suffixed.laidOut
  | .unary _ operand => .single rfl (.skip operand.laidOut)

theorem Suffixed.laidOut {expr : Expr} {phrase : List Token} :
    Suffixed MayStand expr phrase → LaidOut [.ofExpr expr] phrase
  | .plain primary => primary.laidOut
  | .member basePhrase _ _ => .single rfl (basePhrase.laidOut.before _)
  | .index basePhrase _ keyPhrase _ =>
    .single rfl (basePhrase.laidOut.append (.skip (keyPhrase.laidOut.before _)))
  | .callEmpty basePhrase _ _ => .single rfl (basePhrase.laidOut.before _)
  | .call basePhrase _ operandsPhrase _ =>
    .single rfl (basePhrase.laidOut.append (.skip (operandsPhrase.laidOut.before _)))

theorem Operands.laidOut {exprs : List Expr} {phrase : List Token} :
    Operands MayStand exprs phrase → LaidOut (exprs.map .ofExpr) phrase
  | .single assignment => assignment.laidOut
  | .cons assignment _ further => assignment.laidOut.append (.skip further.laidOut)

theorem Primary.laidOut {expr : Expr} {phrase : List Token} :
    Primary MayStand expr phrase → LaidOut [.ofExpr expr] phrase
  | .integer _ | .float _ | .string _ | .literalWord _ _ | .this _ | .arguments _ =>
    .leaf rfl rfl _
  | .hole isHole => .name rfl (by rw [isHole]; rfl) .nil
  | .variable isName _ => .name rfl (by rw [isName.1]; rfl) .nil
  | .parentheses _ inner _ => .skip (inner.laidOut.before _)
  | .array _ itemsPhrase _ => .single rfl (.skip (itemsPhrase.laidOut.before _))
  | .object _ entriesPhrase _ => .single rfl (.skip (entriesPhrase.laidOut.before _))
  | .function _ _ _ _ _ _ blockPhrase _ =>
    .single rfl (.skip (.behind _ (.skip (.behind _ (.skip (.skip
      (.single rfl (blockPhrase.laidOut.before _))))))))

theorem Items.laidOut {exprs : List Expr} {phrase : List Token} :
    Items MayStand exprs phrase → LaidOut (exprs.map .ofExpr) phrase
  | .nil => .nil
  | .last assignment => assignment.laidOut
  | .cons assignment _ further => assignment.laidOut.append (.skip further.laidOut)

theorem Entries.laidOut {entries : List (String × Expr)} {phrase : List Token} :
    Entries MayStand entries phrase → LaidOut (entries.map fun entry => .ofExpr entry.2) phrase
  | .nil => .nil
  | .last _ _ assignment => .skip (.skip assignment.laidOut)
  | .cons _ _ assignment _ further =>
    .skip (.skip (assignment.laidOut.append (.skip further.laidOut)))

theorem Block.laidOut {block : List Statement} {phrase : List Token} :
    Block MayStand block phrase → LaidOut (block.map .ofStatement) phrase
  | .nil => .nil
  | .cons statementPhrase further _ => statementPhrase.laidOut.append further.laidOut

theorem StatementPhrase.laidOut {ending : Ending} {statement : Statement} {phrase : List Token} :
    StatementPhrase MayStand ending statement phrase → LaidOut [.ofStatement statement] phrase
  | .empty _ => .leaf rfl rfl _
  | .block _ blockPhrase _ => .single rfl (.skip (blockPhrase.laidOut.before _))
  | .declare _ _ declarationsPhrase => .single rfl (.skip declarationsPhrase.laidOut)
  | .returnNothing _ _ => .leaf rfl rfl _
  | .return _ valuePhrase _ => .single rfl (.skip (valuePhrase.laidOut.before _))
  | .if _ _ conditionPhrase _ positivePhrase =>
    .single rfl (.skip (.skip (conditionPhrase.laidOut.append (.skip positivePhrase.laidOut))))
  | .ifElse _ _ conditionPhrase _ positivePhrase _ negativePhrase =>
    .single rfl (.skip (.skip (conditionPhrase.laidOut.append
      (.skip (positivePhrase.laidOut.append (.skip negativePhrase.laidOut))))))
  | .expression _ valuePhrase _ => .single rfl (valuePhrase.laidOut.before _)

theorem Declarations.laidOut {ending : Ending} {declarations : List (String × Option Expr)}
    {phrase : List Token} : Declarations MayStand ending declarations phrase →
      LaidOut ((declarations.filterMap (·.2)).map .ofExpr) phrase
  | .last _ initialPhrase _ => by
    rw [filterMap_declarations, List.map_append]
    exact .skip (initialPhrase.laidOut.append (.skipped _))
  | .cons _ initialPhrase _ further => by
    rw [filterMap_declarations, List.map_append]
    exact .skip (initialPhrase.laidOut.append (.skip further.laidOut))

theorem Initial.laidOut {initial : Option Expr} {phrase : List Token} :
    Initial MayStand initial phrase → LaidOut (initial.toList.map .ofExpr) phrase
  | .none => .nil
  | .some _ valuePhrase => .skip valuePhrase.laidOut

end

theorem statements_laidOut : ∀ bound,
    Reads (Grammar.statements bound) fun block phrase => LaidOut (block.map .ofStatement) phrase
  | 0 => fun _ => .exhausted
  | bound + 1 => by
    intro tokens
    rw [Grammar.statements]
    refine .peek ?_
    cases tokens with
    | nil => exact .pure ⟨[], rfl, .nil⟩
    | cons token others =>
      refine .bind ((sound bound).statement _) ?_
      rintro statement middle ⟨first, ending, same, statementPhrase, _⟩
      rw [same]
      refine .bind (statements_laidOut bound middle) ?_
      rintro statements rest ⟨second, rfl, laidOut⟩
      exact .pure ⟨first ++ second, by simp, statementPhrase.laidOut.append laidOut⟩

end Phrase

/-! ### Bodies -/

/-- The tokens that are read as a body are laid out as the body is. -/
theorem Body.laidOut_of_parse {code : String} {statements : Bool} {tokens : List Token}
    {body : Body} (parsed : Body.parse code statements tokens = .ok body) :
    LaidOut [.ofBody body] tokens := by
  cases statements with
  | true =>
    rw [Body.parse, if_pos rfl] at parsed
    obtain ⟨block, read, rfl⟩ := except_map_eq_ok.mp parsed
    exact .single rfl ((Phrase.statements_laidOut _).readAll read)
  | false =>
    rw [Body.parse, if_neg Bool.false_ne_true] at parsed
    obtain ⟨expr, read, rfl⟩ := except_map_eq_ok.mp parsed
    exact .single rfl (Expr.phrase_of_parse read).laidOut

end Shorthand
