/-
This file lists the variables and the functions that stand in the body of a function.

They are listed from left to right, for a source and for its code alike. A function inside is listed
as a whole, since what stands in it has slots of its own. Code that a source is lowered to has the
same list as the source: a slot with the name where the source has a name in sight, and a routine
where the source has a function. Global names are not listed, as they have no slots.
-/

import Shorthand.Proofs.Lexical.Lowers

namespace Shorthand

/-- A variable or a function that stands in the body of a function. -/
inductive Mention (Variable Function : Type) where
  | variable (name : Variable)
  | function (function : Function)

/-! ### Sources -/

mutual

/-- The names in sight and the functions that stand in an expression. -/
def Expr.mentions (bound : List String) : Expr → List (Mention String (List String × Body))
  | .literal _ => []
  | .variable name => if bound.contains name then [.variable name] else []
  | .this => []
  | .arguments => []
  | .array items => listMentions bound items
  | .object entries => entryMentions bound entries
  | .member base _ => base.mentions bound
  | .index base key => base.mentions bound ++ key.mentions bound
  | .call callee operands => callee.mentions bound ++ listMentions bound operands
  | .unary _ operand => operand.mentions bound
  | .binary _ left right => left.mentions bound ++ right.mentions bound
  | .conditional condition positive negative =>
    condition.mentions bound ++ (positive.mentions bound ++ negative.mentions bound)
  | .assign _ target value => target.mentions bound ++ value.mentions bound
  | .function parameters body _ => [.function (parameters, body)]

/-- What some expressions mention. -/
def listMentions (bound : List String) : List Expr → List (Mention String (List String × Body))
  | [] => []
  | item :: rest => item.mentions bound ++ listMentions bound rest

/-- What the values of some entries mention. -/
def entryMentions (bound : List String) :
    List (String × Expr) → List (Mention String (List String × Body))
  | [] => []
  | (_, value) :: rest => value.mentions bound ++ entryMentions bound rest

/-- What is mentioned in what is assigned to. -/
def Target.mentions (bound : List String) : Target → List (Mention String (List String × Body))
  | .variable name => if bound.contains name then [.variable name] else []
  | .member base _ => base.mentions bound
  | .index base key => base.mentions bound ++ key.mentions bound

/-- What a statement mentions. -/
def Statement.mentions (bound : List String) :
    Statement → List (Mention String (List String × Body))
  | .declare declarations => initialMentions bound declarations
  | .return none => []
  | .return (some value) => value.mentions bound
  | .if condition positive negative =>
    condition.mentions bound ++ (positive.mentions bound ++ alternativeMentions bound negative)
  | .block statements => blockMentions bound statements
  | .expression value => value.mentions bound
  | .empty => []

/-- A declaration writes to its name if it gives it a value. -/
def initialMentions (bound : List String) :
    List (String × Option Expr) → List (Mention String (List String × Body))
  | [] => []
  | (_, none) :: rest => initialMentions bound rest
  | (name, some value) :: rest =>
    .variable name :: (value.mentions bound ++ initialMentions bound rest)

/-- What an alternative mentions, if there is one. -/
def alternativeMentions (bound : List String) :
    Option Statement → List (Mention String (List String × Body))
  | none => []
  | some statement => statement.mentions bound

/-- What the statements of a block mention. -/
def blockMentions (bound : List String) :
    List Statement → List (Mention String (List String × Body))
  | [] => []
  | statement :: rest => statement.mentions bound ++ blockMentions bound rest

/-- What a body mentions. -/
def Body.mentions (bound : List String) : Body → List (Mention String (List String × Body))
  | .expression value => value.mentions bound
  | .statements block => blockMentions bound block

end

/-! ### Code -/

mutual

/-- The slots that an expression reads or writes and the functions that stand in it. -/
def Code.mentions : Code → List (Mention Nat Routine)
  | .value _ => []
  | .slot slot => [.variable slot]
  | .this => []
  | .arguments => []
  | .array items => codeListMentions items
  | .object entries => codeEntryMentions entries
  | .property base key => base.mentions ++ key.mentions
  | .call callee operands => callee.mentions ++ codeListMentions operands
  | .callMethod receiver key operands =>
    receiver.mentions ++ key.mentions ++ codeListMentions operands
  | .unary _ operand => operand.mentions
  | .binary _ left right => left.mentions ++ right.mentions
  | .and left right => left.mentions ++ right.mentions
  | .or left right => left.mentions ++ right.mentions
  | .conditional condition positive negative =>
    condition.mentions ++ (positive.mentions ++ negative.mentions)
  | .assignSlot _ slot value => .variable slot :: value.mentions
  | .assignProperty _ base key value => base.mentions ++ key.mentions ++ value.mentions
  | .function parameterSlots slotCount captures body label =>
    [.function ⟨parameterSlots, slotCount, captures, body, label⟩]

/-- What some codes mention. -/
def codeListMentions : List Code → List (Mention Nat Routine)
  | [] => []
  | item :: rest => item.mentions ++ codeListMentions rest

/-- What the codes of some entries mention. -/
def codeEntryMentions : List (String × Code) → List (Mention Nat Routine)
  | [] => []
  | (_, value) :: rest => value.mentions ++ codeEntryMentions rest

end

/-- The slots that are given values, and what the codes of these mention. -/
def slotMentions : List (Nat × Code) → List (Mention Nat Routine)
  | [] => []
  | (slot, value) :: rest => .variable slot :: (value.mentions ++ slotMentions rest)

mutual

/-- What a step mentions. -/
def Step.mentions : Step → List (Mention Nat Routine)
  | .define values => slotMentions values
  | .return none => []
  | .return (some value) => value.mentions
  | .if condition positive negative =>
    condition.mentions ++ (positive.mentions ++ stepAlternativeMentions negative)
  | .block steps => stepListMentions steps
  | .evaluate value => value.mentions

/-- What the step of an alternative mentions, if there is one. -/
def stepAlternativeMentions : Option Step → List (Mention Nat Routine)
  | none => []
  | some step => step.mentions

/-- What some steps mention. -/
def stepListMentions : List Step → List (Mention Nat Routine)
  | [] => []
  | step :: rest => step.mentions ++ stepListMentions rest

end

/-- What a compiled body mentions. -/
def CodeBody.mentions : CodeBody → List (Mention Nat Routine)
  | .expression value => value.mentions
  | .steps block => stepListMentions block

theorem Code.mentions_connect (operator : BinaryOperator) (left right : Code) :
    (Code.connect operator left right).mentions = left.mentions ++ right.mentions := by
  cases operator <;> rfl

/-! ### Lowering -/

/-- Whatever stands in the second of two lists that go together has something beside it in the
first. -/
theorem exists_beside {α β : Type} {related : α → β → Prop} {first : List α} {second : List β}
    (together : List.Forall₂ related first second) {right : β} (member : right ∈ second) :
    ∃ left, (left, right) ∈ first.zip second ∧ related left right := by
  obtain ⟨index, bound, rfl⟩ := List.mem_iff_getElem.mp member
  have inFirst : index < first.length := together.length_eq ▸ bound
  have inBoth : index < (first.zip second).length := by
    rw [List.length_zip]
    exact Nat.lt_min.mpr ⟨inFirst, bound⟩
  have beside : (first[index], second[index]) ∈ first.zip second :=
    List.getElem_zip ▸ List.getElem_mem inBoth
  exact ⟨first[index], beside, List.forall₂_zip together beside⟩

/-- What stands in a source and what stands for it in the code, where slots have some names and some
names are in sight. -/
inductive Mention.Lowers (names bound : List String) :
    Mention String (List String × Body) → Mention Nat Routine → Prop where
  | variable {name : String} {slot : Nat} (found : names[slot]? = some name) :
      Mention.Lowers names bound (.variable name) (.variable slot)
  | function {parameters : List String} {body : Body} {globals : List Value} {routine : Routine}
      (lowered : FunctionLowers names bound parameters body globals routine) :
      Mention.Lowers names bound (.function (parameters, body)) (.function routine)

mutual

/-- Code has a slot for every name in sight and a routine for every function. -/
theorem Expr.Lowers.mentions {names bound : List String} {expr : Expr} {globals : List Value}
    {code : Code} : expr.Lowers names bound globals code →
      List.Forall₂ (Mention.Lowers names bound) (expr.mentions bound) code.mentions
  | .literal => .nil
  | .bound known found => by
    rw [Expr.mentions, List.contains_iff_mem.mpr known]
    exact .cons (.variable found) .nil
  | .global unknown => by
    rw [Expr.mentions, if_neg (mt List.contains_iff_mem.mp unknown)]
    exact .nil
  | .this => .nil
  | .arguments => .nil
  | .array lowered => lowered.mentions
  | .object lowered => lowered.mentions
  | .member lowered => by
    rw [Expr.mentions, Code.mentions, Code.mentions, List.append_nil]
    exact lowered.mentions
  | .index baseLowered keyLowered => List.rel_append baseLowered.mentions keyLowered.mentions
  | .callMember operandsLowered lowered => by
    rw [Expr.mentions, Expr.mentions, Code.mentions, Code.mentions, List.append_nil]
    exact List.rel_append lowered.mentions operandsLowered.mentions
  | .callIndex operandsLowered baseLowered keyLowered =>
    List.rel_append (List.rel_append baseLowered.mentions keyLowered.mentions)
      operandsLowered.mentions
  | .call _ _ operandsLowered lowered =>
    List.rel_append lowered.mentions operandsLowered.mentions
  | .unary lowered => lowered.mentions
  | .binary leftLowered rightLowered => by
    rw [Expr.mentions, Code.mentions_connect]
    exact List.rel_append leftLowered.mentions rightLowered.mentions
  | .conditional conditionLowered positiveLowered negativeLowered =>
    List.rel_append conditionLowered.mentions
      (List.rel_append positiveLowered.mentions negativeLowered.mentions)
  | .assignVariable lowered known found => by
    rw [Expr.mentions, Target.mentions, List.contains_iff_mem.mpr known]
    exact .cons (.variable found) lowered.mentions
  | .assignMember lowered baseLowered => by
    rw [Expr.mentions, Target.mentions, Code.mentions, Code.mentions, List.append_nil]
    exact List.rel_append baseLowered.mentions lowered.mentions
  | .assignIndex lowered baseLowered keyLowered =>
    List.rel_append (List.rel_append baseLowered.mentions keyLowered.mentions) lowered.mentions
  | .function lowered => .cons (.function lowered) .nil

theorem AllLower.mentions {names bound : List String} {items : List Expr} {globals : List Value}
    {codes : List Code} : AllLower names bound items globals codes →
      List.Forall₂ (Mention.Lowers names bound) (listMentions bound items) (codeListMentions codes)
  | .nil => .nil
  | .cons lowered restLowered => List.rel_append lowered.mentions restLowered.mentions

theorem EntriesLower.mentions {names bound : List String} {entries : List (String × Expr)}
    {globals : List Value} {codes : List (String × Code)} :
    EntriesLower names bound entries globals codes →
      List.Forall₂ (Mention.Lowers names bound) (entryMentions bound entries)
        (codeEntryMentions codes)
  | .nil => .nil
  | .cons lowered restLowered => List.rel_append lowered.mentions restLowered.mentions

theorem InitialsLower.mentions {names bound : List String}
    {declarations : List (String × Option Expr)} {globals : List Value}
    {codes : List (Nat × Code)} :
    InitialsLower names bound declarations globals codes →
      List.Forall₂ (Mention.Lowers names bound) (initialMentions bound declarations)
        (slotMentions codes)
  | .nil => .nil
  | .absent restLowered => restLowered.mentions
  | .present _ found lowered restLowered =>
    .cons (.variable found) (List.rel_append lowered.mentions restLowered.mentions)

end

mutual

theorem Statement.Lowers.mentions {names bound : List String} {statement : Statement}
    {globals : List Value} {step : Step} : statement.Lowers names bound globals step →
      List.Forall₂ (Mention.Lowers names bound) (statement.mentions bound) step.mentions
  | .declare lowered => lowered.mentions
  | .returnNothing => .nil
  | .return lowered => lowered.mentions
  | .if conditionLowered positiveLowered negativeLowered =>
    List.rel_append conditionLowered.mentions
      (List.rel_append positiveLowered.mentions negativeLowered.mentions)
  | .block lowered => lowered.mentions
  | .expression lowered => lowered.mentions
  | .empty => .nil

theorem AlternativeLowers.mentions {names bound : List String} {alternative : Option Statement}
    {globals : List Value} {step : Option Step} :
    AlternativeLowers names bound alternative globals step →
      List.Forall₂ (Mention.Lowers names bound) (alternativeMentions bound alternative)
        (stepAlternativeMentions step)
  | .none => .nil
  | .some lowered => lowered.mentions

theorem BlockLowers.mentions {names bound : List String} {block : List Statement}
    {globals : List Value} {steps : List Step} : BlockLowers names bound block globals steps →
      List.Forall₂ (Mention.Lowers names bound) (blockMentions bound block)
        (stepListMentions steps)
  | .nil => .nil
  | .cons lowered restLowered => List.rel_append lowered.mentions restLowered.mentions

end

theorem Body.Lowers.mentions {names bound : List String} {body : Body} {globals : List Value}
    {code : CodeBody} (lowered : body.Lowers names bound globals code) :
    List.Forall₂ (Mention.Lowers names bound) (body.mentions bound) code.mentions := by
  cases lowered with
  | expression lowered => exact lowered.mentions
  | statements lowered => exact lowered.mentions

end Shorthand
