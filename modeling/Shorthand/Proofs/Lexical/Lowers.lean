/-
This file relates trees with names to resolved code.

The relation says what resolution amounts to without saying how slots come about: it takes the
finished names of the function at hand, the names in sight, and the values of the names that are
left to the surroundings, one for every use. A function has its own names in front and behind
them those that it captures, each with a slot of the function around.
-/

import Shorthand.Proofs.Lexical.Layers

namespace Shorthand

/-- A binary operator applied to resolved operands. -/
def Code.connect (operator : BinaryOperator) (left right : Code) : Code :=
  match operator with
  | .and => .and left right
  | .or => .or left right
  | operator => .binary operator left right

mutual

/-- An expression has the code, where some names have slots and some names are in sight. -/
inductive Expr.Lowers : List String → List String → Expr → List Value → Code → Prop where
  | literal {names bound : List String} {value : Literal} :
      Expr.Lowers names bound (.literal value) [] (.value (.ofLiteral value))
  | bound {names bound : List String} {name : String} {slot : Nat} (known : name ∈ bound)
      (found : names[slot]? = some name) :
      Expr.Lowers names bound (.variable name) [] (.slot slot)
  | global {names bound : List String} {name : String} {value : Value} (unknown : name ∉ bound) :
      Expr.Lowers names bound (.variable name) [value] (.value value)
  | this {names bound : List String} : Expr.Lowers names bound .this [] .this
  | arguments {names bound : List String} : Expr.Lowers names bound .arguments [] .arguments
  | array {names bound : List String} {items : List Expr} {globals : List Value}
      {codes : List Code} (lowered : AllLower names bound items globals codes) :
      Expr.Lowers names bound (.array items) globals (.array codes)
  | object {names bound : List String} {entries : List (String × Expr)} {globals : List Value}
      {codes : List (String × Code)} (lowered : EntriesLower names bound entries globals codes) :
      Expr.Lowers names bound (.object entries) globals (.object codes)
  | member {names bound : List String} {base : Expr} {name : String} {globals : List Value}
      {code : Code} (lowered : base.Lowers names bound globals code) :
      Expr.Lowers names bound (.member base name) globals
        (.property code (.value (.string name)))
  | index {names bound : List String} {base key : Expr} {first second : List Value}
      {baseCode keyCode : Code} (baseLowered : base.Lowers names bound first baseCode)
      (keyLowered : key.Lowers names bound second keyCode) :
      Expr.Lowers names bound (.index base key) (first ++ second) (.property baseCode keyCode)
  | callMember {names bound : List String} {base : Expr} {name : String} {operands : List Expr}
      {first second : List Value} {codes : List Code} {code : Code}
      (operandsLowered : AllLower names bound operands first codes)
      (lowered : base.Lowers names bound second code) :
      Expr.Lowers names bound (.call (.member base name) operands) (first ++ second)
        (.callMethod code (.value (.string name)) codes)
  | callIndex {names bound : List String} {base key : Expr} {operands : List Expr}
      {first second third : List Value} {codes : List Code} {baseCode keyCode : Code}
      (operandsLowered : AllLower names bound operands first codes)
      (baseLowered : base.Lowers names bound second baseCode)
      (keyLowered : key.Lowers names bound third keyCode) :
      Expr.Lowers names bound (.call (.index base key) operands) (first ++ (second ++ third))
        (.callMethod baseCode keyCode codes)
  | call {names bound : List String} {callee : Expr} {operands : List Expr}
      {first second : List Value} {codes : List Code} {code : Code}
      (noMember : ∀ base name, callee ≠ .member base name)
      (noIndex : ∀ base key, callee ≠ .index base key)
      (operandsLowered : AllLower names bound operands first codes)
      (lowered : callee.Lowers names bound second code) :
      Expr.Lowers names bound (.call callee operands) (first ++ second) (.call code codes)
  | unary {names bound : List String} {operator : UnaryOperator} {operand : Expr}
      {globals : List Value} {code : Code} (lowered : operand.Lowers names bound globals code) :
      Expr.Lowers names bound (.unary operator operand) globals (.unary operator code)
  | binary {names bound : List String} {operator : BinaryOperator} {left right : Expr}
      {first second : List Value} {leftCode rightCode : Code}
      (leftLowered : left.Lowers names bound first leftCode)
      (rightLowered : right.Lowers names bound second rightCode) :
      Expr.Lowers names bound (.binary operator left right) (first ++ second)
        (.connect operator leftCode rightCode)
  | conditional {names bound : List String} {condition positive negative : Expr}
      {first second third : List Value} {conditionCode positiveCode negativeCode : Code}
      (conditionLowered : condition.Lowers names bound first conditionCode)
      (positiveLowered : positive.Lowers names bound second positiveCode)
      (negativeLowered : negative.Lowers names bound third negativeCode) :
      Expr.Lowers names bound (.conditional condition positive negative)
        (first ++ (second ++ third)) (.conditional conditionCode positiveCode negativeCode)
  | assignVariable {names bound : List String} {operator : Option BinaryOperator}
      {name : String} {slot : Nat} {value : Expr} {globals : List Value} {code : Code}
      (lowered : value.Lowers names bound globals code) (known : name ∈ bound)
      (found : names[slot]? = some name) :
      Expr.Lowers names bound (.assign operator (.variable name) value) globals
        (.assignSlot operator slot code)
  | assignMember {names bound : List String} {operator : Option BinaryOperator} {base : Expr}
      {name : String} {value : Expr} {first second : List Value} {code baseCode : Code}
      (lowered : value.Lowers names bound first code)
      (baseLowered : base.Lowers names bound second baseCode) :
      Expr.Lowers names bound (.assign operator (.member base name) value) (first ++ second)
        (.assignProperty operator baseCode (.value (.string name)) code)
  | assignIndex {names bound : List String} {operator : Option BinaryOperator}
      {base key value : Expr} {first second third : List Value} {code baseCode keyCode : Code}
      (lowered : value.Lowers names bound first code)
      (baseLowered : base.Lowers names bound second baseCode)
      (keyLowered : key.Lowers names bound third keyCode) :
      Expr.Lowers names bound (.assign operator (.index base key) value)
        (first ++ (second ++ third)) (.assignProperty operator baseCode keyCode code)
  | function {names bound parameters : List String} {body : Body} {globals : List Value}
      {routine : Routine}
      (lowered : FunctionLowers names bound parameters body globals routine) :
      Expr.Lowers names bound (.function parameters body routine.label) globals
        (.function routine.parameterSlots routine.slotCount routine.captures routine.body
          routine.label)

/-- Codes of some expressions, with the values of their global names one after the other. -/
inductive AllLower : List String → List String → List Expr → List Value → List Code → Prop where
  | nil {names bound : List String} : AllLower names bound [] [] []
  | cons {names bound : List String} {item : Expr} {rest : List Expr}
      {first second : List Value} {code : Code} {codes : List Code}
      (lowered : item.Lowers names bound first code)
      (restLowered : AllLower names bound rest second codes) :
      AllLower names bound (item :: rest) (first ++ second) (code :: codes)

/-- Entries with the codes of their values. -/
inductive EntriesLower :
    List String → List String → List (String × Expr) → List Value → List (String × Code) → Prop
    where
  | nil {names bound : List String} : EntriesLower names bound [] [] []
  | cons {names bound : List String} {key : String} {value : Expr}
      {rest : List (String × Expr)} {first second : List Value} {code : Code}
      {codes : List (String × Code)} (lowered : value.Lowers names bound first code)
      (restLowered : EntriesLower names bound rest second codes) :
      EntriesLower names bound ((key, value) :: rest) (first ++ second) ((key, code) :: codes)

/-- The step of a statement, with the values of its global names. -/
inductive Statement.Lowers :
    List String → List String → Statement → List Value → Step → Prop where
  | declare {names bound : List String} {declarations : List (String × Option Expr)}
      {globals : List Value} {codes : List (Nat × Code)}
      (lowered : InitialsLower names bound declarations globals codes) :
      Statement.Lowers names bound (.declare declarations) globals (.define codes)
  | returnNothing {names bound : List String} :
      Statement.Lowers names bound (.return none) [] (.return none)
  | return {names bound : List String} {value : Expr} {globals : List Value} {code : Code}
      (lowered : value.Lowers names bound globals code) :
      Statement.Lowers names bound (.return (some value)) globals (.return (some code))
  | if {names bound : List String} {condition : Expr} {positive : Statement}
      {negative : Option Statement} {first second third : List Value} {conditionCode : Code}
      {positiveStep : Step} {negativeStep : Option Step}
      (conditionLowered : condition.Lowers names bound first conditionCode)
      (positiveLowered : positive.Lowers names bound second positiveStep)
      (negativeLowered : AlternativeLowers names bound negative third negativeStep) :
      Statement.Lowers names bound (.if condition positive negative)
        (first ++ (second ++ third)) (.if conditionCode positiveStep negativeStep)
  | block {names bound : List String} {statements : List Statement} {globals : List Value}
      {steps : List Step} (lowered : BlockLowers names bound statements globals steps) :
      Statement.Lowers names bound (.block statements) globals (.block steps)
  | expression {names bound : List String} {value : Expr} {globals : List Value} {code : Code}
      (lowered : value.Lowers names bound globals code) :
      Statement.Lowers names bound (.expression value) globals (.evaluate code)
  | empty {names bound : List String} : Statement.Lowers names bound .empty [] (.block [])

/-- The slots of declared names with the codes of their initial values. -/
inductive InitialsLower :
    List String → List String → List (String × Option Expr) → List Value → List (Nat × Code) →
      Prop where
  | nil {names bound : List String} : InitialsLower names bound [] [] []
  | absent {names bound : List String} {name : String} {rest : List (String × Option Expr)}
      {globals : List Value} {codes : List (Nat × Code)}
      (restLowered : InitialsLower names bound rest globals codes) :
      InitialsLower names bound ((name, none) :: rest) globals codes
  | present {names bound : List String} {name : String} {slot : Nat} {value : Expr}
      {rest : List (String × Option Expr)} {first second : List Value} {code : Code}
      {codes : List (Nat × Code)} (known : name ∈ bound) (found : names[slot]? = some name)
      (lowered : value.Lowers names bound first code)
      (restLowered : InitialsLower names bound rest second codes) :
      InitialsLower names bound ((name, some value) :: rest) (first ++ second)
        ((slot, code) :: codes)

/-- The step of an alternative, if there is one. -/
inductive AlternativeLowers :
    List String → List String → Option Statement → List Value → Option Step → Prop where
  | none {names bound : List String} : AlternativeLowers names bound none [] none
  | some {names bound : List String} {statement : Statement} {globals : List Value}
      {step : Step} (lowered : statement.Lowers names bound globals step) :
      AlternativeLowers names bound (some statement) globals (some step)

/-- The steps of the statements of a block. -/
inductive BlockLowers :
    List String → List String → List Statement → List Value → List Step → Prop where
  | nil {names bound : List String} : BlockLowers names bound [] [] []
  | cons {names bound : List String} {statement : Statement} {rest : List Statement}
      {first second : List Value} {step : Step} {steps : List Step}
      (lowered : statement.Lowers names bound first step)
      (restLowered : BlockLowers names bound rest second steps) :
      BlockLowers names bound (statement :: rest) (first ++ second) (step :: steps)

/-- The code of a body. -/
inductive Body.Lowers : List String → List String → Body → List Value → CodeBody → Prop where
  | expression {names bound : List String} {value : Expr} {globals : List Value} {code : Code}
      (lowered : value.Lowers names bound globals code) :
      Body.Lowers names bound (.expression value) globals (.expression code)
  | statements {names bound : List String} {block : List Statement} {globals : List Value}
      {steps : List Step} (lowered : BlockLowers names bound block globals steps) :
      Body.Lowers names bound (.statements block) globals (.steps steps)

/-- A function has the routine: its body is resolved where its own names come first, in the slots
as well as in sight. -/
inductive FunctionLowers :
    List String → List String → List String → Body → List Value → Routine → Prop where
  | intro {names bound parameters captured : List String} {body : Body} {globals : List Value}
      {scope : Scope} {code : CodeBody} {label : String}
      (extension : scope.Extends (ownNames parameters body) names captured)
      (lowered : body.Lowers scope.names (ownNames parameters body ++ bound) globals code) :
      FunctionLowers names bound parameters body globals
        ⟨parameters.map fun name => (ownNames parameters body).idxOf name, scope.names.length,
          scope.captures, code, label⟩

end

/-! ### One value for every use -/

mutual

theorem Expr.Lowers.length_eq {names bound : List String} {expr : Expr} {globals : List Value}
    {code : Code} : expr.Lowers names bound globals code → globals.length = (expr.uses bound).length
  | .literal => rfl
  | .bound known _ => by rw [Expr.uses, List.contains_iff_mem.mpr known]; rfl
  | .global unknown => by rw [Expr.uses, if_neg (mt List.contains_iff_mem.mp unknown)]; rfl
  | .this => rfl
  | .arguments => rfl
  | .array lowered => by rw [Expr.uses, lowered.length_eq]
  | .object lowered => by rw [Expr.uses, lowered.length_eq]
  | .member lowered => by rw [Expr.uses, lowered.length_eq]
  | .index baseLowered keyLowered => by
    rw [Expr.uses, List.length_append, List.length_append, baseLowered.length_eq,
      keyLowered.length_eq]
  | .callMember operandsLowered lowered => by
    rw [Expr.uses, Expr.uses, List.length_append, List.length_append, operandsLowered.length_eq,
      lowered.length_eq]
  | .callIndex operandsLowered baseLowered keyLowered => by
    rw [Expr.uses, Expr.uses, List.length_append, List.length_append, List.length_append,
      List.length_append, operandsLowered.length_eq, baseLowered.length_eq, keyLowered.length_eq]
  | .call _ _ operandsLowered lowered => by
    rw [Expr.uses, List.length_append, List.length_append, operandsLowered.length_eq,
      lowered.length_eq]
  | .unary lowered => by rw [Expr.uses, lowered.length_eq]
  | .binary leftLowered rightLowered => by
    rw [Expr.uses, List.length_append, List.length_append, leftLowered.length_eq,
      rightLowered.length_eq]
  | .conditional conditionLowered positiveLowered negativeLowered => by
    rw [Expr.uses, List.append_assoc, List.length_append, List.length_append, List.length_append,
      List.length_append, conditionLowered.length_eq, positiveLowered.length_eq,
      negativeLowered.length_eq]
  | .assignVariable lowered known _ => by
    rw [Expr.uses, Target.uses, List.contains_iff_mem.mpr known, if_pos rfl, List.append_nil,
      lowered.length_eq]
  | .assignMember lowered baseLowered => by
    rw [Expr.uses, Target.uses, List.length_append, List.length_append, lowered.length_eq,
      baseLowered.length_eq]
  | .assignIndex lowered baseLowered keyLowered => by
    rw [Expr.uses, Target.uses, List.length_append, List.length_append, List.length_append,
      List.length_append, lowered.length_eq, baseLowered.length_eq, keyLowered.length_eq]
  | .function lowered => by rw [Expr.uses, lowered.length_eq]

theorem AllLower.length_eq {names bound : List String} {items : List Expr} {globals : List Value}
    {codes : List Code} :
    AllLower names bound items globals codes → globals.length = (listUses bound items).length
  | .nil => rfl
  | .cons lowered restLowered => by
    rw [listUses, List.length_append, List.length_append, lowered.length_eq,
      restLowered.length_eq]

theorem EntriesLower.length_eq {names bound : List String} {entries : List (String × Expr)}
    {globals : List Value} {codes : List (String × Code)} :
    EntriesLower names bound entries globals codes →
      globals.length = (entryUses bound entries).length
  | .nil => rfl
  | .cons lowered restLowered => by
    rw [entryUses, List.length_append, List.length_append, lowered.length_eq,
      restLowered.length_eq]

theorem Statement.Lowers.length_eq {names bound : List String} {statement : Statement}
    {globals : List Value} {step : Step} :
    statement.Lowers names bound globals step →
      globals.length = (statement.uses bound).length
  | .declare lowered => by rw [Statement.uses, lowered.length_eq]
  | .returnNothing => rfl
  | .return lowered => by rw [Statement.uses, lowered.length_eq]
  | .if conditionLowered positiveLowered negativeLowered => by
    rw [Statement.uses, List.append_assoc, List.length_append, List.length_append,
      List.length_append, List.length_append, conditionLowered.length_eq,
      positiveLowered.length_eq, negativeLowered.length_eq]
  | .block lowered => by rw [Statement.uses, lowered.length_eq]
  | .expression lowered => by rw [Statement.uses, lowered.length_eq]
  | .empty => rfl

theorem InitialsLower.length_eq {names bound : List String}
    {declarations : List (String × Option Expr)} {globals : List Value}
    {codes : List (Nat × Code)} :
    InitialsLower names bound declarations globals codes →
      globals.length = (initialUses bound declarations).length
  | .nil => rfl
  | .absent restLowered => by rw [initialUses, restLowered.length_eq]
  | .present _ _ lowered restLowered => by
    rw [initialUses, List.length_append, List.length_append, lowered.length_eq,
      restLowered.length_eq]

theorem AlternativeLowers.length_eq {names bound : List String}
    {alternative : Option Statement} {globals : List Value} {step : Option Step} :
    AlternativeLowers names bound alternative globals step →
      globals.length = (alternativeUses bound alternative).length
  | .none => rfl
  | .some lowered => by rw [alternativeUses, lowered.length_eq]

theorem BlockLowers.length_eq {names bound : List String} {block : List Statement}
    {globals : List Value} {steps : List Step} :
    BlockLowers names bound block globals steps →
      globals.length = (blockUses bound block).length
  | .nil => rfl
  | .cons lowered restLowered => by
    rw [blockUses, List.length_append, List.length_append, lowered.length_eq,
      restLowered.length_eq]

theorem Body.Lowers.length_eq {names bound : List String} {body : Body} {globals : List Value}
    {code : CodeBody} :
    body.Lowers names bound globals code → globals.length = (body.uses bound).length
  | .expression lowered => by rw [Body.uses, lowered.length_eq]
  | .statements lowered => by rw [Body.uses, lowered.length_eq]

theorem FunctionLowers.length_eq {names bound parameters : List String} {body : Body}
    {globals : List Value} {routine : Routine} :
    FunctionLowers names bound parameters body globals routine →
      globals.length = (body.uses (ownNames parameters body ++ bound)).length
  | .intro _ lowered => lowered.length_eq

end

end Shorthand
