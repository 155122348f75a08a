/-
This file evaluates functions by walking their trees, with names instead of slots.

A function carries the variables around it by name, the innermost first, so a name denotes what
the innermost function that declares it has for it. A call makes one new variable for every own
name. A name that no function around declares is left to the surroundings: a scene has a list of
their values, one for every use that is still ahead, and skips the values of the parts it leaves
out.
-/

import Shorthand.Call
import Shorthand.Proofs.Lexical.Use

namespace Shorthand

/-- The variables in sight by their names, the innermost first. -/
abbrev Environment : Type := List (String × VariableRef)

/-- A function that is kept as a tree with the variables around it and the values of the names left
to its surroundings, or one that had been kept as a routine before. -/
inductive NameClosure where
  | slots (closure : SlotClosure)
  | names (parameters : List String) (body : Body) (around : Environment)
      (globals : List Value)

/-- One call of a function: its context, its arguments, the variables in sight and the values of
the names left to the surroundings. -/
structure Scene where
  context : Value
  arguments : List Value
  environment : Environment
  globals : List Value

namespace Scene

/-- The names in sight. -/
def bound (scene : Scene) : List String := scene.environment.map Prod.fst

/-- The variable that a name denotes. -/
def cell (scene : Scene) (name : String) : VariableRef :=
  (scene.environment.lookup name).getD ⟨0⟩

/-- The scene after uses whose values are not needed any more. -/
def skip (scene : Scene) (uses : List Use) : Scene :=
  { scene with globals := scene.globals.drop uses.length }

end Scene

mutual

/-- The value of an expression. -/
def Expr.walk (machine : Machine NameClosure) (scene : Scene) : Expr → Action NameClosure Value
  | .literal value => Action.done (.ofLiteral value)
  | .variable name =>
    if scene.bound.contains name then
      Action.read fun heap => heap.readVariable (scene.cell name)
    else Action.done (scene.globals.headD .undefined)
  | .this => Action.done scene.context
  | .arguments => Action.newList scene.arguments.toArray
  | .array items => do Action.newList (← walkAll machine scene items).toArray
  | .object entries => do Action.newMap (← walkEntries machine scene Table.empty entries)
  | .member base name => do readProperty (← base.walk machine scene) (.string name)
  | .index base key => do
    let receiver ← base.walk machine scene
    let key ← key.walk machine (scene.skip (base.uses scene.bound))
    readProperty receiver key
  | .call callee operands =>
    let inside := scene.skip (listUses scene.bound operands)
    match callee with
    | .member base name => do
      let receiver ← base.walk machine inside
      let arguments ← walkAll machine scene operands
      Method.call machine receiver name arguments
    | .index base key => do
      let receiver ← base.walk machine inside
      let key ← key.walk machine (inside.skip (base.uses scene.bound))
      let arguments ← walkAll machine scene operands
      let name ← Action.readIf key.hasText key.rawText
      Method.call machine receiver name arguments
    | other => do
      let function ← other.walk machine inside
      let arguments ← walkAll machine scene operands
      machine.invoke function .undefined arguments
  | .unary operator operand => do
    let operand ← operand.walk machine scene
    Action.readIf (operand.unaryEnds · operator) (operand.unary · operator)
  | .binary operator left right => do
    let value ← left.walk machine scene
    let further := right.walk machine (scene.skip (left.uses scene.bound))
    match operator with
    | .and => if value.truthy then further else Action.done value
    | .or => if value.truthy then Action.done value else further
    | operator => do
      let other ← further
      Action.readIf (value.binaryEnds · operator other) (value.binary · operator other)
  | .conditional condition positive negative => do
    let value ← condition.walk machine scene
    let ahead := scene.skip (condition.uses scene.bound)
    if value.truthy then positive.walk machine ahead
    else negative.walk machine (ahead.skip (positive.uses scene.bound))
  | .assign operator target value =>
    let inside := scene.skip (value.uses scene.bound)
    match target with
    | .variable name => do
      let old ← Action.read fun heap => heap.readVariable (scene.cell name)
      let value ← value.walk machine scene
      let value ← Action.readIf (assignedEnds · operator old value) (assigned · operator old value)
      Action.writeVariable (scene.cell name) value
      Action.done value
    | .member base name => do
      let receiver ← base.walk machine inside
      let old ←
        if operator.isSome then readProperty receiver (.string name) else Action.done .undefined
      let value ← value.walk machine scene
      let value ← Action.readIf (assignedEnds · operator old value) (assigned · operator old value)
      writeProperty receiver (.string name) value
      Action.done value
    | .index base key => do
      let receiver ← base.walk machine inside
      let key ← key.walk machine (inside.skip (base.uses scene.bound))
      let old ← if operator.isSome then readProperty receiver key else Action.done .undefined
      let value ← value.walk machine scene
      let value ← Action.readIf (assignedEnds · operator old value) (assigned · operator old value)
      writeProperty receiver key value
      Action.done value
  | .function parameters body label =>
    Action.newClosure (.names parameters body scene.environment scene.globals)
      parameters.length label

/-- The values of expressions, in order. -/
def walkAll (machine : Machine NameClosure) (scene : Scene) :
    List Expr → Action NameClosure (List Value)
  | [] => Action.done []
  | item :: rest => do
    let value ← item.walk machine scene
    let values ← walkAll machine (scene.skip (item.uses scene.bound)) rest
    Action.done (value :: values)

/-- The table with the values of entries added to it, in order. -/
def walkEntries (machine : Machine NameClosure) (scene : Scene) (table : Table Value) :
    List (String × Expr) → Action NameClosure (Table Value)
  | [] => Action.done table
  | (key, value) :: rest => do
    let found ← value.walk machine scene
    walkEntries machine (scene.skip (value.uses scene.bound)) (table.insert key found) rest

end

/-- Gives declared names their initial values, in order. A name without one keeps its value. -/
def walkInitials (machine : Machine NameClosure) (scene : Scene) :
    List (String × Option Expr) → Action NameClosure Unit
  | [] => Action.done ()
  | (_, none) :: rest => walkInitials machine scene rest
  | (name, some value) :: rest => do
    let found ← value.walk machine scene
    Action.writeVariable (scene.cell name) found
    walkInitials machine (scene.skip (value.uses scene.bound)) rest

mutual

/-- Runs a statement and yields the value that it returns, if it returns one. -/
def Statement.walk (machine : Machine NameClosure) (scene : Scene) :
    Statement → Action NameClosure (Option Value)
  | .declare declarations => do
    walkInitials machine scene declarations
    Action.done none
  | .return none => Action.done (some .undefined)
  | .return (some value) => do
    let value ← value.walk machine scene
    Action.done (some value)
  | .if condition positive negative => do
    let value ← condition.walk machine scene
    let ahead := scene.skip (condition.uses scene.bound)
    if value.truthy then positive.walk machine ahead
    else walkAlternative machine (ahead.skip (positive.uses scene.bound)) negative
  | .block statements => walkBlock machine scene statements
  | .expression value => do
    let _ ← value.walk machine scene
    Action.done none
  | .empty => Action.done none

/-- Runs what stands after `else`. -/
def walkAlternative (machine : Machine NameClosure) (scene : Scene) :
    Option Statement → Action NameClosure (Option Value)
  | none => Action.done none
  | some statement => statement.walk machine scene

/-- Runs statements until one returns. -/
def walkBlock (machine : Machine NameClosure) (scene : Scene) :
    List Statement → Action NameClosure (Option Value)
  | [] => Action.done none
  | statement :: rest => do
    match ← statement.walk machine scene with
    | some value => Action.done (some value)
    | none => walkBlock machine (scene.skip (statement.uses scene.bound)) rest

end

/-- The result of a function body. Statements that do not return give `undefined`. -/
def Body.walk (machine : Machine NameClosure) (scene : Scene) :
    Body → Action NameClosure Value
  | .expression value => value.walk machine scene
  | .statements block => do return (← walkBlock machine scene block).getD .undefined

/-! ### Calls -/

/-- The value that a call gives to an own name: the argument at the position of the parameter of
that name, the last one of several, and `undefined` where there is no parameter or no argument. -/
def initialValue (name : String) : List String → List Value → Value
  | [], _ => .undefined
  | parameter :: rest, arguments =>
    if parameter = name ∧ name ∉ rest then arguments.headD .undefined
    else initialValue name rest arguments.tail

/-- The heap with new variables of some values, and the cells of these by the given names. -/
def Heap.newNamed (heap : Heap) (names : List String) (value : String → Value) :
    Environment × Heap :=
  (names.mapIdx fun index name => (name, ⟨heap.locals.size + index⟩),
    { heap with locals := heap.locals ++ (names.map value).toArray })

/-- The scene that a call begins with: a new variable for every own name in front of the variables
around the function. -/
def Scene.enter (parameters : List String) (body : Body) (around : Environment)
    (globals : List Value) (context : Value) (arguments : List Value) :
    Action NameClosure Scene :=
  Action.change fun heap =>
    let (own, heap) :=
      heap.newNamed (ownNames parameters body) fun name => initialValue name parameters arguments
    (⟨context, arguments, own ++ around, globals⟩, heap)

/-- Runs the tree of a function. -/
def NameClosure.run (machine : Machine NameClosure) (closure : NameClosure) (context : Value)
    (arguments : List Value) : Action NameClosure Value :=
  match closure with
  | .slots closure => closure.run machine context arguments
  | .names parameters body around globals => do
    let scene ← Scene.enter parameters body around globals context arguments
    body.walk machine scene

/-- A new function of a definition that stands alone, with the values of the names that it leaves
to its surroundings. -/
def Definition.keepNames (definition : Definition) : Action NameClosure Value := fun world =>
  match supply definition.label definition.uses world.heap with
  | .ok (globals, heap) =>
    Action.newClosure (.names definition.parameters definition.body [] globals)
      definition.parameters.length definition.label { world with heap }
  | .error error => (.failure (.compile error), world)

/-- Functions whose names are looked up when they are evaluated. -/
def namedEngine : Engine NameClosure := ⟨Definition.keepNames, .slots, NameClosure.run⟩

end Shorthand
