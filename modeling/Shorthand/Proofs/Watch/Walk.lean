/-
This file evaluates functions by walking their trees, and records what happens to variables.

The walk is that of functions with names. The record says for every occurrence of a name that is
evaluated which name it was, where it was in sight and which value came of it, and it says whenever
a variable gets a value. It is kept beside the first closure of a world, since a world has one
whenever a function runs.
-/

import Shorthand.Proofs.Lexical.Walk

namespace Shorthand

/-- The variable that a name denotes. -/
def Environment.cell (environment : Environment) (name : String) : VariableRef :=
  (environment.lookup name).getD ⟨0⟩

/-- What happens to the variable of a name in sight. -/
inductive Access where
  /-- An occurrence of the name is evaluated. -/
  | evaluated (environment : Environment) (name : String) (value : Value)
  /-- The variable gets a value: as its call begins, from its declaration or by an assignment. -/
  | given (environment : Environment) (name : String)

/-- The variable that an access is about. -/
def Access.cell : Access → VariableRef
  | .evaluated environment name _ => environment.cell name
  | .given environment name => environment.cell name

/-- A function with names, and a record of what has happened to variables. -/
structure WatchedClosure where
  closure : NameClosure
  record : List Access

/-- What has happened to variables so far. -/
def World.record (world : World WatchedClosure) : List Access :=
  (world.closures[0]?.map (·.record)).getD []

/-- Adds to the record. -/
def Action.note (accesses : List Access) : Action WatchedClosure Unit := fun ⟨heap, closures⟩ =>
  (.value (), ⟨heap, closures.modify 0 fun first =>
    { first with record := first.record ++ accesses }⟩)

namespace Scene

/-- The value of the variable that a name denotes. -/
def evaluate (scene : Scene) (name : String) : Action WatchedClosure Value := do
  let value ← Action.read fun heap => heap.readVariable (scene.cell name)
  Action.note [.evaluated scene.environment name value]
  Action.done value

/-- The old value of a variable that is assigned to. The name is evaluated if there is an operator
that takes the value. -/
def oldValue (scene : Scene) (operator : Option BinaryOperator) (name : String) :
    Action WatchedClosure Value :=
  if operator.isSome then scene.evaluate name
  else Action.read fun heap => heap.readVariable (scene.cell name)

/-- Gives a value to the variable that a name denotes. -/
def give (scene : Scene) (name : String) (value : Value) : Action WatchedClosure Unit := do
  Action.writeVariable (scene.cell name) value
  Action.note [.given scene.environment name]

end Scene

mutual

/-- The value of an expression. -/
def Expr.watch (machine : Machine WatchedClosure) (scene : Scene) :
    Expr → Action WatchedClosure Value
  | .literal value => Action.done (.ofLiteral value)
  | .variable name =>
    if scene.bound.contains name then scene.evaluate name
    else Action.done (scene.globals.headD .undefined)
  | .this => Action.done scene.context
  | .arguments => Action.newList scene.arguments.toArray
  | .array items => do Action.newList (← watchAll machine scene items).toArray
  | .object entries => do Action.newMap (← watchEntries machine scene Table.empty entries)
  | .member base name => do readProperty (← base.watch machine scene) (.string name)
  | .index base key => do
    let receiver ← base.watch machine scene
    let key ← key.watch machine (scene.skip (base.uses scene.bound))
    readProperty receiver key
  | .call callee operands =>
    let inside := scene.skip (listUses scene.bound operands)
    match callee with
    | .member base name => do
      let receiver ← base.watch machine inside
      let arguments ← watchAll machine scene operands
      Method.call machine receiver name arguments
    | .index base key => do
      let receiver ← base.watch machine inside
      let key ← key.watch machine (inside.skip (base.uses scene.bound))
      let arguments ← watchAll machine scene operands
      let name ← Action.readIf key.hasText key.rawText
      Method.call machine receiver name arguments
    | other => do
      let function ← other.watch machine inside
      let arguments ← watchAll machine scene operands
      machine.invoke function .undefined arguments
  | .unary operator operand => do
    let operand ← operand.watch machine scene
    Action.readIf (operand.unaryEnds · operator) (operand.unary · operator)
  | .binary operator left right => do
    let value ← left.watch machine scene
    let further := right.watch machine (scene.skip (left.uses scene.bound))
    match operator with
    | .and => if value.truthy then further else Action.done value
    | .or => if value.truthy then Action.done value else further
    | operator => do
      let other ← further
      Action.readIf (value.binaryEnds · operator other) (value.binary · operator other)
  | .conditional condition positive negative => do
    let value ← condition.watch machine scene
    let ahead := scene.skip (condition.uses scene.bound)
    if value.truthy then positive.watch machine ahead
    else negative.watch machine (ahead.skip (positive.uses scene.bound))
  | .assign operator target value =>
    let inside := scene.skip (value.uses scene.bound)
    match target with
    | .variable name => do
      let old ← scene.oldValue operator name
      let value ← value.watch machine scene
      let value ← Action.readIf (assignedEnds · operator old value) (assigned · operator old value)
      scene.give name value
      Action.done value
    | .member base name => do
      let receiver ← base.watch machine inside
      let old ←
        if operator.isSome then readProperty receiver (.string name) else Action.done .undefined
      let value ← value.watch machine scene
      let value ← Action.readIf (assignedEnds · operator old value) (assigned · operator old value)
      writeProperty receiver (.string name) value
      Action.done value
    | .index base key => do
      let receiver ← base.watch machine inside
      let key ← key.watch machine (inside.skip (base.uses scene.bound))
      let old ← if operator.isSome then readProperty receiver key else Action.done .undefined
      let value ← value.watch machine scene
      let value ← Action.readIf (assignedEnds · operator old value) (assigned · operator old value)
      writeProperty receiver key value
      Action.done value
  | .function parameters body label =>
    Action.newClosure ⟨.names parameters body scene.environment scene.globals, []⟩
      parameters.length label

/-- The values of expressions, in order. -/
def watchAll (machine : Machine WatchedClosure) (scene : Scene) :
    List Expr → Action WatchedClosure (List Value)
  | [] => Action.done []
  | item :: rest => do
    let value ← item.watch machine scene
    let values ← watchAll machine (scene.skip (item.uses scene.bound)) rest
    Action.done (value :: values)

/-- The table with the values of entries added to it, in order. -/
def watchEntries (machine : Machine WatchedClosure) (scene : Scene) (table : Table Value) :
    List (String × Expr) → Action WatchedClosure (Table Value)
  | [] => Action.done table
  | (key, value) :: rest => do
    let found ← value.watch machine scene
    watchEntries machine (scene.skip (value.uses scene.bound)) (table.insert key found) rest

end

/-- Gives declared names their initial values, in order. A name without one keeps its value. -/
def watchInitials (machine : Machine WatchedClosure) (scene : Scene) :
    List (String × Option Expr) → Action WatchedClosure Unit
  | [] => Action.done ()
  | (_, none) :: rest => watchInitials machine scene rest
  | (name, some value) :: rest => do
    let found ← value.watch machine scene
    scene.give name found
    watchInitials machine (scene.skip (value.uses scene.bound)) rest

mutual

/-- Runs a statement and yields the value that it returns, if it returns one. -/
def Statement.watch (machine : Machine WatchedClosure) (scene : Scene) :
    Statement → Action WatchedClosure (Option Value)
  | .declare declarations => do
    watchInitials machine scene declarations
    Action.done none
  | .return none => Action.done (some .undefined)
  | .return (some value) => do
    let value ← value.watch machine scene
    Action.done (some value)
  | .if condition positive negative => do
    let value ← condition.watch machine scene
    let ahead := scene.skip (condition.uses scene.bound)
    if value.truthy then positive.watch machine ahead
    else watchAlternative machine (ahead.skip (positive.uses scene.bound)) negative
  | .block statements => watchBlock machine scene statements
  | .expression value => do
    let _ ← value.watch machine scene
    Action.done none
  | .empty => Action.done none

/-- Runs what stands after `else`. -/
def watchAlternative (machine : Machine WatchedClosure) (scene : Scene) :
    Option Statement → Action WatchedClosure (Option Value)
  | none => Action.done none
  | some statement => statement.watch machine scene

/-- Runs statements until one returns. -/
def watchBlock (machine : Machine WatchedClosure) (scene : Scene) :
    List Statement → Action WatchedClosure (Option Value)
  | [] => Action.done none
  | statement :: rest => do
    match ← statement.watch machine scene with
    | some value => Action.done (some value)
    | none => watchBlock machine (scene.skip (statement.uses scene.bound)) rest

end

/-- The result of a function body. Statements that do not return give `undefined`. -/
def Body.watch (machine : Machine WatchedClosure) (scene : Scene) :
    Body → Action WatchedClosure Value
  | .expression value => value.watch machine scene
  | .statements block => do return (← watchBlock machine scene block).getD .undefined

/-! ### Calls -/

/-- The scene that a call begins with, and the heap with its own variables. -/
def Heap.newScene (heap : Heap) (parameters : List String) (body : Body) (around : Environment)
    (globals : List Value) (context : Value) (arguments : List Value) : Scene × Heap :=
  let (own, heap) :=
    heap.newNamed (ownNames parameters body) fun name => initialValue name parameters arguments
  (⟨context, arguments, own ++ around, globals⟩, heap)

/-- Begins a call, whose own variables get their values. -/
def Scene.begin (parameters : List String) (body : Body) (around : Environment)
    (globals : List Value) (context : Value) (arguments : List Value) :
    Action WatchedClosure Scene := do
  let scene ← Action.change fun heap =>
    heap.newScene parameters body around globals context arguments
  Action.note ((ownNames parameters body).map (.given scene.environment))
  Action.done scene

/-- Runs the tree of a function. -/
def WatchedClosure.run (machine : Machine WatchedClosure) (watched : WatchedClosure)
    (context : Value) (arguments : List Value) : Action WatchedClosure Value :=
  match watched.closure with
  | .slots closure => closure.run machine context arguments
  | .names parameters body around globals => do
    let scene ← Scene.begin parameters body around globals context arguments
    body.watch machine scene

/-- A new function of a definition that stands alone, with the values of the names that it leaves
to its surroundings. -/
def Definition.keepWatched (definition : Definition) : Action WatchedClosure Value := fun world =>
  match supply definition.label definition.uses world.heap with
  | .ok (globals, heap) =>
    Action.newClosure ⟨.names definition.parameters definition.body [] globals, []⟩
      definition.parameters.length definition.label { world with heap }
  | .error error => (.failure (.compile error), world)

/-- Functions whose names are looked up when they are evaluated, with a record of that. -/
def watchedEngine : Engine WatchedClosure :=
  ⟨Definition.keepWatched, fun closure => ⟨.slots closure, []⟩, WatchedClosure.run⟩

end Shorthand
