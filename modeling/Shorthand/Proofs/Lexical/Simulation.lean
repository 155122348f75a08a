/-
This file shows that resolved code does what the tree does that it comes from.

The code runs in a frame that shows the scene of the tree. The proof follows the derivation that
relates the two: the values ahead of a scene are those of the part at hand and what comes after it,
so a part is walked with the values that its code was given. Calls are covered by the machines,
and a function literal makes closures that represent each other.
-/

import Shorthand.Proofs.Alike.Evaluate
import Shorthand.Proofs.Lexical.Enter
import Shorthand.Proofs.World.Ends

namespace Shorthand

variable {machine : Machine SlotClosure} {other : Machine NameClosure}

theorem Value.rawText_string (heap : Heap) (text : String) :
    (Value.string text).rawText heap = text := by
  rw [Value.rawText, Nested.ofValue]
  cases heap.lists.size <;> rfl

/-- The text of a text is found in every heap, and it is the same. -/
theorem Action.readIf_rawText {Closure α : Type} (text : String)
    (next : String → Action Closure α) :
    (Action.readIf (Value.hasText · (.string text)) (Value.rawText · (.string text)) >>= next) =
      next text := by
  funext world
  rw [Action.readIf_bind (Value.hasText_string text), Value.rawText_string]

/-- A call whose callee is no member and no element calls the value of the callee. -/
theorem Expr.walk_call {scene : Scene} {callee : Expr}
    (noMember : ∀ base name, callee ≠ .member base name)
    (noIndex : ∀ base key, callee ≠ .index base key) (operands : List Expr) :
    (Expr.call callee operands).walk other scene = (do
      let function ← callee.walk other (scene.skip (listUses scene.bound operands))
      let arguments ← walkAll other scene operands
      other.invoke function .undefined arguments) := by
  cases callee with
  | member base name => exact absurd rfl (noMember base name)
  | index base key => exact absurd rfl (noIndex base key)
  | _ => rfl

theorem FunctionLowers.arity {names bound parameters : List String} {body : Body}
    {globals : List Value} {routine : Routine}
    (lowered : FunctionLowers names bound parameters body globals routine) :
    routine.parameterSlots.length = parameters.length := by
  cases lowered
  exact List.length_map _

mutual

/-- Code does what the expression does that it comes from. -/
theorem Expr.Lowers.alike (machines : machine.Alike Represents other) (kept : machine.keep = id)
    {names bound : List String} {globals : List Value} {frame : Frame} {scene : Scene}
    {expr : Expr} {code : Code} :
    expr.Lowers names bound globals code → frame.Shows names bound globals scene →
      Alike Represents (code.evaluate machine frame) (expr.walk other scene)
  | .literal, shows => .done _
  | .bound known found, shows => by
    rw [Expr.walk, shows.bound, if_pos (List.contains_iff_mem.mpr known), Code.evaluate,
      shows.cell found]
    exact .read _
  | .global unknown, shows => by
    rw [Expr.walk, shows.bound, if_neg (mt List.contains_iff_mem.mp unknown), Code.evaluate]
    obtain ⟨rest, same⟩ := shows.ahead
    rw [← same]
    exact .done _
  | .this, shows => by
    rw [Expr.walk, ← shows.context]
    exact .done _
  | .arguments, shows => by
    rw [Expr.walk, ← shows.arguments]
    exact .newList _
  | .array lowered, shows => .bind (lowered.alike machines kept shows) fun _ => .newList _
  | .object lowered, shows => .bind (lowered.alike machines kept shows _) fun _ => .newMap _
  | .member lowered, shows => .bind (lowered.alike machines kept shows) fun _ => .readProperty _ _
  | .index baseLowered keyLowered, shows =>
    .bind (baseLowered.alike machines kept shows.left) fun _ =>
      .bind (keyLowered.alike machines kept (shows.after baseLowered)) fun _ =>
        .readProperty _ _
  | .callMember operandsLowered lowered, shows => by
    simp only [Code.evaluate, Action.done_bind, Action.readIf_rawText]
    exact .bind (lowered.alike machines kept (shows.afterAll operandsLowered)) fun _ =>
      .bind (operandsLowered.alike machines kept shows.left) fun _ => .callMethod machines _ _ _
  | .callIndex operandsLowered baseLowered keyLowered, shows =>
    have inside := shows.afterAll operandsLowered
    .bind (baseLowered.alike machines kept inside.left) fun _ =>
      .bind (keyLowered.alike machines kept (inside.after baseLowered)) fun _ =>
        .bind (operandsLowered.alike machines kept shows.left) fun _ =>
          .bind (.readIf _ _) fun _ => .callMethod machines _ _ _
  | .call noMember noIndex operandsLowered lowered, shows => by
    rw [Expr.walk_call noMember noIndex]
    exact .bind (lowered.alike machines kept (shows.afterAll operandsLowered)) fun _ =>
      .bind (operandsLowered.alike machines kept shows.left) fun _ => machines.invoke _ _ _
  | .unary lowered, shows => .bind (lowered.alike machines kept shows) fun _ => .readIf _ _
  | @Expr.Lowers.binary _ _ operator _ _ _ _ _ _ leftLowered rightLowered, shows => by
    have left := leftLowered.alike machines kept shows.left
    have right := rightLowered.alike machines kept (shows.after leftLowered)
    cases operator with
    | and => exact .bind left fun _ => .ite right (.done _)
    | or => exact .bind left fun _ => .ite (.done _) right
    | _ => exact .bind left fun _ => .bind right fun _ => .readIf _ _
  | .conditional conditionLowered positiveLowered negativeLowered, shows =>
    have ahead := shows.after conditionLowered
    .bind (conditionLowered.alike machines kept shows.left) fun _ =>
      .ite (positiveLowered.alike machines kept ahead.left)
        (negativeLowered.alike machines kept (ahead.after positiveLowered))
  | .assignVariable lowered known found, shows => by
    rw [Code.evaluate, shows.cell found]
    exact .bind (.read _) fun _ => .bind (lowered.alike machines kept shows) fun _ =>
      .bind (.readIf _ _) fun _ => .bind (.change _) fun _ => .done _
  | .assignMember lowered baseLowered, shows => by
    refine .bind (baseLowered.alike machines kept (shows.after lowered)) fun _ =>
      .ite (.bind (.readProperty _ _) fun _ => ?_) (.bind (.done _) fun _ => ?_)
    all_goals
      exact .bind (lowered.alike machines kept shows.left) fun _ => .bind (.readIf _ _) fun _ =>
        .bind (.writeProperty _ _ _) fun _ => .done _
  | .assignIndex lowered baseLowered keyLowered, shows => by
    have inside := shows.after lowered
    refine .bind (baseLowered.alike machines kept inside.left) fun _ =>
      .bind (keyLowered.alike machines kept (inside.after baseLowered)) fun _ =>
        .ite (.bind (.readProperty _ _) fun _ => ?_) (.bind (.done _) fun _ => ?_)
    all_goals
      exact .bind (lowered.alike machines kept shows.left) fun _ => .bind (.readIf _ _) fun _ =>
        .bind (.writeProperty _ _ _) fun _ => .done _
  | .function lowered, shows => by
    rw [Code.evaluate, kept, Expr.walk, ← lowered.arity]
    exact .newClosure (.names lowered shows) _ _

theorem AllLower.alike (machines : machine.Alike Represents other) (kept : machine.keep = id)
    {names bound : List String} {globals : List Value} {frame : Frame} {scene : Scene}
    {items : List Expr} {codes : List Code} :
    AllLower names bound items globals codes → frame.Shows names bound globals scene →
      Alike Represents (evaluateAll machine frame codes) (walkAll other scene items)
  | .nil, shows => .done _
  | .cons lowered restLowered, shows =>
    .bind (lowered.alike machines kept shows.left) fun _ =>
      .bind (restLowered.alike machines kept (shows.after lowered)) fun _ => .done _

theorem EntriesLower.alike (machines : machine.Alike Represents other)
    (kept : machine.keep = id) {names bound : List String} {globals : List Value} {frame : Frame}
    {scene : Scene} {entries : List (String × Expr)} {codes : List (String × Code)} :
    EntriesLower names bound entries globals codes → frame.Shows names bound globals scene →
      ∀ table : Table Value, Alike Represents (evaluateEntries machine frame table codes)
        (walkEntries other scene table entries)
  | .nil, _, _ => .done _
  | .cons lowered restLowered, shows, _ =>
    .bind (lowered.alike machines kept shows.left) fun _ =>
      restLowered.alike machines kept (shows.after lowered) _

end

theorem InitialsLower.alike (machines : machine.Alike Represents other)
    (kept : machine.keep = id) {names bound : List String} {globals : List Value} {frame : Frame}
    {scene : Scene} {declarations : List (String × Option Expr)} {codes : List (Nat × Code)} :
    InitialsLower names bound declarations globals codes →
      frame.Shows names bound globals scene →
        Alike Represents (initializeSlots machine frame codes)
          (walkInitials other scene declarations)
  | .nil, _ => .done _
  | .absent restLowered, shows => restLowered.alike machines kept shows
  | .present known found lowered restLowered, shows => by
    rw [initializeSlots, shows.cell found]
    exact .bind (lowered.alike machines kept shows.left) fun _ => .bind (.change _) fun _ =>
      restLowered.alike machines kept (shows.after lowered)

mutual

/-- A step does what the statement does that it comes from. -/
theorem Statement.Lowers.alike (machines : machine.Alike Represents other)
    (kept : machine.keep = id) {names bound : List String} {globals : List Value} {frame : Frame}
    {scene : Scene} {statement : Statement} {step : Step} :
    statement.Lowers names bound globals step → frame.Shows names bound globals scene →
      Alike Represents (step.run machine frame) (statement.walk other scene)
  | .declare lowered, shows => .bind (lowered.alike machines kept shows) fun _ => .done _
  | .returnNothing, _ => .done _
  | .return lowered, shows => .bind (lowered.alike machines kept shows) fun _ => .done _
  | .if conditionLowered positiveLowered negativeLowered, shows =>
    have ahead := shows.after conditionLowered
    .bind (conditionLowered.alike machines kept shows.left) fun _ =>
      .ite (positiveLowered.alike machines kept ahead.left)
        (negativeLowered.alike machines kept (ahead.afterStatement positiveLowered))
  | .block lowered, shows => lowered.alike machines kept shows
  | .expression lowered, shows => .bind (lowered.alike machines kept shows) fun _ => .done _
  | .empty, _ => .done _

theorem AlternativeLowers.alike (machines : machine.Alike Represents other)
    (kept : machine.keep = id) {names bound : List String} {globals : List Value} {frame : Frame}
    {scene : Scene} {alternative : Option Statement} {step : Option Step} :
    AlternativeLowers names bound alternative globals step →
      frame.Shows names bound globals scene →
        Alike Represents (runAlternative machine frame step)
          (walkAlternative other scene alternative)
  | .none, _ => .done _
  | .some lowered, shows => lowered.alike machines kept shows

theorem BlockLowers.alike (machines : machine.Alike Represents other)
    (kept : machine.keep = id) {names bound : List String} {globals : List Value} {frame : Frame}
    {scene : Scene} {block : List Statement} {steps : List Step} :
    BlockLowers names bound block globals steps → frame.Shows names bound globals scene →
      Alike Represents (runBlock machine frame steps) (walkBlock other scene block)
  | .nil, _ => .done _
  | .cons lowered restLowered, shows => by
    refine .bind (lowered.alike machines kept shows.left) fun returned => ?_
    cases returned with
    | some _ => exact .done _
    | none => exact restLowered.alike machines kept (shows.afterStatement lowered)

end

theorem Body.Lowers.alike (machines : machine.Alike Represents other)
    (kept : machine.keep = id) {names bound : List String} {globals : List Value} {frame : Frame}
    {scene : Scene} {body : Body} {code : CodeBody} (lowered : body.Lowers names bound globals code)
    (shows : frame.Shows names bound globals scene) :
    Alike Represents (code.run machine frame) (body.walk other scene) := by
  cases lowered with
  | expression lowered => exact lowered.alike machines kept shows
  | statements lowered =>
    exact .bind (lowered.alike machines kept shows) fun _ => .done _

/-! ### Calls -/

/-- Closures that represent each other do the same. -/
theorem Represents.alike (machines : machine.Alike Represents other) (kept : machine.keep = id)
    {closure : SlotClosure} {second : NameClosure} (represents : Represents closure second)
    (context : Value) (arguments : List Value) :
    Alike Represents (closure.run machine context arguments)
      (second.run other context arguments) := by
  cases represents with
  | slots => exact closure.alike machines context arguments
  | @names _ _ parameters body _ _ frame scene lowered shows =>
    cases lowered with
    | @intro _ _ _ _ _ _ scope code label extension lowered =>
      have distinct := ownNames_nodup parameters body
      rintro ⟨heap, closures⟩ ⟨_, others⟩ ⟨rfl, corresponding⟩
      have begins := extension.enter distinct (fun _ member => mem_ownNames.mpr (.inl member)) code
        label frame context arguments heap closures
      have inside := shows.enter extension distinct context arguments heap.locals.size
      rw [SlotClosure.run, Action.bind_value begins]
      exact lowered.alike machines kept inside _ _ ⟨rfl, corresponding⟩

end Shorthand
