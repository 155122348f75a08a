/-
This file shows that no function captures a variable twice.

A name is captured where a scope has no slot for it, and from then on it has one. So the slots
around that a scope captures are those of names that it knows, each of them once, and looking up a
name, declaring one and beginning a function keep that. When a function ends, its captures go into
its code. The proof follows the tree, from one step of resolution to the next.
-/

import Shorthand.Proofs.Forms.Reading
import Shorthand.Proofs.Lexical.Resolution
import Shorthand.Proofs.Slots.Mention

namespace Shorthand

/-! ### Scopes -/

/-- A scope captures different slots of the function around, and knows the names of all of them. -/
structure Scope.CapturesOnce (around : List String) (scope : Scope) : Prop where
  distinct : (scope.captures.map Prod.fst).Nodup
  known : ∀ capture ∈ scope.captures, ∃ name ∈ scope.names, around[capture.1]? = some name

/-- Scopes inside one another that capture no slot twice, from the inside out. -/
inductive Tidy : List Scope → Prop where
  | nil : Tidy []
  | cons {scope : Scope} {scopes : List Scope} (once : scope.CapturesOnce (innerNames scopes))
      (tidy : Tidy scopes) : Tidy (scope :: scopes)

namespace Scope.CapturesOnce

variable {around more : List String} {scope : Scope}

theorem mono (once : scope.CapturesOnce around) (grown : around <+: more) :
    scope.CapturesOnce more where
  distinct := once.distinct
  known capture member := by
    obtain ⟨name, known, found⟩ := once.known capture member
    exact ⟨name, known, getElem?_of_grown grown found⟩

/-- A scope may be given further names. -/
theorem names (once : scope.CapturesOnce around) {names : List String}
    (grown : scope.names <+: names) : Scope.CapturesOnce around { scope with names } where
  distinct := once.distinct
  known capture member := by
    obtain ⟨name, known, found⟩ := once.known capture member
    exact ⟨name, grown.subset known, found⟩

/-- The slot of a name that the scope does not know is none of those captured. -/
theorem capture (once : scope.CapturesOnce around) {name : String} (fresh : name ∉ scope.names)
    {outer : Nat} (found : around[outer]? = some name) :
    (scope.capture name outer).2.CapturesOnce around where
  distinct := by
    have other : outer ∉ scope.captures.map Prod.fst := by
      intro member
      obtain ⟨capture, isCapture, rfl⟩ := List.mem_map.mp member
      obtain ⟨former, known, same⟩ := once.known capture isCapture
      rw [found] at same
      exact fresh (Option.some.inj same ▸ known)
    rw [Scope.capture, List.map_append, List.nodup_append]
    refine ⟨once.distinct, List.nodup_singleton _, fun former isCaptured _ same equal => ?_⟩
    rw [equal, List.mem_singleton.mp same] at isCaptured
    exact other isCaptured
  known capture member := by
    rcases List.mem_append.mp member with member | member
    · obtain ⟨former, known, same⟩ := once.known capture member
      exact ⟨former, List.mem_append_left _ known, same⟩
    · rw [List.mem_singleton.mp member]
      exact ⟨name, List.mem_append_right _ (List.mem_singleton_self name), found⟩

end Scope.CapturesOnce

namespace Tidy

variable {scope : Scope} {scopes after : List Scope}

theorem resolve (tidy : Tidy scopes) {name : String} {slot : Nat}
    (resolved : Shorthand.resolve name scopes = some (slot, after)) :
    Tidy after ∧ innerNames scopes <+: innerNames after ∧
      (innerNames after)[slot]? = some name := by
  induction tidy generalizing slot after with
  | nil => cases resolved
  | @cons scope outer once tidy inductionHypothesis =>
    rw [Shorthand.resolve] at resolved
    cases found : scope.slot? name with
    | some known =>
      simp only [found] at resolved
      cases resolved
      exact ⟨.cons once tidy, List.prefix_refl _, Scope.slot?_eq_some found⟩
    | none =>
      cases isOuter : Shorthand.resolve name outer with
      | none => simp only [found, isOuter, reduceCtorEq] at resolved
      | some pair =>
        obtain ⟨outerSlot, outer⟩ := pair
        obtain ⟨tidyOuter, grown, outerName⟩ := inductionHypothesis isOuter
        simp only [found, isOuter] at resolved
        cases resolved
        refine ⟨.cons ((once.mono grown).capture (Scope.slot?_eq_none.mp found) outerName)
          tidyOuter, List.prefix_append _ _, ?_⟩
        exact List.getElem?_concat_length

theorem define (tidy : Tidy (scope :: scopes)) (name : String) :
    Tidy ((scope.define name).2 :: scopes) := by
  cases tidy with
  | cons once tidy =>
    rw [Scope.define]
    split
    · exact .cons once tidy
    · exact .cons (once.names (List.prefix_append _ _)) tidy

end Tidy

/-! ### Routines -/

/-- A routine and all routines inside capture different slots of the function around. -/
inductive Routine.CapturesOnce : Routine → Prop where
  | intro {routine : Routine} (distinct : (routine.captures.map Prod.fst).Nodup)
      (inner : ∀ inner, .function inner ∈ routine.body.mentions → inner.CapturesOnce) :
      Routine.CapturesOnce routine

/-- All functions that stand in code capture different slots. -/
def AllCaptureOnce (mentions : List (Mention Nat Routine)) : Prop :=
  ∀ routine, .function routine ∈ mentions → routine.CapturesOnce

namespace AllCaptureOnce

variable {first second : List (Mention Nat Routine)}

theorem nil : AllCaptureOnce [] := fun _ member => nomatch member

theorem append (once : AllCaptureOnce first) (onceToo : AllCaptureOnce second) :
    AllCaptureOnce (first ++ second) := fun routine member =>
  (List.mem_append.mp member).elim (once routine) (onceToo routine)

theorem slot (slot : Nat) (once : AllCaptureOnce first) :
    AllCaptureOnce (.variable slot :: first) := fun routine member =>
  once routine ((List.mem_cons.mp member).resolve_left nofun)

theorem function {routine : Routine} (once : routine.CapturesOnce) :
    AllCaptureOnce [.function routine] := fun _ member => by
  cases List.mem_singleton.mp member
  exact once

end AllCaptureOnce

/-! ### Resolution -/

/-- A part of resolution that keeps scopes tidy and has a result of a kind if it ends well. -/
def Resolver.Yields {α : Type} (work : Resolver α) (Kind : α → Prop) : Prop :=
  ∀ naming result after, Tidy naming.scopes → work naming = .ok (result, after) →
    Tidy after.scopes ∧ Kind result

namespace Resolver.Yields

variable {α β : Type} {Kind : α → Prop} {KindAfter : β → Prop}

theorem pure {result : α} (kind : Kind result) :
    Yields (Pure.pure result : Resolver α) Kind := by
  rintro naming _ _ tidy ⟨⟩
  exact ⟨tidy, kind⟩

theorem fault (error : CompileError) : Yields (throw error : Resolver α) Kind := by
  rintro naming _ _ tidy ⟨⟩

theorem bind {work : Resolver α} {next : α → Resolver β} (yields : Yields work Kind)
    (yieldsNext : ∀ result, Kind result → Yields (next result) KindAfter) :
    Yields (work >>= next) KindAfter := by
  intro naming result after tidy same
  obtain ⟨⟨middle, namingMiddle⟩, isMiddle, same⟩ := except_bind_eq_ok.mp same
  obtain ⟨tidy, kind⟩ := yields naming middle namingMiddle tidy isMiddle
  exact yieldsNext middle kind namingMiddle result after tidy same

theorem slot? (name : String) : Yields (Resolver.slot? name) fun _ => True := by
  intro naming result after tidy same
  rw [Resolver.slot?] at same
  cases resolved : Shorthand.resolve name naming.scopes with
  | none =>
    simp only [resolved] at same
    cases same
    exact ⟨tidy, trivial⟩
  | some pair =>
    simp only [resolved] at same
    cases same
    exact ⟨(tidy.resolve resolved).1, trivial⟩

theorem global? (name : String) : Yields (Resolver.global? name) fun _ => True := by
  intro naming result after tidy same
  rw [Resolver.global?] at same
  split at same
  · cases same
    exact ⟨tidy, trivial⟩
  · cases same
    exact ⟨tidy, trivial⟩

theorem define (name : String) : Yields (Resolver.define name) fun _ => True := by
  rintro ⟨scopes, heap⟩ result after tidy same
  cases scopes with
  | nil =>
    cases same
    exact ⟨tidy, trivial⟩
  | cons scope scopes =>
    cases same
    exact ⟨tidy.define name, trivial⟩

theorem enter (parameters : List String) (body : Body) :
    Yields (Resolver.enter parameters body.declaredNames) fun _ => True := by
  intro naming result after tidy same
  rw [Resolver.enter_eq] at same
  cases same
  exact ⟨.cons ⟨List.nodup_nil, fun _ member => nomatch member⟩ tidy, trivial⟩

theorem leave : Yields Resolver.leave fun scope => (scope.captures.map Prod.fst).Nodup := by
  rintro ⟨scopes, heap⟩ result after tidy same
  cases tidy with
  | nil =>
    cases same
    exact ⟨.nil, List.nodup_nil⟩
  | cons once tidy =>
    cases same
    exact ⟨tidy, once.distinct⟩

/-- The routine of a function, made from its own scope. -/
theorem function (parameters : List String) {body : Body} {code : String}
    (yields : Yields (body.resolve code) fun body => AllCaptureOnce body.mentions)
    (make : List Nat → Nat → List (Nat × Nat) → CodeBody → α)
    {label : String}
    (kind : ∀ slots count captures body,
      Routine.CapturesOnce ⟨slots, count, captures, body, label⟩ →
        Kind (make slots count captures body)) :
    Yields
      (do
        let slots ← Resolver.enter parameters body.declaredNames
        let resolved ← body.resolve code
        let scope ← Resolver.leave
        return make slots scope.names.length scope.captures resolved) Kind :=
  .bind (enter parameters body) fun slots _ => .bind yields fun _ once =>
    .bind leave fun _ distinct => .pure (kind slots _ _ _ ⟨distinct, once⟩)

end Resolver.Yields

/-! ### Trees -/

mutual

/-- Whatever function stands in the code of an expression captures different slots. -/
theorem Expr.resolve_once (code : String) : ∀ expr : Expr,
    (expr.resolve code).Yields fun result => AllCaptureOnce result.mentions
  | .literal _ => .pure .nil
  | .variable name => by
    refine .bind (.slot? name) fun slot _ => ?_
    cases slot with
    | some slot => exact .pure (.slot slot .nil)
    | none =>
      refine .bind (.global? name) fun value _ => ?_
      cases value with
      | some value => exact .pure .nil
      | none => exact .fault _
  | .this => .pure .nil
  | .arguments => .pure .nil
  | .array items => .bind (resolveAll_once code items) fun _ once => .pure once
  | .object entries => .bind (resolveEntries_once code entries) fun _ once => .pure once
  | .member base _ =>
    .bind (base.resolve_once code) fun _ once => .pure (once.append .nil)
  | .index base key =>
    .bind (base.resolve_once code) fun _ once => .bind (key.resolve_once code) fun _ onceKey =>
      .pure (once.append onceKey)
  | .call callee operands => by
    rw [Expr.resolve]
    refine .bind (resolveAll_once code operands) fun _ onceAll => ?_
    have calleeOnce := callee.resolve_once code
    match callee, calleeOnce with
    | .member base _, _ =>
      exact .bind (base.resolve_once code) fun _ once => .pure ((once.append .nil).append onceAll)
    | .index base key, _ =>
      exact .bind (base.resolve_once code) fun _ once => .bind (key.resolve_once code)
        fun _ onceKey => .pure ((once.append onceKey).append onceAll)
    | .literal _, yields | .variable _, yields | .this, yields | .arguments, yields
    | .array _, yields | .object _, yields | .call _ _, yields | .unary _ _, yields
    | .binary _ _ _, yields | .conditional _ _ _, yields | .assign _ _ _, yields
    | .function _ _ _, yields =>
      exact .bind yields fun _ once => .pure (once.append onceAll)
  | .unary _ operand => .bind (operand.resolve_once code) fun _ once => .pure once
  | .binary operator left right => by
    rw [Expr.resolve_binary]
    refine .bind (left.resolve_once code) fun _ once => .bind (right.resolve_once code)
      fun _ onceRight => .pure ?_
    rw [Code.mentions_connect]
    exact once.append onceRight
  | .conditional condition positive negative =>
    .bind (condition.resolve_once code) fun _ once => .bind (positive.resolve_once code)
      fun _ oncePositive => .bind (negative.resolve_once code) fun _ onceNegative =>
        .pure (once.append (oncePositive.append onceNegative))
  | .assign _ target value => by
    rw [Expr.resolve]
    refine .bind (value.resolve_once code) fun _ onceValue => ?_
    match target with
    | .variable name =>
      refine .bind (.slot? name) fun slot _ => ?_
      cases slot with
      | some slot => exact .pure (.slot slot onceValue)
      | none => exact .fault _
    | .member base _ =>
      exact .bind (base.resolve_once code) fun _ once =>
        .pure ((once.append .nil).append onceValue)
    | .index base key =>
      exact .bind (base.resolve_once code) fun _ once => .bind (key.resolve_once code)
        fun _ onceKey => .pure ((once.append onceKey).append onceValue)
  | .function parameters body label => by
    rw [Expr.resolve]
    exact .function parameters (body.resolve_once code)
      (fun slots count captures body => Code.function slots count captures body label)
      fun _ _ _ _ once => AllCaptureOnce.function once

theorem resolveAll_once (code : String) : ∀ items : List Expr,
    (resolveAll code items).Yields fun result => AllCaptureOnce (codeListMentions result)
  | [] => .pure .nil
  | item :: rest =>
    .bind (item.resolve_once code) fun _ once => .bind (resolveAll_once code rest)
      fun _ onceRest => .pure (once.append onceRest)

theorem resolveEntries_once (code : String) : ∀ entries : List (String × Expr),
    (resolveEntries code entries).Yields fun result => AllCaptureOnce (codeEntryMentions result)
  | [] => .pure .nil
  | (_, value) :: rest =>
    .bind (value.resolve_once code) fun _ once => .bind (resolveEntries_once code rest)
      fun _ onceRest => .pure (once.append onceRest)

theorem Statement.resolve_once (code : String) : ∀ statement : Statement,
    (statement.resolve code).Yields fun result => AllCaptureOnce result.mentions
  | .declare declarations =>
    .bind (resolveInitials_once code declarations) fun _ once => .pure once
  | .return none => .pure .nil
  | .return (some value) => .bind (value.resolve_once code) fun _ once => .pure once
  | .if condition positive negative => by
    rw [Statement.resolve]
    refine .bind (condition.resolve_once code) fun _ once =>
      .bind (positive.resolve_once code) fun _ oncePositive => ?_
    match negative with
    | none => exact .pure (once.append (oncePositive.append .nil))
    | some negative =>
      exact .bind (negative.resolve_once code) fun _ onceNegative =>
        .pure (once.append (oncePositive.append onceNegative))
  | .block statements => .bind (resolveBlock_once code statements) fun _ once => .pure once
  | .expression value => .bind (value.resolve_once code) fun _ once => .pure once
  | .empty => .pure .nil

theorem resolveInitials_once (code : String) : ∀ declarations : List (String × Option Expr),
    (resolveInitials code declarations).Yields fun result => AllCaptureOnce (slotMentions result)
  | [] => .pure .nil
  | (name, none) :: rest => .bind (.define name) fun _ _ => resolveInitials_once code rest
  | (name, some value) :: rest =>
    .bind (.define name) fun slot _ => .bind (value.resolve_once code) fun _ once =>
      .bind (resolveInitials_once code rest) fun _ onceRest =>
        .pure (.slot slot (once.append onceRest))

theorem resolveBlock_once (code : String) : ∀ block : List Statement,
    (resolveBlock code block).Yields fun result => AllCaptureOnce (stepListMentions result)
  | [] => .pure .nil
  | statement :: rest =>
    .bind (statement.resolve_once code) fun _ once => .bind (resolveBlock_once code rest)
      fun _ onceRest => .pure (once.append onceRest)

theorem Body.resolve_once (code : String) : ∀ body : Body,
    (body.resolve code).Yields fun result => AllCaptureOnce result.mentions
  | .expression value => .bind (value.resolve_once code) fun _ once => .pure once
  | .statements block => .bind (resolveBlock_once code block) fun _ once => .pure once

end

/-- The routine of a function that stands alone and all routines inside capture different slots. -/
theorem Definition.resolve_once {definition : Definition} {heap after : Heap} {routine : Routine}
    (resolved : definition.resolve heap = .ok (routine, after)) : routine.CapturesOnce := by
  have yields := Resolver.Yields.function definition.parameters
    (definition.body.resolve_once definition.label)
    (fun slots count captures body => Routine.mk slots count captures body definition.label)
    (fun _ _ _ _ once => once)
  obtain ⟨⟨_, naming⟩, work, same⟩ := except_bind_eq_ok.mp resolved
  cases same
  exact (yields ⟨[], heap⟩ routine naming .nil work).2

end Shorthand
