/-
This file shows what resolution does to a tree.

It fails with the error of the first use that the surroundings do not supply, and otherwise it
ends with code that the tree has with the supplied values. The proof follows the tree. What a step
needs to know about the scopes under construction is that they are layered and only grow, so every
statement about slots is made for all further names.
-/

import Shorthand.Proofs.Lexical.Lowers

namespace Shorthand

variable {α β : Type} {code : String} {owns : List (List String)} {uses further : List Use}

/-- A part of resolution inside functions with some own names. It fails with the error of the first
use that is not supplied. Otherwise the scopes grow, and its result has a property with the
supplied values, whichever names the innermost function still gets. -/
def Resolves (code : String) (owns : List (List String)) (uses : List Use) (work : Resolver α)
    (Meets : List String → List Value → α → Prop) : Prop :=
  ∀ scopes heap, Layered owns scopes →
    match supply code uses heap with
    | .error error => work ⟨scopes, heap⟩ = .error error
    | .ok (values, supplied) => ∃ result after,
      work ⟨scopes, heap⟩ = .ok (result, ⟨after, supplied⟩) ∧ Layered owns after ∧
        Grows scopes after ∧ ∀ names, innerNames after <+: names → Meets names values result

theorem Resolver.bind_ok {work : Resolver α} {next : α → Resolver β} {naming after : Naming}
    {result : α} (same : work naming = .ok (result, after)) :
    (work >>= next) naming = next result after := by
  show (work naming >>= fun (result, after) => next result after) = _
  rw [same]
  rfl

theorem Resolver.bind_error {work : Resolver α} {next : α → Resolver β} {naming : Naming}
    {error : CompileError} (same : work naming = .error error) :
    (work >>= next) naming = .error error := by
  show (work naming >>= fun (result, after) => next result after) = _
  rw [same]
  rfl

namespace Resolves

variable {Meets Weaker : List String → List Value → α → Prop}
  {MeetsAfter : List String → List Value → β → Prop}

/-! ### Steps -/

theorem pure {result : α} (meets : ∀ names, Meets names [] result) :
    Resolves code owns [] (Pure.pure result : Resolver α) Meets :=
  fun scopes _ layered => ⟨result, scopes, rfl, layered, Grows.refl _, fun names _ => meets names⟩

theorem mono {work : Resolver α} (resolves : Resolves code owns uses work Meets)
    (meets : ∀ names values result, Meets names values result → Weaker names values result) :
    Resolves code owns uses work Weaker := by
  intro scopes heap layered
  have resolved := resolves scopes heap layered
  cases supplied : supply code uses heap with
  | error error =>
    rw [supplied] at resolved
    exact resolved
  | ok pair =>
    rw [supplied] at resolved
    obtain ⟨result, after, same, layeredAfter, grows, met⟩ := resolved
    exact ⟨result, after, same, layeredAfter, grows, fun names grown =>
      meets _ _ _ (met names grown)⟩

/-- One part after the other. The property of the whole has to follow from those of the parts for
all names that the innermost function has in the end. -/
theorem bind {work : Resolver α} {next : α → Resolver β}
    (resolves : Resolves code owns uses work Meets)
    (resolvesNext : ∀ result, Resolves code owns further (next result) fun names second value =>
      ∀ first, Meets names first result → MeetsAfter names (first ++ second) value) :
    Resolves code owns (uses ++ further) (work >>= next) MeetsAfter := by
  intro scopes heap layered
  have resolved := resolves scopes heap layered
  cases supplied : supply code uses heap with
  | error error =>
    have fails : supply code (uses ++ further) heap = .error error := by
      rw [supply_append, supplied]
      rfl
    rw [supplied] at resolved
    rw [fails]
    exact Resolver.bind_error resolved
  | ok pair =>
    obtain ⟨first, middle⟩ := pair
    have continues : supply code (uses ++ further) heap =
        (supply code further middle >>= fun supplied => .ok (first ++ supplied.1, supplied.2)) := by
      rw [supply_append, supplied]
      rfl
    rw [supplied] at resolved
    obtain ⟨result, after, same, layered, grows, met⟩ := resolved
    have resolvedNext := resolvesNext result after middle layered
    rw [continues, Resolver.bind_ok same]
    cases suppliedNext : supply code further middle with
    | error error =>
      rw [suppliedNext] at resolvedNext
      exact resolvedNext
    | ok pair =>
      obtain ⟨second, heap⟩ := pair
      rw [suppliedNext] at resolvedNext
      obtain ⟨value, last, sameNext, layered, growsNext, metNext⟩ := resolvedNext
      refine ⟨value, last, sameNext, layered, grows.trans growsNext, fun names grown => ?_⟩
      exact metNext names grown first (met names (growsNext.innerNames.trans grown))

/-- A result that is only built on. -/
theorem map {work : Resolver α} {build : α → β} (resolves : Resolves code owns uses work Meets)
    (meets : ∀ names values result, Meets names values result →
      MeetsAfter names values (build result)) :
    Resolves code owns uses (work >>= fun result => Pure.pure (build result)) MeetsAfter := by
  rw [← List.append_nil uses]
  refine bind resolves fun result => pure fun names first met => ?_
  rw [List.append_nil]
  exact meets names first result met

/-! ### Names -/

theorem slot?_of_mem {name : String} (known : name ∈ owns.flatten) {scopes : List Scope}
    (layered : Layered owns scopes) (heap : Heap) :
    ∃ slot after, Resolver.slot? name ⟨scopes, heap⟩ = .ok (some slot, ⟨after, heap⟩) ∧
      Layered owns after ∧ Grows scopes after ∧ (innerNames after)[slot]? = some name := by
  obtain ⟨slot, after, resolved, rest⟩ := layered.resolve_eq_some known
  refine ⟨slot, after, ?_, rest⟩
  rw [Resolver.slot?, resolved]

theorem slot?_of_notMem {name : String} (unknown : name ∉ owns.flatten) {scopes : List Scope}
    (layered : Layered owns scopes) (heap : Heap) :
    Resolver.slot? name ⟨scopes, heap⟩ = .ok (none, ⟨scopes, heap⟩) := by
  rw [Resolver.slot?, layered.resolve_eq_none unknown]

/-- A name that a function around declares becomes a slot, and any other a global value. -/
theorem variable_ (name : String) :
    Resolves code owns ((Expr.variable name).uses owns.flatten)
      ((Expr.variable name).resolve code) fun names values result =>
        (Expr.variable name).Lowers names owns.flatten values result := by
  intro scopes heap layered
  by_cases known : name ∈ owns.flatten
  · obtain ⟨slot, after, resolved, layeredAfter, grows, found⟩ := slot?_of_mem known layered heap
    rw [Expr.uses, List.contains_iff_mem.mpr known, if_pos rfl]
    refine ⟨.slot slot, after, ?_, layeredAfter, grows, fun names grown =>
      .bound known (getElem?_of_grown grown found)⟩
    rw [Expr.resolve, Resolver.bind_ok resolved]
    rfl
  · have unresolved := slot?_of_notMem known layered heap
    rw [Expr.uses, if_neg (mt List.contains_iff_mem.mp known), supply]
    cases made : heap.newGlobal? name with
    | none =>
      have absent : Resolver.global? name ⟨scopes, heap⟩ = .ok (none, ⟨scopes, heap⟩) := by
        rw [Resolver.global?, made]
      show _ = Except.error _
      rw [Expr.resolve, Resolver.bind_ok unresolved]
      exact Resolver.bind_ok absent
    | some pair =>
      have present : Resolver.global? name ⟨scopes, heap⟩ =
          .ok (some pair.1, ⟨scopes, pair.2⟩) := by
        rw [Resolver.global?, made]
      refine ⟨.value pair.1, scopes, ?_, layered, Grows.refl _, fun _ _ => .global known⟩
      rw [Expr.resolve, Resolver.bind_ok unresolved]
      exact Resolver.bind_ok present

/-- A name as a target has to be one that a function around declares. -/
theorem target (name : String) (operator : Option BinaryOperator) (value : Code) :
    Resolves code owns ((Target.variable name).uses owns.flatten)
      (do match ← Resolver.slot? name with
          | some slot => return Code.assignSlot operator slot value
          | none => throw (undefinedName code name))
      fun names values result => values = [] ∧ name ∈ owns.flatten ∧
        ∃ slot, result = Code.assignSlot operator slot value ∧ names[slot]? = some name := by
  intro scopes heap layered
  by_cases known : name ∈ owns.flatten
  · obtain ⟨slot, after, resolved, layeredAfter, grows, found⟩ := slot?_of_mem known layered heap
    rw [Target.uses, List.contains_iff_mem.mpr known, if_pos rfl]
    exact ⟨.assignSlot operator slot value, after, Resolver.bind_ok resolved, layeredAfter, grows,
      fun names grown => ⟨rfl, known, slot, rfl, getElem?_of_grown grown found⟩⟩
  · rw [Target.uses, if_neg (mt List.contains_iff_mem.mp known)]
    exact Resolver.bind_ok (slot?_of_notMem known layered heap)

/-- A declared name already has its slot. -/
theorem declared {own : List String} {name : String} (known : name ∈ own) :
    Resolves code (own :: owns) [] (Resolver.define name) fun names values slot =>
      values = [] ∧ names[slot]? = some name := by
  intro scopes heap layered
  cases layered with
  | @cons _ captured _ scope scopes extension layered =>
    have member : name ∈ scope.names := extension.names ▸ List.mem_append_left _ known
    refine ⟨scope.names.idxOf name, scope :: scopes, ?_, .cons extension layered, Grows.refl _,
      fun names grown => ⟨rfl, getElem?_of_grown grown (List.getElem?_idxOf member)⟩⟩
    simp only [Resolver.define, Scope.define_of_mem member]

/-! ### Functions -/

/-- The routine of a function, made from its own scope. -/
theorem function {parameters : List String} {body : Body} (label : String)
    (resolves : Resolves code (ownNames parameters body :: owns) uses (body.resolve code)
      fun names values result =>
        body.Lowers names (ownNames parameters body ++ owns.flatten) values result)
    (make : Routine → α)
    (meets : ∀ names values routine, routine.label = label →
      FunctionLowers names owns.flatten parameters body values routine →
        Meets names values (make routine)) :
    Resolves code owns uses
      (do
        let slots ← Resolver.enter parameters body.declaredNames
        let resolved ← body.resolve code
        let scope ← Resolver.leave
        return make ⟨slots, scope.names.length, scope.captures, resolved, label⟩) Meets := by
  intro scopes heap layered
  have empty : Scope.Extends (ownNames parameters body) (innerNames scopes) []
      ⟨ownNames parameters body, []⟩ :=
    ⟨(List.append_nil _).symm, fun _ known => (nomatch known), rfl, .nil⟩
  have resolved := resolves _ heap (.cons empty layered)
  rw [Resolver.bind_ok (Resolver.enter_eq parameters body _)]
  cases supplied : supply code uses heap with
  | error error =>
    rw [supplied] at resolved
    exact Resolver.bind_error resolved
  | ok pair =>
    obtain ⟨values, heap⟩ := pair
    rw [supplied] at resolved
    obtain ⟨result, after, same, layeredAfter, grows, met⟩ := resolved
    cases layeredAfter with
    | @cons _ captured _ scope outer extension layeredOutside =>
      cases grows with
      | cons _ growsOutside =>
        exact ⟨_, outer, Resolver.bind_ok same, layeredOutside, growsOutside, fun names grown =>
          meets names values _ rfl (.intro (extension.around grown)
            (met scope.names (List.prefix_refl _)))⟩

end Resolves

/-! ### Trees -/

/-- The names that an alternative declares are among those of the whole. -/
theorem Expr.resolve_binary (code : String) (operator : BinaryOperator) (left right : Expr) :
    (Expr.binary operator left right).resolve code = (do
      let left ← left.resolve code
      let right ← right.resolve code
      return Code.connect operator left right) := by
  cases operator <;> rfl

mutual

/-- Resolution of an expression fails with the error of the first use that is not supplied, and
otherwise ends with code that the expression has. -/
theorem Expr.resolves (code : String) (owns : List (List String)) : ∀ expr : Expr,
    Resolves code owns (expr.uses owns.flatten) (expr.resolve code) fun names values result =>
      expr.Lowers names owns.flatten values result
  | .literal _ => .pure fun _ => .literal
  | .variable name => .variable_ name
  | .this => .pure fun _ => .this
  | .arguments => .pure fun _ => .arguments
  | .array items => (allResolves code owns items).map fun _ _ _ lowered => .array lowered
  | .object entries => (entriesResolve code owns entries).map fun _ _ _ lowered => .object lowered
  | .member base _ => (base.resolves code owns).map fun _ _ _ lowered => .member lowered
  | .index base key =>
    (base.resolves code owns).bind fun _ => (key.resolves code owns).map
      fun _ _ _ keyLowered _ baseLowered => .index baseLowered keyLowered
  | .call callee operands => by
    rw [Expr.uses, Expr.resolve]
    refine (allResolves code owns operands).bind fun _ => ?_
    have calleeResolves := callee.resolves code owns
    match callee, calleeResolves with
    | .member base name, _ =>
      exact (base.resolves code owns).map fun _ _ _ lowered _ operandsLowered =>
        .callMember operandsLowered lowered
    | .index base key, _ =>
      exact (base.resolves code owns).bind fun _ => (key.resolves code owns).map
        fun _ _ _ keyLowered _ baseLowered _ operandsLowered =>
          .callIndex operandsLowered baseLowered keyLowered
    | .literal _, resolves | .variable _, resolves | .this, resolves | .arguments, resolves
    | .array _, resolves | .object _, resolves | .call _ _, resolves | .unary _ _, resolves
    | .binary _ _ _, resolves | .conditional _ _ _, resolves | .assign _ _ _, resolves
    | .function _ _ _, resolves =>
      exact resolves.map fun _ _ _ lowered _ operandsLowered =>
        .call nofun nofun operandsLowered lowered
  | .unary _ operand => (operand.resolves code owns).map fun _ _ _ lowered => .unary lowered
  | .binary operator left right => by
    rw [Expr.resolve_binary]
    exact (left.resolves code owns).bind fun _ => (right.resolves code owns).map
      fun _ _ _ rightLowered _ leftLowered => .binary leftLowered rightLowered
  | .conditional condition positive negative => by
    rw [Expr.uses, List.append_assoc]
    exact (condition.resolves code owns).bind fun _ => (positive.resolves code owns).bind fun _ =>
      (negative.resolves code owns).map
        fun _ _ _ negativeLowered _ positiveLowered _ conditionLowered =>
          .conditional conditionLowered positiveLowered negativeLowered
  | .assign operator target value => by
    rw [Expr.uses, Expr.resolve]
    refine (value.resolves code owns).bind fun result => ?_
    match target with
    | .variable name =>
      refine (Resolves.target name operator result).mono ?_
      rintro names _ _ ⟨rfl, known, slot, rfl, found⟩ first lowered
      rw [List.append_nil]
      exact .assignVariable lowered known found
    | .member base name =>
      exact (base.resolves code owns).map fun _ _ _ baseLowered _ lowered =>
        .assignMember lowered baseLowered
    | .index base key =>
      exact (base.resolves code owns).bind fun _ => (key.resolves code owns).map
        fun _ _ _ keyLowered _ baseLowered _ lowered =>
          .assignIndex lowered baseLowered keyLowered
  | .function parameters body label => by
    refine .function label (body.resolves code (ownNames parameters body) owns
        fun _ declared => mem_ownNames.mpr (.inr declared))
      (fun routine => Code.function routine.parameterSlots routine.slotCount routine.captures
        routine.body label) ?_
    rintro names values routine rfl lowered
    exact .function lowered

theorem allResolves (code : String) (owns : List (List String)) : ∀ items : List Expr,
    Resolves code owns (listUses owns.flatten items) (resolveAll code items)
      fun names values result => AllLower names owns.flatten items values result
  | [] => .pure fun _ => .nil
  | item :: rest =>
    (item.resolves code owns).bind fun _ => (allResolves code owns rest).map
      fun _ _ _ restLowered _ lowered => .cons lowered restLowered

theorem entriesResolve (code : String) (owns : List (List String)) :
    ∀ entries : List (String × Expr),
      Resolves code owns (entryUses owns.flatten entries) (resolveEntries code entries)
        fun names values result => EntriesLower names owns.flatten entries values result
  | [] => .pure fun _ => .nil
  | (_, value) :: rest =>
    (value.resolves code owns).bind fun _ => (entriesResolve code owns rest).map
      fun _ _ _ restLowered _ lowered => .cons lowered restLowered

/-- Resolution of a statement whose declared names are own names of the function. -/
theorem Statement.resolves (code : String) (own : List String) (owns : List (List String)) :
    ∀ statement : Statement, (∀ name ∈ statement.declarations, name ∈ own) →
      Resolves code (own :: owns) (statement.uses (own :: owns).flatten) (statement.resolve code)
        fun names values result => statement.Lowers names (own :: owns).flatten values result
  | .declare declarations, declared =>
    (initialsResolve code own owns declarations declared).map
      fun _ _ _ lowered => .declare lowered
  | .return none, _ => .pure fun _ => .returnNothing
  | .return (some value), _ =>
    (value.resolves code (own :: owns)).map fun _ _ _ lowered => .return lowered
  | .if condition positive negative, declared => by
    rw [Statement.uses, List.append_assoc]
    rw [Statement.declarations] at declared
    have positiveResolves := positive.resolves code own owns fun name known =>
      declared name (List.mem_append_left _ known)
    match negative with
    | none =>
      exact (condition.resolves code (own :: owns)).bind fun _ => positiveResolves.bind fun _ =>
        .pure fun _ _ positiveLowered _ conditionLowered =>
          .if conditionLowered positiveLowered .none
    | some negative =>
      exact (condition.resolves code (own :: owns)).bind fun _ => positiveResolves.bind fun _ =>
        (negative.resolves code own owns fun name known =>
          declared name (List.mem_append_right _ known)).map
            fun _ _ _ negativeLowered _ positiveLowered _ conditionLowered =>
              .if conditionLowered positiveLowered (.some negativeLowered)
  | .block statements, declared =>
    (blockResolves code own owns statements declared).map fun _ _ _ lowered => .block lowered
  | .expression value, _ =>
    (value.resolves code (own :: owns)).map fun _ _ _ lowered => .expression lowered
  | .empty, _ => .pure fun _ => .empty

theorem initialsResolve (code : String) (own : List String) (owns : List (List String)) :
    ∀ declarations : List (String × Option Expr),
      (∀ name ∈ declarations.map Prod.fst, name ∈ own) →
        Resolves code (own :: owns) (initialUses (own :: owns).flatten declarations)
          (resolveInitials code declarations)
          fun names values result =>
            InitialsLower names (own :: owns).flatten declarations values result
  | [], _ => .pure fun _ => .nil
  | (name, none) :: rest, declared => by
    rw [initialUses, ← List.nil_append (initialUses _ _)]
    refine (Resolves.declared (declared name List.mem_cons_self)).bind fun _ =>
      (initialsResolve code own owns rest fun name known =>
        declared name (List.mem_cons_of_mem _ known)).mono ?_
    rintro names values result restLowered _ ⟨rfl, _⟩
    exact .absent restLowered
  | (name, some value) :: rest, declared => by
    rw [initialUses, ← List.nil_append (_ ++ _)]
    have known : name ∈ own := declared name List.mem_cons_self
    refine (Resolves.declared known).bind fun _ =>
      (value.resolves code (own :: owns)).bind fun _ =>
        (initialsResolve code own owns rest fun name known =>
          declared name (List.mem_cons_of_mem _ known)).map ?_
    rintro names values result restLowered _ lowered _ ⟨rfl, found⟩
    rw [List.nil_append]
    exact .present (List.mem_append_left _ known) found lowered restLowered

theorem blockResolves (code : String) (own : List String) (owns : List (List String)) :
    ∀ block : List Statement, (∀ name ∈ blockDeclarations block, name ∈ own) →
      Resolves code (own :: owns) (blockUses (own :: owns).flatten block)
        (resolveBlock code block)
        fun names values result => BlockLowers names (own :: owns).flatten block values result
  | [], _ => .pure fun _ => .nil
  | statement :: rest, declared =>
    (statement.resolves code own owns fun name known =>
      declared name (List.mem_append_left _ known)).bind fun _ =>
        (blockResolves code own owns rest fun name known =>
          declared name (List.mem_append_right _ known)).map
            fun _ _ _ restLowered _ lowered => .cons lowered restLowered

theorem Body.resolves (code : String) (own : List String) (owns : List (List String)) :
    ∀ body : Body, (∀ name ∈ body.declaredNames, name ∈ own) →
      Resolves code (own :: owns) (body.uses (own :: owns).flatten) (body.resolve code)
        fun names values result => body.Lowers names (own :: owns).flatten values result
  | .expression value, _ =>
    (value.resolves code (own :: owns)).map fun _ _ _ lowered => .expression lowered
  | .statements block, declared =>
    (blockResolves code own owns block fun name known =>
      declared name (List.mem_eraseDups.mpr known)).map fun _ _ _ lowered => .statements lowered

end

/-! ### Functions that stand alone -/

/-- Resolution of a function that stands alone. Its surroundings decide whether it ends with a
routine, and then the function has the routine with nothing in sight around it. -/
theorem Definition.resolves (definition : Definition) (heap : Heap) :
    match supply definition.label definition.uses heap with
    | .error error => definition.resolve heap = .error error
    | .ok (values, supplied) => ∃ routine, definition.resolve heap = .ok (routine, supplied) ∧
      routine.label = definition.label ∧
        FunctionLowers [] [] definition.parameters definition.body values routine := by
  have inside := definition.body.resolves definition.label
    (ownNames definition.parameters definition.body) [] fun _ declared =>
      mem_ownNames.mpr (.inr declared)
  have sameUses : definition.body.uses [ownNames definition.parameters definition.body].flatten =
      definition.uses := by
    rw [List.flatten_cons, List.flatten_nil, List.append_nil]
    rfl
  rw [sameUses] at inside
  have resolves : Resolves definition.label [] definition.uses _ fun names values routine =>
      routine.label = definition.label ∧
        FunctionLowers names [] definition.parameters definition.body values routine :=
    .function definition.label inside id fun _ _ _ same lowered => ⟨same, lowered⟩
  let last : Routine × Naming → Except CompileError (Routine × Heap) :=
    fun reply => .ok (reply.1, reply.2.heap)
  have resolved := resolves [] heap .nil
  cases supplied : supply definition.label definition.uses heap with
  | error error =>
    rw [supplied] at resolved
    exact congrArg (· >>= last) resolved
  | ok pair =>
    rw [supplied] at resolved
    obtain ⟨routine, after, same, layered, _, met⟩ := resolved
    cases layered
    exact ⟨routine, congrArg (· >>= last) same, met [] (List.prefix_refl _)⟩

end Shorthand
