/-
This file says where in a function a name is free.

A function is a tree whose nodes are expressions, targets, statements and bodies, and a place in it
is the path that leads there. The parts of a node are given in the order in which they stand in a
source, so of two places the smaller one is further to the left. A name is free at a place if no
function on the way binds it, as a parameter or by a declaration anywhere in its own body.
-/

import Mathlib
import Shorthand.Proofs.Lexical.Use

namespace Shorthand

/-- The name that is read or assigned to. -/
def Use.name : Use → String
  | .read name | .assign name => name

/-- A node of the tree of a function. -/
inductive Part where
  | ofExpr (expr : Expr)
  | ofTarget (target : Target)
  | ofStatement (statement : Statement)
  | ofBody (body : Body)

namespace Part

/-- The parts of a node, from left to right. -/
def children : Part → List Part
  | .ofExpr (.literal _) | .ofExpr (.variable _) | .ofExpr .this | .ofExpr .arguments => []
  | .ofExpr (.array items) => items.map .ofExpr
  | .ofExpr (.object entries) => entries.map fun entry => .ofExpr entry.2
  | .ofExpr (.member base _) => [.ofExpr base]
  | .ofExpr (.index base key) => [.ofExpr base, .ofExpr key]
  | .ofExpr (.call callee operands) => .ofExpr callee :: operands.map .ofExpr
  | .ofExpr (.unary _ operand) => [.ofExpr operand]
  | .ofExpr (.binary _ left right) => [.ofExpr left, .ofExpr right]
  | .ofExpr (.conditional condition positive negative) =>
    [.ofExpr condition, .ofExpr positive, .ofExpr negative]
  | .ofExpr (.assign _ target value) => [.ofTarget target, .ofExpr value]
  | .ofExpr (.function _ body _) => [.ofBody body]
  | .ofTarget (.variable _) => []
  | .ofTarget (.member base _) => [.ofExpr base]
  | .ofTarget (.index base key) => [.ofExpr base, .ofExpr key]
  | .ofStatement (.declare declarations) => (declarations.filterMap (·.2)).map .ofExpr
  | .ofStatement (.return value) => value.toList.map .ofExpr
  | .ofStatement (.if condition positive negative) =>
    .ofExpr condition :: .ofStatement positive :: negative.toList.map .ofStatement
  | .ofStatement (.block statements) => statements.map .ofStatement
  | .ofStatement (.expression value) => [.ofExpr value]
  | .ofStatement .empty => []
  | .ofBody (.expression value) => [.ofExpr value]
  | .ofBody (.statements block) => block.map .ofStatement

/-- What a node by itself does with a name. -/
def use? : Part → Option Use
  | .ofExpr (.variable name) => some (.read name)
  | .ofTarget (.variable name) => some (.assign name)
  | _ => none

/-- The node is a function. -/
def IsFunction (part : Part) : Prop :=
  ∃ parameters body label, part = .ofExpr (.function parameters body label)

/-- A name is declared somewhere in a node, but not in a function inside it. -/
inductive Declares (name : String) : Part → Prop where
  | here {declarations : List (String × Option Expr)} {initial : Option Expr}
      (declared : (name, initial) ∈ declarations) :
      Declares name (.ofStatement (.declare declarations))
  | inside {part child : Part} (noFunction : ¬part.IsFunction) (isChild : child ∈ part.children)
      (declares : Declares name child) : Declares name part

/-- A node is a function with a name as a parameter or declared in its own body. -/
inductive Binds (name : String) : Part → Prop where
  | parameter {parameters : List String} {body : Body} {label : String}
      (isParameter : name ∈ parameters) : Binds name (.ofExpr (.function parameters body label))
  | declared {parameters : List String} {body : Body} {label : String}
      (declares : (Part.ofBody body).Declares name) :
      Binds name (.ofExpr (.function parameters body label))

/-- At a place in a node a name is used that no function on the way there binds. -/
inductive FreeAt (use : Use) : Part → List Nat → Prop where
  | here {part : Part} (isUse : part.use? = some use) : FreeAt use part []
  | inside {part child : Part} {index : Nat} {place : List Nat}
      (isChild : part.children[index]? = some child) (unbound : ¬part.Binds use.name)
      (free : FreeAt use child place) : FreeAt use part (index :: place)

/-! ### Induction -/

/-- The parts of a node are smaller than the node. -/
theorem sizeOf_lt {part child : Part} (isChild : child ∈ part.children) :
    sizeOf child < sizeOf part := by
  rcases part with (expr | target | statement | body)
  · cases expr <;> grind [children, → List.sizeOf_lt_of_mem]
  · cases target <;> grind [children]
  · cases statement <;> grind [children, → List.sizeOf_lt_of_mem]
  · cases body <;> grind [children, → List.sizeOf_lt_of_mem]

/-- What holds of a node whenever it holds of all its parts holds of every node. -/
theorem induction {holds : Part → Prop}
    (step : ∀ part, (∀ child ∈ part.children, holds child) → holds part) (part : Part) :
    holds part :=
  step part fun child _ => induction step child
termination_by sizeOf part
decreasing_by exact sizeOf_lt ‹_›

/-- A search that looks at one item after the other. -/
theorem eq_flatMap {Item Found : Type} {search : List Item → List Found}
    {look : Item → List Found} (nil : search [] = [])
    (cons : ∀ item rest, search (item :: rest) = look item ++ search rest) (items : List Item) :
    search items = items.flatMap look := by
  induction items with
  | nil => exact nil
  | cons item rest inductionHypothesis => rw [cons, inductionHypothesis, List.flatMap_cons]

/-- A search that looks at an item if there is one. -/
theorem eq_flatMap_toList {Item Found : Type} {search : Option Item → List Found}
    {look : Item → List Found} (absent : search none = [])
    (present : ∀ item, search (some item) = look item) (item : Option Item) :
    search item = item.toList.flatMap look := by
  cases item with
  | none => exact absent
  | some item => rw [present, Option.toList_some, List.flatMap_singleton]

/-- A search that looks at the initial values of declarations. -/
theorem eq_flatMap_initials {Found : Type} {search : List (String × Option Expr) → List Found}
    {look : Expr → List Found} (nil : search [] = [])
    (absent : ∀ name rest, search ((name, none) :: rest) = search rest)
    (present : ∀ name value rest, search ((name, some value) :: rest) = look value ++ search rest)
    (declared : List (String × Option Expr)) :
    search declared = (declared.filterMap (·.2)).flatMap look := by
  induction declared with
  | nil => exact nil
  | cons declaration rest inductionHypothesis =>
    obtain ⟨name, initial⟩ := declaration
    cases initial with
    | none => simp [absent, inductionHypothesis]
    | some value => simp [present, inductionHypothesis]

/-! ### Declared names -/

/-- The names declared in a node, but not in a function inside it. -/
def declarations : Part → List String
  | .ofStatement statement => statement.declarations
  | .ofBody body => body.declaredNames
  | _ => []

theorem mem_alternativeDeclarations {name : String} {alternative : Option Statement} :
    name ∈ alternativeDeclarations alternative ↔
      ∃ statement ∈ alternative, name ∈ statement.declarations := by
  cases alternative with
  | none => simp [alternativeDeclarations]
  | some statement => simp [alternativeDeclarations]

theorem mem_blockDeclarations {name : String} {block : List Statement} :
    name ∈ blockDeclarations block ↔ ∃ statement ∈ block, name ∈ statement.declarations := by
  have flattened : blockDeclarations block = block.flatMap (·.declarations) :=
    eq_flatMap rfl (fun _ _ => rfl) block
  rw [flattened, List.mem_flatMap]

/-- Names are declared by a node itself or by one of its parts. -/
theorem mem_declarations {name : String} {part : Part} :
    name ∈ part.declarations ↔
      (∃ declared initial, part = .ofStatement (.declare declared) ∧ (name, initial) ∈ declared) ∨
        ¬part.IsFunction ∧ ∃ child ∈ part.children, name ∈ child.declarations := by
  rcases part with (expr | target | statement | body)
  · cases expr <;> simp [declarations, children, IsFunction]
  · cases target <;> simp [declarations, children]
  · cases statement <;> simp [declarations, children, IsFunction, Statement.declarations,
      mem_alternativeDeclarations, mem_blockDeclarations]
  · cases body <;> simp [declarations, children, IsFunction, Body.declaredNames,
      mem_blockDeclarations]

theorem Declares.mem {name : String} {part : Part} (declares : part.Declares name) :
    name ∈ part.declarations := by
  induction declares with
  | here declared => exact mem_declarations.mpr (.inl ⟨_, _, rfl, declared⟩)
  | inside noFunction isChild _ inductionHypothesis =>
    exact mem_declarations.mpr (.inr ⟨noFunction, _, isChild, inductionHypothesis⟩)

theorem declares_iff {name : String} {part : Part} :
    part.Declares name ↔ name ∈ part.declarations := by
  refine ⟨Declares.mem, ?_⟩
  induction part using induction with
  | step part inductionHypothesis =>
    intro member
    rcases mem_declarations.mp member with
      ⟨_, _, rfl, declared⟩ | ⟨noFunction, child, isChild, further⟩
    · exact .here declared
    · exact .inside noFunction isChild (inductionHypothesis child isChild further)

/-- The names that a node binds for its parts. -/
def binders : Part → List String
  | .ofExpr (.function parameters body _) => parameters ++ body.declaredNames
  | _ => []

theorem binds_iff {name : String} {part : Part} : part.Binds name ↔ name ∈ part.binders := by
  constructor
  · rintro (isParameter | declares)
    · exact List.mem_append_left _ isParameter
    · exact List.mem_append_right _ (declares_iff.mp declares)
  · intro member
    unfold binders at member
    split at member
    · rcases List.mem_append.mp member with isParameter | declared
      · exact .parameter isParameter
      · exact .declared (declares_iff.mpr declared)
    · cases member

theorem freeAt_nil {use : Use} {part : Part} : part.FreeAt use [] ↔ part.use? = some use := by
  refine ⟨fun free => ?_, .here⟩
  cases free with
  | here isUse => exact isUse

theorem freeAt_cons {use : Use} {part : Part} {index : Nat} {place : List Nat} :
    part.FreeAt use (index :: place) ↔ use.name ∉ part.binders ∧
      ∃ child, part.children[index]? = some child ∧ child.FreeAt use place := by
  rw [← binds_iff]
  constructor
  · rintro (_ | ⟨isChild, unbound, free⟩)
    exact ⟨unbound, _, isChild, free⟩
  · rintro ⟨unbound, child, isChild, free⟩
    exact .inside isChild unbound free

end Part

end Shorthand
