/-
This file finds the names that a function leaves to its surroundings, as values and as targets.

The names are found by the tree alone: no slot and no scope under construction is involved. They
stand in the order in which resolution meets them, so the first of them that is no global name is
the one that a source is refused for. Unlike the free names that become parameters, they may begin
with any letter.
-/

import Mathlib.Data.List.Induction
import Mathlib.Data.List.Nodup
import Shorthand.Resolve

namespace Shorthand

/-- A name that nothing binds, read as a value or assigned to. -/
inductive Use where
  | read (name : String)
  | assign (name : String)
deriving DecidableEq

/-- The variables of one call of a function, each once: its parameters and the names declared
anywhere in its own body. -/
def ownNames (parameters : List String) (body : Body) : List String :=
  (parameters ++ body.declaredNames).eraseDups

mutual

/-- The names that an expression leaves to its surroundings when some names are bound. -/
def Expr.uses (bound : List String) : Expr → List Use
  | .variable name => if bound.contains name then [] else [.read name]
  | .literal _ => []
  | .this => []
  | .arguments => []
  | .array items => listUses bound items
  | .object entries => entryUses bound entries
  | .member base _ => base.uses bound
  | .index base key => base.uses bound ++ key.uses bound
  | .call callee operands => listUses bound operands ++ callee.uses bound
  | .unary _ operand => operand.uses bound
  | .binary _ left right => left.uses bound ++ right.uses bound
  | .conditional condition positive negative =>
    condition.uses bound ++ positive.uses bound ++ negative.uses bound
  | .assign _ target value => value.uses bound ++ target.uses bound
  | .function parameters body _ => body.uses (ownNames parameters body ++ bound)

/-- The uses of free names in some expressions. -/
def listUses (bound : List String) : List Expr → List Use
  | [] => []
  | item :: rest => item.uses bound ++ listUses bound rest

/-- The uses of free names in the values of some entries. -/
def entryUses (bound : List String) : List (String × Expr) → List Use
  | [] => []
  | (_, value) :: rest => value.uses bound ++ entryUses bound rest

/-- The uses of free names in what is assigned to. -/
def Target.uses (bound : List String) : Target → List Use
  | .variable name => if bound.contains name then [] else [.assign name]
  | .member base _ => base.uses bound
  | .index base key => base.uses bound ++ key.uses bound

/-- The uses of free names in a statement. -/
def Statement.uses (bound : List String) : Statement → List Use
  | .declare declarations => initialUses bound declarations
  | .return none => []
  | .return (some value) => value.uses bound
  | .if condition positive negative =>
    condition.uses bound ++ positive.uses bound ++ alternativeUses bound negative
  | .block statements => blockUses bound statements
  | .expression value => value.uses bound
  | .empty => []

/-- The uses of free names in the initial values of some declarations. -/
def initialUses (bound : List String) : List (String × Option Expr) → List Use
  | [] => []
  | (_, none) :: rest => initialUses bound rest
  | (_, some value) :: rest => value.uses bound ++ initialUses bound rest

/-- The uses of free names in an alternative, if there is one. -/
def alternativeUses (bound : List String) : Option Statement → List Use
  | none => []
  | some statement => statement.uses bound

/-- The uses of free names in the statements of a block. -/
def blockUses (bound : List String) : List Statement → List Use
  | [] => []
  | statement :: rest => statement.uses bound ++ blockUses bound rest

/-- The uses of free names in a body. -/
def Body.uses (bound : List String) : Body → List Use
  | .expression value => value.uses bound
  | .statements block => blockUses bound block

end

/-- The names that a function that stands alone leaves to its surroundings. -/
def Definition.uses (definition : Definition) : List Use :=
  definition.body.uses (ownNames definition.parameters definition.body)

/-! ### Names without repetition -/

theorem eraseDups_concat (names : List String) (name : String) :
    (names ++ [name]).eraseDups =
      if name ∈ names then names.eraseDups else names.eraseDups ++ [name] := by
  rw [List.eraseDups_append]
  by_cases known : name ∈ names
  · have gone : [name].removeAll names = [] := by simp [List.removeAll, known]
    rw [if_pos known, gone, List.eraseDups_nil, List.append_nil]
  · have kept : [name].removeAll names = [name] := by simp [List.removeAll, known]
    rw [if_neg known, kept]
    rfl

theorem nodup_eraseDups (names : List String) : names.eraseDups.Nodup := by
  induction names using List.reverseRecOn with
  | nil => exact List.nodup_nil
  | append_singleton names name inductionHypothesis =>
    rw [eraseDups_concat]
    split
    · exact inductionHypothesis
    · rename_i fresh
      rw [List.nodup_append]
      refine ⟨inductionHypothesis, List.nodup_singleton name, fun other known _ same equal => ?_⟩
      rw [equal, List.mem_singleton.mp same] at known
      exact fresh (List.mem_eraseDups.mp known)

theorem ownNames_nodup (parameters : List String) (body : Body) :
    (ownNames parameters body).Nodup := nodup_eraseDups _

theorem mem_ownNames {parameters : List String} {body : Body} {name : String} :
    name ∈ ownNames parameters body ↔ name ∈ parameters ∨ name ∈ body.declaredNames := by
  rw [ownNames, List.mem_eraseDups, List.mem_append]

/-! ### The values of global names -/

/-- The values that the surroundings have for the names left to them, one for every use. A name
that is not global has none, and to a global name nothing can be assigned. -/
def supply (code : String) : List Use → Heap → Except CompileError (List Value × Heap)
  | [], heap => .ok ([], heap)
  | .read name :: rest, heap => do
    match heap.newGlobal? name with
    | some (value, heap) => do
      let (values, heap) ← supply code rest heap
      return (value :: values, heap)
    | none => .error (undefinedName code name)
  | .assign name :: _, _ => .error (undefinedName code name)

/-- Uses are supplied one part after the other. -/
theorem supply_append (code : String) (first second : List Use) (heap : Heap) :
    supply code (first ++ second) heap =
      (supply code first heap >>= fun (values, heap) =>
        supply code second heap >>= fun (further, heap) =>
          Except.ok (values ++ further, heap)) := by
  induction first generalizing heap with
  | nil =>
    show supply code second heap = (supply code second heap >>= _)
    cases supply code second heap <;> rfl
  | cons use rest inductionHypothesis =>
    cases use with
    | assign name => rfl
    | read name =>
      rw [List.cons_append, supply, supply]
      cases heap.newGlobal? name with
      | none => rfl
      | some made =>
        obtain ⟨value, heap⟩ := made
        simp only [inductionHypothesis]
        cases supply code rest heap with
        | error error => rfl
        | ok supplied =>
          obtain ⟨values, heap⟩ := supplied
          show (supply code second heap >>= _) >>= _ = supply code second heap >>= _
          cases supply code second heap <;> rfl

end Shorthand
