/-
This file numbers the variables of functions inside one another.

Every function has a scope that gives each of its names a slot. A name that a function does not
have is looked up in the functions around it, from the inside out. Where it is found, every
function on the way gets a slot of its own for it and captures the slot of the function
around.
-/

namespace Shorthand

/-- The names of a function in the order of their slots, and for each name that comes from the
function around, the slot there and the own slot. -/
structure Scope where
  names : List String
  captures : List (Nat × Nat)

namespace Scope

/-- The scope without any name. -/
def empty : Scope := ⟨[], []⟩

/-- The slot of a name. -/
def slot? (scope : Scope) (name : String) : Option Nat := scope.names.idxOf? name

/-- The slot of a name, which is a new one unless the name has a slot. -/
def define (scope : Scope) (name : String) : Nat × Scope :=
  match scope.slot? name with
  | some slot => (slot, scope)
  | none => (scope.names.length, { scope with names := scope.names ++ [name] })

/-- The slots of names, one after the other. -/
def defineAll (scope : Scope) : List String → List Nat × Scope
  | [] => ([], scope)
  | name :: rest =>
    let (slot, scope) := scope.define name
    let (slots, scope) := scope.defineAll rest
    (slot :: slots, scope)

/-- A new slot for a name that has a slot in the function around. -/
def capture (scope : Scope) (name : String) (outer : Nat) : Nat × Scope :=
  (scope.names.length,
    ⟨scope.names ++ [name], scope.captures ++ [(outer, scope.names.length)]⟩)

end Scope

/-- The slot of a name in the innermost of some scopes, which capture it as far as needed. -/
def resolve (name : String) : List Scope → Option (Nat × List Scope)
  | [] => none
  | scope :: outer =>
    match scope.slot? name with
    | some slot => some (slot, scope :: outer)
    | none =>
      match resolve name outer with
      | none => none
      | some (outerSlot, outer) =>
        let (slot, scope) := scope.capture name outerSlot
        some (slot, scope :: outer)

end Shorthand
