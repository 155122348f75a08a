/-
This file describes the scopes of functions inside one another while they are being resolved.

A scope begins with the own names of its function, and behind them come the names that it has
captured so far, each with a slot of the function around. Looking up a name may add captures to
every function on the way, but never moves a name that has a slot.
-/

import Mathlib.Data.List.Basic
import Mathlib.Data.List.Forall2
import Shorthand.Proofs.Lexical.Use
import Shorthand.Scope

namespace Shorthand

/-- A scope with own names in front and captured names behind them. Each captured name has its
slot by its position and names a slot of the function around. -/
structure Scope.Extends (own around captured : List String) (scope : Scope) : Prop where
  names : scope.names = own ++ captured
  fresh : ∀ name ∈ captured, name ∉ own
  slots : scope.captures.map Prod.snd = List.range' own.length captured.length
  outer : List.Forall₂ (fun name capture => around[capture.1]? = some name) captured
    scope.captures

/-- The names of the innermost function. -/
def innerNames : List Scope → List String
  | [] => []
  | scope :: _ => scope.names

/-- Scopes inside one another that extend own names, from the inside out. -/
inductive Layered : List (List String) → List Scope → Prop where
  | nil : Layered [] []
  | cons {own captured : List String} {owns : List (List String)} {scope : Scope}
      {scopes : List Scope} (extension : scope.Extends own (innerNames scopes) captured)
      (layered : Layered owns scopes) : Layered (own :: owns) (scope :: scopes)

/-- Scopes of the same functions in which every name keeps its slot. -/
def Grows (scopes after : List Scope) : Prop :=
  List.Forall₂ (fun scope grown => scope.names <+: grown.names) scopes after

/-! ### Growth -/

theorem Grows.refl (scopes : List Scope) : Grows scopes scopes :=
  List.forall₂_same.mpr fun scope _ => List.prefix_refl scope.names

theorem Grows.trans {scopes after last : List Scope} (first : Grows scopes after)
    (second : Grows after last) : Grows scopes last := by
  induction first generalizing last with
  | nil => exact second
  | cons grown _ inductionHypothesis =>
    cases second with
    | cons further rest =>
      exact .cons (grown.trans further) (inductionHypothesis rest)

theorem Grows.innerNames {scopes after : List Scope} (grows : Grows scopes after) :
    innerNames scopes <+: innerNames after := by
  cases grows with
  | nil => exact List.prefix_refl []
  | cons grown _ => exact grown

/-- A slot keeps its name. -/
theorem getElem?_of_grown {names more : List String} {slot : Nat} {name : String}
    (grown : names <+: more) (found : names[slot]? = some name) : more[slot]? = some name := by
  obtain ⟨rest, rfl⟩ := grown
  rw [List.getElem?_append_left (List.getElem?_eq_some_iff.mp found).1]
  exact found

/-- A scope may be seen from a function around it that has got more names. -/
theorem Scope.Extends.around {own around captured more : List String} {scope : Scope}
    (extension : scope.Extends own around captured) (grown : around <+: more) :
    scope.Extends own more captured where
  names := extension.names
  fresh := extension.fresh
  slots := extension.slots
  outer := extension.outer.imp fun _ _ found => getElem?_of_grown grown found

/-! ### The names in sight -/

theorem Scope.Extends.mem_around {own around captured : List String} {scope : Scope}
    (extension : scope.Extends own around captured) {name : String} (known : name ∈ captured) :
    name ∈ around := by
  have outer := extension.outer
  generalize scope.captures = captures at outer
  clear extension
  induction outer with
  | nil => cases known
  | cons found _ inductionHypothesis =>
    rcases List.mem_cons.mp known with rfl | known
    · exact List.mem_of_getElem? found
    · exact inductionHypothesis known

/-- A function has slots for names in sight only. -/
theorem Layered.mem_flatten {owns : List (List String)} {scopes : List Scope}
    (layered : Layered owns scopes) {name : String} (known : name ∈ innerNames scopes) :
    name ∈ owns.flatten := by
  induction layered with
  | nil => cases known
  | cons extension _ inductionHypothesis =>
    rw [List.flatten_cons, List.mem_append]
    rw [Shorthand.innerNames, extension.names, List.mem_append] at known
    rcases known with known | known
    · exact .inl known
    · exact .inr (inductionHypothesis (extension.mem_around known))

/-! ### Slots -/

theorem Scope.slot?_eq_some {scope : Scope} {name : String} {slot : Nat}
    (found : scope.slot? name = some slot) : scope.names[slot]? = some name := by
  obtain ⟨bound, same, _⟩ := List.idxOf?_eq_some_iff.mp found
  rw [List.getElem?_eq_getElem bound, same]

theorem Scope.slot?_eq_none {scope : Scope} {name : String} :
    scope.slot? name = none ↔ name ∉ scope.names :=
  List.idxOf?_eq_none_iff

/-- A further capture leaves a scope with its own names in front. -/
theorem Scope.Extends.capture {own around captured more : List String} {scope : Scope}
    (extension : scope.Extends own around captured) (grown : around <+: more) {name : String}
    (fresh : name ∉ own) {outer : Nat} (found : more[outer]? = some name) :
    (scope.capture name outer).2.Extends own more (captured ++ [name]) where
  names := by rw [Scope.capture, extension.names, List.append_assoc]
  fresh := by
    intro other known
    rcases List.mem_append.mp known with known | known
    · exact extension.fresh other known
    · rw [List.mem_singleton.mp known]
      exact fresh
  slots := by
    rw [Scope.capture, List.map_append, extension.slots, List.length_append, List.length_singleton,
      List.range'_concat, extension.names, List.length_append, Nat.one_mul]
    rfl
  outer := List.rel_append (extension.around grown).outer (.cons found .nil)

/-- A name in sight gets a slot in the innermost function, and every function on the way one for
it. -/
theorem Layered.resolve_eq_some {owns : List (List String)} {scopes : List Scope}
    (layered : Layered owns scopes) {name : String} (known : name ∈ owns.flatten) :
    ∃ slot after, resolve name scopes = some (slot, after) ∧ Layered owns after ∧
      Grows scopes after ∧ (innerNames after)[slot]? = some name := by
  induction layered with
  | nil => cases known
  | @cons own captured owns scope scopes extension layered inductionHypothesis =>
    rw [Shorthand.resolve]
    cases found : scope.slot? name with
    | some slot =>
      exact ⟨slot, scope :: scopes, rfl, .cons extension layered, Grows.refl _,
        Scope.slot?_eq_some found⟩
    | none =>
      have unknown : name ∉ own ++ captured := extension.names ▸ Scope.slot?_eq_none.mp found
      have fresh : name ∉ own := fun member => unknown (List.mem_append_left _ member)
      have further : name ∈ owns.flatten := by
        rw [List.flatten_cons, List.mem_append] at known
        exact known.resolve_left fresh
      obtain ⟨outer, after, resolved, layered, grows, slot⟩ := inductionHypothesis further
      refine ⟨scope.names.length, (scope.capture name outer).2 :: after, ?_, ?_, ?_, ?_⟩
      · simp only [resolved]
        rfl
      · exact .cons (extension.capture grows.innerNames fresh slot) layered
      · exact .cons (List.prefix_append _ _) grows
      · show (scope.names ++ [name])[scope.names.length]? = some name
        rw [List.getElem?_concat_length]

/-- A name that no function declares has no slot. -/
theorem Layered.resolve_eq_none {owns : List (List String)} {scopes : List Scope}
    (layered : Layered owns scopes) {name : String} (unknown : name ∉ owns.flatten) :
    resolve name scopes = none := by
  induction layered with
  | nil => rfl
  | cons extension layered inductionHypothesis =>
    have hidden := fun known => unknown ((Layered.cons extension layered).mem_flatten known)
    rw [List.flatten_cons, List.mem_append, not_or] at unknown
    rw [Shorthand.resolve, Scope.slot?_eq_none.mpr hidden]
    simp only [inductionHypothesis unknown.2]

/-! ### The beginning of a function -/

theorem Scope.define_of_mem {scope : Scope} {name : String} (known : name ∈ scope.names) :
    scope.define name = (scope.names.idxOf name, scope) := by
  obtain ⟨slot, found⟩ := Option.isSome_iff_exists.mp (List.isSome_idxOf?.mpr known)
  rw [Scope.define, Scope.slot?, found, List.idxOf_eq_getD_idxOf?, found]
  rfl

theorem Scope.define_of_notMem {scope : Scope} {name : String} (fresh : name ∉ scope.names) :
    scope.define name = (scope.names.length, { scope with names := scope.names ++ [name] }) := by
  rw [Scope.define, Scope.slot?_eq_none.mpr fresh]

theorem eraseDups_grows (names more : List String) :
    names.eraseDups <+: (names ++ more).eraseDups := by
  rw [List.eraseDups_append]
  exact List.prefix_append _ _

/-- The names of a scope that has been given names one after the other, and one further. -/
theorem Scope.define_eq {scope : Scope} {given : List String}
    (names : scope.names = given.eraseDups) (name : String) :
    scope.define name = ((given ++ [name]).eraseDups.idxOf name,
      { scope with names := (given ++ [name]).eraseDups }) := by
  rw [eraseDups_concat, ← names]
  by_cases known : name ∈ given
  · rw [if_pos known, Scope.define_of_mem (names ▸ List.mem_eraseDups.mpr known)]
  · have fresh : name ∉ scope.names := names ▸ known ∘ List.mem_eraseDups.mp
    rw [if_neg known, Scope.define_of_notMem fresh, List.idxOf_append_of_notMem fresh,
      List.idxOf_cons_self, Nat.add_zero]

/-- Names given one after the other take the slots in the order of their first occurrence. -/
theorem Scope.defineAll_eq (names : List String) (scope : Scope) (given : List String)
    (known : scope.names = given.eraseDups) :
    scope.defineAll names = (names.map fun name => (given ++ names).eraseDups.idxOf name,
      { scope with names := (given ++ names).eraseDups }) := by
  induction names generalizing scope given with
  | nil => rw [List.append_nil, ← known]; rfl
  | cons name rest inductionHypothesis =>
    have assembled : given ++ name :: rest = (given ++ [name]) ++ rest := by
      rw [List.append_assoc, List.singleton_append]
    have stays : (given ++ [name]).eraseDups.idxOf name =
        ((given ++ [name]) ++ rest).eraseDups.idxOf name :=
      (eraseDups_grows _ rest).idxOf_eq_of_mem (by simp)
    have further := inductionHypothesis { scope with names := (given ++ [name]).eraseDups }
      (given ++ [name]) rfl
    rw [Scope.defineAll, Scope.define_eq known, assembled]
    simp only [further, List.map_cons, stays]

/-- The scope that a function begins with, and the slots of its parameters. -/
theorem Resolver.enter_eq (parameters : List String) (body : Body) (naming : Naming) :
    Resolver.enter parameters body.declaredNames naming =
      .ok (parameters.map fun name => (ownNames parameters body).idxOf name,
        { naming with scopes := ⟨ownNames parameters body, []⟩ :: naming.scopes }) := by
  have slots : ∀ name ∈ parameters, parameters.eraseDups.idxOf name =
      (ownNames parameters body).idxOf name := fun name member =>
    (eraseDups_grows parameters body.declaredNames).idxOf_eq_of_mem (List.mem_eraseDups.mpr member)
  have first := Scope.defineAll_eq parameters Scope.empty [] rfl
  have second := Scope.defineAll_eq body.declaredNames
    ⟨parameters.eraseDups, Scope.empty.captures⟩ parameters rfl
  rw [List.nil_append] at first
  simp only [Resolver.enter, first, second, List.map_congr_left slots]
  rfl

end Shorthand
