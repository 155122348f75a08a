/-
This file shows that both searches for names in a function find those that are free at some place.

The search for parameters lists names from left to right, so taking out repetitions leaves every
name at its first place. The search for what a function leaves to its surroundings goes in another
order, but it finds the same places.
-/

import Mathlib
import Shorthand.Expr.Names
import Shorthand.Proofs.Free.Part

namespace Shorthand

/-! ### Names with places -/

/-- The names with their places for which something holds, from left to right. -/
structure Lists (Holds : List Nat → String → Prop) (listed : List (List Nat × String)) : Prop where
  ascending : listed.Pairwise fun first second => first.1 < second.1
  mem_iff : ∀ place name, (place, name) ∈ listed ↔ Holds place name

namespace Lists

/-- The places of trees one after the other begin with the number of the tree. -/
theorem forest {Tree : Type} {Holds : Tree → List Nat → String → Prop}
    {names : Tree → List String} (trees : List Tree) (offset : Nat)
    (each : ∀ tree ∈ trees, ∃ listed,
      Lists (Holds tree) listed ∧ listed.map Prod.snd = names tree) :
    ∃ listed, Lists (fun place name => ∃ index tree rest, trees[index]? = some tree ∧
        place = (offset + index) :: rest ∧ Holds tree rest name) listed ∧
      listed.map Prod.snd = trees.flatMap names := by
  induction trees generalizing offset with
  | nil => exact ⟨[], ⟨List.Pairwise.nil, by simp⟩, rfl⟩
  | cons tree trees inductionHypothesis =>
    obtain ⟨eachFirst, eachRest⟩ := List.forall_mem_cons.mp each
    obtain ⟨first, firstLists, firstNames⟩ := eachFirst
    obtain ⟨rest, restLists, restNames⟩ := inductionHypothesis (offset + 1) eachRest
    refine ⟨first.map (fun entry => (offset :: entry.1, entry.2)) ++ rest, ⟨?_, ?_⟩, ?_⟩
    · refine List.pairwise_append.mpr ⟨?_, restLists.ascending, ?_⟩
      · rw [List.pairwise_map]
        exact firstLists.ascending.imp fun smaller => List.cons_lt_cons_self.mpr smaller
      · rintro _ member ⟨place, name⟩ further
        obtain ⟨entry, _, rfl⟩ := List.mem_map.mp member
        obtain ⟨index, _, _, _, rfl, _⟩ := (restLists.mem_iff place name).mp further
        exact List.cons_lt_cons_iff.mpr (.inl (by omega))
    · intro place name
      rw [List.mem_append, restLists.mem_iff, List.mem_map]
      constructor
      · rintro (⟨⟨inner, other⟩, member, same⟩ | ⟨index, found, inner, isTree, rfl, holds⟩)
        · cases same
          exact ⟨0, tree, inner, rfl, rfl, (firstLists.mem_iff inner other).mp member⟩
        · exact ⟨index + 1, found, inner, isTree, by rw [Nat.add_right_comm, Nat.add_assoc], holds⟩
      · rintro ⟨index, found, inner, isTree, rfl, holds⟩
        cases index with
        | zero =>
          cases isTree
          exact .inl ⟨(inner, name), (firstLists.mem_iff inner name).mpr holds, rfl⟩
        | succ index =>
          exact .inr ⟨index, found, inner, isTree, by rw [Nat.add_right_comm, Nat.add_assoc], holds⟩
    · rw [List.map_append, List.map_map, restNames, List.flatMap_cons, ← firstNames]
      rfl

/-- Without repetitions names are in the order of their first places. -/
theorem eraseDups_ascending {Holds : List Nat → String → Prop} {listed : List (List Nat × String)}
    (lists : Lists Holds listed) :
    (listed.map Prod.snd).eraseDups.Pairwise fun first second =>
      ∃ place, Holds place first ∧ ∀ other, Holds other second → place < other := by
  simp only [← lists.mem_iff]
  have ascending := lists.ascending
  clear lists
  induction listed using List.reverseRecOn with
  | nil => exact List.Pairwise.nil
  | append_singleton listed last inductionHypothesis =>
    obtain ⟨lastPlace, lastName⟩ := last
    obtain ⟨ascending, _, later⟩ := List.pairwise_append.mp ascending
    have earlier : ∀ place name, (place, name) ∈ listed → place < lastPlace :=
      fun place name member => later _ member _ (List.mem_singleton_self _)
    have kept : (listed.map Prod.snd).eraseDups.Pairwise fun first second =>
        ∃ place, (place, first) ∈ listed ++ [(lastPlace, lastName)] ∧
          ∀ other, (other, second) ∈ listed ++ [(lastPlace, lastName)] → place < other := by
      refine (inductionHypothesis ascending).imp ?_
      rintro first second ⟨place, member, before⟩
      refine ⟨place, List.mem_append_left _ member, fun other further => ?_⟩
      rcases List.mem_append.mp further with known | isLast
      · exact before other known
      · cases List.mem_singleton.mp isLast
        exact earlier place first member
    rw [List.map_append, List.map_singleton, eraseDups_concat]
    by_cases known : lastName ∈ listed.map Prod.snd
    · rw [if_pos known]
      exact kept
    · rw [if_neg known]
      refine List.pairwise_append.mpr ⟨kept, List.pairwise_singleton _ _, ?_⟩
      intro first member second isLast
      obtain ⟨⟨place, _⟩, found, rfl⟩ := List.mem_map.mp (List.mem_eraseDups.mp member)
      cases List.mem_singleton.mp isLast
      refine ⟨place, List.mem_append_left _ found, fun other further => ?_⟩
      rcases List.mem_append.mp further with before | isLast
      · exact absurd (List.mem_map_of_mem before) known
      · cases List.mem_singleton.mp isLast
        exact earlier place _ found

end Lists

/-! ### Names that become parameters -/

namespace Part

/-- At a place a name is free that is not bound and can become a parameter. -/
def NamedAt (part : Part) (bound : List String) (place : List Nat) (name : String) : Prop :=
  isParameterName name = true ∧ name ∉ bound ∧ ∃ use : Use, use.name = name ∧ part.FreeAt use place

theorem namedAt_nil {part : Part} {bound : List String} {name : String} :
    part.NamedAt bound [] name ↔ isParameterName name = true ∧ name ∉ bound ∧
      ∃ use : Use, use.name = name ∧ part.use? = some use := by
  simp only [NamedAt, freeAt_nil]

theorem namedAt_cons {part : Part} {bound : List String} {index : Nat} {place : List Nat}
    {name : String} : part.NamedAt bound (index :: place) name ↔
      ∃ child, part.children[index]? = some child ∧
        child.NamedAt (bound ++ part.binders) place name := by
  simp only [NamedAt, freeAt_cons, List.mem_append, not_or]
  constructor
  · rintro ⟨isParameter, notBound, use, rfl, unbound, child, isChild, free⟩
    exact ⟨child, isChild, isParameter, ⟨notBound, unbound⟩, use, rfl, free⟩
  · rintro ⟨child, isChild, isParameter, ⟨notBound, unbound⟩, use, rfl, free⟩
    exact ⟨isParameter, notBound, use, rfl, unbound, child, isChild, free⟩

/-- The names that a node alone uses, among those that are not bound and can become parameters. -/
def ownOccurrences (bound : List String) (part : Part) : List String :=
  (part.use?.toList.map Use.name).filter fun name => isParameterName name && !bound.contains name

/-- The implicit parameters in a part. -/
def occurrences (bound : List String) : Part → List String
  | .ofExpr expr => expr.occurrences bound
  | .ofTarget target => target.occurrences bound
  | .ofStatement statement => statement.occurrences bound
  | .ofBody body => body.occurrences bound

theorem listOccurrences_eq (bound : List String) (items : List Expr) :
    listOccurrences bound items = items.flatMap (·.occurrences bound) :=
  eq_flatMap rfl (fun _ _ => rfl) items

theorem entryOccurrences_eq (bound : List String) (entries : List (String × Expr)) :
    entryOccurrences bound entries = entries.flatMap (·.2.occurrences bound) :=
  eq_flatMap rfl (fun _ _ => rfl) entries

theorem blockOccurrences_eq (bound : List String) (block : List Statement) :
    blockOccurrences bound block = block.flatMap (·.occurrences bound) :=
  eq_flatMap rfl (fun _ _ => rfl) block

theorem initialOccurrences_eq (bound : List String) (declared : List (String × Option Expr)) :
    initialOccurrences bound declared =
      (declared.filterMap (·.2)).flatMap (·.occurrences bound) :=
  eq_flatMap_initials rfl (fun _ _ => rfl) (fun _ _ _ => rfl) declared

theorem returnOccurrences_eq (bound : List String) (value : Option Expr) :
    (Statement.return value).occurrences bound = value.toList.flatMap (·.occurrences bound) :=
  @eq_flatMap_toList _ _ (fun value => (Statement.return value).occurrences bound) _ rfl
    (fun _ => rfl) value

theorem alternativeOccurrences_eq (bound : List String) (alternative : Option Statement) :
    alternativeOccurrences bound alternative =
      alternative.toList.flatMap (·.occurrences bound) :=
  eq_flatMap_toList rfl (fun _ => rfl) alternative

/-- The search for parameters finds the name of a node and goes on in its parts. -/
theorem occurrences_eq (bound : List String) (part : Part) :
    part.occurrences bound = part.ownOccurrences bound ++
      part.children.flatMap (·.occurrences (bound ++ part.binders)) := by
  rcases part with (expr | target | statement | body)
  · cases expr <;> simp [occurrences, ownOccurrences, children, use?, binders, Expr.occurrences,
      listOccurrences_eq, entryOccurrences_eq, List.flatMap_map, Use.name, List.filter_singleton]
  · cases target <;> simp [occurrences, ownOccurrences, children, use?, binders,
      Target.occurrences, Use.name, List.filter_singleton]
  · cases statement <;> simp [occurrences, ownOccurrences, children, use?, binders,
      Statement.occurrences, returnOccurrences_eq, initialOccurrences_eq, alternativeOccurrences_eq,
      blockOccurrences_eq, List.flatMap_map]
  · cases body <;> simp [occurrences, ownOccurrences, children, use?, binders, Body.occurrences,
      blockOccurrences_eq, List.flatMap_map]

theorem mem_ownOccurrences {part : Part} {bound : List String} {name : String} :
    name ∈ part.ownOccurrences bound ↔ part.NamedAt bound [] name := by
  rw [namedAt_nil, ownOccurrences, List.mem_filter, List.mem_map]
  simp only [Option.mem_toList, Bool.and_eq_true, Bool.not_eq_true',
    List.contains_eq_mem, decide_eq_false_iff_not]
  constructor
  · rintro ⟨⟨use, isUse, same⟩, isParameter, notBound⟩
    exact ⟨isParameter, notBound, use, same, isUse⟩
  · rintro ⟨isParameter, notBound, use, same, isUse⟩
    exact ⟨⟨use, isUse, same⟩, isParameter, notBound⟩

theorem length_ownOccurrences_le (part : Part) (bound : List String) :
    (part.ownOccurrences bound).length ≤ 1 := by
  refine (List.length_filter_le _ _).trans ?_
  rw [List.length_map]
  cases part.use? with
  | none => exact Nat.zero_le 1
  | some use => exact Nat.le_refl 1

/-- The search for parameters lists every place at which a name is free that can become one. -/
theorem occurrences_listed (part : Part) (bound : List String) :
    ∃ listed, Lists (part.NamedAt bound) listed ∧
      listed.map Prod.snd = part.occurrences bound := by
  induction part using induction generalizing bound with
  | step part inductionHypothesis =>
    obtain ⟨inner, lists, names⟩ := Lists.forest part.children 0 fun child isChild =>
      inductionHypothesis child isChild (bound ++ part.binders)
    refine ⟨(part.ownOccurrences bound).map ([], ·) ++ inner, ⟨?_, ?_⟩, ?_⟩
    · refine List.pairwise_append.mpr ⟨?_, lists.ascending, ?_⟩
      · rcases own : part.ownOccurrences bound with _ | ⟨name, _ | ⟨other, rest⟩⟩
        · exact List.Pairwise.nil
        · exact List.pairwise_singleton _ _
        · have short := part.length_ownOccurrences_le bound
          rw [own] at short
          exact absurd short (by simp)
      · rintro _ member ⟨place, name⟩ further
        obtain ⟨own, _, rfl⟩ := List.mem_map.mp member
        obtain ⟨index, _, rest, _, rfl, _⟩ := (lists.mem_iff place name).mp further
        exact List.nil_lt_cons _ _
    · intro place name
      rw [List.mem_append, lists.mem_iff]
      cases place with
      | nil => simp [mem_ownOccurrences]
      | cons index place => simp [namedAt_cons]
    · rw [List.map_append, List.map_map, names, occurrences_eq]
      congr 1
      exact List.map_id _

/-! ### Names left to the surroundings -/

/-- The uses of free names in a part. -/
def uses (bound : List String) : Part → List Use
  | .ofExpr expr => expr.uses bound
  | .ofTarget target => target.uses bound
  | .ofStatement statement => statement.uses bound
  | .ofBody body => body.uses bound

theorem listUses_eq (bound : List String) (items : List Expr) :
    listUses bound items = items.flatMap (·.uses bound) :=
  eq_flatMap rfl (fun _ _ => rfl) items

theorem entryUses_eq (bound : List String) (entries : List (String × Expr)) :
    entryUses bound entries = entries.flatMap (·.2.uses bound) :=
  eq_flatMap rfl (fun _ _ => rfl) entries

theorem blockUses_eq (bound : List String) (block : List Statement) :
    blockUses bound block = block.flatMap (·.uses bound) :=
  eq_flatMap rfl (fun _ _ => rfl) block

theorem initialUses_eq (bound : List String) (declared : List (String × Option Expr)) :
    initialUses bound declared =
      (declared.filterMap (·.2)).flatMap (·.uses bound) :=
  eq_flatMap_initials rfl (fun _ _ => rfl) (fun _ _ _ => rfl) declared

theorem returnUses_eq (bound : List String) (value : Option Expr) :
    (Statement.return value).uses bound = value.toList.flatMap (·.uses bound) :=
  @eq_flatMap_toList _ _ (fun value => (Statement.return value).uses bound) _ rfl
    (fun _ => rfl) value

theorem alternativeUses_eq (bound : List String) (alternative : Option Statement) :
    alternativeUses bound alternative =
      alternative.toList.flatMap (·.uses bound) :=
  eq_flatMap_toList rfl (fun _ => rfl) alternative

theorem mem_single_use {use : Use} (found : Use) {bound : List String} :
    use ∈ (if bound.contains found.name then [] else [found]) ↔
      some found = some use ∧ use.name ∉ bound := by
  rw [List.contains_eq_mem, Option.some_inj]
  by_cases known : found.name ∈ bound
  · rw [if_pos (decide_eq_true known)]
    constructor
    · exact fun member => absurd member List.not_mem_nil
    · rintro ⟨rfl, notBound⟩
      exact absurd known notBound
  · rw [if_neg (by rwa [decide_eq_true_eq]), List.mem_singleton]
    constructor
    · rintro rfl
      exact ⟨rfl, known⟩
    · exact fun same => same.1.symm

/-- What a function leaves to its surroundings is the use of a node or one of its parts. -/
theorem mem_uses_iff {use : Use} {bound : List String} {part : Part} :
    use ∈ part.uses bound ↔ part.use? = some use ∧ use.name ∉ bound ∨
      ∃ child ∈ part.children, use ∈ child.uses (part.binders.eraseDups ++ bound) := by
  rcases part with (expr | target | statement | body)
  · cases expr
    case «variable» name =>
      simp only [children, List.not_mem_nil, false_and, exists_false, or_false]
      exact mem_single_use (.read name)
    case call callee operands =>
      simp [uses, children, use?, binders, Expr.uses, listUses_eq, or_comm]
    case assign operator target value =>
      simp [uses, children, use?, binders, Expr.uses, or_comm]
    case function parameters body label =>
      simp [uses, children, use?, binders, Expr.uses, ownNames]
    all_goals simp [uses, children, use?, binders, Expr.uses, listUses_eq, entryUses_eq]
  · cases target
    case «variable» name =>
      simp only [children, List.not_mem_nil, false_and, exists_false, or_false]
      exact mem_single_use (.assign name)
    all_goals simp [uses, children, use?, binders, Target.uses]
  · cases statement <;> simp [uses, children, use?, binders, Statement.uses, returnUses_eq,
      initialUses_eq, alternativeUses_eq, blockUses_eq]
  · cases body <;> simp [uses, children, use?, binders, Body.uses, blockUses_eq]

/-- The search for what a function leaves to its surroundings finds just what is free at some
place. -/
theorem mem_uses {use : Use} {bound : List String} {part : Part} :
    use ∈ part.uses bound ↔ use.name ∉ bound ∧ ∃ place, part.FreeAt use place := by
  induction part using induction generalizing bound with
  | step part inductionHypothesis =>
    rw [mem_uses_iff]
    constructor
    · rintro (⟨isUse, notBound⟩ | ⟨child, isChild, member⟩)
      · exact ⟨notBound, [], .here isUse⟩
      · obtain ⟨notBound, place, free⟩ := (inductionHypothesis child isChild).mp member
        rw [List.mem_append, List.mem_eraseDups, not_or] at notBound
        obtain ⟨index, isChild⟩ := List.getElem?_of_mem isChild
        exact ⟨notBound.2, index :: place, freeAt_cons.mpr ⟨notBound.1, child, isChild, free⟩⟩
    · rintro ⟨notBound, place, free⟩
      cases place with
      | nil => exact .inl ⟨freeAt_nil.mp free, notBound⟩
      | cons index place =>
        obtain ⟨unbound, child, isChild, free⟩ := freeAt_cons.mp free
        refine .inr ⟨child, List.mem_of_getElem? isChild, ?_⟩
        refine (inductionHypothesis child (List.mem_of_getElem? isChild)).mpr ⟨?_, place, free⟩
        rw [List.mem_append, List.mem_eraseDups, not_or]
        exact ⟨unbound, notBound⟩

end Part

end Shorthand
