/-
This file says what the leaves of a nested list are, and that unfolding a value finds them.

Leaves are told by the items of lists alone, without a bound on the depth. Only a value in which
no list holds itself has leaves. Along a path through such a value fewer and fewer lists can be
reached, so the number of lists in the heap bounds the length of the path, and the bounded
unfolding comes to every leaf.
-/

import Mathlib
import Shorthand.Proofs.World.Adds
import Shorthand.Proofs.World.Ends
import Shorthand.Value.Nested

namespace Shorthand

/-! ### Leaves -/

mutual

/-- The values in a value that are no lists, at any depth and from left to right. Every list in the
value is one of the heap. -/
inductive Leaves (heap : Heap) : Value → List Value → Prop where
  | leaf {value : Value} (notList : ∀ cell, value ≠ .list cell) : Leaves heap value [value]
  | list {cell : ListRef} {items : Array Value} {leaves : List Value}
      (isCell : heap.lists[cell.index]? = some items) (each : AllLeaves heap items.toList leaves) :
      Leaves heap (.list cell) leaves

/-- The leaves of values one after the other. -/
inductive AllLeaves (heap : Heap) : List Value → List Value → Prop where
  | nil : AllLeaves heap [] []
  | cons {value : Value} {values leaves others : List Value} (first : Leaves heap value leaves)
      (rest : AllLeaves heap values others) : AllLeaves heap (value :: values) (leaves ++ others)

end

/-- A list has a value among its items. -/
def Heap.Contains (heap : Heap) (outer item : Value) : Prop :=
  ∃ cell, outer = .list cell ∧ item ∈ (heap.readList cell).toList

/-- A value in which every list is one of the heap and holds itself at no depth. -/
structure Value.Acyclic (heap : Heap) (value : Value) : Prop where
  isCell : ∀ cell, Relation.ReflTransGen heap.Contains value (.list cell) →
    cell.index < heap.lists.size
  noCycle : ∀ cell, Relation.ReflTransGen heap.Contains value (.list cell) →
    ¬Relation.TransGen heap.Contains (.list cell) (.list cell)

variable {heap : Heap}

mutual

/-- A value has at most one list of leaves. -/
theorem Leaves.unique {value : Value} {leaves others : List Value} :
    Leaves heap value leaves → Leaves heap value others → leaves = others
  | .leaf _, .leaf _ => rfl
  | .leaf notList, .list _ _ => absurd rfl (notList _)
  | .list _ _, .leaf notList => absurd rfl (notList _)
  | .list isCell each, .list isCell' each' => by
    obtain rfl := Option.some.inj (isCell.symm.trans isCell')
    exact each.unique each'

theorem AllLeaves.unique {values leaves others : List Value} :
    AllLeaves heap values leaves → AllLeaves heap values others → leaves = others
  | .nil, .nil => rfl
  | .cons first rest, .cons first' rest' => by rw [first.unique first', rest.unique rest']

end

mutual

/-- No leaf is a list. -/
theorem Leaves.notList {value : Value} {leaves : List Value} :
    Leaves heap value leaves → ∀ leaf ∈ leaves, ∀ cell, leaf ≠ .list cell
  | .leaf notList, _, member => List.mem_singleton.mp member ▸ notList
  | .list _ each, leaf, member => each.notList leaf member

theorem AllLeaves.notList {values leaves : List Value} :
    AllLeaves heap values leaves → ∀ leaf ∈ leaves, ∀ cell, leaf ≠ .list cell
  | .nil, _, member => absurd member List.not_mem_nil
  | .cons first rest, leaf, member =>
    (List.mem_append.mp member).elim (first.notList leaf) (rest.notList leaf)

end

mutual

/-- Leaves stay when lists are added. -/
theorem Leaves.mono {new : Heap}
    (kept : ∀ {index : ℕ} {items : Array Value},
      heap.lists[index]? = some items → new.lists[index]? = some items)
    {value : Value} {leaves : List Value} : Leaves heap value leaves → Leaves new value leaves
  | .leaf notList => .leaf notList
  | .list isCell each => .list (kept isCell) (each.mono kept)

theorem AllLeaves.mono {new : Heap}
    (kept : ∀ {index : ℕ} {items : Array Value},
      heap.lists[index]? = some items → new.lists[index]? = some items)
    {values leaves : List Value} : AllLeaves heap values leaves → AllLeaves new values leaves
  | .nil => .nil
  | .cons first rest => .cons (first.mono kept) (rest.mono kept)

end

/-- The leaves of a list are those of its items. -/
theorem Leaves.items {cell : ListRef} {leaves : List Value}
    (isLeaves : Leaves heap (.list cell) leaves) :
    AllLeaves heap (heap.readList cell).toList leaves := by
  cases isLeaves with
  | leaf notList => exact absurd rfl (notList cell)
  | list isCell each =>
    rw [Heap.readList_of_getElem? isCell]
    exact each

namespace AllLeaves

theorem append {values others leaves further : List Value} (each : AllLeaves heap values leaves)
    (rest : AllLeaves heap others further) :
    AllLeaves heap (values ++ others) (leaves ++ further) :=
  match each with
  | .nil => rest
  | .cons first each => by
    rw [List.cons_append, List.append_assoc]
    exact .cons first (each.append rest)

theorem split {values others leaves : List Value}
    (each : AllLeaves heap (values ++ others) leaves) :
    ∃ left right, AllLeaves heap values left ∧ AllLeaves heap others right ∧
      leaves = left ++ right := by
  induction values generalizing leaves with
  | nil => exact ⟨[], leaves, .nil, each, rfl⟩
  | cons value rest inductionHypothesis =>
    cases each with
    | cons first each =>
      obtain ⟨left, right, forRest, forOthers, rfl⟩ := inductionHypothesis each
      exact ⟨_, right, .cons first forRest, forOthers, (List.append_assoc ..).symm⟩

/-- Values that are no lists are leaves themselves. -/
theorem ofNoLists {values : List Value} (noLists : ∀ value ∈ values, ∀ cell, value ≠ .list cell) :
    AllLeaves heap values values := by
  induction values with
  | nil => exact .nil
  | cons value rest inductionHypothesis =>
    obtain ⟨notList, noLists⟩ := List.forall_mem_cons.mp noLists
    exact .cons (.leaf notList) (inductionHypothesis noLists)

/-- Lists have the leaves of all their items. -/
theorem ofLists {cells : List ListRef} {parts : List (List Value)} {leaves : List Value}
    (hold : List.Forall₂ (fun cell part => heap.lists[cell.index]? = some part.toArray) cells parts)
    (each : AllLeaves heap parts.flatten leaves) : AllLeaves heap (cells.map .list) leaves := by
  induction hold generalizing leaves with
  | nil => exact each
  | cons isCell _ inductionHypothesis =>
    obtain ⟨left, right, forPart, forRest, rfl⟩ := each.split
    exact .cons (.list isCell forPart) (inductionHypothesis forRest)

end AllLeaves

/-! ### Values without cycles -/

theorem Value.acyclic_of_notList {value : Value} (notList : ∀ cell, value ≠ .list cell) :
    value.Acyclic heap := by
  have only {inner : Value} (path : Relation.ReflTransGen heap.Contains value inner) :
      inner = value := by
    cases path.cases_head with
    | inl same => exact same.symm
    | inr further =>
      obtain ⟨_, ⟨cell, isList, _⟩, _⟩ := further
      exact absurd isList (notList cell)
  exact ⟨fun cell path => absurd (only path).symm (notList cell),
    fun cell path => absurd (only path).symm (notList cell)⟩

namespace Value.Acyclic

/-- What can be reached from a value without cycles has none either. -/
theorem inner {value item : Value} (acyclic : value.Acyclic heap)
    (path : Relation.ReflTransGen heap.Contains value item) : item.Acyclic heap :=
  ⟨fun cell further => acyclic.isCell cell (path.trans further),
    fun cell further => acyclic.noCycle cell (path.trans further)⟩

/-- A list of items without cycles is not in a cycle, as it would be reached from an item. -/
theorem ofItems {cell : ListRef} (isCell : cell.index < heap.lists.size)
    (items : ∀ item ∈ (heap.readList cell).toList, item.Acyclic heap) :
    (Value.list cell).Acyclic heap := by
  have noCycle : ¬Relation.TransGen heap.Contains (.list cell) (.list cell) := by
    intro cycle
    obtain ⟨item, ⟨_, ⟨⟩, isItem⟩, path⟩ := Relation.TransGen.head'_iff.mp cycle
    exact (items item isItem).noCycle cell path cycle
  have cases {inner : ListRef}
      (path : Relation.ReflTransGen heap.Contains (.list cell) (.list inner)) :
      inner = cell ∨ ∃ item ∈ (heap.readList cell).toList,
        Relation.ReflTransGen heap.Contains item (.list inner) := by
    cases path.cases_head with
    | inl same => exact .inl (Value.list.inj same).symm
    | inr further =>
      obtain ⟨item, ⟨_, ⟨⟩, isItem⟩, path⟩ := further
      exact .inr ⟨item, isItem, path⟩
  constructor
  · intro inner path
    rcases cases path with rfl | ⟨item, isItem, path⟩
    · exact isCell
    · exact (items item isItem).isCell inner path
  · intro inner path
    rcases cases path with rfl | ⟨item, isItem, path⟩
    · exact noCycle
    · exact (items item isItem).noCycle inner path

end Value.Acyclic

mutual

/-- Only a value without cycles has leaves. -/
theorem Leaves.acyclic {value : Value} {leaves : List Value} :
    Leaves heap value leaves → value.Acyclic heap
  | .leaf notList => Value.acyclic_of_notList notList
  | .list isCell each => by
    obtain ⟨bound, -⟩ := Array.getElem?_eq_some_iff.mp isCell
    refine .ofItems bound ?_
    rw [Heap.readList_of_getElem? isCell]
    exact each.acyclic

theorem AllLeaves.acyclic {values leaves : List Value} :
    AllLeaves heap values leaves → ∀ value ∈ values, value.Acyclic heap
  | .nil => List.forall_mem_nil _
  | .cons first rest => List.forall_mem_cons.mpr ⟨first.acyclic, rest.acyclic⟩

end

/-! ### The bounded unfolding -/

open Classical in
/-- The lists of the heap that can be reached from a value. -/
noncomputable def Heap.reached (heap : Heap) (value : Value) : Finset ℕ :=
  (Finset.range heap.lists.size).filter fun index =>
    Relation.ReflTransGen heap.Contains value (.list ⟨index⟩)

theorem Heap.mem_reached {value : Value} {index : ℕ} :
    index ∈ heap.reached value ↔ index < heap.lists.size ∧
      Relation.ReflTransGen heap.Contains value (.list ⟨index⟩) := by
  simp only [Heap.reached, Finset.mem_filter, Finset.mem_range]

theorem Heap.card_reached_le (heap : Heap) (value : Value) :
    (heap.reached value).card ≤ heap.lists.size := by
  rw [← Finset.card_range heap.lists.size]
  exact Finset.card_le_card fun _ member => Finset.mem_range.mpr (Heap.mem_reached.mp member).1

/-- From an item of a list without cycles the list itself cannot be reached. -/
theorem Value.Acyclic.card_reached_lt {cell : ListRef} {item : Value}
    (acyclic : (Value.list cell).Acyclic heap) (isItem : item ∈ (heap.readList cell).toList) :
    (heap.reached item).card < (heap.reached (.list cell)).card := by
  have step : heap.Contains (.list cell) item := ⟨cell, rfl, isItem⟩
  refine Finset.card_lt_card (Finset.ssubset_iff_of_subset ?_ |>.mpr ⟨cell.index, ?_, ?_⟩)
  · intro index member
    obtain ⟨bound, path⟩ := Heap.mem_reached.mp member
    exact Heap.mem_reached.mpr ⟨bound, .head step path⟩
  · exact Heap.mem_reached.mpr ⟨acyclic.isCell cell .refl, .refl⟩
  · intro member
    exact acyclic.noCycle cell .refl (.head' step (Heap.mem_reached.mp member).2)

/-- A list reaches itself. -/
theorem Value.Acyclic.card_reached_pos {cell : ListRef} (acyclic : (Value.list cell).Acyclic heap) :
    0 < (heap.reached (.list cell)).card :=
  Finset.card_pos.mpr ⟨cell.index, Heap.mem_reached.mpr ⟨acyclic.isCell cell .refl, .refl⟩⟩

/-- What holds of values that are no lists, and of a list with one level more than its items need,
holds of a value with as many levels as there are lists to be reached from it. -/
theorem Value.Acyclic.levels {motive : ℕ → Value → Prop}
    (leaf : ∀ depth value, (∀ cell, value ≠ .list cell) → motive depth value)
    (list : ∀ depth cell, (Value.list cell).Acyclic heap →
      (∀ item ∈ (heap.readList cell).toList, motive depth item) → motive (depth + 1) (.list cell))
    {value : Value} (acyclic : value.Acyclic heap) {depth : ℕ}
    (enough : (heap.reached value).card ≤ depth) : motive depth value := by
  induction depth generalizing value with
  | zero =>
    refine leaf 0 value fun cell isList => ?_
    subst isList
    exact Nat.not_lt_of_le enough acyclic.card_reached_pos
  | succ depth inductionHypothesis =>
    by_cases isList : ∃ cell, value = .list cell
    · obtain ⟨cell, rfl⟩ := isList
      refine list depth cell acyclic fun item isItem => ?_
      -- An item reaches fewer lists, so one level less is enough for it.
      exact inductionHypothesis (acyclic.inner (.single ⟨cell, rfl, isItem⟩))
        (Nat.le_of_lt_succ (Nat.lt_of_lt_of_le (acyclic.card_reached_lt isItem) enough))
    · exact leaf (depth + 1) value fun cell same => isList ⟨cell, same⟩

/-! ### Looking through lists -/

/-- Looking through the lists in a value without cycles comes to an end. -/
theorem Value.Acyclic.hasText {value : Value} (acyclic : value.Acyclic heap) :
    value.hasText heap = true := by
  refine acyclic.levels (motive := fun depth value => value.endsWithin heap.items depth = true)
    (fun depth value notList => ?_) (fun depth cell _ items => ?_) (heap.card_reached_le value)
  · refine Value.endsWithin_of_nil ?_ depth
    cases value with
    | list cell => exact absurd rfl (notList cell)
    | _ => rfl
  · rw [Value.endsWithin, List.all_eq_true]
    exact items

/-- If it comes to an end, every path from the value does. -/
theorem Value.acc_of_endsWithin {value : Value} {depth : ℕ}
    (ends : value.endsWithin heap.items depth = true) :
    Acc (fun item outer => heap.Contains outer item) value := by
  induction depth generalizing value with
  | zero =>
    rw [endsWithin, List.isEmpty_iff] at ends
    refine .intro value fun item contains => ?_
    obtain ⟨cell, rfl, isItem⟩ := contains
    exact absurd (ends ▸ isItem : item ∈ []) List.not_mem_nil
  | succ depth inductionHypothesis =>
    rw [endsWithin, List.all_eq_true] at ends
    refine .intro value fun item contains => ?_
    obtain ⟨cell, rfl, isItem⟩ := contains
    exact inductionHypothesis (ends item isItem)

/-- Where every path comes to an end, nothing leads back to itself. -/
theorem Value.not_transGen_self {value : Value}
    (acc : Acc (fun item outer => heap.Contains outer item) value) :
    ¬Relation.TransGen heap.Contains value value := by
  induction acc with
  | intro value _ inductionHypothesis =>
    intro cycle
    obtain ⟨item, step, path⟩ := Relation.TransGen.head'_iff.mp cycle
    exact inductionHypothesis item step (.tail' path step)

theorem Value.acc_inner {value inner : Value}
    (acc : Acc (fun item outer => heap.Contains outer item) value)
    (path : Relation.ReflTransGen heap.Contains value inner) :
    Acc (fun item outer => heap.Contains outer item) inner := by
  induction path with
  | refl => exact acc
  | tail _ step inductionHypothesis => exact inductionHypothesis.inv step

/-- A value whose lists are in the heap has a plain text exactly if none of them holds itself. -/
theorem Value.hasText_iff {value : Value}
    (areCells : ∀ cell, Relation.ReflTransGen heap.Contains value (.list cell) →
      cell.index < heap.lists.size) :
    value.hasText heap = true ↔ value.Acyclic heap := by
  refine ⟨fun hasText => ⟨areCells, fun cell path => ?_⟩, Acyclic.hasText⟩
  exact not_transGen_self (acc_inner (acc_of_endsWithin hasText) path)

/-! ### Finding leaves -/

theorem Nested.unfold_leaf {value : Value} (notList : ∀ cell, value ≠ .list cell) (depth : ℕ) :
    unfold heap depth value = .leaf value := by
  cases value with
  | list cell => exact absurd rfl (notList cell)
  | _ => cases depth <;> rfl

/-- Unfolding to a depth finds some leaves of a value, and these are all that it has. -/
def Heap.FindsLeaves (heap : Heap) (depth : ℕ) (value : Value) : Prop :=
  ∃ leaves, Leaves heap value leaves ∧ ∀ found : Array Value,
    ((Nested.unfold heap depth value).gather found).toList = found.toList ++ leaves

theorem AllLeaves.gatherAll {depth : ℕ} {values : List Value}
    (finds : ∀ value ∈ values, heap.FindsLeaves depth value) :
    ∃ leaves, AllLeaves heap values leaves ∧ ∀ found : Array Value,
      (Nested.gatherAll found (values.map (Nested.unfold heap depth))).toList =
        found.toList ++ leaves := by
  induction values with
  | nil => exact ⟨[], .nil, fun found => (List.append_nil _).symm⟩
  | cons value rest inductionHypothesis =>
    obtain ⟨⟨leaves, isFirst, gathers⟩, findsRest⟩ := List.forall_mem_cons.mp finds
    obtain ⟨others, isRest, gathersRest⟩ := inductionHypothesis findsRest
    refine ⟨leaves ++ others, .cons isFirst isRest, fun found => ?_⟩
    rw [List.map_cons, Nested.gatherAll, gathersRest, gathers, List.append_assoc]

/-- As many levels as there are lists to be reached are enough. -/
theorem Value.Acyclic.findsLeaves {value : Value} (acyclic : value.Acyclic heap) {depth : ℕ}
    (enough : (heap.reached value).card ≤ depth) : heap.FindsLeaves depth value := by
  refine acyclic.levels (fun depth value notList => ?_) (fun depth cell acyclic items => ?_) enough
  · refine ⟨[value], .leaf notList, fun found => ?_⟩
    rw [Nested.unfold_leaf notList, Nested.gather, Array.toList_push]
  · obtain ⟨leaves, each, gathers⟩ := AllLeaves.gatherAll items
    have bound := acyclic.isCell cell .refl
    have isCell : heap.lists[cell.index]? = some (heap.readList cell) := by
      rw [Heap.readList, Array.getD_eq_getD_getElem?, Array.getElem?_eq_getElem bound,
        Option.getD_some]
    exact ⟨leaves, .list isCell each, gathers⟩

/-- A value without cycles has leaves. -/
theorem Value.Acyclic.exists_leaves {value : Value} (acyclic : value.Acyclic heap) :
    ∃ leaves, Leaves heap value leaves := by
  obtain ⟨leaves, isLeaves, -⟩ := acyclic.findsLeaves (heap.card_reached_le value)
  exact ⟨leaves, isLeaves⟩

/-- The bounded unfolding of a value that has leaves finds these. -/
theorem Leaves.ofValue_eq {value : Value} {leaves : List Value}
    (isLeaves : Leaves heap value leaves) :
    (Nested.ofValue heap value).leaves = leaves.toArray := by
  obtain ⟨others, isOthers, gathers⟩ := isLeaves.acyclic.findsLeaves (heap.card_reached_le value)
  rw [isLeaves.unique isOthers, ← Array.toList_inj]
  exact gathers #[]

end Shorthand
