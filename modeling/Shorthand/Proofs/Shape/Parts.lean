/-
This file shows that cutting a list into parts and flattening it keep the content.

The parts of a list one after the other are its items, so they have the same leaves. What
flattening makes is a list of leaves, and these are the leaves of themselves.
-/

import Shorthand.Proofs.Shape.Leaves
import Shorthand.Proofs.Traverse.Steady
import Shorthand.Sequence.Shape

namespace Shorthand

variable {Closure : Type}

/-! ### Consecutive parts -/

/-- Items in consecutive parts that have all one size, but for the last, which may be shorter. -/
structure DividedInto {α : Type} (size : ℕ) (items : List α) (parts : List (List α)) : Prop where
  count : parts.length = items.length ⌈/⌉ size
  whole : ∀ part ∈ parts.dropLast, part.length = size
  last : ∀ part ∈ parts.getLast?, 1 ≤ part.length ∧ part.length ≤ size
  joined : parts.flatten = items

/-- The part of some items at an index. -/
def partAt {α : Type} (size : ℕ) (items : List α) (index : ℕ) : List α :=
  (items.drop (index * size)).take size

section

variable {α : Type} {size : ℕ} {items : List α}

theorem flatten_partAt (size : ℕ) (items : List α) (count : ℕ) :
    ((List.range count).map (partAt size items)).flatten = items.take (count * size) := by
  induction count with
  | zero => rw [Nat.zero_mul, List.take_zero]; rfl
  | succ count inductionHypothesis =>
    rw [List.range_succ, List.map_append, List.flatten_append, inductionHypothesis,
      Nat.succ_mul, List.take_add]
    simp [partAt]

theorem dividedInto_partAt (positive : 1 ≤ size) (items : List α) :
    DividedInto size items ((List.range (items.length ⌈/⌉ size)).map (partAt size items)) := by
  have reaches (index : ℕ) : items.length ⌈/⌉ size ≤ index ↔ items.length ≤ size * index :=
    ceilDiv_le_iff_le_mul positive
  have length (index : ℕ) :
      (partAt size items index).length = min size (items.length - index * size) := by
    rw [partAt, List.length_take, List.length_drop]
  refine ⟨by rw [List.length_map, List.length_range], ?_, ?_, ?_⟩
  · intro part member
    cases count : items.length ⌈/⌉ size with
    | zero => simp [count] at member
    | succ before =>
      rw [count, List.range_succ, List.map_append, List.map_singleton, List.dropLast_concat]
        at member
      obtain ⟨index, isBefore, rfl⟩ := List.mem_map.mp member
      have inside : size * (index + 1) < items.length := by
        rw [← Nat.not_le, ← reaches, count]
        have := List.mem_range.mp isBefore
        omega
      rw [length, Nat.min_eq_left]
      have := Nat.mul_comm size index
      rw [Nat.mul_succ] at inside
      omega
  · intro part member
    cases count : items.length ⌈/⌉ size with
    | zero => simp [count] at member
    | succ before =>
      rw [count, List.range_succ, List.map_append, List.map_singleton, List.getLast?_concat,
        Option.mem_some] at member
      have inside : size * before < items.length := by
        rw [← Nat.not_le, ← reaches, count]
        omega
      rw [← member, length, Nat.mul_comm]
      omega
  · rw [flatten_partAt, Nat.mul_comm]
    exact List.take_of_length_le ((reaches _).mp (Nat.le_refl _))

end

/-- New lists of the parts of some items have the leaves of the items. -/
theorem DividedInto.leaves {size : ℕ} {items : List Value} {parts : List (List Value)}
    {cells : List ListRef} {leaves : List Value} {heap : Heap}
    (divided : DividedInto size items parts)
    (hold : List.Forall₂ (fun cell part => heap.lists[cell.index]? = some part.toArray) cells parts)
    (each : AllLeaves heap items leaves) : AllLeaves heap (cells.map .list) leaves :=
  .ofLists hold (divided.joined.symm ▸ each)

namespace Sequence

theorem toList_parts (size : ℕ) (items : Array Value) :
    (parts size items).map Array.toList =
      (List.range (items.toList.length ⌈/⌉ size)).map (partAt size items.toList) := by
  rw [parts, List.map_map, Nat.ceilDiv_eq_add_pred_div]
  refine List.map_congr_left fun index _ => ?_
  rw [Function.comp_apply, Array.toList_extract, List.extract_eq_take_drop,
    Nat.add_sub_cancel_left, partAt]

/-- Making new lists yields these in order. -/
theorem fold_newList (parts : ℕ → Array Value) (indices : List ℕ) (earlier : Array Value)
    (world : World Closure) : ∃ cells last,
      Action.fold (fun values index => Action.andThen (Action.newList (parts index))
          fun value => Action.done (values.push value)) indices earlier world =
        (.value (earlier ++ (cells.map Value.list).toArray), last) ∧
      List.Forall₂ (fun cell part => last.heap.lists[cell.index]? = some part) cells
        (indices.map parts) ∧
      world.Adds last := by
  induction indices generalizing earlier world with
  | nil => exact ⟨[], world, by rw [List.map_nil, Array.append_empty]; rfl, .nil, .refl world⟩
  | cons index rest inductionHypothesis =>
    obtain ⟨made, middle, first⟩ := Action.newList_makes (parts index).toList world
    obtain ⟨cells, last, same, hold, adds⟩ :=
      inductionHypothesis (earlier.push (.list made)) middle
    refine ⟨made :: cells, last, ?_, .cons (adds.list first.holds) hold, first.adds.trans adds⟩
    rw [Action.fold, Action.andThen, first.yields]
    refine same.trans ?_
    simp

variable {world : World Closure} {list : ListRef}

/-- Cutting a list makes a new list for every part. -/
theorem chunk_makes (list : ListRef) {size : ℕ} (positive : 1 ≤ size) (world : World Closure) :
    ∃ cells parts made last, (chunk (.list list) size).Makes world (cells.map .list) made last ∧
      List.Forall₂ (fun cell part => last.heap.lists[cell.index]? = some part.toArray) cells
        parts ∧
      DividedInto size (world.heap.readList list).toList parts := by
  let pieces := (parts size (world.heap.readList list)).toArray
  obtain ⟨cells, middle, same, hold, adds⟩ := fold_newList (pieces.getD · #[])
    (List.range pieces.size) #[] world
  rw [Array.empty_append] at same
  rw [map_getD_range] at hold
  obtain ⟨made, last, makes⟩ := Action.newList_makes (cells.map Value.list) middle
  refine ⟨cells, (parts size (world.heap.readList list)).map Array.toList, made, last,
    makes.after adds ?_, ?_, ?_⟩
  · show (if size = 0 then _ else _ : Action Closure Value) world = _
    rw [if_neg (Nat.ne_of_gt positive)]
    exact Action.bind_value same
  · rw [List.forall₂_map_right_iff]
    exact hold.imp fun cell part isPart => makes.adds.list isPart
  · rw [toList_parts]
    exact dividedInto_partAt positive _

/-- Flattening makes a new list of the leaves. -/
theorem flatten_makes {leaves : List Value} (isLeaves : Leaves world.heap (.list list) leaves) :
    ∃ made last, (flatten (.list list)).Makes world leaves made last := by
  obtain ⟨made, last, makes⟩ := Action.newList_makes leaves world
  refine ⟨made, last, makes.after (.refl world) ?_⟩
  rw [← isLeaves.ofValue_eq]
  exact Action.readIf_bind isLeaves.acyclic.hasText _ _

/-- Cutting a list by a positive size gives as many parts as the size demands, all but the last as
long as the size, which together are the list. Flattening a list without cycles gives its leaves
from left to right and no list, flattening once more changes nothing, the leaves of lists one after
the other are their leaves one after the other, and a list that was cut has the leaves of the
list. -/
theorem chunk_flatten_content (list : ListRef) (world : World Closure) :
    (∀ size, 1 ≤ size → ∃ cells parts made last,
      (chunk (.list list) size).Makes world (cells.map .list) made last ∧
      List.Forall₂ (fun cell part => last.heap.lists[cell.index]? = some part.toArray) cells
        parts ∧
      DividedInto size (world.heap.readList list).toList parts) ∧
    ((Value.list list).Acyclic world.heap → ∃ leaves,
      Leaves world.heap (.list list) leaves ∧
      (∀ leaf ∈ leaves, ∀ cell, leaf ≠ .list cell) ∧
      (∃ flat last, (flatten (.list list)).Makes world leaves flat last ∧
        ∃ again ended, (flatten (.list flat)).Makes last leaves again ended) ∧
      (∀ other, (Value.list other).Acyclic world.heap → ∃ others,
        (∃ flat last, (flatten (.list other)).Makes world others flat last) ∧
        ∃ joined middle flat last,
          (concat list [.list other]).Makes world
            ((world.heap.readList list).toList ++ (world.heap.readList other).toList) joined
            middle ∧
          (flatten (.list joined)).Makes middle (leaves ++ others) flat last) ∧
      ∀ size, 1 ≤ size → ∃ cells : List ListRef, ∃ made middle flat last,
        (chunk (.list list) size).Makes world (cells.map .list) made middle ∧
        (flatten (.list made)).Makes middle leaves flat last) := by
  refine ⟨fun size positive => chunk_makes list positive world, fun acyclic => ?_⟩
  obtain ⟨leaves, isLeaves⟩ := acyclic.exists_leaves
  have each := isLeaves.items
  refine ⟨leaves, isLeaves, isLeaves.notList, ?_, ?_, ?_⟩
  · obtain ⟨flat, last, makes⟩ := flatten_makes isLeaves
    exact ⟨flat, last, makes, flatten_makes (.list makes.holds (.ofNoLists isLeaves.notList))⟩
  · intro other otherAcyclic
    obtain ⟨others, isOthers⟩ := otherAcyclic.exists_leaves
    obtain ⟨joined, middle, makes⟩ := Action.newList_makes
      ((world.heap.readList list).toList ++ (world.heap.readList other).toList) world
    have concats : (concat list [.list other]).Makes world _ joined middle :=
      makes.after (.refl world) (by rw [← Array.toList_append]; rfl)
    obtain ⟨flat, last, flattens⟩ := flatten_makes
      (.list concats.holds ((each.append isOthers.items).mono concats.adds.list))
    exact ⟨others, flatten_makes isOthers, joined, middle, flat, last, concats, flattens⟩
  · intro size positive
    obtain ⟨cells, parts, made, middle, makes, hold, divided⟩ := chunk_makes list positive world
    obtain ⟨flat, last, flattens⟩ := flatten_makes
      (.list makes.holds (divided.leaves hold (each.mono makes.adds.list)))
    exact ⟨cells, made, middle, flat, last, makes, flattens⟩

/-- A world with the list `[1, [2, []], 3]`. -/
def nestedWorld : World Unit where
  heap := { Heap.empty with
    lists := #[#[.ofInt 1, .list ⟨1⟩, .ofInt 3], #[.ofInt 2, .list ⟨2⟩], #[]] }
  closures := #[]

theorem nestedWorld_leaves :
    Leaves nestedWorld.heap (.list ⟨0⟩) [.ofInt 1, .ofInt 2, .ofInt 3] :=
  have number (value : ℤ) :
      Leaves nestedWorld.heap (.ofInt value) [.ofInt value] :=
    .leaf fun _ => Value.noConfusion
  .list rfl (.cons (number 1) (.cons (.list rfl (.cons (number 2) (.cons (.list rfl .nil) .nil)))
    (.cons (number 3) .nil)))

/-- The outer list is divided into two parts, and it is flattened to its numbers. -/
theorem chunk_flatten_nestedWorld :
    1 ≤ 2 ∧ (Value.list ⟨0⟩).Acyclic nestedWorld.heap ∧
      (∃ cells parts made last,
        (chunk (.list ⟨0⟩) 2).Makes nestedWorld (cells.map .list) made last ∧
        List.Forall₂ (fun cell part => last.heap.lists[cell.index]? = some part.toArray) cells
          parts ∧
        DividedInto 2 [.ofInt 1, .list ⟨1⟩, .ofInt 3] parts) ∧
      ∃ flat last, (flatten (.list ⟨0⟩)).Makes nestedWorld
        [.ofInt 1, .ofInt 2, .ofInt 3] flat last := by
  have acyclic := nestedWorld_leaves.acyclic
  obtain ⟨chunks, further⟩ := chunk_flatten_content ⟨0⟩ nestedWorld
  obtain ⟨leaves, isLeaves, -, ⟨flat, last, makes, -⟩, -⟩ := further acyclic
  rw [isLeaves.unique nestedWorld_leaves] at makes
  exact ⟨by decide, acyclic, chunks 2 (by decide), flat, last, makes⟩

end Sequence

end Shorthand
