/-
This file says when a value has a finite tree, and that the bounded unfolding finds it.

A value that holds itself has no tree. Along any path through a value that has one the trees
shrink, so no cell comes twice, and the number of cells bounds the length of the path. The bound
is counted by the cells whose trees are small: going into a cell leaves out that cell. So looking
through a value that has a tree comes to an end as well.
-/

import Mathlib
import Shorthand.Proofs.World.Adds
import Shorthand.Proofs.World.Ends
import Shorthand.Value.Tree

namespace Shorthand

/-! ### Trees of values -/

mutual

/-- A value has a tree: every list and map in it is a cell of the heap, and unfolding it ends. -/
inductive Unfolds (heap : Heap) : Value → Tree → Prop where
  | undefined : Unfolds heap .undefined .undefined
  | null : Unfolds heap .null .null
  | boolean (value : Bool) : Unfolds heap (.boolean value) (.boolean value)
  | number (value : Number) : Unfolds heap (.number value) (.number value)
  | string (value : String) : Unfolds heap (.string value) (.string value)
  | function (cell : FunctionRef) : Unfolds heap (.function cell) (.function (heap.labelOf cell))
  | date (instant : Instant) :
    Unfolds heap (.date instant) (.date instant (heap.dateText instant))
  | list {cell : ListRef} {items : Array Value} {trees : List Tree}
      (isCell : heap.lists[cell.index]? = some items) (each : AllUnfold heap items.toList trees) :
      Unfolds heap (.list cell) (.list trees)
  | map {cell : MapRef} {table : Table Value} {trees : List (String × Tree)}
      (isCell : heap.maps[cell.index]? = some table)
      (each : EntriesUnfold heap table.entries trees) : Unfolds heap (.map cell) (.map trees)

/-- Some values have some trees, one by one. -/
inductive AllUnfold (heap : Heap) : List Value → List Tree → Prop where
  | nil : AllUnfold heap [] []
  | cons {value : Value} {tree : Tree} {values : List Value} {trees : List Tree}
      (first : Unfolds heap value tree) (rest : AllUnfold heap values trees) :
      AllUnfold heap (value :: values) (tree :: trees)

/-- Entries with the same keys in the same order, and trees for the values. -/
inductive EntriesUnfold (heap : Heap) : List (String × Value) → List (String × Tree) → Prop where
  | nil : EntriesUnfold heap [] []
  | cons {key : String} {value : Value} {tree : Tree} {entries : List (String × Value)}
      {trees : List (String × Tree)} (first : Unfolds heap value tree)
      (rest : EntriesUnfold heap entries trees) :
      EntriesUnfold heap ((key, value) :: entries) ((key, tree) :: trees)

end

variable {heap : Heap}

mutual

/-- A value has at most one tree. -/
theorem Unfolds.unique {value : Value} {tree other : Tree} :
    Unfolds heap value tree → Unfolds heap value other → tree = other
  | .undefined, .undefined => rfl
  | .null, .null => rfl
  | .boolean _, .boolean _ => rfl
  | .number _, .number _ => rfl
  | .string _, .string _ => rfl
  | .function _, .function _ => rfl
  | .date _, .date _ => rfl
  | .list isCell each, .list isCell' each' => by
    obtain rfl := Option.some.inj (isCell.symm.trans isCell')
    rw [each.unique each']
  | .map isCell each, .map isCell' each' => by
    obtain rfl := Option.some.inj (isCell.symm.trans isCell')
    rw [each.unique each']

theorem AllUnfold.unique {values : List Value} {trees others : List Tree} :
    AllUnfold heap values trees → AllUnfold heap values others → trees = others
  | .nil, .nil => rfl
  | .cons first rest, .cons first' rest' => by rw [first.unique first', rest.unique rest']

theorem EntriesUnfold.unique {entries : List (String × Value)}
    {trees others : List (String × Tree)} : EntriesUnfold heap entries trees →
      EntriesUnfold heap entries others → trees = others
  | .nil, .nil => rfl
  | .cons first rest, .cons first' rest' => by rw [first.unique first', rest.unique rest']

end

/-! ### Cells with small trees -/

/-- The value that a cell of a list or a map is read through. -/
def cellValue : Nat ⊕ Nat → Value
  | .inl index => .list ⟨index⟩
  | .inr index => .map ⟨index⟩

/-- The cells of the lists and maps in a heap. -/
def Heap.cells (heap : Heap) : Finset (Nat ⊕ Nat) :=
  (Finset.range heap.lists.size).disjSum (Finset.range heap.maps.size)

open Classical in
/-- The cells that have a tree below a size. -/
noncomputable def Heap.cellsBelow (heap : Heap) (size : Nat) : Finset (Nat ⊕ Nat) :=
  heap.cells.filter fun cell => ∃ tree, Unfolds heap (cellValue cell) tree ∧ sizeOf tree < size

theorem mem_cellsBelow {cell : Nat ⊕ Nat} {size : Nat} :
    cell ∈ heap.cellsBelow size ↔
      cell ∈ heap.cells ∧ ∃ tree, Unfolds heap (cellValue cell) tree ∧ sizeOf tree < size := by
  simp only [Heap.cellsBelow, Finset.mem_filter]

theorem cellsBelow_subset {less more : Nat} (le : less ≤ more) :
    heap.cellsBelow less ⊆ heap.cellsBelow more := by
  intro cell member
  obtain ⟨isCell, tree, unfolds, small⟩ := mem_cellsBelow.mp member
  exact mem_cellsBelow.mpr ⟨isCell, tree, unfolds, Nat.lt_of_lt_of_le small le⟩

theorem card_cellsBelow_le (size : Nat) :
    (heap.cellsBelow size).card ≤ heap.lists.size + heap.maps.size := by
  have subset : heap.cellsBelow size ⊆ heap.cells := by
    intro cell member
    exact (mem_cellsBelow.mp member).1
  calc (heap.cellsBelow size).card
    _ ≤ heap.cells.card := Finset.card_le_card subset
    _ = heap.lists.size + heap.maps.size := by
      rw [Heap.cells, Finset.card_disjSum, Finset.card_range, Finset.card_range]

/-- A cell has a larger tree than what it holds, so it is not counted for what it holds. -/
theorem card_cellsBelow_lt {cell : Nat ⊕ Nat} {tree : Tree} {inner : Nat}
    (isCell : cell ∈ heap.cells) (unfolds : Unfolds heap (cellValue cell) tree)
    (inside : inner ≤ sizeOf tree) :
    (heap.cellsBelow inner).card < (heap.cellsBelow (sizeOf tree + 1)).card := by
  refine Finset.card_lt_card (Finset.ssubset_iff_of_subset ?_ |>.mpr ⟨cell, ?_, ?_⟩)
  · exact cellsBelow_subset (Nat.le_succ_of_le inside)
  · exact mem_cellsBelow.mpr ⟨isCell, tree, unfolds, Nat.lt_succ_self _⟩
  · intro member
    obtain ⟨_, other, otherUnfolds, small⟩ := mem_cellsBelow.mp member
    rw [otherUnfolds.unique unfolds] at small
    omega

theorem inl_mem_cells {index : Nat} {items : Array Value}
    (isCell : heap.lists[index]? = some items) : .inl index ∈ heap.cells := by
  obtain ⟨bound, _⟩ := Array.getElem?_eq_some_iff.mp isCell
  exact Finset.inl_mem_disjSum.mpr (Finset.mem_range.mpr bound)

theorem inr_mem_cells {index : Nat} {table : Table Value}
    (isCell : heap.maps[index]? = some table) : .inr index ∈ heap.cells := by
  obtain ⟨bound, _⟩ := Array.getElem?_eq_some_iff.mp isCell
  exact Finset.inr_mem_disjSum.mpr (Finset.mem_range.mpr bound)

/-- A depth that is enough for a cell is enough for what the cell holds with one step less. -/
theorem exists_depth_inside {cell : Nat ⊕ Nat} {tree : Tree} {inner depth : Nat}
    (isCell : cell ∈ heap.cells) (unfolds : Unfolds heap (cellValue cell) tree)
    (inside : inner ≤ sizeOf tree) (enough : (heap.cellsBelow (sizeOf tree + 1)).card ≤ depth) :
    ∃ less, depth = less + 1 ∧ (heap.cellsBelow inner).card ≤ less := by
  have fewer := Nat.lt_of_lt_of_le (card_cellsBelow_lt isCell unfolds inside) enough
  obtain ⟨less, rfl⟩ := Nat.exists_eq_add_of_le' (Nat.lt_of_le_of_lt (Nat.zero_le _) fewer)
  exact ⟨less, rfl, Nat.le_of_lt_succ fewer⟩

theorem enough_of_le {inner size depth : Nat} (le : inner ≤ size)
    (enough : (heap.cellsBelow size).card ≤ depth) : (heap.cellsBelow inner).card ≤ depth :=
  (Finset.card_le_card (cellsBelow_subset le)).trans enough

/-! ### The bounded unfolding -/

mutual

/-- Unfolding to a depth that is enough finds the whole tree. -/
theorem Unfolds.unfold_eq {value : Value} {tree : Tree} {depth : Nat}
    (enough : (heap.cellsBelow (sizeOf tree + 1)).card ≤ depth) :
    Unfolds heap value tree → Tree.unfold heap depth value = tree
  | .undefined | .null | .boolean _ | .number _ | .string _ | .function _ | .date _ => by
    rw [Tree.unfold]
  | @Unfolds.list _ cell items trees isCell each => by
    obtain ⟨less, rfl, forItems⟩ := exists_depth_inside (inl_mem_cells isCell) (.list isCell each)
      (show sizeOf trees + 1 ≤ _ by rw [Tree.list.sizeOf_spec, Nat.add_comm]) enough
    rw [Tree.unfold, Heap.readList_of_getElem? isCell, each.map_unfold forItems]
  | @Unfolds.map _ cell table trees isCell each => by
    obtain ⟨less, rfl, forEntries⟩ := exists_depth_inside (inr_mem_cells isCell) (.map isCell each)
      (show sizeOf trees + 1 ≤ _ by rw [Tree.map.sizeOf_spec, Nat.add_comm]) enough
    rw [Tree.unfold, Heap.readMap_of_getElem? isCell]
    exact congrArg Tree.map (each.map_unfold forEntries)

theorem AllUnfold.map_unfold {values : List Value} {trees : List Tree} {depth : Nat}
    (enough : (heap.cellsBelow (sizeOf trees + 1)).card ≤ depth) :
    AllUnfold heap values trees → values.map (Tree.unfold heap depth) = trees
  | .nil => rfl
  | @AllUnfold.cons _ _ tree _ trees first rest => by
    have size : sizeOf (tree :: trees) = 1 + sizeOf tree + sizeOf trees := List.cons.sizeOf_spec _ _
    rw [List.map_cons, first.unfold_eq (enough_of_le (by omega) enough),
      rest.map_unfold (enough_of_le (by omega) enough)]

theorem EntriesUnfold.map_unfold {entries : List (String × Value)} {trees : List (String × Tree)}
    {depth : Nat} (enough : (heap.cellsBelow (sizeOf trees + 1)).card ≤ depth) :
    EntriesUnfold heap entries trees →
      (entries.map fun entry => (entry.1, Tree.unfold heap depth entry.2)) = trees
  | .nil => rfl
  | @EntriesUnfold.cons _ key _ tree _ trees first rest => by
    have size : sizeOf ((key, tree) :: trees) =
        1 + (1 + sizeOf key + sizeOf tree) + sizeOf trees := by
      rw [List.cons.sizeOf_spec, Prod.mk.sizeOf_spec]
    rw [List.map_cons, first.unfold_eq (enough_of_le (by omega) enough),
      rest.map_unfold (enough_of_le (by omega) enough)]

end

/-- The bounded unfolding of a value that has a tree is that tree. -/
theorem Unfolds.ofValue_eq {value : Value} {tree : Tree} (unfolds : Unfolds heap value tree) :
    Tree.ofValue heap value = tree :=
  unfolds.unfold_eq (card_cellsBelow_le _)

/-! ### Looking through -/

mutual

/-- Looking through a value that has a tree comes to an end within a depth that is enough. -/
theorem Unfolds.endsWithin {value : Value} {tree : Tree} {depth : Nat}
    (enough : (heap.cellsBelow (sizeOf tree + 1)).card ≤ depth) :
    Unfolds heap value tree → value.endsWithin heap.parts depth = true
  | .undefined | .null | .boolean _ | .number _ | .string _ | .function _ | .date _ =>
    Value.endsWithin_of_nil rfl depth
  | @Unfolds.list _ cell items trees isCell each => by
    obtain ⟨less, rfl, forItems⟩ := exists_depth_inside (inl_mem_cells isCell) (.list isCell each)
      (show sizeOf trees + 1 ≤ _ by rw [Tree.list.sizeOf_spec, Nat.add_comm]) enough
    have parts : heap.parts (.list cell) = items.toList :=
      congrArg Array.toList (Heap.readList_of_getElem? isCell)
    rw [Value.endsWithin, parts]
    exact each.endWithin forItems
  | @Unfolds.map _ cell table trees isCell each => by
    obtain ⟨less, rfl, forEntries⟩ := exists_depth_inside (inr_mem_cells isCell) (.map isCell each)
      (show sizeOf trees + 1 ≤ _ by rw [Tree.map.sizeOf_spec, Nat.add_comm]) enough
    have parts : heap.parts (.map cell) = table.entries.map (·.2) :=
      congrArg (fun table => table.entries.map (·.2)) (Heap.readMap_of_getElem? isCell)
    rw [Value.endsWithin, parts]
    exact each.endWithin forEntries

theorem AllUnfold.endWithin {values : List Value} {trees : List Tree} {depth : Nat}
    (enough : (heap.cellsBelow (sizeOf trees + 1)).card ≤ depth) :
    AllUnfold heap values trees → values.all (Value.endsWithin heap.parts depth) = true
  | .nil => rfl
  | @AllUnfold.cons _ _ tree _ trees first rest => by
    have size : sizeOf (tree :: trees) = 1 + sizeOf tree + sizeOf trees := List.cons.sizeOf_spec _ _
    rw [List.all_cons, first.endsWithin (enough_of_le (by omega) enough),
      rest.endWithin (enough_of_le (by omega) enough), Bool.and_self]

theorem EntriesUnfold.endWithin {entries : List (String × Value)} {trees : List (String × Tree)}
    {depth : Nat} (enough : (heap.cellsBelow (sizeOf trees + 1)).card ≤ depth) :
    EntriesUnfold heap entries trees →
      (entries.map (·.2)).all (Value.endsWithin heap.parts depth) = true
  | .nil => rfl
  | @EntriesUnfold.cons _ key _ tree _ trees first rest => by
    have size : sizeOf ((key, tree) :: trees) =
        1 + (1 + sizeOf key + sizeOf tree) + sizeOf trees := by
      rw [List.cons.sizeOf_spec, Prod.mk.sizeOf_spec]
    rw [List.map_cons, List.all_cons, first.endsWithin (enough_of_le (by omega) enough),
      rest.endWithin (enough_of_le (by omega) enough), Bool.and_self]

end

/-- A value that has a tree has a literal. -/
theorem Unfolds.hasLiteral {value : Value} {tree : Tree} (unfolds : Unfolds heap value tree) :
    value.hasLiteral heap = true :=
  unfolds.endsWithin (card_cellsBelow_le _)

end Shorthand
