/-
This file holds worlds that differ by new cells only.

A world adds to another one if all cells of it are there and hold what they held. What an action
does that only adds cells is no effect: nothing that was there before can tell.
-/

import Shorthand.Action

namespace Shorthand

variable {Closure : Type}

namespace Heap

variable {heap : Heap}

theorem readList_of_getElem? {cell : ListRef} {items : Array Value}
    (isCell : heap.lists[cell.index]? = some items) : heap.readList cell = items := by
  rw [readList, Array.getD_eq_getD_getElem?, isCell, Option.getD_some]

theorem readMap_of_getElem? {cell : MapRef} {table : Table Value}
    (isCell : heap.maps[cell.index]? = some table) : heap.readMap cell = table := by
  rw [readMap, Array.getD_eq_getD_getElem?, isCell, Option.getD_some]

/-- A function that does not fail is in the heap. -/
theorem lt_size_of_behaviour {cell : FunctionRef}
    (behaves : (heap.readFunction cell).behaviour ≠ .failing "") :
    cell.index < heap.functions.size := by
  refine Nat.lt_of_not_le fun beyond => behaves ?_
  rw [readFunction, Array.getD_eq_getD_getElem?, Array.getElem?_eq_none beyond]
  rfl

theorem readFunction_of_prefix {new : Heap} {cell : FunctionRef}
    (grows : heap.functions.toList <+: new.functions.toList)
    (behaves : (heap.readFunction cell).behaviour ≠ .failing "") :
    new.readFunction cell = heap.readFunction cell := by
  have bound := lt_size_of_behaviour behaves
  obtain ⟨added, same⟩ := grows
  rw [readFunction, readFunction, Array.getD_eq_getD_getElem?, Array.getD_eq_getD_getElem?,
    ← Array.getElem?_toList, ← Array.getElem?_toList, ← same, List.getElem?_append_left]
  exact bound

end Heap

namespace World

/-- A world with the same cells as another one, and maybe more of them. -/
structure Adds (old new : World Closure) : Prop where
  locals : old.heap.locals.toList <+: new.heap.locals.toList
  lists : old.heap.lists.toList <+: new.heap.lists.toList
  maps : old.heap.maps.toList <+: new.heap.maps.toList
  functions : old.heap.functions.toList <+: new.heap.functions.toList
  memos : old.heap.memos.toList <+: new.heap.memos.toList
  closures : old.closures.toList <+: new.closures.toList

namespace Adds

variable {world middle last : World Closure}

theorem refl (world : World Closure) : world.Adds world :=
  ⟨List.prefix_refl _, List.prefix_refl _, List.prefix_refl _, List.prefix_refl _,
    List.prefix_refl _, List.prefix_refl _⟩

theorem trans (adds : world.Adds middle) (further : middle.Adds last) : world.Adds last :=
  ⟨adds.locals.trans further.locals, adds.lists.trans further.lists, adds.maps.trans further.maps,
    adds.functions.trans further.functions, adds.memos.trans further.memos,
    adds.closures.trans further.closures⟩

/-- Lists may be added. -/
theorem withLists (world : World Closure) (lists : Array (Array Value)) :
    world.Adds ⟨{ world.heap with lists := world.heap.lists ++ lists }, world.closures⟩ :=
  { refl world with lists := ⟨lists.toList, Array.toList_append.symm⟩ }

/-- A list of the first world has the same items in the second. -/
theorem list {index : Nat} {items : Array Value} (adds : world.Adds middle)
    (isList : world.heap.lists[index]? = some items) : middle.heap.lists[index]? = some items := by
  obtain ⟨bound, -⟩ := Array.getElem?_eq_some_iff.mp isList
  obtain ⟨more, same⟩ := adds.lists
  rw [← isList, ← Array.getElem?_toList, ← Array.getElem?_toList, ← same,
    List.getElem?_append_left bound]

theorem elementAt {list : ListRef} {index : Nat} (adds : world.Adds middle)
    (bound : index < (world.heap.readList list).size) :
    middle.heap.elementAt list index = world.heap.elementAt list index := by
  have inside : list.index < world.heap.lists.size := by
    refine Nat.lt_of_not_le fun beyond => ?_
    rw [Heap.readList, Array.getD_eq_getD_getElem?, Array.getElem?_eq_none beyond] at bound
    exact Nat.not_lt_zero _ bound
  have isList := Array.getElem?_eq_getElem inside
  rw [Heap.elementAt, Heap.elementAt, Heap.readList_of_getElem? isList,
    Heap.readList_of_getElem? (adds.list isList)]

end Adds

end World

/-- An action that makes a new list with some items and otherwise adds cells at most. -/
structure Action.Makes (action : Action Closure Value) (world : World Closure)
    (items : List Value) (made : ListRef) (last : World Closure) : Prop where
  yields : action world = (.value (.list made), last)
  holds : last.heap.lists[made.index]? = some items.toArray
  isNew : world.heap.lists.size ≤ made.index
  adds : world.Adds last

namespace Action

variable {world middle last : World Closure}

theorem newList_makes (items : List Value) (world : World Closure) :
    ∃ made last, (Action.newList items.toArray).Makes world items made last := by
  refine ⟨_, _, rfl, Array.getElem?_push_size, Nat.le_refl _, ?_⟩
  rw [Array.push_eq_append]
  exact .withLists world #[items.toArray]

/-- Before the list is made, cells may be added. -/
theorem Makes.after {action other : Action Closure Value} {items : List Value} {made : ListRef}
    (makes : other.Makes middle items made last) (adds : world.Adds middle)
    (same : action world = other middle) : action.Makes world items made last where
  yields := same.trans makes.yields
  holds := makes.holds
  isNew := Nat.le_trans adds.lists.length_le makes.isNew
  adds := adds.trans makes.adds

end Action

end Shorthand
