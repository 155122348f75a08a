/-
This file shows that a slice consists of the positions between its bounds, for lists and texts.

A negative bound counts from the end, and none is beyond either end. In words of 64 bits, with sums
that are taken only if they are words and a range that is read only if it is in order and inside,
a slice is the same. Both parts at a bound make up the whole.
-/

import Mathlib
import Shorthand.Method.Call
import Shorthand.Proofs.Alike.Basic
import Shorthand.Proofs.Index.Search
import Shorthand.Proofs.World.Adds

namespace Shorthand

variable {Closure : Type}

theorem Sequence.sliceBound_le (length : ℕ) (bound : ℤ) : sliceBound length bound ≤ length := by
  rw [sliceBound]
  split <;> omega

/-! ### Slices in words -/

namespace Word

/-- The position that a bound denotes. -/
def sliceBound? (length bound : Int64) : Option Int64 :=
  if bound < 0 then (sum? length bound).map (max · 0) else some (min bound length)

/-- The items between two bounds. -/
def slice? {α : Type} (items : Array α) (start finish : Option Int64) : Option (Array α) := do
  let first ← sliceBound? (length items) (start.getD 0)
  let last ← sliceBound? (length items) (finish.getD (length items))
  range? items first (max last first)

variable {α : Type} {items : Array α}

theorem sliceBound?_eq (short : items.size ≤ Int64.maxValue.toInt) (bound : Int64) :
    ∃ position, sliceBound? (length items) bound = some position ∧
      position.toInt = Sequence.sliceBound items.size bound.toInt := by
  have isLength := toInt_length short
  have zero : (0 : Int64).toInt = 0 := rfl
  rw [sliceBound?, Sequence.sliceBound]
  simp only [neg_iff]
  by_cases negative : bound.toInt < 0
  · obtain ⟨sum, isSum, same⟩ :=
      sum?_of_mem (length items) bound bound (length items) (by omega) (by omega)
    rw [if_pos negative, if_pos negative, isSum]
    exact ⟨_, rfl, by rw [toInt_max]; omega⟩
  · rw [if_neg negative, if_neg negative]
    exact ⟨_, rfl, by rw [toInt_min]; omega⟩

theorem slice?_eq (short : items.size ≤ Int64.maxValue.toInt) (start finish : Option Int64) :
    slice? items start finish =
      some (items.extract
        (Sequence.sliceBounds items.size (start.map Int64.toInt) (finish.map Int64.toInt)).1
        (Sequence.sliceBounds items.size (start.map Int64.toInt) (finish.map Int64.toInt)).2) := by
  have isLength := toInt_length short
  have zero : (0 : Int64).toInt = 0 := rfl
  obtain ⟨first, isFirst, sameFirst⟩ := sliceBound?_eq short (start.getD 0)
  obtain ⟨last, isLast, sameLast⟩ := sliceBound?_eq short (finish.getD (length items))
  have startBound : (start.getD 0).toInt = (start.map Int64.toInt).getD 0 := by
    cases start <;> rfl
  have finishBound :
      (finish.getD (length items)).toInt = (finish.map Int64.toInt).getD items.size := by
    cases finish with
    | none => exact isLength
    | some finish => rfl
  have firstInside := Sequence.sliceBound_le items.size (start.getD 0).toInt
  have lastInside := Sequence.sliceBound_le items.size (finish.getD (length items)).toInt
  have inOrder : 0 ≤ first ∧ first ≤ max last first ∧ max last first ≤ length items := by
    simp only [Int64.le_iff_toInt_le, toInt_max]
    omega
  rw [slice?, isFirst, isLast]
  simp only [Option.bind_eq_bind, Option.bind_some]
  rw [range?, if_pos inOrder, toInt_max, sameFirst, sameLast, ← Nat.cast_max, Int.toNat_natCast,
    Int.toNat_natCast, startBound, finishBound, Nat.max_comm]
  rfl

end Word

namespace Sequence

/-! ### Positions between bounds -/

/-- The position that a bound denotes in a sequence with a length. -/
def boundPosition (length bound : ℤ) : ℤ :=
  if bound < 0 then max 0 (length + bound) else min bound length

/-- The items at all positions from a first one up to a last one, which is not included. -/
def itemsBetween {α : Type} (items : List α) (first last : ℤ) : List α :=
  ((List.range items.length).filter fun index : ℕ => first ≤ index ∧ index < last).filterMap
    fun index => items[index]?

variable {α : Type}

theorem itemsBetween_eq_extract (items : List α) (first last : ℕ) :
    itemsBetween items first last = items.extract first last := by
  induction items using List.reverseRecOn with
  | nil => simp [itemsBetween]
  | append_singleton items item inductionHypothesis =>
    have front : ((List.range items.length).filter fun index : ℕ =>
        (first : ℤ) ≤ index ∧ (index : ℤ) < last).filterMap
          (fun index => (items ++ [item])[index]?) = itemsBetween items first last := by
      refine List.filterMap_congr fun index isIndex => ?_
      exact List.getElem?_append_left (List.mem_range.mp (List.mem_filter.mp isIndex).1)
    rw [itemsBetween, List.length_append, List.length_singleton, List.range_succ,
      List.filter_append, List.filterMap_append, front, inductionHypothesis,
      List.extract_eq_take_drop, List.extract_eq_take_drop, List.drop_append, List.take_append,
      List.length_drop]
    congr 1
    by_cases after : first ≤ items.length
    · rw [Nat.sub_eq_zero_of_le after, List.drop_zero]
      by_cases before : items.length < last
      · have isIn : 1 ≤ last - first - (items.length - first) := by omega
        rw [List.take_of_length_le isIn]
        simp [after, before]
      · have isOut : last - first - (items.length - first) = 0 := by omega
        rw [isOut]
        simp [before]
    · rw [List.drop_of_length_le (by rw [List.length_singleton]; omega)]
      simp [after]

theorem sliceBound_eq (length : ℕ) (bound : ℤ) :
    (sliceBound length bound : ℤ) = boundPosition length bound := by
  rw [sliceBound, boundPosition]
  split <;> omega

theorem itemsBetween_bounds (items : List α) (first last : ℤ) :
    items.extract (sliceBounds items.length (some first) (some last)).1
        (sliceBounds items.length (some first) (some last)).2 =
      itemsBetween items (boundPosition items.length first) (boundPosition items.length last) := by
  rw [← sliceBound_eq, ← sliceBound_eq, itemsBetween_eq_extract, List.extract_eq_take_drop,
    List.extract_eq_take_drop]
  simp only [sliceBounds, Option.getD_some]
  congr 1
  omega

/-- What is before a bound and what is after it. -/
theorem extract_append_extract (items : List α) (bound : ℤ) :
    items.extract (sliceBounds items.length (some 0) (some bound)).1
        (sliceBounds items.length (some 0) (some bound)).2 ++
      items.extract (sliceBounds items.length (some bound) none).1
        (sliceBounds items.length (some bound) none).2 = items := by
  have inside := sliceBound_le items.length bound
  have zero : sliceBound items.length 0 = 0 := rfl
  have whole : sliceBound items.length items.length = items.length := by
    rw [sliceBound]
    split <;> omega
  simp only [sliceBounds, Option.getD_some, Option.getD_none, zero, whole, Nat.zero_max,
    Nat.max_eq_right inside, List.extract_eq_take_drop, List.drop_zero, Nat.sub_zero]
  rw [List.take_of_length_le (l := items.drop _) (by rw [List.length_drop]),
    List.take_append_drop]

/-! ### Slices of lists and texts -/

/-- An integer as a value. -/
def integer (word : Int64) : Value := .number (.integer word)

/-- What is before a bound, with what is after it behind. -/
def rejoin (machine : Machine Closure) (whole : Value) (bound : Int64) : Action Closure Value := do
  let front ← Method.call machine whole "slice" [integer 0, integer bound]
  let back ← Method.call machine whole "slice" [integer bound]
  Method.call machine front "concat" [back]

variable (machine : Machine Closure) {world : World Closure}

/-- The texts of numbers can be found. -/
theorem hasArgument_numbers (numbers : List Number) (position : ℕ) (heap : Heap) :
    Method.hasArgument (numbers.map .number) position heap = true := by
  refine hasArgument_leaf fun cell => ?_
  rw [Method.argument, List.getD_eq_getElem?_getD, List.getElem?_map]
  cases numbers[position]? <;> exact Value.noConfusion

theorem slice_makes {list : ListRef} {items : Array Value} (numbers : List Number)
    {bounds : ℕ × ℕ} (isList : world.heap.lists[list.index]? = some items)
    (areBounds : sliceBounds items.size (Method.integer? world.heap (numbers.map .number) 0)
      (Method.integer? world.heap (numbers.map .number) 1) = bounds) :
    ∃ made last, (Method.call machine (.list list) "slice" (numbers.map .number)).Makes world
      (items.toList.extract bounds.1 bounds.2) made last := by
  obtain ⟨made, last, makes⟩ :=
    Action.newList_makes (items.toList.extract bounds.1 bounds.2) world
  refine ⟨made, last, makes.after (.refl world) ?_⟩
  have runs : Method.call machine (.list list) "slice" (numbers.map .number) world =
      slice list (Method.integer? world.heap (numbers.map .number) 0)
        (Method.integer? world.heap (numbers.map .number) 1) world :=
    (Action.readIf_bind (hasArgument_numbers numbers 0 world.heap) _ _).trans
      (Action.readIf_bind (hasArgument_numbers numbers 1 world.heap) _ _)
  have slices (start finish : Option ℤ) : slice list start finish world =
      Action.newList ((world.heap.readList list).extract
        (sliceBounds (world.heap.readList list).size start finish).1
        (sliceBounds (world.heap.readList list).size start finish).2) world := rfl
  rw [runs, slices, Heap.readList_of_getElem? isList, areBounds, ← Array.toList_extract,
    Array.toArray_toList]

theorem concat_makes {front back : ListRef} {items others : List Value}
    (isFront : world.heap.lists[front.index]? = some items.toArray)
    (isBack : world.heap.lists[back.index]? = some others.toArray) :
    ∃ made last, (Method.call machine (.list front) "concat" [.list back]).Makes world
      (items ++ others) made last := by
  obtain ⟨made, last, makes⟩ := Action.newList_makes (items ++ others) world
  refine ⟨made, last, makes.after (.refl world) ?_⟩
  have runs : Method.call machine (.list front) "concat" [.list back] world =
      Action.newList (world.heap.readList front ++ world.heap.readList back) world := rfl
  rw [runs, Heap.readList_of_getElem? isFront, Heap.readList_of_getElem? isBack,
    List.append_toArray]

theorem slice_text (text : String) (numbers : List Number) {bounds : ℕ × ℕ}
    (areBounds : sliceBounds text.toList.length (Method.integer? world.heap (numbers.map .number) 0)
      (Method.integer? world.heap (numbers.map .number) 1) = bounds) :
    Method.call machine (.string text) "slice" (numbers.map .number) world =
      (.value (.string (String.ofList (text.toList.extract bounds.1 bounds.2))), world) := by
  rw [List.extract_eq_take_drop, ← List.drop_take, ← areBounds]
  exact (Action.readIf_bind (hasArgument_numbers numbers 0 world.heap) _ _).trans
    (Action.readIf_bind (hasArgument_numbers numbers 1 world.heap) _ _)

theorem concat_text (front back : String) :
    Method.call machine (.string front) "concat" [.string back] world =
      (.value (.string (front ++ back)), world) := by
  have isText : (Value.string back).rawText world.heap = back := by
    rw [Value.rawText, Nested.ofValue]
    cases world.heap.lists.size <;> rfl
  have runs : Method.call machine (.string front) "concat" [.string back] world =
      (.value (.string (front ++ String.join [(Value.string back).rawText world.heap])),
        world) := by
    have hasText : ([.string back] : List Value).all (·.hasText world.heap) = true := by
      rw [List.all_cons, Value.hasText_string]
      rfl
    exact if_pos hasText
  have joined : String.join [back] = back := String.empty_append
  rw [runs, isText, joined]

theorem rejoin_makes {list : ListRef} {items : Array Value} (bound : Int64)
    (isList : world.heap.lists[list.index]? = some items) :
    ∃ made last, (rejoin machine (.list list) bound).Makes world items.toList made last := by
  obtain ⟨front, middle, makesFront⟩ : ∃ front middle,
      (Method.call machine (.list list) "slice" [integer 0, integer bound]).Makes world _ front
        middle := slice_makes machine [.integer 0, .integer bound] isList rfl
  obtain ⟨back, later, makesBack⟩ : ∃ back later,
      (Method.call machine (.list list) "slice" [integer bound]).Makes middle _ back later :=
    slice_makes machine [.integer bound] (makesFront.adds.list isList) rfl
  obtain ⟨made, last, makes⟩ :=
    concat_makes machine (makesBack.adds.list makesFront.holds) makesBack.holds
  rw [show items.toList = _ from (extract_append_extract items.toList bound.toInt).symm]
  refine ⟨made, last, makes.after (makesFront.adds.trans makesBack.adds) ?_⟩
  rw [rejoin, Action.bind_value makesFront.yields, Action.bind_value makesBack.yields]

theorem rejoin_text (text : String) (bound : Int64) :
    rejoin machine (.string text) bound world = (.value (.string text), world) := by
  have front : Method.call machine (.string text) "slice" [integer 0, integer bound] world =
      (_, world) := slice_text machine text [.integer 0, .integer bound] rfl
  have back : Method.call machine (.string text) "slice" [integer bound] world = (_, world) :=
    slice_text machine text [.integer bound] rfl
  have whole : text = String.ofList _ :=
    String.ofList_toList.symm.trans
      (congrArg String.ofList (extract_append_extract text.toList bound.toInt).symm)
  rw [rejoin, Action.bind_value front, Action.bind_value back, concat_text, ← String.ofList_append]
  exact congrArg (fun text => (Outcome.value (Value.string text), world)) whole.symm

/-- Slices in words neither overflow nor read outside of the items. -/
structure SlicesInWords (items : Array α) (start finish bound : Int64) : Prop where
  between : Word.slice? items (some start) (some finish) =
    some (itemsBetween items.toList (boundPosition items.size start.toInt)
      (boundPosition items.size finish.toInt)).toArray
  front : (Word.slice? items (some 0) (some bound)).isSome
  back : (Word.slice? items (some bound) none).isSome

theorem slicesInWords {items : Array α} (short : items.size ≤ Int64.maxValue.toInt)
    (start finish bound : Int64) : SlicesInWords items start finish bound where
  between := by
    rw [Word.slice?_eq short, ← Array.length_toList, ← itemsBetween_bounds, ← Array.toList_extract,
      Array.toArray_toList]
    rfl
  front := by rw [Word.slice?_eq short]; rfl
  back := by rw [Word.slice?_eq short]; rfl

/-- A list has no more items than a word can count, and a text no more characters. A slice is what
is at the positions from its first bound up to its second one, and nothing outside is read. What is
before a bound with what is after it behind has the content of the whole. -/
theorem slice_between_bounds (machine : Machine Closure) (world : World Closure)
    (start finish bound : Int64) :
    (∀ (list : ListRef) (items : Array Value), world.heap.lists[list.index]? = some items →
      items.size ≤ Int64.maxValue.toInt →
      (∃ made last, (Method.call machine (.list list) "slice"
        [integer start, integer finish]).Makes world
        (itemsBetween items.toList (boundPosition items.size start.toInt)
          (boundPosition items.size finish.toInt)) made last) ∧
      SlicesInWords items start finish bound ∧
      ∃ made last, (rejoin machine (.list list) bound).Makes world items.toList made last) ∧
    ∀ text : String, text.length ≤ Int64.maxValue.toInt →
      Method.call machine (.string text) "slice" [integer start, integer finish] world =
        (.value (.string (String.ofList (itemsBetween text.toList
          (boundPosition text.length start.toInt) (boundPosition text.length finish.toInt)))),
          world) ∧
      SlicesInWords text.toList.toArray start finish bound ∧
      rejoin machine (.string text) bound world = (.value (.string text), world) := by
  constructor
  · intro list items isList short
    refine ⟨?_, slicesInWords short start finish bound, rejoin_makes machine bound isList⟩
    rw [← Array.length_toList, ← itemsBetween_bounds]
    exact slice_makes machine [.integer start, .integer finish] isList rfl
  · intro text short
    refine ⟨?_, slicesInWords ?_ start finish bound, rejoin_text machine text bound⟩
    · rw [← String.length_toList, ← itemsBetween_bounds]
      exact slice_text machine text [.integer start, .integer finish] rfl
    · rwa [List.size_toArray, String.length_toList]

/-- The last two items and characters, and both parts before the last one. -/
theorem slice_mirroredWorld :
    mirroredWorld.heap.lists[(⟨0⟩ : ListRef).index]? = some #[.ofInt 2, .ofInt 1, .ofInt 2] ∧
      ((#[.ofInt 2, .ofInt 1, .ofInt 2] : Array Value).size : ℤ) ≤ Int64.maxValue.toInt ∧
      ("aéb".length : ℤ) ≤ Int64.maxValue.toInt ∧
      (∃ made last, (Method.call (slotEngine.machineWithin 0) (.list ⟨0⟩) "slice"
        [integer (-2), integer 5]).Makes mirroredWorld [.ofInt 1, .ofInt 2] made last) ∧
      (∃ made last, (rejoin (slotEngine.machineWithin 0) (.list ⟨0⟩) (-1)).Makes mirroredWorld
        [.ofInt 2, .ofInt 1, .ofInt 2] made last) ∧
      Method.call (slotEngine.machineWithin 0) (.string "aéb") "slice" [integer (-2), integer 5]
        mirroredWorld = (.value (.string "éb"), mirroredWorld) ∧
      rejoin (slotEngine.machineWithin 0) (.string "aéb") (-1) mirroredWorld =
        (.value (.string "aéb"), mirroredWorld) := by
  have short : ("aéb".length : ℤ) ≤ Int64.maxValue.toInt := by decide
  obtain ⟨lists, texts⟩ :=
    slice_between_bounds (slotEngine.machineWithin 0) mirroredWorld (-2) 5 (-1)
  obtain ⟨sliced, -, rejoined⟩ := lists ⟨0⟩ #[.ofInt 2, .ofInt 1, .ofInt 2] rfl (by decide)
  obtain ⟨slicedText, -, rejoinedText⟩ := texts "aéb" short
  exact ⟨rfl, by decide, short, sliced, rejoined, slicedText, rejoinedText⟩

end Sequence

end Shorthand
