/-
This file proves that sorting a list by keys is stable, is done in its place and loses no element.

The function for the keys is called for the elements that the list has at the start, one after the
other with nothing in between. What it does to the world is left open, but no call takes a list
away. Only when all keys are there is the list written, and then all at once.
-/

import Shorthand.Proofs.Alike.Along
import Shorthand.Proofs.Formula.Compute
import Shorthand.Proofs.Sort.Merge
import Shorthand.Proofs.Traverse.Steady

namespace Shorthand

variable {Closure : Type}

/-! ### Lists stay -/

/-- No list of the first world is gone in the second. -/
def ListsStay (old new : World Closure) : Prop := old.heap.lists.size ≤ new.heap.lists.size

/-- Lists stay along every path. -/
instance : IsPath (ListsStay : World Closure → World Closure → Prop) where
  step keeps := keeps.lists
  trans := Nat.le_trans

/-- Calls of a machine take no list away. -/
theorem slotEngine_listsStay (depth : Nat) (function context : Value) (arguments : List Value) :
    Along ListsStay ((slotEngine.machineWithin depth).invoke function context arguments) :=
  slotEngine_along (Combine.answer_along_of_changes fun _ _ world =>
    Nat.le_refl world.heap.lists.size) depth
    function context arguments

theorem Heap.readList_changeList {heap : Heap} {list : ListRef}
    (isThere : list.index < heap.lists.size) (change : Array Value → Array Value) :
    (heap.changeList list change).readList list = change (heap.readList list) := by
  rw [Heap.readList, Heap.readList, Heap.changeList, Array.getD_eq_getD_getElem?,
    Array.getD_eq_getD_getElem?, Array.getElem?_modify, if_pos rfl,
    Array.getElem?_eq_getElem isThere]
  rfl

/-! ### Keys -/

namespace Sequence

section

variable (invoke : Invoke Closure) (function context : Value)

/-- The calls for the keys of some values from a world on, what they come to and the world that
they leave. Each begins in the world that the one before it has left. -/
inductive KeyCalls : List Value → World Closure → Outcome (List Value) → World Closure → Prop where
  | finished {world : World Closure} : KeyCalls [] world (.value []) world
  | answered {value key : Value} {rest : List Value} {outcome : Outcome (List Value)}
      {world after last : World Closure}
    (answers : invoke function context [value] world = (.value key, after))
    (further : KeyCalls rest after outcome last) :
    KeyCalls (value :: rest) world (outcome.map (key :: ·)) last
  | failed {value : Value} {rest : List Value} {failure : Failure} {world after : World Closure}
    (fails : invoke function context [value] world = (.failure failure, after)) :
    KeyCalls (value :: rest) world (.failure failure) after
  | exhausted {value : Value} {rest : List Value} {world after : World Closure}
    (exhausts : invoke function context [value] world = (.exhausted, after)) :
    KeyCalls (value :: rest) world .exhausted after

end

/-- Collecting the keys is calling for them. -/
theorem fold_keyCalls (invoke : Invoke Closure) (function context : Value)
    (valueAt : Nat → Value) (indices : List Nat) (earlier : Array Value)
    (world : World Closure) :
    ∃ outcome last,
      KeyCalls invoke function context (indices.map valueAt) world outcome last ∧
      Action.fold (fun keys index => Action.andThen (invoke function context [valueAt index])
          fun key => Action.done (keys.push key)) indices earlier world =
        (outcome.map fun keys => earlier ++ keys.toArray, last) := by
  induction indices generalizing earlier world with
  | nil => exact ⟨.value [], world, .finished, by rw [Outcome.map, Array.append_empty]; rfl⟩
  | cons index rest inductionHypothesis =>
    simp only [Action.fold, Action.andThen]
    cases called : invoke function context [valueAt index] world with
    | mk answer after =>
      cases answer with
      | failure failure => exact ⟨_, after, .failed called, rfl⟩
      | exhausted => exact ⟨_, after, .exhausted called, rfl⟩
      | value key =>
        obtain ⟨outcome, last, calls, same⟩ := inductionHypothesis (earlier.push key) after
        refine ⟨_, last, .answered called calls, same.trans ?_⟩
        cases outcome with
        | value keys => simp [Outcome.map]
        | failure failure => rfl
        | exhausted => rfl

/-- All values are passed, from the first to the last. -/
theorem collect_keyCalls (invoke : Invoke Closure) (function context : Value)
    (values : Array Value) (world : World Closure) :
    ∃ outcome last, KeyCalls invoke function context values.toList world outcome last ∧
      Action.collect (fun index => invoke function context [values.getD index .undefined])
          (List.range values.size) world =
        (outcome.map List.toArray, last) := by
  obtain ⟨outcome, last, calls, same⟩ := fold_keyCalls invoke function context
    (values.getD · .undefined) (List.range values.size) #[] world
  rw [map_getD_range] at calls
  refine ⟨outcome, last, calls, same.trans ?_⟩
  simp only [Array.empty_append]

variable {invoke : Invoke Closure} {function context : Value}

/-- There is a key for each value if no call fails. -/
theorem KeyCalls.length_eq {values keys : List Value} {outcome : Outcome (List Value)}
    {world last : World Closure}
    (calls : KeyCalls invoke function context values world outcome last)
    (isValue : outcome = .value keys) : keys.length = values.length := by
  induction calls generalizing keys with
  | finished => cases isValue; rfl
  | @answered value key rest outcome world after last answers further inductionHypothesis =>
    cases outcome with
    | value others =>
      cases isValue
      exact congrArg Nat.succ (inductionHypothesis rfl)
    | failure failure => cases isValue
    | exhausted => cases isValue
  | failed fails => cases isValue
  | exhausted exhausts => cases isValue

/-- If calls without effects yield keys, these are the keys. -/
theorem KeyCalls.eq_map {Good : World Closure → Prop} {key : Value → Value} {values : List Value}
    {outcome : Outcome (List Value)} {world last : World Closure}
    (gives : ∀ before, Good before → ∀ value, ∃ after,
      invoke function context [value] before = (.value (key value), after) ∧ Good after)
    (good : Good world)
    (calls : KeyCalls invoke function context values world outcome last) :
    outcome = .value (values.map key) := by
  induction calls with
  | finished => rfl
  | @answered value found rest outcome world after last answers further inductionHypothesis =>
    obtain ⟨_, same, goodAfter⟩ := gives world good value
    cases same.symm.trans answers
    rw [inductionHypothesis goodAfter]
    rfl
  | @failed value rest failure world after fails =>
    obtain ⟨_, same, -⟩ := gives world good value
    cases same.symm.trans fails
  | @exhausted value rest world after exhausts =>
    obtain ⟨_, same, -⟩ := gives world good value
    cases same.symm.trans exhausts

theorem KeyCalls.listsStay {values : List Value} {outcome : Outcome (List Value)}
    {world last : World Closure}
    (along : ∀ arguments, Along ListsStay (invoke function context arguments))
    (calls : KeyCalls invoke function context values world outcome last) :
    ListsStay world last := by
  induction calls with
  | finished => exact IsPath.refl _
  | @answered value key rest outcome world after last answers further inductionHypothesis =>
    have path := along [value] world
    rw [answers] at path
    exact IsPath.trans path inductionHypothesis
  | @failed value rest failure world after fails =>
    have path := along [value] world
    rwa [fails] at path
  | @exhausted value rest world after exhausts =>
    have path := along [value] world
    rwa [exhausts] at path

/-! ### The sorted list -/

/-- Whether a key is less than another one. -/
def lessKey (heap : Heap) (left right : Value) : Bool := left.compare heap right == some .lt

/-- Whether neither of two keys is less than the other. -/
def equivalentKeys (heap : Heap) (left right : Value) : Bool :=
  !lessKey heap left right && !lessKey heap right left

theorem lessKey_texts (heap : Heap) (left right : String) :
    lessKey heap (.string left) (.string right) = decide (left < right) := by
  show (some (Value.compareTexts left right) == some .lt) = _
  rw [Value.compareTexts]
  split_ifs with less <;> simp [less]

/-- Keys that are texts are in the order of texts. -/
theorem strictWeakOn_texts (heap : Heap) (texts : List String) :
    StrictWeakOn (lessKey heap) (texts.map .string) where
  irrefl := by simp [lessKey_texts]
  trans := by
    simp only [List.forall_mem_map, lessKey_texts, decide_eq_true_eq]
    exact fun first _ second _ third _ less lessToo => less.trans lessToo
  equivalent := by
    simp only [List.forall_mem_map, lessKey_texts, decide_eq_false_iff_not, not_lt]
    exact fun first _ second _ third _ notLess _ notLessToo _ => notLessToo.trans notLess

/-- Pairs of keys and values in the order of the keys. -/
structure SortedBy (heap : Heap) (keys values : List Value) (sorted : List (Value × Value)) :
    Prop where
  /-- Every value has a key. -/
  length : keys.length = values.length
  /-- No pair is lost, whatever the keys are. -/
  perm : sorted.Perm (keys.zip values)
  /-- No pair comes anywhere after one whose key is greater. -/
  ordered : StrictWeakOn (lessKey heap) keys →
    sorted.Pairwise fun earlier later => lessKey heap later.1 earlier.1 = false
  /-- The pairs whose keys are equivalent to a key are in their original order. -/
  stable : StrictWeakOn (lessKey heap) keys → ∀ key ∈ keys,
    sorted.filter (fun pair => equivalentKeys heap key pair.1) =
      (keys.zip values).filter fun pair => equivalentKeys heap key pair.1

theorem mergeSort_sortedBy (heap : Heap) {keys values : List Value}
    (length : keys.length = values.length) :
    SortedBy heap keys values (mergeSort (keyLess heap) (keys.zip values)) := by
  have isKey (pair : Value × Value) (member : pair ∈ keys.zip values) : pair.1 ∈ keys :=
    (List.of_mem_zip member).1
  have orderPairs (order : StrictWeakOn (lessKey heap) keys) :
      StrictWeakOn (keyLess heap) (keys.zip values) := {
    irrefl := fun first inFirst => order.irrefl _ (isKey first inFirst)
    trans := fun first inFirst second inSecond third inThird =>
      order.trans _ (isKey first inFirst) _ (isKey second inSecond) _ (isKey third inThird)
    equivalent := fun first inFirst second inSecond third inThird =>
      order.equivalent _ (isKey first inFirst) _ (isKey second inSecond) _ (isKey third inThird) }
  refine ⟨length, mergeSort_perm _ _, fun order => ?_, fun order key member => ?_⟩
  · exact mergeSort_ordered (orderPairs order) (List.Subset.refl _)
  · refine mergeSort_filter (orderPairs order) (List.Subset.refl _) ?_
    intro first inFirst second inSecond likeFirst likeSecond
    rw [equivalentKeys, Bool.and_eq_true, Bool.not_eq_true', Bool.not_eq_true']
      at likeFirst likeSecond
    exact order.equivalent _ (isKey first inFirst) _ member _ (isKey second inSecond)
      likeFirst.2 likeFirst.1 likeSecond.1 likeSecond.2

/-- If no item that passes comes after one that does not, those that pass come first. -/
theorem eq_filter_append_filter {α : Type} {passes : α → Bool} {items : List α}
    (ordered : items.Pairwise fun earlier later => passes later = true → passes earlier = true) :
    items = items.filter passes ++ items.filter (!passes ·) := by
  induction items with
  | nil => rfl
  | cons first rest inductionHypothesis =>
    obtain ⟨beforeRest, restOrdered⟩ := List.pairwise_cons.mp ordered
    cases passed : passes first with
    | true =>
      rw [List.filter_cons_of_pos passed, List.filter_cons_of_neg (by simp [passed])]
      exact congrArg (first :: ·) (inductionHypothesis restOrdered)
    | false =>
      have nonePasses : ∀ item ∈ rest, ¬passes item = true := fun item member isPassed =>
        Bool.false_ne_true (passed.symm.trans (beforeRest item member isPassed))
      rw [List.filter_cons_of_neg (by simp [passed]), List.filter_cons_of_pos (by simp [passed]),
        List.filter_eq_nil_iff.mpr nonePasses, List.nil_append,
        List.filter_eq_self.mpr fun item member => by simp [nonePasses item member]]

/-- If there are two keys only and one of them is less, its pairs come first. The pairs of either
key are in their original order. -/
theorem SortedBy.eq_of_two {heap : Heap} {keys values : List Value}
    {sorted : List (Value × Value)} (isSorted : SortedBy heap keys values sorted)
    (order : StrictWeakOn (lessKey heap) keys) {low high : Value} (hasLow : low ∈ keys)
    (hasHigh : high ∈ keys) (less : lessKey heap low high = true)
    {isLow : Value × Value → Bool}
    (isKey : ∀ pair ∈ keys.zip values, pair.1 = if isLow pair then low else high) :
    sorted = (keys.zip values).filter isLow ++ (keys.zip values).filter (!isLow ·) := by
  have lowAlike := order.irrefl low hasLow
  have highAlike := order.irrefl high hasHigh
  have notLess : lessKey heap high low = false := by
    by_contra lessToo
    have around :=
      order.trans low hasLow high hasHigh low hasLow less (eq_true_of_ne_false lessToo)
    exact Bool.false_ne_true (lowAlike.symm.trans around)
  have keeps {key : Value} (member : key ∈ keys) {passes : Value × Value → Bool}
      (same : ∀ pair ∈ keys.zip values, equivalentKeys heap key pair.1 = passes pair) :
      sorted.filter passes = (keys.zip values).filter passes :=
    (List.filter_congr fun pair isPair =>
      (same pair (isSorted.perm.mem_iff.mp isPair)).symm).trans
        ((isSorted.stable order key member).trans (List.filter_congr same))
  have lows : sorted.filter isLow = (keys.zip values).filter isLow := by
    refine keeps hasLow fun pair isPair => ?_
    rw [isKey pair isPair, equivalentKeys]
    cases isLow pair <;> simp [lowAlike, less, notLess]
  have highs : sorted.filter (!isLow ·) = (keys.zip values).filter (!isLow ·) := by
    refine keeps hasHigh fun pair isPair => ?_
    rw [isKey pair isPair, equivalentKeys]
    cases isLow pair <;> simp [highAlike, less, notLess]
  have lowsFirst : sorted.Pairwise fun earlier later =>
      isLow later = true → isLow earlier = true := by
    refine (isSorted.ordered order).imp_of_mem fun {earlier later} inEarlier inLater below => ?_
    rw [isKey _ (isSorted.perm.mem_iff.mp inEarlier),
      isKey _ (isSorted.perm.mem_iff.mp inLater)] at below
    intro laterLow
    by_contra earlierHigh
    rw [if_pos laterLow, if_neg earlierHigh, less] at below
    exact Bool.noConfusion below
  rw [eq_filter_append_filter lowsFirst, lows, highs]

theorem SortedBy.values_perm {heap : Heap} {keys values : List Value}
    {sorted : List (Value × Value)} (isSorted : SortedBy heap keys values sorted) :
    (sorted.map (·.2)).Perm values := by
  have all : (keys.zip values).map (·.2) = values := List.map_snd_zip isSorted.length.ge
  exact all ▸ isSorted.perm.map (·.2)

/-- A list that has been written holds what was written, if there is such a list or there was
nothing to write. -/
theorem readList_written {heap : Heap} {list : ListRef} {items : Array Value}
    (isThere : list.index < heap.lists.size ∨ items = #[]) :
    (heap.changeList list fun _ => items).readList list = items := by
  by_cases bound : list.index < heap.lists.size
  · exact Heap.readList_changeList bound _
  · rw [isThere.resolve_left bound, Heap.readList, Heap.changeList, Array.getD_eq_getD_getElem?,
      Array.getElem?_eq_none (by rw [Array.size_modify]; exact Nat.not_lt.mp bound)]
    rfl

theorem sortByValue_eq {machine : Machine Closure} {list : ListRef} {callback function : Value}
    {world start : World Closure}
    (made : machine.toFunction callback world = (.value function, start)) (context : Option Value) :
    sortByValue machine (.list list) callback context world =
      (Action.collect (fun index => machine.invoke function (context.getD .undefined)
          [(start.heap.readList list).getD index .undefined])
          (List.range (start.heap.readList list).size) >>= fun keys =>
        Action.readIf (comparable · keys) (fun heap => mergeSort (keyLess heap)
          (keys.zip (start.heap.readList list)).toList) >>= fun sorted =>
        Action.changeList list (fun _ => (sorted.map (·.2)).toArray) >>= fun _ =>
        Action.done (.list list)) start := by
  rw [sortByValue, Action.bind_value (begin_value made ..)]
  rfl

/-- What a list is after it has been sorted by keys. -/
def IsSorted (list : ListRef) (values : List Value) (last : World Closure)
    (result : Outcome Value × World Closure) (keys : List Value) : Prop :=
  ∃ sorted, SortedBy last.heap keys values sorted ∧
    result = (.value (.list list),
      ⟨last.heap.changeList list fun _ => (sorted.map (·.2)).toArray, last.closures⟩) ∧
    result.2.heap.readList list = (sorted.map (·.2)).toArray ∧
    (result.2.heap.readList list).toList.Perm values

/-- What sorting a list comes to once there are the keys of its values, and in which world it ends.
Only if no call has failed is anything done after the last of them. To compare a key that holds
itself never comes to an end, and then the list is as the calls have left it. -/
def Sorts (list : ListRef) (values : List Value) (last : World Closure)
    (result : Outcome Value × World Closure) : Outcome (List Value) → Prop
  | .value keys =>
    (comparable last.heap keys.toArray = true → IsSorted list values last result keys) ∧
      (comparable last.heap keys.toArray = false → result = (.exhausted, last))
  | .failure failure => result = (.failure failure, last)
  | .exhausted => result = (.exhausted, last)

theorem sorts_of_keyCalls {machine : Machine Closure} {list : ListRef} {callback function : Value}
    {context : Option Value} {world start : World Closure}
    (made : machine.toFunction callback world = (.value function, start))
    (stays : ∀ arguments, Along ListsStay
      (machine.invoke function (context.getD .undefined) arguments)) :
    ∃ outcome last,
      KeyCalls machine.invoke function (context.getD .undefined)
        (start.heap.readList list).toList start outcome last ∧
      Sorts list (start.heap.readList list).toList last
        (sortByValue machine (.list list) callback context world) outcome := by
  obtain ⟨outcome, last, calls, collected⟩ := collect_keyCalls machine.invoke function
    (context.getD .undefined) (start.heap.readList list) start
  refine ⟨outcome, last, calls, ?_⟩
  rw [sortByValue_eq made]
  cases outcome with
  | failure failure => exact Action.bind_failure collected _
  | exhausted => exact Action.bind_exhausted collected _
  | value keys =>
    rw [Action.bind_value collected]
    refine ⟨fun comparable => ?_, fun endless =>
      Action.bind_exhausted (Action.readIf_exhausted endless _) _⟩
    rw [Action.readIf_bind comparable]
    have pairs : (keys.toArray.zip (start.heap.readList list)).toList =
        keys.zip (start.heap.readList list).toList := Array.toList_zip
    rw [pairs]
    have isSorted := mergeSort_sortedBy last.heap (calls.length_eq rfl)
    have isThere : list.index < last.heap.lists.size ∨
        ((mergeSort (keyLess last.heap) (keys.zip (start.heap.readList list).toList)).map
          (·.2)).toArray = #[] := by
      by_cases bound : list.index < start.heap.lists.size
      · exact .inl (Nat.lt_of_lt_of_le bound (calls.listsStay stays))
      · have noValues : start.heap.readList list = #[] := by
          rw [Heap.readList, Array.getD_eq_getD_getElem?,
            Array.getElem?_eq_none (Nat.not_lt.mp bound)]
          rfl
        have nothing := isSorted.values_perm
        rw [noValues] at nothing ⊢
        exact .inr (congrArg List.toArray nothing.eq_nil)
    have written := readList_written isThere
    refine ⟨_, isSorted, rfl, written, ?_⟩
    exact (congrArg Array.toList written).symm ▸ isSorted.values_perm

/-- A world with the list `['b', 2, 'a', 1]` and the function `x -> typeof x`. -/
def kindsWorld : World SlotClosure where
  heap := { Heap.empty with
    lists := #[#[.string "b", .ofInt 2, .string "a", .ofInt 1]]
    functions := #[⟨.closure ⟨0⟩, 1, "x -> typeof x"⟩] }
  closures := #[.ofFormula 1 (.unary .typeOf (.slot 0)) "x -> typeof x"]

end Sequence

end Shorthand
