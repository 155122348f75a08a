/-
This file proves what sorting by merging makes of a list.

Whatever the relation is, the result has the items of the list. If it orders them up to
equivalence, no item of the result is less than an earlier one. Equivalent items keep their order:
the result and the list have the same part that belongs to a class of them.
-/

import Mathlib
import Shorthand.Sequence.Sort

namespace Shorthand.Sequence

variable {α : Type} {less : α → α → Bool}

/-- A relation that is a strict order of the items of a list up to equivalence, where items are
equivalent if neither is less than the other. -/
structure StrictWeakOn (less : α → α → Bool) (items : List α) : Prop where
  irrefl : ∀ first ∈ items, less first first = false
  trans : ∀ first ∈ items, ∀ second ∈ items, ∀ third ∈ items,
    less first second = true → less second third = true → less first third = true
  equivalent : ∀ first ∈ items, ∀ second ∈ items, ∀ third ∈ items,
    less first second = false → less second first = false →
      less second third = false → less third second = false → less first third = false

/-- No item is less than one that comes before it. -/
def Ordered (less : α → α → Bool) (items : List α) : Prop :=
  items.Pairwise fun earlier later => less later earlier = false

namespace StrictWeakOn

theorem asymm {items : List α} (order : StrictWeakOn less items) {first second : α}
    (inFirst : first ∈ items) (inSecond : second ∈ items) (isLess : less first second = true) :
    less second first = false := by
  rw [← Bool.not_eq_true]
  intro isGreater
  have isLessThanItself := order.trans _ inFirst _ inSecond _ inFirst isLess isGreater
  rw [order.irrefl _ inFirst] at isLessThanItself
  cases isLessThanItself

/-- Not being less goes from one item to the next. -/
theorem notLess_trans {items : List α} (order : StrictWeakOn less items)
    {first second third : α} (inFirst : first ∈ items) (inSecond : second ∈ items)
    (inThird : third ∈ items) (notSecond : less second first = false)
    (notThird : less third second = false) : less third first = false := by
  rw [← Bool.not_eq_true]
  intro isLess
  -- The item in the middle is equivalent to both of the others.
  have notFirst : less first second = false := by
    rw [← Bool.not_eq_true]
    intro isGreater
    rw [order.trans _ inThird _ inFirst _ inSecond isLess isGreater] at notThird
    cases notThird
  have notSecondThird : less second third = false := by
    rw [← Bool.not_eq_true]
    intro isGreater
    rw [order.trans _ inSecond _ inThird _ inFirst isGreater isLess] at notSecond
    cases notSecond
  rw [order.equivalent _ inThird _ inSecond _ inFirst notThird notSecondThird notSecond notFirst]
    at isLess
  cases isLess

/-- A part of the items has the same order. -/
theorem mono {part items : List α} (order : StrictWeakOn less items) (subset : part ⊆ items) :
    StrictWeakOn less part where
  irrefl first inFirst := order.irrefl first (subset inFirst)
  trans first inFirst second inSecond third inThird :=
    order.trans first (subset inFirst) second (subset inSecond) third (subset inThird)
  equivalent first inFirst second inSecond third inThird :=
    order.equivalent first (subset inFirst) second (subset inSecond) third (subset inThird)

/-- The opposite of an order is one. -/
theorem swap {items : List α} (order : StrictWeakOn less items) :
    StrictWeakOn (fun left right => less right left) items where
  irrefl := order.irrefl
  trans first inFirst second inSecond third inThird isLess isLessToo :=
    order.trans third inThird second inSecond first inFirst isLessToo isLess
  equivalent first inFirst second inSecond third inThird notLess notGreater notLessToo
      notGreaterToo :=
    order.equivalent third inThird second inSecond first inFirst notLessToo notGreaterToo notLess
      notGreater

end StrictWeakOn

/-! ### Merging -/

section Merging

variable {items left right : List α}

theorem merge_ordered (order : StrictWeakOn less items) (inLeft : left ⊆ items)
    (inRight : right ⊆ items) (orderedLeft : Ordered less left)
    (orderedRight : Ordered less right) :
    Ordered less (List.merge left right fun first second => !less second first) := by
  fun_induction List.merge left right (fun first second => !less second first) with
  | case1 => exact orderedRight
  | case2 => exact orderedLeft
  | case3 first left second right inOrder inductionHypothesis =>
    obtain ⟨inFirst, inLeft⟩ := List.cons_subset.mp inLeft
    obtain ⟨afterFirst, orderedLeft⟩ := List.pairwise_cons.mp orderedLeft
    have notSecond : less second first = false := by rwa [Bool.not_eq_true'] at inOrder
    refine List.pairwise_cons.mpr ⟨fun later member => ?_,
      inductionHypothesis inLeft inRight orderedLeft orderedRight⟩
    rcases List.mem_merge.mp member with isLeft | isRight
    · exact afterFirst later isLeft
    · rcases List.mem_cons.mp isRight with rfl | isLater
      · exact notSecond
      · exact order.notLess_trans inFirst (inRight List.mem_cons_self) (inRight isRight) notSecond
          ((List.pairwise_cons.mp orderedRight).1 later isLater)
  | case4 first left second right outOfOrder inductionHypothesis =>
    obtain ⟨inSecond, inRight⟩ := List.cons_subset.mp inRight
    obtain ⟨afterSecond, orderedRight⟩ := List.pairwise_cons.mp orderedRight
    have isLess : less second first = true := Bool.not_not_eq.mp outOfOrder
    have inFirst := inLeft List.mem_cons_self
    have notFirst := order.asymm inSecond inFirst isLess
    refine List.pairwise_cons.mpr ⟨fun later member => ?_,
      inductionHypothesis inLeft inRight orderedLeft orderedRight⟩
    rcases List.mem_merge.mp member with isLeft | isRight
    · rcases List.mem_cons.mp isLeft with rfl | isLater
      · exact notFirst
      · exact order.notLess_trans inSecond inFirst (inLeft isLeft) notFirst
          ((List.pairwise_cons.mp orderedLeft).1 later isLater)
    · exact afterSecond later isRight

/-- Of items none of which is less than another one, those on the left stay in front of those on
the right. -/
theorem merge_filter (order : StrictWeakOn less items) (inLeft : left ⊆ items)
    (inRight : right ⊆ items) (orderedLeft : Ordered less left) {alike : α → Bool}
    (notLess : ∀ first ∈ items, ∀ second ∈ items, alike first = true → alike second = true →
      less first second = false) :
    (List.merge left right fun first second => !less second first).filter alike =
      left.filter alike ++ right.filter alike := by
  fun_induction List.merge left right (fun first second => !less second first) with
  | case1 => rfl
  | case2 => rw [List.filter_nil, List.append_nil]
  | case3 first left second right _ inductionHypothesis =>
    have others := inductionHypothesis (List.cons_subset.mp inLeft).2 inRight
      (List.pairwise_cons.mp orderedLeft).2
    by_cases isAlike : alike first = true
    · rw [List.filter_cons_of_pos isAlike, List.filter_cons_of_pos isAlike, others,
        List.cons_append]
    · rw [List.filter_cons_of_neg isAlike, List.filter_cons_of_neg isAlike, others]
  | case4 first left second right outOfOrder inductionHypothesis =>
    obtain ⟨inSecond, inRight⟩ := List.cons_subset.mp inRight
    have isLess : less second first = true := Bool.not_not_eq.mp outOfOrder
    have inFirst := inLeft List.mem_cons_self
    have others := inductionHypothesis inLeft inRight orderedLeft
    by_cases isAlike : alike second = true
    · -- The left has only items that `second` is less than, so none that is alike.
      have noneLeft : (first :: left).filter alike = [] := by
        refine List.filter_eq_nil_iff.mpr fun later isLeft laterAlike => ?_
        have notLater : less later first = false := by
          rcases List.mem_cons.mp isLeft with rfl | isLater
          · exact order.irrefl _ inFirst
          · exact (List.pairwise_cons.mp orderedLeft).1 later isLater
        have notSecond := order.notLess_trans inFirst (inLeft isLeft) inSecond notLater
          (notLess _ inSecond _ (inLeft isLeft) isAlike laterAlike)
        rw [isLess] at notSecond
        cases notSecond
      rw [noneLeft, List.nil_append] at others
      rw [List.filter_cons_of_pos isAlike, List.filter_cons_of_pos isAlike, others, noneLeft,
        List.nil_append]
    · rw [List.filter_cons_of_neg isAlike, List.filter_cons_of_neg isAlike, others]

end Merging

/-! ### Sorting -/

theorem mergeSort_perm (less : α → α → Bool) (items : List α) :
    (mergeSort less items).Perm items := by
  fun_induction mergeSort less items with
  | case1 => rfl
  | case2 items _ half left right =>
    have halves : items.take half ++ items.drop half = items := List.take_append_drop half items
    exact (List.merge_perm_append _).trans ((left.append right).trans (.of_eq halves))

theorem mergeSort_subset (less : α → α → Bool) {part items : List α} (included : part ⊆ items) :
    mergeSort less part ⊆ items :=
  List.Subset.trans (mergeSort_perm less part).subset included

theorem mergeSort_ordered {part items : List α} (order : StrictWeakOn less items)
    (included : part ⊆ items) : Ordered less (mergeSort less part) := by
  fun_induction mergeSort less part with
  | case1 part short =>
    match part, short with
    | [], _ => exact .nil
    | [_], _ => exact List.pairwise_singleton _ _
  | case2 part _ half left right =>
    have inTake := List.Subset.trans (List.take_subset half part) included
    have inDrop := List.Subset.trans (List.drop_subset half part) included
    exact merge_ordered order (mergeSort_subset less inTake) (mergeSort_subset less inDrop)
      (left inTake) (right inDrop)

/-- Equivalent items keep their order. -/
theorem mergeSort_filter {part items : List α} (order : StrictWeakOn less items)
    (included : part ⊆ items) {alike : α → Bool}
    (notLess : ∀ first ∈ items, ∀ second ∈ items, alike first = true → alike second = true →
      less first second = false) :
    (mergeSort less part).filter alike = part.filter alike := by
  fun_induction mergeSort less part with
  | case1 => rfl
  | case2 part _ half left right =>
    have inTake := List.Subset.trans (List.take_subset half part) included
    have inDrop := List.Subset.trans (List.drop_subset half part) included
    rw [merge_filter order (mergeSort_subset less inTake) (mergeSort_subset less inDrop)
      (mergeSort_ordered order inTake) notLess, left inTake, right inDrop, ← List.filter_append,
      List.take_append_drop]

end Shorthand.Sequence
