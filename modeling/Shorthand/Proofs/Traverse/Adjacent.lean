/-
This file shows that removing repetitions keeps the first item of every run of equal ones.

Every item is compared with the one right before it, which need not be kept itself. Where the
equality is symmetric and transitive on the items, an item that is dropped equals all items back to
the last one that was kept, so comparing with that one comes to the same.
-/

import Shorthand.Proofs.Comparison.Swap
import Shorthand.Proofs.Formula.Compute
import Shorthand.Proofs.Traverse.Steady

namespace Shorthand.Sequence

/-! ### Runs of equal values -/

/-- An equality on some values. A value need not equal itself. -/
structure EqualityOn (equal : Value → Value → Bool) (values : List Value) : Prop where
  symm : ∀ left ∈ values, ∀ right ∈ values, equal left right = true → equal right left = true
  trans : ∀ first ∈ values, ∀ second ∈ values, ∀ third ∈ values,
    equal first second = true → equal second third = true → equal first third = true

/-- The last index of some kind before an index. -/
structure IsLastBefore (kind : ℕ → Prop) (index last : ℕ) : Prop where
  isOf : kind last
  before : last < index
  greatest : ∀ other < index, kind other → other ≤ last

/-- The indices of the first values of all runs of equal ones. -/
structure BeginsRuns (equal : Value → Value → Bool) (valueAt : ℕ → Value) (length : ℕ)
    (kept : List ℕ) : Prop where
  inOrder : kept.Sublist (List.range length)
  first : 0 < length → kept.head? = some 0
  apart : kept.IsChain fun earlier later => equal (valueAt earlier) (valueAt later) = false
  dropped : ∀ index < length, index ∉ kept → ∃ last,
    IsLastBefore (· ∈ kept) index last ∧ equal (valueAt last) (valueAt index) = true

section

variable {equal : Value → Value → Bool} {valueAt : ℕ → Value} {length : ℕ}
  (symm : ∀ left < length, ∀ right < length, equal (valueAt left) (valueAt right) = true →
    equal (valueAt right) (valueAt left) = true)
  (trans : ∀ first < length, ∀ second < length, ∀ third < length,
    equal (valueAt first) (valueAt second) = true →
      equal (valueAt second) (valueAt third) = true → equal (valueAt first) (valueAt third) = true)

include trans in
/-- A value that is not new equals the last new one before it. -/
theorem exists_novel_before {index : ℕ} (bound : index < length)
    (isOld : isNovel equal valueAt index = false) : ∃ last,
      IsLastBefore (isNovel equal valueAt · = true) index last ∧
      equal (valueAt last) (valueAt index) = true := by
  -- The value right before is new itself or equals, by transitivity, the one that this one does.
  induction index with
  | zero => cases isOld
  | succ earlier inductionHypothesis =>
    have equalsEarlier : equal (valueAt earlier) (valueAt (earlier + 1)) = true := by
      rwa [isNovel, Bool.not_eq_false'] at isOld
    cases isNew : isNovel equal valueAt earlier with
    | true =>
      exact ⟨earlier, ⟨isNew, Nat.lt_succ_self _, fun _ before _ => Nat.le_of_lt_succ before⟩,
        equalsEarlier⟩
    | false =>
      obtain ⟨last, isLast, equalsLast⟩ := inductionHypothesis (Nat.lt_of_succ_lt bound) isNew
      have before := isLast.before
      refine ⟨last, ⟨isLast.isOf, Nat.lt_succ_of_lt before, fun other otherBefore isOther => ?_⟩,
        trans last (by omega) earlier (by omega) (earlier + 1) bound equalsLast equalsEarlier⟩
      rcases Nat.lt_succ_iff_lt_or_eq.mp otherBefore with less | rfl
      · exact isLast.greatest other less isOther
      · rw [isNew] at isOther
        cases isOther

include symm trans in
/-- A new value does not equal the last new one before it. -/
theorem not_equal_novel_before {earlier later : ℕ} (bound : later < length)
    (isNew : isNovel equal valueAt later = true)
    (isLast : IsLastBefore (isNovel equal valueAt · = true) later earlier) :
    equal (valueAt earlier) (valueAt later) = false := by
  obtain ⟨previous, rfl⟩ := Nat.exists_eq_succ_of_ne_zero (Nat.ne_zero_of_lt isLast.before)
  have differs : equal (valueAt previous) (valueAt (previous + 1)) = false := by
    rwa [isNovel, Bool.not_eq_true'] at isNew
  rcases Nat.lt_succ_iff_lt_or_eq.mp isLast.before with less | rfl
  · -- The value in between equals the earlier one, so it would equal the later one as well.
    have isOld : isNovel equal valueAt previous = false := by
      rw [← Bool.not_eq_true]
      exact fun isNewPrevious => absurd
        (isLast.greatest previous (Nat.lt_succ_self _) isNewPrevious) (Nat.not_le_of_lt less)
    obtain ⟨last, isLastToo, equalsLast⟩ :=
      exists_novel_before trans (Nat.lt_of_succ_lt bound) isOld
    have before := isLastToo.before
    obtain rfl : last = earlier := Nat.le_antisymm
      (isLast.greatest last (Nat.lt_succ_of_lt before) isLastToo.isOf)
      (isLastToo.greatest earlier less isLast.isOf)
    rw [← Bool.not_eq_true]
    intro equals
    rw [trans previous (by omega) last (by omega) (previous + 1) bound
      (symm last (by omega) previous (by omega) equalsLast) equals] at differs
    cases differs
  · exact differs

/-- In a list of numbers in order, a relation between each number and the next holds along it. -/
theorem isChain_of_next {kept : List ℕ} {related : ℕ → ℕ → Prop} (sorted : kept.Pairwise (· < ·))
    (next : ∀ earlier, ∀ later ∈ kept, IsLastBefore (· ∈ kept) later earlier →
      related earlier later) :
    kept.IsChain related := by
  rw [List.isChain_iff_getElem]
  rw [List.pairwise_iff_getElem] at sorted
  intro position bound
  refine next _ _ (List.getElem_mem _) ⟨List.getElem_mem _,
    sorted _ _ _ _ (Nat.lt_succ_self position), fun other before member => ?_⟩
  obtain ⟨place, inside, rfl⟩ := List.getElem_of_mem member
  rcases Nat.lt_or_ge place (position + 1) with early | late
  · rcases Nat.lt_succ_iff_lt_or_eq.mp early with less | rfl
    · exact (sorted _ _ inside _ less).le
    · exact Nat.le_refl _
  · rcases Nat.lt_or_eq_of_le late with less | rfl
    · exact absurd before (sorted _ _ bound inside less).not_gt
    · exact absurd before (Nat.lt_irrefl _)

include symm trans in
/-- The new values are those that begin the runs. -/
theorem novel_beginsRuns :
    BeginsRuns equal valueAt length ((List.range length).filter (isNovel equal valueAt)) := by
  have isKept {index : ℕ} : index ∈ (List.range length).filter (isNovel equal valueAt) ↔
      index < length ∧ isNovel equal valueAt index = true := by
    rw [List.mem_filter, List.mem_range]
  refine ⟨List.filter_sublist, fun positive => ?_, ?_, fun index bound notKept => ?_⟩
  · obtain ⟨rest, rfl⟩ := Nat.exists_eq_succ_of_ne_zero (Nat.ne_of_gt positive)
    rw [List.range_succ_eq_map, List.filter_cons_of_pos rfl, List.head?_cons]
  · refine isChain_of_next (List.pairwise_lt_range.sublist List.filter_sublist) ?_
    intro earlier later isLater isLast
    obtain ⟨bound, isNew⟩ := isKept.mp isLater
    exact not_equal_novel_before symm trans bound isNew ⟨(isKept.mp isLast.isOf).2, isLast.before,
      fun other less isNewOther =>
        isLast.greatest other less (isKept.mpr ⟨less.trans bound, isNewOther⟩)⟩
  · have isOld : isNovel equal valueAt index = false := by
      rw [← Bool.not_eq_true]
      exact fun isNew => notKept (isKept.mpr ⟨bound, isNew⟩)
    obtain ⟨last, isLast, equals⟩ := exists_novel_before trans bound isOld
    exact ⟨last, ⟨isKept.mpr ⟨isLast.before.trans bound, isLast.isOf⟩, isLast.before,
      fun other less member => isLast.greatest other less (isKept.mp member).2⟩, equals⟩

end

/-- Where no item equals the one right before it, all are new. -/
theorem filter_isNovel_of_isChain {equal : Value → Value → Bool} {heap : Heap} {list : ListRef}
    (apart : (heap.readList list).toList.IsChain fun earlier later => equal earlier later = false) :
    (List.range (heap.readList list).size).filter (isNovel equal (heap.elementAt list)) =
      List.range (heap.readList list).size := by
  have elementAt (index : ℕ) (bound : index < (heap.readList list).size) :
      heap.elementAt list index = (heap.readList list)[index] := by
    rw [Heap.elementAt, Array.getD_eq_getD_getElem?, Array.getElem?_eq_getElem bound,
      Option.getD_some]
  rw [List.filter_eq_self]
  intro index member
  cases index with
  | zero => rfl
  | succ earlier =>
    have bound := List.mem_range.mp member
    have differs := List.isChain_iff_getElem.mp apart earlier bound
    rw [isNovel, Bool.not_eq_true', elementAt _ (Nat.lt_of_succ_lt bound), elementAt _ bound]
    exact differs

/-! ### Removing repetitions -/

/-- Calls of a callback tell whether two of some values are equal, and have no effect: as long as
cells have only been added, the callback becomes a function, and as long as cells have only been
added since, a call of it answers and adds cells at most. -/
def Decides (machine : Machine SlotClosure) (callback context : Value) (world : World SlotClosure)
    (values : List Value) (equal : Value → Value → Bool) : Prop :=
  ∀ before, world.Adds before → ∃ function start,
    machine.toFunction callback before = (.value function, start) ∧ before.Adds start ∧
    ∀ middle, start.Adds middle → ∀ left ∈ values, ∀ right ∈ values, ∃ answer after,
      machine.invoke function context [left, right] middle = (.value answer, after) ∧
      answer.truthy = equal left right ∧ middle.Adds after

variable {machine : Machine SlotClosure} {equality context : Option Value}
  {world before : World SlotClosure} {values : List Value} {equal : Value → Value → Bool}

/-- Removing the repetitions in a list of such values makes a list of the new ones. -/
theorem uniq_makes
    (decides : Decides machine (equality.getD (.string "===")) (context.getD .undefined) world
      values equal)
    (adds : world.Adds before) {list : ListRef}
    (known : (before.heap.readList list).toList ⊆ values) :
    ∃ made last, (uniq machine (.list list) equality context).Makes before
      (((List.range (before.heap.readList list).size).filter
        (isNovel equal (before.heap.elementAt list))).map (before.heap.elementAt list)) made
      last := by
  obtain ⟨function, start, toFunction, addsStart, answers⟩ := decides before adds
  have ready : Ready machine start.Adds list (equality.getD (.string "===")) function before
      start :=
    ⟨toFunction, .refl start, fun later addsLater index bound =>
      (addsStart.trans addsLater).elementAt bound⟩
  obtain ⟨middle, same, addsMiddle⟩ := ready.uniq context rfl
    fun later addsLater left isLeft right isRight => by
      obtain ⟨answer, after, gives, truthy, addsAfter⟩ :=
        answers later addsLater left (known isLeft) right (known isRight)
      exact ⟨answer, after, gives, truthy, addsLater.trans addsAfter⟩
  obtain ⟨made, last, makes⟩ := Action.newList_makes _ middle
  exact ⟨made, last, makes.after (addsStart.trans addsMiddle) same⟩

/-- A list without repetitions is left as it is. -/
theorem uniq_makes_of_isChain
    (decides : Decides machine (equality.getD (.string "===")) (context.getD .undefined) world
      values equal)
    (adds : world.Adds before) {list : ListRef}
    (known : (before.heap.readList list).toList ⊆ values)
    (apart : (before.heap.readList list).toList.IsChain fun earlier later =>
      equal earlier later = false) :
    ∃ made last, (uniq machine (.list list) equality context).Makes before
      (before.heap.readList list).toList made last := by
  obtain ⟨made, last, makes⟩ := uniq_makes decides adds known
  rw [filter_isNovel_of_isChain apart, map_elementAt] at makes
  exact ⟨made, last, makes⟩

/-- Equality without conversion is an equality on values that are not floating-point numbers. -/
theorem same_equalityOn (noFloats : ∀ value ∈ values, ∀ float, value ≠ .number (.float float)) :
    EqualityOn Value.same values := by
  refine ⟨fun left _ right _ => Value.same_symm, ?_⟩
  intro first isFirst second isSecond third _ same sameToo
  rwa [Value.eq_of_same (noFloats first isFirst) (noFloats second isSecond) same]

theorem same_reads : ReadsAs "===" 2 (.binary .same (.slot 0) (.slot 1)) :=
  ⟨rfl, .combinator .same, by cbv, fun _ => rfl⟩

/-- Without a callback values are compared by equality without conversion. -/
theorem same_decides (depth : ℕ) (context : Value) (world : World SlotClosure)
    (values : List Value) :
    Decides (slotEngine.machineWithin (depth + 1)) (.string "===") context world values
      Value.same := by
  intro before _
  obtain ⟨function, start, made, runs, adds, -⟩ := same_reads.toFunction (depth + 1) before
  refine ⟨function, start, made, adds, fun middle addsMiddle left _ right _ => ?_⟩
  have computes : (Code.binary .same (.slot 0) (.slot 1)).compute middle.heap
      (received 2 [left, right]) = some (.boolean (left.same right)) := rfl
  obtain ⟨after, gives, addsAfter⟩ :=
    (runs.mono addsMiddle).invoke_formula same_reads.isFormula computes depth context
  exact ⟨_, after, gives, rfl, addsAfter.adds⟩

/-- For a callback that decides without effect an equality on the items, the items at the
beginnings of all runs of equal ones remain, and doing it once more changes nothing. Without a
callback this holds for all items that are not floating-point numbers. -/
theorem uniq_keeps_beginnings :
    (∀ (machine : Machine SlotClosure) (equality context : Option Value) (list : ListRef)
      (world : World SlotClosure) (equal : Value → Value → Bool),
      Decides machine (equality.getD (.string "===")) (context.getD .undefined) world
        (world.heap.readList list).toList equal →
      EqualityOn equal (world.heap.readList list).toList → ∃ kept,
        BeginsRuns equal (world.heap.elementAt list) (world.heap.readList list).size kept ∧
        ∃ made last, (uniq machine (.list list) equality context).Makes world
            (kept.map (world.heap.elementAt list)) made last ∧
          ∃ again ended, (uniq machine (.list made) equality context).Makes last
            (kept.map (world.heap.elementAt list)) again ended) ∧
    ∀ (depth : ℕ) (context : Value) (world : World SlotClosure) (values : List Value),
      (∀ value ∈ values, ∀ float, value ≠ .number (.float float)) →
      Decides (slotEngine.machineWithin (depth + 1)) (.string "===") context world values
        Value.same ∧ EqualityOn Value.same values := by
  refine ⟨?_, fun depth context world values noFloats =>
    ⟨same_decides depth context world values, same_equalityOn noFloats⟩⟩
  intro machine equality context list world equal decides isEquality
  have begins : BeginsRuns equal (world.heap.elementAt list) (world.heap.readList list).size _ :=
    novel_beginsRuns
      (fun left isLeft right isRight =>
        isEquality.symm _ (elementAt_mem isLeft) _ (elementAt_mem isRight))
      (fun first isFirst second isSecond third isThird => isEquality.trans _ (elementAt_mem isFirst)
        _ (elementAt_mem isSecond) _ (elementAt_mem isThird))
  obtain ⟨made, last, makes⟩ := uniq_makes decides (.refl world) (List.Subset.refl _)
  generalize (List.range (world.heap.readList list).size).filter _ = kept at begins makes
  have content : (last.heap.readList made).toList = kept.map (world.heap.elementAt list) := by
    rw [Heap.readList_of_getElem? makes.holds]
  refine ⟨kept, begins, made, last, makes, ?_⟩
  rw [← content]
  refine uniq_makes_of_isChain decides makes.adds ?_ ?_
  · rw [content]
    intro value member
    obtain ⟨index, isKept, rfl⟩ := List.mem_map.mp member
    exact elementAt_mem (List.mem_range.mp (begins.inOrder.subset isKept))
  · rw [content, List.isChain_map]
    exact begins.apart

/-- A world with the list `[1, 1, 2, 1]`. -/
def repeatingWorld : World SlotClosure where
  heap := { Heap.empty with lists := #[#[.ofInt 1, .ofInt 1, .ofInt 2, .ofInt 1]] }
  closures := #[]

/-- Being the same decides what to keep of that list: where its runs begin. -/
theorem uniq_repeatingWorld :
    Decides (slotEngine.machineWithin 1) (.string "===") .undefined repeatingWorld
        (repeatingWorld.heap.readList ⟨0⟩).toList Value.same ∧
      EqualityOn Value.same (repeatingWorld.heap.readList ⟨0⟩).toList ∧ ∃ kept,
        BeginsRuns Value.same (repeatingWorld.heap.elementAt ⟨0⟩) 4 kept ∧
        ∃ made last, (uniq (slotEngine.machineWithin 1) (.list ⟨0⟩) none none).Makes repeatingWorld
          (kept.map (repeatingWorld.heap.elementAt ⟨0⟩)) made last := by
  obtain ⟨keeps, qualifies⟩ := uniq_keeps_beginnings
  obtain ⟨decides, isEquality⟩ := qualifies 0 .undefined repeatingWorld
    (repeatingWorld.heap.readList ⟨0⟩).toList (by simp [repeatingWorld, Heap.readList, Value.ofInt])
  obtain ⟨kept, begins, made, last, makes, -⟩ :=
    keeps (slotEngine.machineWithin 1) none none ⟨0⟩ repeatingWorld Value.same decides isEquality
  exact ⟨decides, isEquality, kept, begins, made, last, makes⟩

end Shorthand.Sequence
