/-
This file shows what the operations compute that are written as shorthands.

Their sources are read as formulas, so each of them is a fold of operators over the items. The
greatest and the least item are found by a scan that replaces its candidate by every item that
beats it. If the order of the items is strict up to equivalence, the candidate is never beaten by
an item seen so far and beats all those before it.
-/

import Shorthand.Proofs.Comparison.Swap
import Shorthand.Proofs.Formula.Compute
import Shorthand.Proofs.Sort.ByValue
import Shorthand.Proofs.Traverse.Steady

namespace Shorthand.Sequence

/-! ### Scans -/

/-- What is left of the items after a scan that replaces its candidate by each item that beats
it. -/
def champion {α : Type} (beats : α → α → Bool) (first : α) (items : List α) : α :=
  items.foldl (fun best item => if beats item best then item else best) first

/-- The first of the items that no item beats. It beats all items before it. -/
structure IsFirstBest {α : Type} (beats : α → α → Bool) (items : List α) (best : α) : Prop where
  unbeaten : ∀ item ∈ items, beats item best = false
  first : ∃ before after, items = before ++ best :: after ∧ ∀ item ∈ before, beats best item = true

section

variable {α : Type} {beats : α → α → Bool}

theorem champion_mem (first : α) (items : List α) :
    champion beats first items ∈ first :: items := by
  induction items generalizing first with
  | nil => exact List.mem_singleton_self first
  | cons item rest inductionHypothesis =>
    rw [champion, List.foldl_cons]
    split
    · exact List.mem_cons_of_mem _ (inductionHypothesis item)
    · rcases List.mem_cons.mp (inductionHypothesis first) with same | later
      · exact List.mem_cons.mpr (.inl same)
      · exact List.mem_cons_of_mem _ (List.mem_cons_of_mem _ later)

/-- The next candidate is the first best of the items up to it. -/
theorem IsFirstBest.step {seen : List α} {best item : α}
    (order : StrictWeakOn beats (seen ++ [item])) (isBest : IsFirstBest beats seen best) :
    IsFirstBest beats (seen ++ [item]) (if beats item best then item else best) := by
  obtain ⟨unbeaten, before, after, rfl, beatsBefore⟩ := isBest
  have inSeen {other : α} :
      other ∈ before ++ best :: after → other ∈ before ++ best :: after ++ [item] :=
    List.mem_append_left _
  have inItem : item ∈ before ++ best :: after ++ [item] :=
    List.mem_append_right _ (List.mem_singleton_self item)
  by_cases better : beats item best
  · rw [if_pos better]
    -- What does not beat the old candidate does not hold out against what beats it.
    have beatsSeen : ∀ other ∈ before ++ best :: after, beats item other = true := by
      intro other member
      by_contra notBetter
      rw [order.notLess_trans (inSeen (List.mem_append_right _ List.mem_cons_self)) (inSeen member)
        inItem (unbeaten other member) (Bool.eq_false_of_not_eq_true notBetter)] at better
      cases better
    refine ⟨fun other member => ?_, _, [], rfl, beatsSeen⟩
    rcases List.mem_append.mp member with isSeen | isItem
    · exact order.asymm inItem (inSeen isSeen) (beatsSeen other isSeen)
    · rw [List.mem_singleton.mp isItem]
      exact order.irrefl item inItem
  · rw [if_neg better]
    refine ⟨fun other member => ?_, before, after ++ [item], by simp, beatsBefore⟩
    rcases List.mem_append.mp member with isSeen | isItem
    · exact unbeaten other isSeen
    · rw [List.mem_singleton.mp isItem]
      exact Bool.eq_false_of_not_eq_true better

/-- So the last candidate is the first best of all items. -/
theorem IsFirstBest.scan {seen rest : List α} {best : α}
    (order : StrictWeakOn beats (seen ++ rest)) (isBest : IsFirstBest beats seen best) :
    IsFirstBest beats (seen ++ rest) (champion beats best rest) := by
  induction rest generalizing seen best with
  | nil => rwa [List.append_nil]
  | cons item rest inductionHypothesis =>
    rw [List.append_cons] at order ⊢
    exact inductionHypothesis order (isBest.step (order.mono (List.subset_append_left _ _)))

theorem champion_isFirstBest {first : α} {rest : List α}
    (order : StrictWeakOn beats (first :: rest)) :
    IsFirstBest beats (first :: rest) (champion beats first rest) := by
  have alone : IsFirstBest beats [first] first := by
    refine ⟨fun item member => ?_, [], [], rfl, List.forall_mem_nil _⟩
    rw [List.mem_singleton.mp member]
    exact order.irrefl first List.mem_cons_self
  exact alone.scan order

end

/-! ### Formulas over the items -/

section

variable {source : String} {count : ℕ} {code : Code}

/-- A list is ready to be run through with a formula. The calls come to its values and add variables
only. -/
theorem exists_ready (reads : ReadsAs source count code) (depth : ℕ) (list : ListRef)
    (world : World SlotClosure) :
    ∃ function start, Ready (slotEngine.machineWithin (depth + 1)) start.AddsVariables list
        (.string source) function world start ∧ world.Adds start ∧
      start.heap.lists = world.heap.lists ∧
      ∀ before, start.AddsVariables before → ∀ context arguments, ∃ after,
        (slotEngine.machineWithin (depth + 1)).invoke function context arguments before =
          (.ofOption (code.compute start.heap (received count arguments)), after) ∧
        start.AddsVariables after := by
  obtain ⟨function, start, made, runs, adds, lists⟩ := reads.toFunction (depth + 1) world
  refine ⟨function, start, ⟨made, .refl start, fun before addsBefore index _ => ?_⟩, adds, lists,
    fun before addsBefore context arguments => ?_⟩
  · rw [Heap.elementAt, Heap.elementAt, Heap.readList, Heap.readList, addsBefore.agrees.lists,
      lists]
  · obtain ⟨after, gives, addsAfter⟩ := (runs.mono addsBefore.adds).invoke_formula reads.isFormula
      (code.compute_agrees addsBefore.agrees (received count arguments)) depth context
    exact ⟨after, gives, addsBefore.trans addsAfter⟩

/-- Steps that end just if the state and the item have plain texts. -/
def StepsIfTexts (heap : Heap) (next : Value → Value → Value)
    (step : Value → Value → Option Value) : Prop :=
  ∀ state item, step state item =
    if state.hasText heap && item.hasText heap then some (next state item) else none

/-- If all items have plain texts, all steps end. -/
theorem StepsIfTexts.foldlM_eq_some {heap : Heap} {next : Value → Value → Value}
    {step : Value → Value → Option Value} (steps : StepsIfTexts heap next step)
    (stays : ∀ state item, state.hasText heap = true → item.hasText heap = true →
      (next state item).hasText heap = true)
    {items : List Value} (texts : ∀ item ∈ items, item.hasText heap = true)
    {initial : Value} (text : initial.hasText heap = true) :
    items.foldlM step initial = some (items.foldl next initial) := by
  induction items generalizing initial with
  | nil => rfl
  | cons item rest inductionHypothesis =>
    obtain ⟨first, others⟩ := List.forall_mem_cons.mp texts
    rw [List.foldlM_cons, steps, text, first]
    exact inductionHypothesis others (stays initial item text first)

/-- If an item has no plain text, some step does not end. -/
theorem StepsIfTexts.foldlM_eq_none {heap : Heap} {next : Value → Value → Value}
    {step : Value → Value → Option Value} (steps : StepsIfTexts heap next step)
    {items : List Value} (noText : ∃ item ∈ items, item.hasText heap = false) (initial : Value) :
    items.foldlM step initial = none := by
  induction items generalizing initial with
  | nil => simp at noText
  | cons item rest inductionHypothesis =>
    rw [List.foldlM_cons, steps]
    rcases (List.exists_mem_cons_iff _ _ _).mp noText with first | later
    · rw [first, Bool.and_false]
      rfl
    · cases initial.hasText heap && item.hasText heap
      · rfl
      · exact inductionHypothesis later _

/-- Reducing a list by a formula that ends just if its values have plain texts. -/
theorem reduce_formula (reads : ReadsAs source 2 code) {next : Heap → Value → Value → Value}
    (steps : ∀ heap, StepsIfTexts heap (next heap) fun state item =>
      code.compute heap [state, item])
    (stays : ∀ heap state item, state.hasText heap = true → item.hasText heap = true →
      (next heap state item).hasText heap = true)
    (depth : ℕ) (list : ListRef) (initial : Value) (world : World SlotClosure) :
    ∃ last, world.Adds last ∧
      (initial.hasText world.heap = true →
        (∀ item ∈ world.heap.readList list, item.hasText world.heap = true) →
        reduce (slotEngine.machineWithin (depth + 1)) (.list list) (.string source) initial world =
          (.value ((world.heap.readList list).toList.foldl (next last.heap) initial), last)) ∧
      ((∃ item ∈ world.heap.readList list, item.hasText world.heap = false) →
        reduce (slotEngine.machineWithin (depth + 1)) (.list list) (.string source) initial world =
          (.exhausted, last)) := by
  obtain ⟨function, start, ready, adds, lists, answers⟩ := exists_ready reads depth list world
  obtain ⟨last, reduces, addsLast⟩ := ready.reduce
    (fun before addsBefore state item _ => answers before addsBefore _ [state, item]) initial
  have sameTexts : Value.hasText last.heap = Value.hasText world.heap :=
    Value.hasText_congr (addsLast.agrees.lists.trans lists)
  have computes : (fun state item => code.compute start.heap (received 2 [state, item])) =
      fun state item => code.compute last.heap [state, item] := by
    funext state item
    exact (code.compute_agrees addsLast.agrees _).symm
  rw [computes] at reduces
  simp only [← Array.mem_toList_iff, ← sameTexts]
  refine ⟨last, adds.trans addsLast.adds, fun text texts => ?_, fun noText => ?_⟩
  · rw [reduces, (steps last.heap).foldlM_eq_some (stays last.heap) texts text]
    rfl
  · rw [reduces, (steps last.heap).foldlM_eq_none noText]
    rfl

/-- Filtering a list by a formula that does not read the heap. -/
theorem filter_formula (reads : ReadsAs source 1 code) {test : Value → Bool}
    (computes : ∀ heap item, ∃ answer, code.compute heap [item] = some answer ∧
      answer.truthy = test item)
    (depth : ℕ) (list : ListRef) (world : World SlotClosure) :
    ∃ made last, (filter (slotEngine.machineWithin (depth + 1)) (.list list) (.string source)
      none).Makes world ((world.heap.readList list).toList.filter test) made last := by
  obtain ⟨function, start, ready, adds, -, answers⟩ := exists_ready reads depth list world
  obtain ⟨middle, filters, addsMiddle⟩ := ready.filter none fun before addsBefore item _ index => by
    obtain ⟨answer, found, truthy⟩ := computes start.heap item
    obtain ⟨after, gives, addsAfter⟩ := answers before addsBefore _ [item, index]
    exact ⟨answer, after, gives.trans (congrArg (Outcome.ofOption ·, after) found), truthy,
      addsAfter⟩
  obtain ⟨made, last, makes⟩ := Action.newList_makes _ middle
  exact ⟨made, last, makes.after (adds.trans addsMiddle.adds) filters⟩

end

/-! ### The sources -/

theorem sum_reads : ReadsAs "a, b -> (+a) + (+b)" 2
    (.binary .add (.unary .plus (.slot 0)) (.unary .plus (.slot 1))) :=
  ⟨rfl, .arrow ⟨["a", "b"], .expression (.binary .add (.unary .plus (.variable "a"))
    (.unary .plus (.variable "b"))), "a, b -> (+a) + (+b)"⟩, by cbv, fun _ => rfl⟩

theorem greatest_reads : ReadsAs "max, x -> (x > max) ? x : max" 2
    (.conditional (.binary .greater (.slot 1) (.slot 0)) (.slot 1) (.slot 0)) :=
  ⟨rfl, .arrow ⟨["max", "x"], .expression (.conditional (.binary .greater (.variable "x")
    (.variable "max")) (.variable "x") (.variable "max")), "max, x -> (x > max) ? x : max"⟩,
    by cbv, fun _ => rfl⟩

theorem least_reads : ReadsAs "min, x -> (x < min) ? x : min" 2
    (.conditional (.binary .less (.slot 1) (.slot 0)) (.slot 1) (.slot 0)) :=
  ⟨rfl, .arrow ⟨["min", "x"], .expression (.conditional (.binary .less (.variable "x")
    (.variable "min")) (.variable "x") (.variable "min")), "min, x -> (x < min) ? x : min"⟩,
    by cbv, fun _ => rfl⟩

theorem compact_reads : ReadsAs "x -> x !== null && x !== undefined" 1
    (.and (.binary .notSame (.slot 0) (.value .null))
      (.binary .notSame (.slot 0) (.value .undefined))) :=
  ⟨rfl, .arrow ⟨["x"], .expression (.binary .and (.binary .notSame (.variable "x") (.literal .null))
    (.binary .notSame (.variable "x") (.literal .undefined))),
    "x -> x !== null && x !== undefined"⟩, by cbv, fun _ => rfl⟩

/-! ### What they compute -/

/-- The sum of the numbers of two values. -/
def addNumbers (heap : Heap) (total item : Value) : Value :=
  .number ((total.toNumber heap).add (item.toNumber heap))

/-- Whether an operator between two values comes to something truthy. -/
def surpasses (heap : Heap) (operator : BinaryOperator) (left right : Value) : Bool :=
  (left.binary heap operator right).truthy

/-- A value is what a scan of some items by a comparison leaves, and null if there are none. -/
structure IsChampion (heap : Heap) (operator : BinaryOperator) (items : List Value)
    (best : Value) : Prop where
  empty : items = [] → best = .null
  scanned : ∀ first rest, items = first :: rest →
    best = champion (surpasses heap operator) first rest
  isItem : items ≠ [] → best ∈ items
  isFirst : items ≠ [] → StrictWeakOn (lessKey heap) items →
    IsFirstBest (surpasses heap operator) items best

theorem surpasses_less (heap : Heap) : surpasses heap .less = lessKey heap := by
  funext left right
  show (left.compare heap right).any (· == .lt) = (left.compare heap right == some .lt)
  cases left.compare heap right <;> rfl

theorem surpasses_greater (heap : Heap) :
    surpasses heap .greater = fun left right => lessKey heap right left := by
  funext left right
  show (left.compare heap right).any (· == .gt) = (right.compare heap left == some .lt)
  rw [Value.compare_swap]
  cases right.compare heap left with
  | none => rfl
  | some order => cases order <;> rfl

theorem isChampion_foldl {heap : Heap} {operator : BinaryOperator} {items : List Value}
    (order : StrictWeakOn (lessKey heap) items → StrictWeakOn (surpasses heap operator) items) :
    IsChampion heap operator items
      (items.foldl (fun best item => if surpasses heap operator item best then item else best)
        (items.headD .null)) := by
  cases items with
  | nil =>
    exact ⟨fun _ => rfl, fun _ _ isCons => absurd isCons.symm (List.cons_ne_nil _ _),
      absurd rfl, absurd rfl⟩
  | cons first rest =>
    have scans : (first :: rest).foldl
        (fun best item => if surpasses heap operator item best then item else best)
        ((first :: rest).headD .null) = champion (surpasses heap operator) first rest := by
      rw [List.foldl_cons, List.headD_cons, ite_self]
      rfl
    rw [scans]
    refine ⟨fun isNil => absurd isNil (List.cons_ne_nil _ _), ?_,
      fun _ => champion_mem first rest, fun _ strict => champion_isFirstBest (order strict)⟩
    rintro _ _ ⟨⟩
    rfl

theorem firstOrNull_list {Closure : Type} (operation : String) (list : ListRef)
    (world : World Closure) : firstOrNull operation (.list list) world =
      (.value ((world.heap.readList list).toList.headD .null), world) := by
  show (if (world.heap.readList list).size = 0 then Action.done .null else element list 0 :
    Action Closure Value) world = _
  rw [← Array.length_toList]
  cases items : (world.heap.readList list).toList with
  | nil => rfl
  | cons first rest =>
    have isFirst : world.heap.elementAt list 0 = first := by
      rw [Heap.elementAt, Array.getD_eq_getD_getElem?, ← Array.getElem?_toList, items]
      rfl
    rw [List.length_cons, if_neg (Nat.succ_ne_zero _), List.headD_cons, ← isFirst]
    rfl

/-- The steps of a sum end if the values have plain texts. -/
theorem sum_steps (heap : Heap) : StepsIfTexts heap (addNumbers heap) fun total item =>
    (Code.binary .add (.unary .plus (.slot 0)) (.unary .plus (.slot 1))).compute heap
      [total, item] := by
  intro total item
  have numbersEnd (left right : Number) :
      (Value.number left).binaryEnds heap .add (.number right) = true :=
    Value.binaryEnds_of_hasText (Value.hasText_number left) (Value.hasText_number right) .add
  show ((if total.hasText heap then some (total.unary heap .plus) else none).bind fun left =>
    (if item.hasText heap then some (item.unary heap .plus) else none).bind fun right =>
      if left.binaryEnds heap .add right then some (left.binary heap .add right) else none) = _
  cases total.hasText heap
  · rfl
  · cases item.hasText heap
    · rfl
    · exact if_pos (numbersEnd ..)

/-- A scan of a list for its champion. It ends if the items have plain texts. -/
theorem scan_isChampion {source : String} {operator : BinaryOperator}
    (reads : ReadsAs source 2
      (.conditional (.binary operator (.slot 1) (.slot 0)) (.slot 1) (.slot 0)))
    (ends : ∀ heap item best, Value.binaryEnds heap operator item best =
      (item.hasText heap && best.hasText heap))
    (order : ∀ heap items, StrictWeakOn (lessKey heap) items →
      StrictWeakOn (surpasses heap operator) items)
    (depth : ℕ) (operation : String) (list : ListRef) (world : World SlotClosure) :
    ∃ last, world.Adds last ∧
      ((∀ item ∈ world.heap.readList list, item.hasText world.heap = true) → ∃ best,
        (firstOrNull operation (.list list) >>=
          reduce (slotEngine.machineWithin (depth + 1)) (.list list) (.string source)) world =
            (.value best, last) ∧
        IsChampion last.heap operator (world.heap.readList list).toList best) ∧
      ((∃ item ∈ world.heap.readList list, item.hasText world.heap = false) →
        (firstOrNull operation (.list list) >>=
          reduce (slotEngine.machineWithin (depth + 1)) (.list list) (.string source)) world =
            (.exhausted, last)) := by
  let next (heap : Heap) (best item : Value) : Value :=
    if surpasses heap operator item best then item else best
  have steps (heap : Heap) : StepsIfTexts heap (next heap) fun best item =>
      (Code.conditional (.binary operator (.slot 1) (.slot 0)) (.slot 1) (.slot 0)).compute heap
        [best, item] := by
    intro best item
    show ((if Value.binaryEnds heap operator item best then some (item.binary heap operator best)
      else none).bind fun surpassed => if surpassed.truthy then some item else some best) = _
    rw [ends, Bool.and_comm]
    cases best.hasText heap && item.hasText heap
    · rfl
    · exact (apply_ite some _ _ _).symm
  have stays (heap : Heap) (best item : Value) (bestText : best.hasText heap = true)
      (itemText : item.hasText heap = true) : (next heap best item).hasText heap = true := by
    show (ite _ item best).hasText heap = true
    split
    · exact itemText
    · exact bestText
  obtain ⟨last, adds, yields, endless⟩ := reduce_formula reads steps stays depth list
    ((world.heap.readList list).toList.headD .null) world
  simp only [Action.bind_value (firstOrNull_list operation list world)]
  refine ⟨last, adds, fun texts => ⟨_, yields ?_ texts, isChampion_foldl (order last.heap _)⟩,
    endless⟩
  simp only [← Array.mem_toList_iff] at texts
  cases items : (world.heap.readList list).toList with
  | nil => exact Value.hasText_leaf fun _ isList => Value.noConfusion isList
  | cons first rest => exact texts first (items ▸ List.mem_cons_self)

/-- A world with the list `[3, true, null, 5]`. -/
def mixedWorld : World SlotClosure where
  heap := { Heap.empty with lists := #[#[.ofInt 3, .boolean true, .null, .ofInt 5]] }
  closures := #[]

end Shorthand.Sequence
