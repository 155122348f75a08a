/-
This file ties the slots of some maps to a table of answers.

Every slot holds the memoizing function as long as the table has no answer for its map, or leads
to a memo of its own with just the answers of the table. Whatever else happens, the slots stay
tied unless they or their memos are written. A call itself writes them in two ways: it puts a new
memo into a slot, and it keeps an answer.
-/

import Shorthand.Proofs.Memo.Slot

namespace Shorthand

variable {Closure : Type}

/-- The slot of a map stands for the answers of a table. -/
def Heap.Stands (heap : Heap) (function : Value) (slot : String) (receiver : MapRef)
    (answers : String → Option Value) : Prop :=
  (heap.Holds function slot receiver ∧ ∀ key, answers key = none) ∨
    ∃ memo, heap.Leads slot receiver memo ∧ memo.index < heap.memos.size ∧
      (heap.readMemo memo).function = function ∧
      ∀ key, (heap.readMemo memo).results.get? key = answers key

/-- The slots of maps stand for the answers of a table, and no two lead to the same memo. -/
structure Tied (receivers : List MapRef) (function : Value) (slot : String) (table : Reference)
    (heap : Heap) : Prop where
  stands : ∀ receiver ∈ receivers, heap.Stands function slot receiver (table receiver)
  apart : ∀ first ∈ receivers, ∀ second ∈ receivers, ∀ memo,
    heap.Leads slot first memo → heap.Leads slot second memo → first = second

/-- A change of the heap that writes neither the slot of any of some maps nor a memo that such a
slot leads to. Functions are never changed, and cells never go away. Everything else may
change. -/
structure Quiet (receivers : List MapRef) (slot : String) (old new : Heap) : Prop where
  slots : ∀ receiver ∈ receivers,
    (new.readMap receiver).get? slot = (old.readMap receiver).get? slot
  memos : ∀ receiver ∈ receivers, ∀ memo, old.Leads slot receiver memo →
    new.readMemo memo = old.readMemo memo
  functions : old.functions.toList <+: new.functions.toList
  count : old.memos.size ≤ new.memos.size

section

variable {receivers : List MapRef} {function : Value} {slot : String} {table : Reference}
  {heap new : Heap} {receiver : MapRef} {memo : MemoRef}

/-! ### Quiet changes -/

namespace Quiet

/-- A change of lists and of variables is quiet. -/
theorem ofSame (maps : new.maps = heap.maps) (functions : new.functions = heap.functions)
    (memos : new.memos = heap.memos) : Quiet receivers slot heap new where
  slots receiver _ := by rw [Heap.readMap, Heap.readMap, maps]
  memos _ _ memo _ := by rw [Heap.readMemo, Heap.readMemo, memos]
  functions := functions ▸ List.prefix_refl _
  count := memos ▸ Nat.le_refl _

theorem holds (quiet : Quiet receivers slot heap new) (member : receiver ∈ receivers)
    (old : heap.Holds function slot receiver) : new.Holds function slot receiver := by
  obtain ⟨method, isThere, behaves⟩ := old
  refine ⟨method, (quiet.slots receiver member).trans isThere, ?_⟩
  rw [Heap.readFunction_of_prefix quiet.functions (by rw [behaves]; exact Behaviour.noConfusion),
    behaves]

theorem leads (quiet : Quiet receivers slot heap new) (member : receiver ∈ receivers)
    (old : heap.Leads slot receiver memo) : new.Leads slot receiver memo := by
  obtain ⟨wrapper, isThere, behaves⟩ := old
  refine ⟨wrapper, (quiet.slots receiver member).trans isThere, ?_⟩
  rw [Heap.readFunction_of_prefix quiet.functions (by rw [behaves]; exact Behaviour.noConfusion),
    behaves]

theorem trans {last : Heap} (quiet : Quiet receivers slot heap new)
    (further : Quiet receivers slot new last) : Quiet receivers slot heap last where
  slots receiver member := (further.slots receiver member).trans (quiet.slots receiver member)
  memos receiver member memo leads := by
    rw [further.memos receiver member memo (quiet.leads member leads),
      quiet.memos receiver member memo leads]
  functions := quiet.functions.trans further.functions
  count := Nat.le_trans quiet.count further.count

theorem stands (quiet : Quiet receivers slot heap new) (member : receiver ∈ receivers)
    {answers : String → Option Value} (old : heap.Stands function slot receiver answers) :
    new.Stands function slot receiver answers := by
  rcases old with ⟨holds, none⟩ | ⟨memo, leads, bound, same, results⟩
  · exact .inl ⟨quiet.holds member holds, none⟩
  · have kept := quiet.memos receiver member memo leads
    exact .inr ⟨memo, quiet.leads member leads, Nat.lt_of_lt_of_le bound quiet.count,
      by rw [kept, same], fun key => by rw [kept, results]⟩

end Quiet

namespace Tied

/-- A slot that leads to a memo after a quiet change did so before. -/
theorem leads_of_quiet (tied : Tied receivers function slot table heap)
    (quiet : Quiet receivers slot heap new) (member : receiver ∈ receivers)
    (leads : new.Leads slot receiver memo) : heap.Leads slot receiver memo := by
  rcases tied.stands receiver member with ⟨holds, _⟩ | ⟨old, leadsOld, _⟩
  · exact absurd (quiet.holds member holds) leads.not_holds
  · rw [leads.unique (quiet.leads member leadsOld)]
    exact leadsOld

theorem quiet (tied : Tied receivers function slot table heap)
    (quiet : Quiet receivers slot heap new) : Tied receivers function slot table new where
  stands receiver member := quiet.stands member (tied.stands receiver member)
  apart first isFirst second isSecond memo leads leadsToo :=
    tied.apart first isFirst second isSecond memo (tied.leads_of_quiet quiet isFirst leads)
      (tied.leads_of_quiet quiet isSecond leadsToo)

end Tied

theorem Tied.subset {others : List MapRef} (tied : Tied receivers function slot table heap)
    (subset : others ⊆ receivers) : Tied others function slot table heap :=
  ⟨fun receiver member => tied.stands receiver (subset member),
    fun first isFirst second isSecond =>
      tied.apart first (subset isFirst) second (subset isSecond)⟩

/-! ### Changes of maps -/

namespace Heap

theorem readMap_changeMap_other {other : MapRef} (different : other ≠ receiver)
    (change : Table Value → Table Value) :
    (heap.changeMap receiver change).readMap other = heap.readMap other := by
  rw [readMap, readMap, changeMap, Array.getD_eq_getD_getElem?, Array.getD_eq_getD_getElem?,
    Array.getElem?_modify, if_neg]
  exact fun same => different (congrArg MapRef.mk same).symm

/-- A map with an entry is in the heap. -/
theorem lt_size_of_get? {key : String} {value : Value}
    (isThere : (heap.readMap receiver).get? key = some value) :
    receiver.index < heap.maps.size := by
  by_contra beyond
  rw [readMap, Array.getD_eq_getD_getElem?,
    Array.getElem?_eq_none (Nat.le_of_not_lt beyond)] at isThere
  cases isThere

theorem readMap_changeMap (bound : receiver.index < heap.maps.size)
    (change : Table Value → Table Value) :
    (heap.changeMap receiver change).readMap receiver = change (heap.readMap receiver) := by
  rw [readMap, readMap, changeMap, Array.getD_eq_getD_getElem?, Array.getD_eq_getD_getElem?,
    Array.getElem?_modify, if_pos rfl, Array.getElem?_eq_getElem bound]
  rfl

end Heap

/-- Writing another entry than the slot is quiet, also for the maps themselves. -/
theorem Quiet.entry {cell : MapRef} {key : String} (different : slot ≠ key) (value : Value) :
    Quiet receivers slot heap (heap.changeMap cell fun entries => entries.insert key value) where
  slots other _ := by
    by_cases same : other = cell
    · subst same
      by_cases bound : other.index < heap.maps.size
      · rw [Heap.readMap_changeMap bound, Table.get?_insert, if_neg different]
      · rw [Heap.readMap, Heap.readMap, Heap.changeMap, Array.getD_eq_getD_getElem?,
          Array.getD_eq_getD_getElem?, Array.getElem?_eq_none (by simpa using bound),
          Array.getElem?_eq_none (by simpa using bound)]
    · rw [Heap.readMap_changeMap_other same]
  memos _ _ _ _ := rfl
  functions := List.prefix_refl _
  count := Nat.le_refl _

/-! ### Changes for one map -/

/-- A change that is quiet for all maps but one, whose slot then leads to a memo of its own. -/
theorem Tied.replace (tied : Tied receivers function slot table heap) {after : Reference}
    (quiet : Quiet (receivers.filter (· ≠ receiver)) slot heap new)
    (others : ∀ other, other ≠ receiver → after other = table other)
    (leads : new.Leads slot receiver memo)
    (own : ∀ other ∈ receivers, other ≠ receiver → ¬heap.Leads slot other memo)
    (stands : new.Stands function slot receiver (after receiver)) :
    Tied receivers function slot after new := by
  have tiedOthers := tied.subset fun other (member : other ∈ receivers.filter (· ≠ receiver)) =>
    (List.mem_filter.mp member).1
  have rest {other : MapRef} (member : other ∈ receivers) (different : other ≠ receiver) :
      other ∈ receivers.filter (· ≠ receiver) :=
    List.mem_filter.mpr ⟨member, decide_eq_true different⟩
  -- Only the one map leads to the memo.
  have alone {other : MapRef} (member : other ∈ receivers) (leadsToo : new.Leads slot other memo) :
      other = receiver := by
    by_contra different
    exact own other member different
      (tiedOthers.leads_of_quiet quiet (rest member different) leadsToo)
  refine ⟨fun other member => ?_, fun first isFirst second isSecond common toFirst toSecond => ?_⟩
  · by_cases same : other = receiver
    · exact same ▸ stands
    · rw [others other same]
      exact quiet.stands (rest member same) (tied.stands other member)
  · by_cases isReceiver : first = receiver
    · subst isReceiver
      rw [leads.unique toFirst] at alone
      exact (alone isSecond toSecond).symm
    · by_cases secondToo : second = receiver
      · subst secondToo
        rw [leads.unique toSecond] at alone
        exact alone isFirst toFirst
      · exact tied.apart first isFirst second isSecond common
          (tiedOthers.leads_of_quiet quiet (rest isFirst isReceiver) toFirst)
          (tiedOthers.leads_of_quiet quiet (rest isSecond secondToo) toSecond)

/-! ### New memos -/

namespace Heap

theorem readMemo_newMemo (memo : Memo) :
    (heap.newMemo memo).2.readMemo ⟨heap.memos.size⟩ = memo := by
  rw [readMemo, newMemo, Array.getD_eq_getD_getElem?, Array.getElem?_push_size]
  rfl

theorem readMemo_newMemo_other {other : MemoRef} (bound : other.index < heap.memos.size)
    (memo : Memo) : (heap.newMemo memo).2.readMemo other = heap.readMemo other := by
  rw [readMemo, readMemo, newMemo, Array.getD_eq_getD_getElem?, Array.getD_eq_getD_getElem?,
    Array.getElem?_push_lt bound, Array.getElem?_eq_getElem bound]

theorem readMemo_of_prefix (grows : heap.memos.toList <+: new.memos.toList)
    (bound : memo.index < heap.memos.size) : new.readMemo memo = heap.readMemo memo := by
  obtain ⟨more, same⟩ := grows
  rw [readMemo, readMemo, Array.getD_eq_getD_getElem?, Array.getD_eq_getD_getElem?,
    ← Array.getElem?_toList, ← Array.getElem?_toList, ← same, List.getElem?_append_left bound]

theorem readFunction_newFunction (callable : Callable) :
    (heap.newFunction callable).2.readFunction ⟨heap.functions.size⟩ = callable := by
  rw [readFunction, newFunction, Array.getD_eq_getD_getElem?, Array.getElem?_push_size]
  rfl

/-- After its memo has been put into the slot, the map leads to it. -/
theorem installed_leads (holds : heap.Holds function slot receiver) :
    (heap.installed function slot receiver).Leads slot receiver ⟨heap.memos.size⟩ := by
  obtain ⟨method, isThere, _⟩ := holds
  have stillThere : (((heap.newMemo ⟨function, Table.empty⟩).2.newFunction
      (heap.wrapper function)).2.readMap receiver).get? slot = some (.function method) := isThere
  refine ⟨⟨heap.functions.size⟩, ?_, ?_⟩
  · rw [installed, readMap_changeMap (lt_size_of_get? stillThere), Table.get?_insert, if_pos rfl]
  · exact congrArg Callable.behaviour
      ((heap.newMemo ⟨function, Table.empty⟩).2.readFunction_newFunction (heap.wrapper function))

theorem installed_quiet (bounds : ∀ other ∈ receivers, ∀ memo, heap.Leads slot other memo →
      memo.index < heap.memos.size) :
    Quiet (receivers.filter (· ≠ receiver)) slot heap (heap.installed function slot receiver) where
  slots other member := by
    have different := of_decide_eq_true (List.mem_filter.mp member).2
    rw [installed, readMap_changeMap_other different]
    rfl
  memos other member memo leads :=
    readMemo_newMemo_other (bounds other (List.mem_filter.mp member).1 memo leads) _
  functions := ⟨[heap.wrapper function], Array.toList_push.symm⟩
  count := by
    show heap.memos.size ≤ (heap.memos.push _).size
    rw [Array.size_push]
    exact Nat.le_succ _

end Heap

namespace Tied

/-- The memo that a slot leads to holds the answers of the table. -/
theorem answers (tied : Tied receivers function slot table heap) (member : receiver ∈ receivers)
    (leads : heap.Leads slot receiver memo) :
    memo.index < heap.memos.size ∧ (heap.readMemo memo).function = function ∧
      ∀ key, (heap.readMemo memo).results.get? key = table receiver key := by
  rcases tied.stands receiver member with ⟨holds, _⟩ | ⟨own, leadsOwn, facts⟩
  · exact absurd holds leads.not_holds
  · exact leads.unique leadsOwn ▸ facts

theorem bounds (tied : Tied receivers function slot table heap) :
    ∀ other ∈ receivers, ∀ memo, heap.Leads slot other memo → memo.index < heap.memos.size :=
  fun _ member _ leads => (tied.answers member leads).1

/-- Putting a memo into a slot keeps the slots tied to the same table. -/
theorem installed (tied : Tied receivers function slot table heap) (member : receiver ∈ receivers)
    (holds : heap.Holds function slot receiver) :
    Tied receivers function slot table (heap.installed function slot receiver) := by
  have noAnswer : ∀ key, table receiver key = none := by
    rcases tied.stands receiver member with ⟨_, none⟩ | ⟨memo, leads, _⟩
    · exact none
    · exact absurd holds leads.not_holds
  have fresh : (heap.installed function slot receiver).readMemo ⟨heap.memos.size⟩ =
      ⟨function, Table.empty⟩ := heap.readMemo_newMemo _
  refine tied.replace (Heap.installed_quiet tied.bounds) (fun _ _ => rfl)
    (Heap.installed_leads holds)
    (fun other isOther _ leads => Nat.lt_irrefl _ (tied.bounds other isOther _ leads)) ?_
  refine .inr ⟨_, Heap.installed_leads holds, ?_, ?_, fun key => ?_⟩
  · show heap.memos.size < (heap.memos.push _).size
    rw [Array.size_push]
    exact Nat.lt_succ_self _
  · rw [fresh]
  · rw [fresh, noAnswer]
    rfl

end Tied

/-! ### New answers -/

namespace Heap

theorem readMemo_changeMemo_other {other : MemoRef} (different : other ≠ memo)
    (change : Memo → Memo) :
    (heap.changeMemo memo change).readMemo other = heap.readMemo other := by
  rw [readMemo, readMemo, changeMemo, Array.getD_eq_getD_getElem?, Array.getD_eq_getD_getElem?,
    Array.getElem?_modify, if_neg]
  exact fun same => different (congrArg MemoRef.mk same).symm

theorem readMemo_changeMemo (bound : memo.index < heap.memos.size) (change : Memo → Memo) :
    (heap.changeMemo memo change).readMemo memo = change (heap.readMemo memo) := by
  rw [readMemo, readMemo, changeMemo, Array.getD_eq_getD_getElem?, Array.getD_eq_getD_getElem?,
    Array.getElem?_modify, if_pos rfl, Array.getElem?_eq_getElem bound]
  rfl

end Heap

/-- Keeping an answer in the memo of a map ties the slots to the table with this answer. -/
theorem Tied.keep {world : World Closure}
    (tied : Tied receivers function slot table world.heap) (member : receiver ∈ receivers)
    (leads : world.heap.Leads slot receiver memo) (key : String) (value : Value) :
    Tied receivers function slot (table.store receiver key value)
      (world.keep memo key value).heap := by
  obtain ⟨bound, same, results⟩ := tied.answers member leads
  have changed : (world.keep memo key value).heap.readMemo memo =
      { world.heap.readMemo memo with
        results := (world.heap.readMemo memo).results.insert key value } :=
    Heap.readMemo_changeMemo bound _
  have own : ∀ other ∈ receivers, other ≠ receiver → ¬world.heap.Leads slot other memo :=
    fun other isOther different leadsToo =>
      different (tied.apart other isOther receiver member memo leadsToo leads)
  have quiet : Quiet (receivers.filter (· ≠ receiver)) slot world.heap
      (world.keep memo key value).heap := by
    refine ⟨fun _ _ => rfl, fun other isOther found leadsToo => ?_, List.prefix_refl _, ?_⟩
    · refine Heap.readMemo_changeMemo_other ?_ _
      rintro rfl
      obtain ⟨isReceiver, different⟩ := List.mem_filter.mp isOther
      exact own other isReceiver (of_decide_eq_true different) leadsToo
    · exact Nat.le_of_eq Array.size_modify.symm
  refine tied.replace quiet (fun other different => ?_) leads own (.inr ⟨memo, leads, ?_, ?_, ?_⟩)
  · funext name
    exact Reference.store_other (fun same => different same.1) value
  · exact Nat.lt_of_lt_of_le bound quiet.count
  · rw [changed]
    exact same
  · intro name
    rw [changed, Table.get?_insert, results, Reference.store]
    simp only [true_and]

end

end Shorthand
