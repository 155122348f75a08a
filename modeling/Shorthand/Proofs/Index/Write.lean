/-
This file shows that writing an element of a list is exact and happens as a whole or not at all.

A key that denotes an index near enough to the list writes there: the list grows to hold the index,
what comes between its old end and the index is `undefined`, and nothing else changes. Any other key
is refused before anything has changed, unless it is a list that holds itself and has no text that a
refusal could quote. Reading and writing have one notion of an index, so a number
and its decimal text are the same key.
-/

import Mathlib
import Shorthand.Proofs.Index.Key
import Shorthand.Proofs.Method.Dispatch
import Shorthand.Proofs.Sort.ByValue

namespace Shorthand

/-! ### Items -/

section

variable (items : Array Value) (index : ℕ) (value : Value)

theorem size_writeItem : (writeItem items index value).size = max items.size (index + 1) := by
  rw [writeItem]
  split
  · rw [Array.size_setIfInBounds]
    omega
  · rw [Array.size_push, Array.size_append, Array.size_replicate]
    omega

theorem getElem?_writeItem (other : ℕ) :
    (writeItem items index value)[other]? =
      if other = index then some value
      else if other < items.size then items[other]?
      else if other < index then some .undefined else none := by
  rw [writeItem]
  split
  · rename_i inside
    rw [Array.getElem?_setIfInBounds]
    grind
  · rename_i outside
    rw [Array.getElem?_push, Array.getElem?_append, Array.getElem?_replicate, Array.size_append,
      Array.size_replicate]
    grind

end

/-! ### Lists -/

variable {Closure : Type}

/-- A list after a value was written at an index, in a world that is otherwise as before. -/
structure WrittenAt (before : World Closure) (cell : ListRef) (index : ℕ) (value : Value)
    (after : World Closure) : Prop where
  length : (after.heap.readList cell).size = max (before.heap.readList cell).size (index + 1)
  written : (after.heap.readList cell)[index]? = some value
  kept : ∀ other < (before.heap.readList cell).size, other ≠ index →
    (after.heap.readList cell)[other]? = (before.heap.readList cell)[other]?
  gap : ∀ other, (before.heap.readList cell).size ≤ other → other < index →
    (after.heap.readList cell)[other]? = some .undefined
  otherLists : ∀ other ≠ cell, after.heap.readList other = before.heap.readList other
  otherStores : { after.heap with lists := before.heap.lists } = before.heap
  closures : after.closures = before.closures

variable {world : World Closure} {cell : ListRef} {key : Value} {index : ℕ}

theorem readProperty_list (isIndex : key.IsIndex index) :
    readProperty (.list cell) key world = (.value (world.heap.elementAt cell index), world) :=
  readProperty_eq_element (Value.index?_eq_some.mpr isIndex) rfl

theorem writeProperty_index (isIndex : key.IsIndex index) (value : Value) :
    writeProperty (.list cell) key value world = writeElement cell index value world := by
  simp only [writeProperty, Value.index?_eq_some.mpr isIndex]

theorem writeProperty_noIndex (noIndex : ∀ index, ¬key.IsIndex index) (value : Value) :
    writeProperty (.list cell) key value world =
      if key.hasText world.heap then
        (.failure (.type (.listProperty (key.rawText world.heap))), world)
      else (.exhausted, world) := by
  have found : key.index? = none :=
    Option.eq_none_iff_forall_ne_some.mpr fun index isIndex =>
      noIndex index (Value.index?_eq_some.mp isIndex)
  simp only [writeProperty, found]
  cases hasText : key.hasText world.heap with
  | true => exact Action.readIf_bind hasText key.rawText _
  | false => exact Action.bind_exhausted (Action.readIf_exhausted hasText key.rawText) _

theorem writeElement_far (far : (world.heap.readList cell).size + 65536 < index) (value : Value) :
    writeElement cell index value world =
      (.failure (.argument (.gap index (world.heap.readList cell).size)), world) := by
  rw [writeElement, Action.read_bind]
  exact congrFun (if_pos far) world

theorem writeElement_near (near : index ≤ (world.heap.readList cell).size + 65536)
    (value : Value) :
    writeElement cell index value world = (.value (), { world with
      heap := world.heap.changeList cell fun items => writeItem items index value }) := by
  rw [writeElement, Action.read_bind]
  exact congrFun (if_neg (Nat.not_lt.mpr near)) world

theorem Heap.readList_changeList_other {heap : Heap} {other : ListRef} (differs : other ≠ cell)
    (change : Array Value → Array Value) :
    (heap.changeList cell change).readList other = heap.readList other := by
  have apart : cell.index ≠ other.index := fun same =>
    differs (by rw [ListRef.mk.injEq]; exact same.symm)
  rw [Heap.readList, Heap.readList, Heap.changeList, Array.getD_eq_getD_getElem?,
    Array.getD_eq_getD_getElem?, Array.getElem?_modify, if_neg apart]

/-- Writing at an index changes the element there and fills the gap before it. -/
theorem writtenAt (isList : cell.index < world.heap.lists.size) (index : ℕ) (value : Value) :
    WrittenAt world cell index value { world with
      heap := world.heap.changeList cell fun items => writeItem items index value } where
  length := by rw [Heap.readList_changeList isList, size_writeItem]
  written := by rw [Heap.readList_changeList isList, getElem?_writeItem, if_pos rfl]
  kept other inside differs := by
    rw [Heap.readList_changeList isList, getElem?_writeItem, if_neg differs, if_pos inside]
  gap other beyond before := by
    rw [Heap.readList_changeList isList, getElem?_writeItem, if_neg before.ne,
      if_neg (Nat.not_lt.mpr beyond), if_pos before]
  otherLists other differs := Heap.readList_changeList_other differs _
  otherStores := rfl
  closures := rfl

/-- A write with a key that denotes no index near enough is refused, if the key has a text. -/
theorem writeProperty_refused (key value : Value)
    (refused : ¬∃ index, key.IsIndex index ∧ index ≤ (world.heap.readList cell).size + 65536) :
    (∃ failure, writeProperty (.list cell) key value world = (.failure failure, world)) ∨
      key.hasText world.heap = false ∧
        writeProperty (.list cell) key value world = (.exhausted, world) := by
  by_cases denotes : ∃ index, key.IsIndex index
  · obtain ⟨index, isIndex⟩ := denotes
    have far : (world.heap.readList cell).size + 65536 < index :=
      Nat.not_le.mp fun near => refused ⟨index, isIndex, near⟩
    exact .inl ⟨_, (writeProperty_index isIndex value).trans (writeElement_far far value)⟩
  · have written : writeProperty (.list cell) key value world = _ :=
      writeProperty_noIndex (fun index isIndex => denotes ⟨index, isIndex⟩) value
    cases hasText : key.hasText world.heap with
    | true => exact .inl ⟨_, written.trans (if_pos hasText)⟩
    | false => exact .inr ⟨rfl, written.trans (by rw [hasText]; rfl)⟩

theorem isIndex_ofInt {number : ℕ} (small : number ≤ 2 ^ 32 - 2) :
    (Value.ofInt number).IsIndex number :=
  ⟨small, .integer (Int64.toInt_ofInt_of_le (by omega) (by omega))⟩

theorem isIndex_decimal {number : ℕ} (small : number ≤ 2 ^ 32 - 2) :
    (Value.string (toString number)).IsIndex number := ⟨small, .decimal⟩

/-- Writing an element of a list succeeds just with a key that denotes an index not too far behind
its end. Then the value is read with that key, all other elements are as before, `undefined` fills
the gap, and the list is no longer than it has to be. Otherwise nothing has changed, and the write
fails, or it looks without end for the text of a key that holds itself. A number and its decimal
text are the same key in reading and in writing. -/
theorem indexed_write_exact (isList : cell.index < world.heap.lists.size) (key value : Value) :
    ((∃ after, writeProperty (.list cell) key value world = (.value (), after)) ↔
      ∃ index, key.IsIndex index ∧ index ≤ (world.heap.readList cell).size + 65536) ∧
    (∀ index after, key.IsIndex index →
      writeProperty (.list cell) key value world = (.value (), after) →
        readProperty (.list cell) key after = (.value value, after) ∧
        WrittenAt world cell index value after) ∧
    (∀ outcome after, writeProperty (.list cell) key value world = (outcome, after) →
      outcome ≠ .value () → after = world ∧ ((∃ failure, outcome = .failure failure) ∨
        key.hasText world.heap = false ∧ outcome = .exhausted)) ∧
    (∀ other place, Value.IsIndex other place → ∀ now : World Closure,
      readProperty (.list cell) other now =
        (.value ((now.heap.readList cell).getD place .undefined), now)) ∧
    ∀ number : ℕ, number ≤ 2 ^ 32 - 2 →
      (readProperty (.list cell) (.ofInt number) : Action Closure Value) =
        readProperty (.list cell) (.string (toString number)) ∧
      (writeProperty (.list cell) (.ofInt number) value : Action Closure Unit) =
        writeProperty (.list cell) (.string (toString number)) value := by
  have succeeds {index : ℕ} (isIndex : key.IsIndex index)
      (near : index ≤ (world.heap.readList cell).size + 65536) :=
    (writeProperty_index isIndex value).trans (writeElement_near near value)
  refine ⟨⟨?_, ?_⟩, ?_, ?_, fun other place isIndex now => readProperty_list isIndex, ?_⟩
  · rintro ⟨after, written⟩
    by_contra refused
    obtain ⟨failure, failed⟩ | ⟨-, endless⟩ := writeProperty_refused key value refused
    · rw [failed] at written
      cases written
    · rw [endless] at written
      cases written
  · rintro ⟨index, isIndex, near⟩
    exact ⟨_, succeeds isIndex near⟩
  · intro index after isIndex written
    rcases Nat.lt_or_ge ((world.heap.readList cell).size + 65536) index with far | near
    · rw [writeProperty_index isIndex, writeElement_far far] at written
      cases written
    · rw [succeeds isIndex near] at written
      cases written
      have exact := writtenAt isList index value
      refine ⟨?_, exact⟩
      rw [readProperty_list isIndex, Heap.elementAt, Array.getD_eq_getD_getElem?, exact.written]
      rfl
  · intro outcome after written failed
    by_cases accepted :
        ∃ index, key.IsIndex index ∧ index ≤ (world.heap.readList cell).size + 65536
    · obtain ⟨index, isIndex, near⟩ := accepted
      rw [succeeds isIndex near] at written
      cases written
      exact absurd rfl failed
    · obtain ⟨failure, refused⟩ | ⟨noText, endless⟩ := writeProperty_refused key value accepted
      · rw [refused] at written
        cases written
        exact ⟨rfl, .inl ⟨failure, rfl⟩⟩
      · rw [endless] at written
        cases written
        exact ⟨rfl, .inr ⟨noText, rfl⟩⟩
  · intro number small
    refine ⟨funext fun now => ?_, funext fun now => ?_⟩
    · rw [readProperty_list (isIndex_ofInt small), readProperty_list (isIndex_decimal small)]
    · rw [writeProperty_index (isIndex_ofInt small), writeProperty_index (isIndex_decimal small)]

/-- A world with one list, of one element. -/
def oneElement : World SlotClosure := ⟨{ Heap.empty with lists := #[#[.ofInt 1]] }, #[]⟩

/-- A far write to the list leaves a gap, and one that is farther than allowed is refused. -/
theorem oneElement_written :
    (∃ after, writeProperty (.list ⟨0⟩) (.string "3") (.ofInt 4) oneElement = (.value (), after) ∧
      readProperty (.list ⟨0⟩) (.string "3") after = (.value (.ofInt 4), after) ∧
      WrittenAt oneElement ⟨0⟩ 3 (.ofInt 4) after) ∧
    ∃ failure, writeProperty (.list ⟨0⟩) (.ofInt 1000000000) (.ofInt 4) oneElement =
      (.failure failure, oneElement) := by
  have isList : (⟨0⟩ : ListRef).index < oneElement.heap.lists.size := by decide
  constructor
  · obtain ⟨accepts, exact, -⟩ := indexed_write_exact isList (.string "3") (.ofInt 4)
    have isIndex : (Value.string "3").IsIndex 3 := isIndex_decimal (by decide)
    obtain ⟨after, written⟩ := accepts.mpr ⟨3, isIndex, by decide⟩
    exact ⟨after, written, exact 3 after isIndex written⟩
  · obtain ⟨accepts, -, refuses, -⟩ := indexed_write_exact isList (.ofInt 1000000000) (.ofInt 4)
    have isIndex : (Value.ofInt 1000000000).IsIndex 1000000000 := isIndex_ofInt (by decide)
    generalize written : writeProperty (.list ⟨0⟩) (.ofInt 1000000000) (.ofInt 4) oneElement = pair
      at refuses accepts
    obtain ⟨outcome, after⟩ := pair
    have differs : outcome ≠ .value () := fun succeeded => by
      obtain ⟨index, isOther, near⟩ := accepts.mp ⟨after, by rw [succeeded]⟩
      have same : some index = some 1000000000 :=
        (Value.index?_eq_some.mpr isOther).symm.trans (Value.index?_eq_some.mpr isIndex)
      cases same
      exact absurd near (by decide)
    obtain ⟨rfl, ⟨failure, rfl⟩ | ⟨noText, -⟩⟩ := refuses outcome after rfl differs
    · exact ⟨failure, rfl⟩
    · exact absurd (Value.hasText_leaf fun _ isList => Value.noConfusion isList)
        (noText ▸ Bool.false_ne_true)

end Shorthand
