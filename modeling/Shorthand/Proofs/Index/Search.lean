/-
This file shows that the searches for a value in a list find its first and its last position from
any start.

A start that is negative counts from the end, and one beyond either end is no failure. The
searches are also written in words of 64 bits, with sums that are taken only if they are words and
items that are read only where there are some. That these find the same shows that no start makes
a search overflow or read outside of the list.
-/

import Mathlib
import Shorthand.Method.Call
import Shorthand.Proofs.Index.Word
import Shorthand.Proofs.World.Ends

namespace Shorthand

variable {Closure : Type}

/-! ### Searches in words -/

namespace Word

/-- The first position before a limit at which a value is. -/
def searchUp? (items : Array Value) (value : Value) (limit position : Int64) : Option Int64 :=
  if position < limit then
    match item? items position with
    | none => none
    | some item =>
      if item.same value then some position
      else
        match _ : sum? position 1 with
        | none => none
        | some next => searchUp? items value limit next
  else some (-1)
termination_by (limit.toInt - position.toInt).toNat
decreasing_by
  have next := wordOf?_eq_some.mp ‹sum? position 1 = some _›
  have one : (1 : Int64).toInt = 1 := rfl
  have before := Int64.lt_iff_toInt_lt.mp ‹position < limit›
  omega

/-- The last position up to a position at which a value is. -/
def searchDown? (items : Array Value) (value : Value) (position : Int64) : Option Int64 :=
  if 0 ≤ position then
    match item? items position with
    | none => none
    | some item =>
      if item.same value then some position
      else
        match _ : sum? position (-1) with
        | none => none
        | some next => searchDown? items value next
  else some (-1)
termination_by (position.toInt + 1).toNat
decreasing_by
  have next := wordOf?_eq_some.mp ‹sum? position (-1) = some _›
  have minusOne : (-1 : Int64).toInt = -1 := rfl
  have nonneg := nonneg_iff.mp ‹0 ≤ position›
  omega

/-- Where a search forwards begins. -/
def searchFirst? (length : Int64) (start : Option Int64) : Option Int64 :=
  (fromEnd? length (start.getD 0)).map (max · 0)

/-- Where a search backwards begins. -/
def searchLast? (length : Int64) (start : Option Int64) : Option Int64 := do
  let last ← sum? length (-1)
  return min (← fromEnd? length (start.getD last)) last

/-- The first position of a value from a start on, minus one if there is none. -/
def indexOf? (items : Array Value) (value : Value) (start : Option Int64) : Option Int64 :=
  (searchFirst? (length items) start).bind (searchUp? items value (length items))

/-- The last position of a value up to a start, minus one if there is none. -/
def lastIndexOf? (items : Array Value) (value : Value) (start : Option Int64) : Option Int64 :=
  (searchLast? (length items) start).bind (searchDown? items value)

/-- Whether a value is at some position. -/
def contains? (items : Array Value) (value : Value) : Option Bool :=
  (indexOf? items value none).map fun position => decide (0 ≤ position)

/-- A position as a word, minus one if there is none. -/
def ofPosition? : Option ℕ → Int64
  | some position => Int64.ofInt position
  | none => -1

variable {items : Array Value} {value : Value} {limit position : Int64}

theorem ofPosition?_toNat (nonneg : 0 ≤ position.toInt) :
    ofPosition? (some position.toInt.toNat) = position := by
  rw [ofPosition?, Int.toNat_of_nonneg nonneg, Int64.ofInt_toInt]

theorem toInt_ofPosition? {index : ℕ} (isWord : index ≤ Int64.maxValue.toInt) :
    (ofPosition? (some index)).toInt = index := by
  have most := Int64.toInt_maxValue
  exact Int64.toInt_ofInt_of_le (by omega) (by omega)

theorem ofPosition?_ne {index : ℕ} (isWord : index ≤ Int64.maxValue.toInt) :
    ofPosition? (some index) ≠ -1 := by
  intro isNone
  have same := toInt_ofPosition? isWord
  rw [isNone] at same
  have minusOne : (-1 : Int64).toInt = -1 := rfl
  omega

/-! A turn of either search, at a position with an item and a neighbour that is a word. -/

theorem searchUp?_turn {item : Value} {next : Int64} (before : position < limit)
    (isItem : item? items position = some item) (isNext : sum? position 1 = some next) :
    searchUp? items value limit position =
      if item.same value then some position else searchUp? items value limit next := by
  rw [searchUp?, if_pos before, isItem]
  dsimp only
  split
  · rfl
  · split
    case h_1 noNext => cases isNext.symm.trans noNext
    case h_2 isNext' =>
      cases isNext.symm.trans isNext'
      rfl

theorem searchDown?_turn {item : Value} {next : Int64} (nonneg : 0 ≤ position)
    (isItem : item? items position = some item) (isNext : sum? position (-1) = some next) :
    searchDown? items value position =
      if item.same value then some position else searchDown? items value next := by
  rw [searchDown?, if_pos nonneg, isItem]
  dsimp only
  split
  · rfl
  · split
    case h_1 noNext => cases isNext.symm.trans noNext
    case h_2 isNext' =>
      cases isNext.symm.trans isNext'
      rfl

/-- A search forwards over the positions that are still ahead. -/
theorem searchUp?_eq (inside : limit.toInt ≤ items.size) (nonneg : 0 ≤ position.toInt)
    {count : ℕ} (ahead : (limit.toInt - position.toInt).toNat = count) :
    searchUp? items value limit position =
      some (ofPosition? ((List.range' position.toInt.toNat count).find? fun index =>
        (items.getD index .undefined).same value)) := by
  induction count generalizing position with
  | zero =>
    have atLimit : ¬position < limit := by
      rw [Int64.lt_iff_toInt_lt]
      omega
    rw [searchUp?, if_neg atLimit]
    rfl
  | succ count inductionHypothesis =>
    have before : position < limit := by
      rw [Int64.lt_iff_toInt_lt]
      omega
    have bound : position.toInt.toNat < items.size := by omega
    have one : (1 : Int64).toInt = 1 := rfl
    obtain ⟨next, isNext, isSum⟩ :=
      sum?_of_mem position 1 position limit (by omega) (by omega)
    have rest : searchUp? items value limit next = _ := inductionHypothesis (by omega) (by omega)
    rw [isSum, one, show (position.toInt + 1).toNat = position.toInt.toNat + 1 by omega] at rest
    rw [searchUp?_turn before (item?_eq_getD .undefined nonneg bound) isNext, rest,
      List.range'_succ, List.find?_cons]
    cases (items.getD position.toInt.toNat .undefined).same value with
    | true => exact congrArg some (ofPosition?_toNat nonneg).symm
    | false => rfl

/-- A search backwards over the positions that are left. -/
theorem searchDown?_eq (inside : position.toInt < items.size) {count : ℕ}
    (ahead : (position.toInt + 1).toNat = count) :
    searchDown? items value position =
      some (ofPosition? ((List.range count).reverse.find? fun index =>
        (items.getD index .undefined).same value)) := by
  induction count generalizing position with
  | zero =>
    have negative : ¬0 ≤ position := by
      rw [nonneg_iff]
      omega
    rw [searchDown?, if_neg negative]
    rfl
  | succ count inductionHypothesis =>
    have nonneg : 0 ≤ position.toInt := by omega
    have bound : position.toInt.toNat < items.size := by omega
    have minusOne : (-1 : Int64).toInt = -1 := rfl
    obtain ⟨next, isNext, isSum⟩ :=
      sum?_of_mem position (-1) (-1) position (by omega) (by omega)
    have isPosition : count = position.toInt.toNat := by omega
    have rest : searchDown? items value next = _ := inductionHypothesis (by omega) (by omega)
    rw [searchDown?_turn (nonneg_iff.mpr nonneg) (item?_eq_getD .undefined nonneg bound) isNext,
      rest, List.range_succ, List.reverse_append, List.reverse_singleton, List.singleton_append,
      List.find?_cons, isPosition]
    cases (items.getD position.toInt.toNat .undefined).same value with
    | true => exact congrArg some (ofPosition?_toNat nonneg).symm
    | false => rfl

theorem searchFirst?_eq (short : items.size ≤ Int64.maxValue.toInt) (start : Option Int64) :
    ∃ first, searchFirst? (length items) start = some first ∧
      first.toInt = Sequence.searchStart items.size (start.map Int64.toInt) := by
  have isLength := toInt_length short
  have zero : (0 : Int64).toInt = 0 := rfl
  obtain ⟨first, isFirst, same⟩ := fromEnd?_eq (by omega : 0 ≤ (length items).toInt) (start.getD 0)
  refine ⟨max first 0, by rw [searchFirst?, isFirst]; rfl, ?_⟩
  rw [toInt_max, same]
  cases start with
  | none => rfl
  | some start =>
    rw [Option.getD_some, Option.map_some, Sequence.searchStart]
    split <;> omega

theorem searchLast?_eq (short : items.size ≤ Int64.maxValue.toInt) (start : Option Int64) :
    ∃ last, searchLast? (length items) start = some last ∧ last.toInt < items.size ∧
      (last.toInt + 1).toNat = Sequence.searchReach items.size (start.map Int64.toInt) := by
  have isLength := toInt_length short
  have minusOne : (-1 : Int64).toInt = -1 := rfl
  obtain ⟨last, isLast, sameLast⟩ :=
    sum?_of_mem (length items) (-1) (-1) (length items) (by omega) (by omega)
  obtain ⟨first, isFirst, same⟩ :=
    fromEnd?_eq (by omega : 0 ≤ (length items).toInt) (start.getD last)
  have isMin : searchLast? (length items) start = some (min first last) := by
    rw [searchLast?, isLast]
    simp only [Option.bind_eq_bind, Option.bind_some, isFirst]
    rfl
  refine ⟨min first last, isMin, ?_⟩
  rw [toInt_min, same]
  cases start with
  | none =>
    rw [Option.getD_none, Option.map_none, Sequence.searchReach]
    split <;> omega
  | some start =>
    rw [Option.getD_some, Option.map_some, Sequence.searchReach]
    split <;> omega

theorem indexOf?_eq (short : items.size ≤ Int64.maxValue.toInt) (start : Option Int64) :
    indexOf? items value start =
      some (ofPosition? (((List.range items.size).drop
          (Sequence.searchStart items.size (start.map Int64.toInt))).find? fun index =>
        (items.getD index .undefined).same value)) := by
  have isLength := toInt_length short
  obtain ⟨first, isFirst, same⟩ := searchFirst?_eq short start
  have ahead : ((length items).toInt - first.toInt).toNat = items.size - first.toInt.toNat := by
    omega
  rw [indexOf?, isFirst, Option.bind_some, searchUp?_eq (by omega) (by omega) ahead,
    List.range_eq_range', List.drop_range', same, Int.toNat_natCast, Nat.zero_add, Nat.mul_one]

theorem lastIndexOf?_eq (short : items.size ≤ Int64.maxValue.toInt) (start : Option Int64) :
    lastIndexOf? items value start =
      some (ofPosition? ((List.range (Sequence.searchReach items.size
          (start.map Int64.toInt))).reverse.find? fun index =>
        (items.getD index .undefined).same value)) := by
  obtain ⟨last, isLast, inside, same⟩ := searchLast?_eq short start
  rw [lastIndexOf?, isLast, Option.bind_some, searchDown?_eq inside same]

end Word

namespace Sequence

/-! ### Searches of lists -/

/-- The positions at which a list holds a value. -/
def positionsOf (items : Array Value) (value : Value) : Set ℤ :=
  {position | ∃ index : ℕ, position = index ∧ ∃ item, items[index]? = some item ∧ item.same value}

/-- The least position that a search forwards considers. -/
def searchFrom (length : ℤ) : Option Int64 → ℤ
  | none => 0
  | some start => if 0 ≤ start.toInt then start.toInt else max 0 (length + start.toInt)

/-- The greatest position that a search backwards considers. -/
def searchTo (length : ℤ) : Option Int64 → ℤ
  | none => length - 1
  | some start => if 0 ≤ start.toInt then min start.toInt (length - 1) else length + start.toInt

/-- The positions of a value that a search forwards considers. -/
def positionsFrom (items : Array Value) (value : Value) (start : Option Int64) : Set ℤ :=
  {position ∈ positionsOf items value | searchFrom items.size start ≤ position}

/-- The positions of a value that a search backwards considers. -/
def positionsTo (items : Array Value) (value : Value) (start : Option Int64) : Set ℤ :=
  {position ∈ positionsOf items value | position ≤ searchTo items.size start}

/-- A value to look for and where to start. -/
def searchArguments (value : Value) (start : Option Int64) : List Value :=
  value :: (start.map fun word => .number (.integer word)).toList

variable {machine : Machine Closure} {world : World Closure} {list : ListRef} {value : Value}
  {start : Option Int64}

theorem positionAnswer_eq (found : Option ℕ) :
    Method.positionAnswer found = .number (.integer (Word.ofPosition? found)) := by
  cases found <;> rfl

/-- The text of an argument that is no list can be found. -/
theorem hasArgument_leaf {arguments : List Value} {position : ℕ} {heap : Heap}
    (notList : ∀ cell, Method.argument arguments position ≠ .list cell) :
    Method.hasArgument arguments position heap = true :=
  Value.hasText_leaf notList

theorem hasStart (heap : Heap) :
    Method.hasArgument (searchArguments value start) 1 heap = true := by
  cases start <;> exact hasArgument_leaf fun _ => Value.noConfusion

theorem call_indexOf :
    Method.call machine (.list list) "indexOf" (searchArguments value start) world =
      (.value (.number (.integer (Word.ofPosition?
        (((List.range (world.heap.readList list).size).drop
          (searchStart (world.heap.readList list).size (start.map Int64.toInt))).find? fun index =>
            ((world.heap.readList list).getD index .undefined).same value)))), world) := by
  rw [← positionAnswer_eq]
  refine (Action.readIf_bind (hasStart world.heap) _ _).trans ?_
  cases start <;> rfl

theorem call_lastIndexOf :
    Method.call machine (.list list) "lastIndexOf" (searchArguments value start) world =
      (.value (.number (.integer (Word.ofPosition?
        ((List.range (searchReach (world.heap.readList list).size
          (start.map Int64.toInt))).reverse.find? fun index =>
            ((world.heap.readList list).getD index .undefined).same value)))), world) := by
  rw [← positionAnswer_eq]
  refine (Action.readIf_bind (hasStart world.heap) _ _).trans ?_
  cases start <;> rfl

theorem call_contains :
    Method.call machine (.list list) "contains" [value] world =
      (.value (.boolean ((List.range (world.heap.readList list).size).find? fun index =>
        ((world.heap.readList list).getD index .undefined).same value).isSome), world) := rfl

/-! ### The best of the positions -/

theorem mem_positionsOf {items : Array Value} {position : ℤ} :
    position ∈ positionsOf items value ↔
      ∃ index < items.size, (items.getD index .undefined).same value = true ∧ position = index := by
  constructor
  · rintro ⟨index, rfl, item, isItem, isSame⟩
    refine ⟨index, (Array.getElem?_eq_some_iff.mp isItem).1, ?_, rfl⟩
    rwa [Array.getD_eq_getD_getElem?, isItem, Option.getD_some]
  · rintro ⟨index, bound, isSame, rfl⟩
    refine ⟨index, rfl, items[index], Array.getElem?_eq_getElem bound, ?_⟩
    rwa [Array.getD_eq_getD_getElem?, Array.getElem?_eq_getElem bound, Option.getD_some] at isSame

/-- What is found in a list that is in some order comes before all others that pass the test. -/
theorem rel_of_find? {order : ℕ → ℕ → Prop} {indices : List ℕ} (sorted : indices.Pairwise order)
    {test : ℕ → Bool} {index other : ℕ} (found : indices.find? test = some index)
    (isIndex : other ∈ indices) (passes : test other = true) :
    other = index ∨ order index other := by
  obtain ⟨-, before, after, rfl, fail⟩ := List.find?_eq_some_iff_append.mp found
  rcases List.mem_append.mp isIndex with isBefore | isRest
  · have fails := fail other isBefore
    rw [passes] at fails
    cases fails
  · rcases List.mem_cons.mp isRest with rfl | isAfter
    · exact .inl rfl
    · have ordered := List.pairwise_cons.mp (List.pairwise_append.mp sorted).2.1
      exact .inr (ordered.1 other isAfter)

/-- What is found first among positions that are in some order is the best of them. -/
theorem ofPosition?_find? (order : ℤ → ℤ → Prop) (reflexive : ∀ position, order position position)
    {indices : List ℕ} (sorted : indices.Pairwise fun index other : ℕ => order index other)
    (areWords : ∀ index ∈ indices, index ≤ Int64.maxValue.toInt) {test : ℕ → Bool}
    {positions : Set ℤ} (among : ∀ position, position ∈ positions ↔
      ∃ index ∈ indices, test index = true ∧ position = index) :
    (Word.ofPosition? (indices.find? test) = -1 ↔ positions = ∅) ∧
      (Word.ofPosition? (indices.find? test) ≠ -1 →
        (Word.ofPosition? (indices.find? test)).toInt ∈ positions ∧
          ∀ other ∈ positions, order (Word.ofPosition? (indices.find? test)).toInt other) := by
  cases found : indices.find? test with
  | none =>
    refine ⟨iff_of_true rfl (Set.eq_empty_of_forall_notMem fun position isIn => ?_),
      fun isSome => absurd rfl isSome⟩
    obtain ⟨index, isIndex, passes, -⟩ := (among position).mp isIn
    exact List.find?_eq_none.mp found index isIndex passes
  | some index =>
    have isIndex := List.mem_of_find?_eq_some found
    have isWord := areWords index isIndex
    have isIn : (index : ℤ) ∈ positions :=
      (among index).mpr ⟨index, isIndex, List.find?_some found, rfl⟩
    rw [Word.toInt_ofPosition? isWord]
    refine ⟨iff_of_false (Word.ofPosition?_ne isWord) fun empty =>
      Set.eq_empty_iff_forall_notMem.mp empty index isIn, fun _ => ⟨isIn, fun other isOther => ?_⟩⟩
    obtain ⟨position, isPosition, passes, rfl⟩ := (among other).mp isOther
    rcases rel_of_find? sorted found isPosition passes with rfl | ordered
    · exact reflexive _
    · exact ordered

theorem mem_positionsFrom (items : Array Value) (value : Value) (start : Option Int64)
    (position : ℤ) :
    position ∈ positionsFrom items value start ↔
      ∃ index ∈ (List.range items.size).drop (searchStart items.size (start.map Int64.toInt)),
        (items.getD index .undefined).same value = true ∧ position = index := by
  have isFrom (index : ℕ) (bound : index < items.size) :
      index ∈ (List.range items.size).drop (searchStart items.size (start.map Int64.toInt)) ↔
        searchFrom items.size start ≤ index := by
    rw [List.range_eq_range', List.drop_range', List.mem_range'_1]
    cases start with
    | none =>
      rw [Option.map_none, searchStart, searchFrom]
      omega
    | some start =>
      rw [Option.map_some, searchStart, searchFrom]
      split <;> split <;> omega
  rw [positionsFrom, Set.mem_sep_iff, mem_positionsOf]
  constructor
  · rintro ⟨⟨index, bound, isSame, rfl⟩, after⟩
    exact ⟨index, (isFrom index bound).mpr after, isSame, rfl⟩
  · rintro ⟨index, isIndex, isSame, rfl⟩
    have bound := List.mem_range.mp (List.mem_of_mem_drop isIndex)
    exact ⟨⟨index, bound, isSame, rfl⟩, (isFrom index bound).mp isIndex⟩

theorem searchReach_le (length : ℕ) (start : Option ℤ) : searchReach length start ≤ length := by
  cases start with
  | none => exact le_rfl
  | some start => exact min_le_right _ _

theorem mem_positionsTo (items : Array Value) (value : Value) (start : Option Int64)
    (position : ℤ) :
    position ∈ positionsTo items value start ↔
      ∃ index ∈ (List.range (searchReach items.size (start.map Int64.toInt))).reverse,
        (items.getD index .undefined).same value = true ∧ position = index := by
  have isTo (index : ℕ) : index < searchReach items.size (start.map Int64.toInt) ↔
      index < items.size ∧ (index : ℤ) ≤ searchTo items.size start := by
    cases start with
    | none =>
      rw [Option.map_none, searchReach, searchTo]
      omega
    | some start =>
      rw [Option.map_some, searchReach, searchTo]
      split <;> split <;> omega
  rw [positionsTo, Set.mem_sep_iff, mem_positionsOf]
  constructor
  · rintro ⟨⟨index, bound, isSame, rfl⟩, before⟩
    exact ⟨index, List.mem_reverse.mpr (List.mem_range.mpr ((isTo index).mpr ⟨bound, before⟩)),
      isSame, rfl⟩
  · rintro ⟨index, isIndex, isSame, rfl⟩
    obtain ⟨bound, before⟩ := (isTo index).mp (List.mem_range.mp (List.mem_reverse.mp isIndex))
    exact ⟨⟨index, bound, isSame, rfl⟩, before⟩

theorem positionsFrom_none {items : Array Value} :
    positionsFrom items value none = positionsOf items value := by
  refine Set.sep_eq_self_iff_mem_true.mpr fun position isIn => ?_
  obtain ⟨index, -, -, rfl⟩ := mem_positionsOf.mp isIn
  exact Int.natCast_nonneg index

theorem positionsTo_none {items : Array Value} :
    positionsTo items value none = positionsOf items value := by
  refine Set.sep_eq_self_iff_mem_true.mpr fun position isIn => ?_
  obtain ⟨index, bound, -, rfl⟩ := mem_positionsOf.mp isIn
  rw [searchTo]
  omega

/-- A search answers with the best of some positions, and with minus one just if there are none.
It changes nothing, and in words it neither overflows nor reads outside of the list. -/
structure Searches (search : Action Closure Value) (world : World Closure)
    (inWords : Option Int64) (best : Set ℤ → ℤ → Prop) (positions : Set ℤ) (answer : Int64) :
    Prop where
  yields : search world = (.value (.number (.integer answer)), world)
  inWords : inWords = some answer
  absent : answer = -1 ↔ positions = ∅
  found : answer ≠ -1 → best positions answer.toInt

section
variable (machine : Machine Closure) (world : World Closure) (list : ListRef) (value : Value)
  (start : Option Int64) (short : (world.heap.readList list).size ≤ Int64.maxValue.toInt)
include short

theorem indexOf_searches :
    ∃ answer, Searches (Method.call machine (.list list) "indexOf" (searchArguments value start))
      world (Word.indexOf? (world.heap.readList list) value start) IsLeast
      (positionsFrom (world.heap.readList list) value start) answer := by
  obtain ⟨absent, found⟩ := ofPosition?_find? (· ≤ ·) (fun _ => le_rfl)
    ((List.pairwise_lt_range.drop).imp fun ordered => Int.ofNat_le.mpr (Nat.le_of_lt ordered))
    (fun index isIndex => by
      have bound := List.mem_range.mp (List.mem_of_mem_drop isIndex)
      omega)
    (mem_positionsFrom (world.heap.readList list) value start)
  exact ⟨_, call_indexOf, Word.indexOf?_eq short start, absent,
    fun isSome => ⟨(found isSome).1, fun other => (found isSome).2 other⟩⟩

theorem lastIndexOf_searches :
    ∃ answer, Searches
      (Method.call machine (.list list) "lastIndexOf" (searchArguments value start))
      world (Word.lastIndexOf? (world.heap.readList list) value start) IsGreatest
      (positionsTo (world.heap.readList list) value start) answer := by
  obtain ⟨absent, found⟩ := ofPosition?_find? (· ≥ ·) (fun _ => le_rfl)
    (List.pairwise_reverse.mpr
      (List.pairwise_lt_range.imp fun ordered => Int.ofNat_le.mpr (Nat.le_of_lt ordered)))
    (fun index isIndex => by
      have bound := List.mem_range.mp (List.mem_reverse.mp isIndex)
      have reach := searchReach_le (world.heap.readList list).size (start.map Int64.toInt)
      omega)
    (mem_positionsTo (world.heap.readList list) value start)
  exact ⟨_, call_lastIndexOf, Word.lastIndexOf?_eq short start, absent,
    fun isSome => ⟨(found isSome).1, fun other => (found isSome).2 other⟩⟩

theorem contains_searches :
    ∃ holds, Method.call machine (.list list) "contains" [value] world =
        (.value (.boolean holds), world) ∧
      Word.contains? (world.heap.readList list) value = some holds ∧
      (holds = true ↔ positionsOf (world.heap.readList list) value ≠ ∅) := by
  obtain ⟨first, forwards⟩ := indexOf_searches machine world list value none short
  have absent := forwards.absent
  rw [positionsFrom_none] at absent
  have holds : ((List.range (world.heap.readList list).size).find? fun index =>
      ((world.heap.readList list).getD index .undefined).same value).isSome = true ↔
      positionsOf (world.heap.readList list) value ≠ ∅ := by
    rw [List.find?_isSome, ← Set.nonempty_iff_ne_empty]
    constructor
    · rintro ⟨index, isIndex, isSame⟩
      exact ⟨index, mem_positionsOf.mpr ⟨index, List.mem_range.mp isIndex, isSame, rfl⟩⟩
    · rintro ⟨position, isIn⟩
      obtain ⟨index, bound, isSame, -⟩ := mem_positionsOf.mp isIn
      exact ⟨index, List.mem_range.mpr bound, isSame⟩
  have nonneg : 0 ≤ first ↔ first ≠ -1 := by
    rw [Word.nonneg_iff]
    constructor
    · rintro isNonneg rfl
      exact absurd isNonneg (by decide)
    · intro isSome
      obtain ⟨⟨⟨index, same, -⟩, -⟩, -⟩ := forwards.found isSome
      omega
  refine ⟨_, call_contains, ?_, holds⟩
  rw [Word.contains?, forwards.inWords, Option.map_some, Option.some_inj, Bool.eq_iff_iff,
    decide_eq_true_iff, nonneg, holds, Ne, absent]

/-- A list has no more items than a word can count. From any start, looking for a value finds the
least of its positions from there on, and looking for the last one finds the greatest up to there.
The answer is minus one just if there is none. Without a start, it is not minus one just if the
list contains the value. -/
theorem search_extremes :
    (∃ first, Searches (Method.call machine (.list list) "indexOf" (searchArguments value start))
      world (Word.indexOf? (world.heap.readList list) value start) IsLeast
      (positionsFrom (world.heap.readList list) value start) first) ∧
    (∃ last, Searches
      (Method.call machine (.list list) "lastIndexOf" (searchArguments value start))
      world (Word.lastIndexOf? (world.heap.readList list) value start) IsGreatest
      (positionsTo (world.heap.readList list) value start) last) ∧
    ∃ holds first last,
      Method.call machine (.list list) "contains" [value] world = (.value (.boolean holds), world) ∧
      Word.contains? (world.heap.readList list) value = some holds ∧
      Method.call machine (.list list) "indexOf" [value] world =
        (.value (.number (.integer first)), world) ∧
      Method.call machine (.list list) "lastIndexOf" [value] world =
        (.value (.number (.integer last)), world) ∧
      (holds = true ↔ first ≠ -1) ∧ (holds = true ↔ last ≠ -1) := by
  refine ⟨indexOf_searches machine world list value start short,
    lastIndexOf_searches machine world list value start short, ?_⟩
  obtain ⟨holds, contains, inWords, isHeld⟩ := contains_searches machine world list value short
  obtain ⟨first, forwards⟩ := indexOf_searches machine world list value none short
  obtain ⟨last, backwards⟩ := lastIndexOf_searches machine world list value none short
  refine ⟨holds, first, last, contains, inWords, forwards.yields, backwards.yields, ?_, ?_⟩
  · rw [← positionsFrom_none, Ne, ← forwards.absent] at isHeld
    exact isHeld
  · rw [← positionsTo_none, Ne, ← backwards.absent] at isHeld
    exact isHeld

end

/-- A world with the list `[2, 1, 2]`. -/
def mirroredWorld : World SlotClosure where
  heap := { Heap.empty with lists := #[#[.ofInt 2, .ofInt 1, .ofInt 2]] }
  closures := #[]

/-- The last but one position is the least from which the search forwards finds the end and the
search backwards the beginning. -/
theorem search_mirroredWorld :
    (mirroredWorld.heap.readList ⟨0⟩).size ≤ Int64.maxValue.toInt ∧
      Searches (Method.call (slotEngine.machineWithin 0) (.list ⟨0⟩) "indexOf"
          [.ofInt 2, .ofInt (-2)]) mirroredWorld
        (Word.indexOf? (mirroredWorld.heap.readList ⟨0⟩) (.ofInt 2) (some (-2))) IsLeast
        (positionsFrom (mirroredWorld.heap.readList ⟨0⟩) (.ofInt 2) (some (-2))) 2 ∧
      Searches (Method.call (slotEngine.machineWithin 0) (.list ⟨0⟩) "lastIndexOf"
          [.ofInt 2, .ofInt (-2)]) mirroredWorld
        (Word.lastIndexOf? (mirroredWorld.heap.readList ⟨0⟩) (.ofInt 2) (some (-2))) IsGreatest
        (positionsTo (mirroredWorld.heap.readList ⟨0⟩) (.ofInt 2) (some (-2))) 0 ∧
      Word.contains? (mirroredWorld.heap.readList ⟨0⟩) (.ofInt 2) = some true := by
  have short : (mirroredWorld.heap.readList ⟨0⟩).size ≤ Int64.maxValue.toInt := by decide
  obtain ⟨⟨first, forwards⟩, ⟨last, backwards⟩, holds, -, -, contains, inWords, -⟩ :=
    search_extremes (slotEngine.machineWithin 0) mirroredWorld ⟨0⟩ (.ofInt 2) (some (-2)) short
  cases forwards.yields
  cases backwards.yields
  cases contains
  exact ⟨short, forwards, backwards, inWords⟩

end Sequence

end Shorthand
