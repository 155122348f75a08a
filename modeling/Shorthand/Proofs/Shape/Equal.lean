/-
This file shows that two nested lists are equal if they have one shape and the same leaves.

What stands where in a nested list is told by positions, which are paths of indices and say nothing
of how lists are compared. The comparison goes into both values at once. In a value without cycles
it comes to the leaves, whatever the other one is, so it is decided.
-/

import Shorthand.Proofs.Comparison.Swap
import Shorthand.Proofs.Shape.Parts

namespace Shorthand

/-! ### Positions -/

/-- The value that stands in nested lists at a position: an index into every list on the way, the
outermost first. -/
def Value.inner? (heap : Heap) : Value → List ℕ → Option Value
  | value, [] => some value
  | .list cell, index :: rest => (heap.readList cell)[index]?.bind (·.inner? heap rest)
  | _, _ :: _ => none

/-- Two lists of one length, or two other values that are the same. -/
inductive Value.SameOutside (heap : Heap) : Value → Value → Prop where
  | lists {cell other : ListRef}
    (length : (heap.readList cell).size = (heap.readList other).size) :
    SameOutside heap (.list cell) (.list other)
  | leaves {leaf other : Value} (notList : ∀ cell, leaf ≠ .list cell)
    (same : leaf.same other = true) : SameOutside heap leaf other

/-- Two values of one nested shape with the same leaves. The same positions lead to something in
both, to lists of one length or to leaves that are the same. -/
def Value.SameParts (heap : Heap) (left right : Value) : Prop :=
  ∀ position, Option.Rel (SameOutside heap) (left.inner? heap position) (right.inner? heap position)

/-- Nothing in a value is a floating-point number. -/
def Value.NoFloats (heap : Heap) (value : Value) : Prop :=
  ∀ position inner, value.inner? heap position = some inner →
    ∀ float, inner ≠ .number (.float float)

variable {heap : Heap}

namespace Value

variable {left right third : Value}

theorem inner?_leaf {value : Value} (notList : ∀ cell, value ≠ .list cell) (index : ℕ)
    (rest : List ℕ) : value.inner? heap (index :: rest) = none := by
  cases value with
  | list cell => exact absurd rfl (notList cell)
  | _ => rfl

theorem inner?_list (cell : ListRef) (index : ℕ) (rest : List ℕ) :
    (Value.list cell).inner? heap (index :: rest) =
      (heap.readList cell).toList[index]?.bind (·.inner? heap rest) := by
  rw [inner?, Array.getElem?_toList]

/-- Lists without floating-point numbers are made of items without any. -/
theorem NoFloats.list {cell : ListRef}
    (items : ∀ item ∈ (heap.readList cell).toList, item.NoFloats heap) :
    (Value.list cell).NoFloats heap := by
  intro position inner isInner
  cases position with
  | nil =>
    cases isInner
    exact fun _ => Value.noConfusion
  | cons index rest =>
    rw [inner?_list] at isInner
    obtain ⟨item, isItem, isInner⟩ := Option.bind_eq_some_iff.mp isInner
    exact items item (List.mem_of_getElem? isItem) rest inner isInner

theorem NoFloats.leaf {value : Value} (notList : ∀ cell, value ≠ .list cell)
    (noFloat : ∀ float, value ≠ .number (.float float)) : value.NoFloats heap := by
  intro position inner isInner
  cases position with
  | nil =>
    cases isInner
    exact noFloat
  | cons index rest =>
    rw [inner?_leaf notList] at isInner
    cases isInner

theorem notList_of_same (notList : ∀ cell, left ≠ .list cell) (same : left.same right = true) :
    ∀ cell, right ≠ .list cell := by
  rintro cell rfl
  rcases same_cases same with isList | ⟨_, _, _, isNumber, _⟩
  · exact notList cell isList
  · cases isNumber

namespace SameOutside

theorem leaves_iff (notList : ∀ cell, left ≠ .list cell) :
    SameOutside heap left right ↔ left.same right = true := by
  constructor
  · rintro (⟨_⟩ | ⟨_, same⟩)
    · exact absurd rfl (notList _)
    · exact same
  · exact .leaves notList

theorem length {cell other : ListRef} (same : SameOutside heap (.list cell) (.list other)) :
    (heap.readList cell).size = (heap.readList other).size := by
  cases same with
  | lists length => exact length
  | leaves notList _ => exact absurd rfl (notList cell)

theorem notList (same : SameOutside heap left right) (notList : ∀ cell, left ≠ .list cell) :
    ∀ cell, right ≠ .list cell :=
  notList_of_same notList ((leaves_iff notList).mp same)

theorem symm (same : SameOutside heap left right) : SameOutside heap right left := by
  cases same with
  | lists length => exact .lists length.symm
  | leaves notList same => exact .leaves (notList_of_same notList same) (same_symm same)

theorem refl {value : Value} (noFloat : ∀ float, value ≠ .number (.float float)) :
    SameOutside heap value value := by
  cases value with
  | list cell => exact .lists rfl
  | _ => exact .leaves (fun _ => Value.noConfusion) (same_self noFloat)

theorem trans (noFloat : ∀ float, left ≠ .number (.float float))
    (noFloatToo : ∀ float, right ≠ .number (.float float)) (same : SameOutside heap left right)
    (sameToo : SameOutside heap right third) : SameOutside heap left third := by
  cases same with
  | leaves notList same => exact eq_of_same noFloat noFloatToo same ▸ sameToo
  | lists length =>
    cases sameToo with
    | lists further => exact .lists (length.trans further)
    | leaves notList _ => exact absurd rfl (notList _)

end SameOutside

namespace SameParts

theorem symm (same : SameParts heap left right) : SameParts heap right left := by
  intro position
  have sameInner := same position
  generalize left.inner? heap position = inner at sameInner
  generalize right.inner? heap position = other at sameInner
  cases sameInner with
  | none => exact .none
  | some sameOutside => exact .some sameOutside.symm

theorem refl {value : Value} (noFloats : value.NoFloats heap) : SameParts heap value value := by
  intro position
  cases isInner : value.inner? heap position with
  | none => exact .none
  | some inner => exact .some (.refl (noFloats position inner isInner))

theorem trans (noFloats : left.NoFloats heap) (noFloatsToo : right.NoFloats heap)
    (same : SameParts heap left right) (sameToo : SameParts heap right third) :
    SameParts heap left third := by
  intro position
  have first := same position
  have second := sameToo position
  generalize isLeft : left.inner? heap position = leftInner at first
  generalize isRight : right.inner? heap position = rightInner at first second
  generalize third.inner? heap position = thirdInner at second
  cases first with
  | none => exact second
  | some sameOutside =>
    cases second with
    | some sameOutsideToo =>
      exact .some (.trans (noFloats position _ isLeft) (noFloatsToo position _ isRight) sameOutside
        sameOutsideToo)

/-- Two values are the same from the outside if their parts are. -/
theorem outside (same : SameParts heap left right) : SameOutside heap left right := by
  cases same [] with
  | some sameOutside => exact sameOutside

theorem leaves_iff (notList : ∀ cell, left ≠ .list cell) :
    SameParts heap left right ↔ left.same right = true := by
  refine ⟨fun same => (SameOutside.leaves_iff notList).mp same.outside, fun same position => ?_⟩
  have sameOutside : SameOutside heap left right := .leaves notList same
  cases position with
  | nil => exact .some sameOutside
  | cons index rest =>
    rw [inner?_leaf notList, inner?_leaf (sameOutside.notList notList)]
    exact .none

/-- Two lists have the same parts if their items have so one by one. -/
theorem lists_iff {cell other : ListRef} :
    SameParts heap (.list cell) (.list other) ↔
      List.Forall₂ (SameParts heap) (heap.readList cell).toList (heap.readList other).toList := by
  constructor
  · intro same
    refine List.forall₂_iff_get.mpr ⟨same.outside.length, fun index isItem isOther rest => ?_⟩
    have sameInner := same (index :: rest)
    rwa [inner?_list, inner?_list, List.getElem?_eq_getElem isItem,
      List.getElem?_eq_getElem isOther] at sameInner
  · intro each position
    cases position with
    | nil => exact .some (.lists each.length_eq)
    | cons index rest =>
      rw [inner?_list, inner?_list]
      by_cases isItem : index < (heap.readList cell).toList.length
      · have isOther := each.length_eq ▸ isItem
        rw [List.getElem?_eq_getElem isItem, List.getElem?_eq_getElem isOther]
        exact (List.forall₂_iff_get.mp each).2 index isItem isOther rest
      · have notOther := each.length_eq ▸ isItem
        rw [List.getElem?_eq_none (Nat.not_lt.mp isItem),
          List.getElem?_eq_none (Nat.not_lt.mp notOther)]
        exact .none

end SameParts

end Value

/-! ### The comparison -/

/-- A relation of two lists one by one is a matter of their items. -/
theorem forall₂_congr {α β : Type} {related other : α → β → Prop} {lefts : List α}
    {rights : List β}
    (same : ∀ left ∈ lefts, ∀ right ∈ rights, related left right ↔ other left right) :
    List.Forall₂ related lefts rights ↔ List.Forall₂ other lefts rights := by
  rw [List.forall₂_iff_get, List.forall₂_iff_get]
  exact and_congr_right fun _ => forall₃_congr fun _ _ _ =>
    same _ (List.get_mem _ _) _ (List.get_mem _ _)

namespace Sequence

/-- If it is decided for all items whether they are related, it is so for lists of them. -/
theorem allEqual_iff {equal : Value → Value → Option Bool} {related : Value → Value → Prop}
    {lefts rights : List Value}
    (decided : ∀ left ∈ lefts, ∀ right, ∃ answer, equal left right = some answer ∧
      (answer = true ↔ related left right)) :
    ∃ answer, allEqual equal lefts rights = some answer ∧
      (answer = true ↔ List.Forall₂ related lefts rights) := by
  induction lefts generalizing rights with
  | nil =>
    cases rights with
    | nil => exact ⟨true, rfl, iff_of_true rfl .nil⟩
    | cons right rights => exact ⟨false, rfl, iff_of_false Bool.false_ne_true (by rintro ⟨⟩)⟩
  | cons left lefts inductionHypothesis =>
    cases rights with
    | nil => exact ⟨false, rfl, iff_of_false Bool.false_ne_true (by rintro ⟨⟩)⟩
    | cons right rights =>
      obtain ⟨first, decidedRest⟩ := List.forall_mem_cons.mp decided
      obtain ⟨answer, isAnswer, iff⟩ := first right
      rw [allEqual, isAnswer, List.forall₂_cons, ← iff]
      cases answer with
      | false => exact ⟨false, rfl, iff_of_false Bool.false_ne_true fun both => nomatch both.1⟩
      | true =>
        obtain ⟨rest, isRest, iffRest⟩ := inductionHypothesis decidedRest
        exact ⟨rest, isRest, iffRest.trans (and_iff_right rfl).symm⟩

/-- Of two values of which one is no list the comparison is decided at any depth. -/
theorem equalWithin_leaf {left right : Value}
    (notLists : (∀ cell, left ≠ .list cell) ∨ ∀ cell, right ≠ .list cell) (depth : ℕ) :
    equalWithin heap depth left right = some (left.same right) := by
  cases left with
  | list cell =>
    have notList := notLists.resolve_left fun notList => notList cell rfl
    cases right with
    | list other => exact absurd rfl (notList other)
    | _ => cases depth <;> rfl
  | _ => cases depth <;> rfl

/-- With as many levels as there are lists to be reached from a value without cycles, it is decided
whether another one has the same parts. -/
theorem equalWithin_iff {left : Value} (acyclic : left.Acyclic heap) {depth : ℕ}
    (enough : (heap.reached left).card ≤ depth) (right : Value) :
    ∃ answer, equalWithin heap depth left right = some answer ∧
      (answer = true ↔ left.SameParts heap right) := by
  refine acyclic.levels (motive := fun depth left => ∀ right : Value, ∃ answer,
    equalWithin heap depth left right = some answer ∧
      (answer = true ↔ left.SameParts heap right)) ?leaf ?list enough right
  case leaf =>
    intro depth left notList right
    exact ⟨_, equalWithin_leaf (.inl notList) depth,
      (Value.SameParts.leaves_iff notList).symm⟩
  case list =>
    intro depth cell acyclic items right
    by_cases isList : ∃ other, right = .list other
    · obtain ⟨other, rfl⟩ := isList
      rw [equalWithin]
      by_cases length : (heap.readList cell).size = (heap.readList other).size
      · rw [if_pos length, Value.SameParts.lists_iff]
        exact allEqual_iff items
      · rw [if_neg length]
        exact ⟨false, rfl, iff_of_false Bool.false_ne_true fun same => length same.outside.length⟩
    · have notList : ∀ other, right ≠ .list other := fun other same => isList ⟨other, same⟩
      refine ⟨_, equalWithin_leaf (.inr notList) _, iff_of_false (fun same => ?_) fun same => ?_⟩
      · exact Value.notList_of_same notList (Value.same_symm same) cell rfl
      · exact same.symm.outside.notList notList cell rfl

/-- It is decided whether two values are equal if the first is without cycles. They are if they are
lists with the same parts. -/
theorem equals?_iff {left : Value} (acyclic : left.Acyclic heap) (right : Value) :
    ∃ answer, equals? heap left right = some answer ∧
      (answer = true ↔
        (∃ cell, left = .list cell) ∧ (∃ cell, right = .list cell) ∧
          left.SameParts heap right) := by
  cases left with
  | list cell =>
    cases right with
    | list other =>
      obtain ⟨answer, isAnswer, iff⟩ := equalWithin_iff acyclic
        ((heap.card_reached_le _).trans (Nat.le_mul_self _)) (.list other)
      exact ⟨answer, isAnswer, iff.trans
        ⟨fun same => ⟨⟨cell, rfl⟩, ⟨other, rfl⟩, same⟩, fun same => same.2.2⟩⟩
    | _ =>
      refine ⟨false, rfl, iff_of_false Bool.false_ne_true ?_⟩
      rintro ⟨_, ⟨_, ⟨⟩⟩, _⟩
  | _ =>
    refine ⟨false, rfl, iff_of_false Bool.false_ne_true ?_⟩
    rintro ⟨⟨_, ⟨⟩⟩, _⟩

theorem equals?_eq {left : Value} (acyclic : left.Acyclic heap) (right : Value) :
    equals? heap left right = some (equals heap left right) := by
  obtain ⟨answer, isAnswer, -⟩ := equals?_iff acyclic right
  rw [equals, isAnswer]
  rfl

/-- Two values, of which the first is without cycles, are equal if they are lists with the same
parts. -/
theorem equals_iff {left right : Value} (acyclic : left.Acyclic heap) :
    equals heap left right = true ↔
      (∃ cell, left = .list cell) ∧ (∃ cell, right = .list cell) ∧ left.SameParts heap right := by
  obtain ⟨answer, isAnswer, iff⟩ := equals?_iff acyclic right
  rwa [equals, isAnswer]

theorem equals_comm {left right : Value} (acyclic : left.Acyclic heap)
    (acyclicToo : right.Acyclic heap) : equals heap right left = equals heap left right := by
  rw [Bool.eq_iff_iff, equals_iff acyclic, equals_iff acyclicToo]
  exact ⟨fun ⟨isRight, isLeft, same⟩ => ⟨isLeft, isRight, same.symm⟩,
    fun ⟨isLeft, isRight, same⟩ => ⟨isRight, isLeft, same.symm⟩⟩

end Sequence

/-! ### Leaves of equal lists -/

/-- Leaves that are the same one by one. -/
abbrev SameLeaves : List Value → List Value → Prop :=
  List.Forall₂ fun leaf other => leaf.same other = true

mutual

/-- Values with the same parts have the same leaves in the same order. -/
theorem Leaves.same {left right : Value} {leaves others : List Value} :
    Leaves heap left leaves → Leaves heap right others → left.SameParts heap right →
      SameLeaves leaves others
  | .leaf notList, .leaf _, same =>
    .cons ((Value.SameParts.leaves_iff notList).mp same) .nil
  | .leaf notList, .list _ _, same => absurd rfl (same.outside.notList notList _)
  | .list _ _, .leaf notList, same => absurd rfl (same.symm.outside.notList notList _)
  | .list isCell each, .list isCellToo eachToo, same => by
    rw [Value.SameParts.lists_iff, Heap.readList_of_getElem? isCell,
      Heap.readList_of_getElem? isCellToo] at same
    exact each.same eachToo same

theorem AllLeaves.same {values others leaves further : List Value} :
    AllLeaves heap values leaves → AllLeaves heap others further →
      List.Forall₂ (Value.SameParts heap) values others → SameLeaves leaves further
  | .nil, eachToo, each => by
    cases each
    cases eachToo
    exact .nil
  | .cons first rest, eachToo, each => by
    cases each with
    | cons same each =>
      cases eachToo with
      | cons firstToo restToo =>
        exact List.rel_append (first.same firstToo same) (rest.same restToo each)

end

namespace Sequence

variable {Closure : Type} {world last : World Closure}

/-- Two lists of leaves are equal if the leaves are the same. -/
theorem equals_of_sameLeaves {flat flatToo : ListRef} {leaves others : List Value}
    (holds : heap.lists[flat.index]? = some leaves.toArray)
    (holdsToo : heap.lists[flatToo.index]? = some others.toArray)
    (notLists : ∀ leaf ∈ leaves, ∀ cell, leaf ≠ .list cell) (same : SameLeaves leaves others) :
    equals heap (.list flat) (.list flatToo) = true := by
  have isLeaves : Leaves heap (.list flat) leaves := .list holds (.ofNoLists notLists)
  rw [equals_iff isLeaves.acyclic]
  refine ⟨⟨flat, rfl⟩, ⟨flatToo, rfl⟩, ?_⟩
  rw [Value.SameParts.lists_iff, Heap.readList_of_getElem? holds,
    Heap.readList_of_getElem? holdsToo]
  exact (forall₂_congr fun leaf isLeaf other _ =>
    Value.SameParts.leaves_iff (notLists leaf isLeaf)).mpr same

/-- Flattening equal lists one after the other makes equal lists. -/
theorem flatten_equal {list other : ListRef} (acyclic : (Value.list list).Acyclic world.heap)
    (acyclicToo : (Value.list other).Acyclic world.heap)
    (same : (Value.list list).SameParts world.heap (.list other)) :
    ∃ leaves others flat middle flatToo last,
      (flatten (.list list)).Makes world leaves flat middle ∧
      (flatten (.list other)).Makes middle others flatToo last ∧
      equals last.heap (.list flat) (.list flatToo) = true := by
  obtain ⟨leaves, isLeaves⟩ := acyclic.exists_leaves
  obtain ⟨others, isOthers⟩ := acyclicToo.exists_leaves
  obtain ⟨flat, middle, makes⟩ := flatten_makes isLeaves
  obtain ⟨flatToo, last, makesToo⟩ := flatten_makes (isOthers.mono makes.adds.list)
  exact ⟨leaves, others, flat, middle, flatToo, last, makes, makesToo,
    equals_of_sameLeaves (makesToo.adds.list makes.holds) makesToo.holds isLeaves.notList
      (isLeaves.same isOthers same)⟩

/-- It is decided of two values without cycles whether they are equal, and they are exactly if they
are lists of one nested shape whose leaves are the same. So it does not matter which of them stands
first, and what flattening makes of equal lists is equal. Lists without floating-point numbers equal
themselves, and what equals an equal one of them. -/
theorem nested_equality (world : World Closure) :
    (∀ left right : Value, left.Acyclic world.heap → right.Acyclic world.heap →
      equals? world.heap left right = some (equals world.heap left right) ∧
      (equals world.heap left right = true ↔ (∃ cell, left = .list cell) ∧
        (∃ cell, right = .list cell) ∧ left.SameParts world.heap right) ∧
      equals world.heap right left = equals world.heap left right ∧
      (equals world.heap left right = true → ∃ leaves others flat middle flatToo last,
        (flatten left).Makes world leaves flat middle ∧
        (flatten right).Makes middle others flatToo last ∧
        equals last.heap (.list flat) (.list flatToo) = true)) ∧
    (∀ cell, (Value.list cell).Acyclic world.heap → (Value.list cell).NoFloats world.heap →
      equals world.heap (.list cell) (.list cell) = true) ∧
    ∀ first second third : Value, first.Acyclic world.heap → second.Acyclic world.heap →
      third.Acyclic world.heap → first.NoFloats world.heap → second.NoFloats world.heap →
      third.NoFloats world.heap → equals world.heap first second = true →
      equals world.heap second third = true → equals world.heap first third = true := by
  refine ⟨fun left right acyclic acyclicToo => ⟨equals?_eq acyclic right,
    equals_iff acyclic, equals_comm acyclic acyclicToo, fun isEqual => ?_⟩,
    fun cell acyclic noFloats => ?_, ?_⟩
  · obtain ⟨⟨list, rfl⟩, ⟨other, rfl⟩, same⟩ := (equals_iff acyclic).mp isEqual
    exact flatten_equal acyclic acyclicToo same
  · exact (equals_iff acyclic).mpr ⟨⟨cell, rfl⟩, ⟨cell, rfl⟩, .refl noFloats⟩
  · intro first second third acyclicFirst acyclicSecond acyclicThird noFloats noFloatsToo _ isEqual
      isEqualToo
    obtain ⟨isFirst, _, same⟩ := (equals_iff acyclicFirst).mp isEqual
    obtain ⟨_, isThird, sameToo⟩ := (equals_iff acyclicSecond).mp isEqualToo
    exact (equals_iff acyclicFirst).mpr
      ⟨isFirst, isThird, same.trans noFloats noFloatsToo sameToo⟩

/-- A world with the list `[1, ["a"]]` twice. -/
def pairedWorld : World Unit where
  heap := { Heap.empty with
    lists := #[#[.ofInt 1, .list ⟨1⟩], #[.string "a"], #[.ofInt 1, .list ⟨3⟩], #[.string "a"]] }
  closures := #[]

/-- Both are equal, and so are the lists of their leaves. -/
theorem pairedWorld_equality :
    ((Value.list ⟨0⟩).Acyclic pairedWorld.heap ∧ (Value.list ⟨2⟩).Acyclic pairedWorld.heap ∧
      (Value.list ⟨0⟩).NoFloats pairedWorld.heap ∧ (Value.list ⟨2⟩).NoFloats pairedWorld.heap) ∧
    equals pairedWorld.heap (.list ⟨0⟩) (.list ⟨2⟩) = true ∧
    (Value.list ⟨0⟩).SameParts pairedWorld.heap (.list ⟨2⟩) ∧
    (∃ leaves others flat middle flatToo last,
      (flatten (.list ⟨0⟩)).Makes pairedWorld leaves flat middle ∧
      (flatten (.list ⟨2⟩)).Makes middle others flatToo last ∧
      equals last.heap (.list flat) (.list flatToo) = true) ∧
    equals pairedWorld.heap (.list ⟨2⟩) (.list ⟨0⟩) = true ∧
    equals pairedWorld.heap (.list ⟨0⟩) (.list ⟨0⟩) = true ∧
    equals pairedWorld.heap (.list ⟨2⟩) (.list ⟨2⟩) = true := by
  have leaf (value : Value) (notList : ∀ cell, value ≠ .list cell) :
      Leaves pairedWorld.heap value [value] := .leaf notList
  have number := leaf (.ofInt 1) fun _ => Value.noConfusion
  have text := leaf (.string "a") fun _ => Value.noConfusion
  have acyclic : (Value.list ⟨0⟩).Acyclic pairedWorld.heap :=
    (Leaves.list rfl (.cons number (.cons (.list rfl (.cons text .nil)) .nil))).acyclic
  have acyclicToo : (Value.list ⟨2⟩).Acyclic pairedWorld.heap :=
    (Leaves.list rfl (.cons number (.cons (.list rfl (.cons text .nil)) .nil))).acyclic
  have noFloats (cell inner : ListRef)
      (items : (pairedWorld.heap.readList cell).toList = [.ofInt 1, .list inner])
      (inners : (pairedWorld.heap.readList inner).toList = [.string "a"]) :
      (Value.list cell).NoFloats pairedWorld.heap := by
    have number : (Value.ofInt 1).NoFloats pairedWorld.heap :=
      .leaf (fun _ => Value.noConfusion) fun _ => nofun
    have text : (Value.string "a").NoFloats pairedWorld.heap :=
      .leaf (fun _ => Value.noConfusion) fun _ => Value.noConfusion
    have nested : (Value.list inner).NoFloats pairedWorld.heap :=
      .list (inners ▸ List.forall_mem_singleton.mpr text)
    exact .list (items ▸ List.forall_mem_cons.mpr ⟨number, List.forall_mem_singleton.mpr nested⟩)
  have isEqual : equals pairedWorld.heap (.list ⟨0⟩) (.list ⟨2⟩) = true := by decide
  obtain ⟨structural, reflexive, transitive⟩ := nested_equality pairedWorld
  obtain ⟨-, iff, swap, flattens⟩ := structural (.list ⟨0⟩) (.list ⟨2⟩) acyclic acyclicToo
  have first := noFloats ⟨0⟩ ⟨1⟩ rfl rfl
  have second := noFloats ⟨2⟩ ⟨3⟩ rfl rfl
  have isEqualToo : equals pairedWorld.heap (.list ⟨2⟩) (.list ⟨0⟩) = true := swap.trans isEqual
  exact ⟨⟨acyclic, acyclicToo, first, second⟩, isEqual, (iff.mp isEqual).2.2, flattens isEqual,
    isEqualToo, reflexive ⟨0⟩ acyclic first, transitive _ _ _ acyclicToo acyclic acyclicToo second
      first second isEqualToo isEqual⟩

end Sequence

end Shorthand
