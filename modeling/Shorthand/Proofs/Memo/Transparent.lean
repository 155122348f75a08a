/-
This file shows that a memo is transparent to integers and booleans.

If a function has no effects and its outcome depends on nothing but its arguments, a memo of it
answers as the function itself does. Every answer is kept under the key of its arguments, and as
these have keys of their own, what is found under a key is what the function gives for them. The
number of answers is therefore the number of lists of arguments that the function succeeds for.
-/

import Mathlib
import Shorthand.Proofs.Formula.Compute
import Shorthand.Proofs.Memo.Key
import Shorthand.Proofs.Memo.Tied

namespace Shorthand

variable {Closure : Type}

/-! ### Sizes of tables -/

theorem length_insertEntry {α : Type} {key : String} {value : α} {entries : List (String × α)}
    (missing : entries.lookup key = none) :
    (insertEntry key value entries).length = entries.length + 1 := by
  induction entries with
  | nil => rfl
  | cons entry rest inductionHypothesis =>
    obtain ⟨other, kept⟩ := entry
    rw [List.lookup_cons] at missing
    by_cases same : key = other
    · rw [beq_iff_eq.mpr same] at missing
      cases missing
    · rw [beq_false_of_ne same] at missing
      rw [insertEntry, if_neg same]
      split
      · rfl
      · rw [List.length_cons, inductionHypothesis missing, List.length_cons]

theorem Table.size_insert {α : Type} {table : Table α} {key : String}
    (missing : table.get? key = none) (value : α) :
    (table.insert key value).size = table.size + 1 :=
  length_insertEntry missing

/-! ### Worlds with more cells -/

theorem modify_append {α : Type} {items others : List α} {index : ℕ}
    (bound : index < items.length) (change : α → α) :
    (items ++ others).modify index change = items.modify index change ++ others := by
  induction items generalizing index with
  | nil => exact absurd bound (Nat.not_lt_zero _)
  | cons first rest inductionHypothesis =>
    cases index with
    | zero => rfl
    | succ index =>
      rw [List.cons_append, List.modify_succ_cons, List.modify_succ_cons, List.cons_append,
        inductionHypothesis (Nat.lt_of_succ_lt_succ bound)]

namespace Heap

theorem changeMemo_id (heap : Heap) (memo : MemoRef) : heap.changeMemo memo id = heap := by
  have same : heap.memos.modify memo.index id = heap.memos := by
    rw [← Array.toList_inj, Array.toList_modify, List.modify_id]
  rw [changeMemo, same]

theorem changeMemo_changeMemo (heap : Heap) (memo : MemoRef) (change further : Memo → Memo) :
    (heap.changeMemo memo change).changeMemo memo further =
      heap.changeMemo memo (further ∘ change) := by
  have same : (heap.memos.modify memo.index change).modify memo.index further =
      heap.memos.modify memo.index (further ∘ change) := by
    rw [← Array.toList_inj, Array.toList_modify, Array.toList_modify, Array.toList_modify,
      List.modify_modify_eq]
  rw [changeMemo, changeMemo, changeMemo, same]

end Heap

namespace World

/-- The world with a change of a memo. -/
def withMemo (world : World Closure) (memo : MemoRef) (change : Memo → Memo) : World Closure :=
  ⟨world.heap.changeMemo memo change, world.closures⟩

/-- A world with the same cells as another one except for the results in a memo, and maybe more
cells. -/
def AddsBeside (memo : MemoRef) (old new : World Closure) : Prop :=
  ∃ change : Memo → Memo, (∀ kept, (change kept).function = kept.function) ∧
    (old.withMemo memo change).Adds new

variable {world middle last : World Closure} {memo : MemoRef}

namespace Adds

theorem size_le (adds : world.Adds middle) : world.heap.memos.size ≤ middle.heap.memos.size :=
  adds.memos.length_le

theorem readMemo (adds : world.Adds middle) (bound : memo.index < world.heap.memos.size) :
    middle.heap.readMemo memo = world.heap.readMemo memo :=
  Heap.readMemo_of_prefix adds.memos bound

/-- A memo may be changed in both worlds. -/
theorem withMemo (adds : world.Adds middle) (bound : memo.index < world.heap.memos.size)
    (change : Memo → Memo) : (world.withMemo memo change).Adds (middle.withMemo memo change) := by
  refine ⟨adds.locals, adds.lists, adds.maps, adds.functions, ?_, adds.closures⟩
  obtain ⟨more, same⟩ := adds.memos
  refine ⟨more, ?_⟩
  show (world.heap.memos.modify memo.index change).toList ++ more =
    (middle.heap.memos.modify memo.index change).toList
  rw [Array.toList_modify, Array.toList_modify, ← same, modify_append bound]

end Adds

namespace AddsBeside

theorem refl (memo : MemoRef) (world : World Closure) : AddsBeside memo world world := by
  refine ⟨id, fun _ => rfl, ?_⟩
  have same : world.withMemo memo id = world := by
    rw [World.withMemo, Heap.changeMemo_id]
  rw [same]
  exact .refl world

theorem trans (beside : AddsBeside memo world middle) (adds : middle.Adds last) :
    AddsBeside memo world last := by
  obtain ⟨change, same, addsMiddle⟩ := beside
  exact ⟨change, same, addsMiddle.trans adds⟩

theorem bound (beside : AddsBeside memo world middle) (bound : memo.index < world.heap.memos.size) :
    memo.index < middle.heap.memos.size := by
  obtain ⟨change, _, adds⟩ := beside
  exact Nat.lt_of_lt_of_le (by simpa [World.withMemo, Heap.changeMemo] using bound) adds.size_le

theorem function (beside : AddsBeside memo world middle)
    (bound : memo.index < world.heap.memos.size) :
    (middle.heap.readMemo memo).function = (world.heap.readMemo memo).function := by
  obtain ⟨change, same, adds⟩ := beside
  rw [adds.readMemo (by simpa [World.withMemo, Heap.changeMemo] using bound), World.withMemo,
    Heap.readMemo_changeMemo bound, same]

theorem keep (beside : AddsBeside memo world middle) (bound : memo.index < world.heap.memos.size)
    (key : String) (value : Value) : AddsBeside memo world (middle.keep memo key value) := by
  obtain ⟨change, same, adds⟩ := beside
  let store : Memo → Memo := fun kept => { kept with results := kept.results.insert key value }
  refine ⟨store ∘ change, fun kept => same kept, ?_⟩
  have both : world.withMemo memo (store ∘ change) =
      (world.withMemo memo change).withMemo memo store :=
    congrArg (World.mk · world.closures)
      (world.heap.changeMemo_changeMemo memo change store).symm
  rw [both]
  exact adds.withMemo (by simpa [World.withMemo, Heap.changeMemo] using bound) store

end AddsBeside

end World

/-! ### Functions without effects -/

namespace Combine

/-- A function without effects whose outcome depends on its arguments alone, as long as these are
integers and booleans. Calls of it add cells at most, and they do not mind what a memo holds. -/
def HasOutcome (invoke : Invoke Closure) (memo : MemoRef) (start : World Closure)
    (function : Value) (result : List Value → Outcome Value) : Prop :=
  ∀ world, World.AddsBeside memo start world → ∀ context arguments, AllDiscrete arguments →
    ∃ after, invoke function context arguments world = (result arguments, after) ∧
      world.Adds after

/-- The answers of a memo, asked with contexts and arguments one after the other. -/
def answerEach (invoke : Invoke Closure) (memo : MemoRef) :
    List (Value × List Value) → World Closure → List (Outcome Value) × World Closure
  | [], world => ([], world)
  | (context, arguments) :: rest, world =>
    let (outcome, world) := answer invoke memo context arguments world
    let (outcomes, world) := answerEach invoke memo rest world
    (outcome :: outcomes, world)

/-- The arguments among some calls for which the function succeeds. -/
def succeeded (result : List Value → Outcome Value) (calls : List (Value × List Value)) :
    Set (List Value) :=
  {arguments | arguments ∈ calls.map Prod.snd ∧ ∃ value, result arguments = .value value}

/-- A world in which a memo holds the outcomes of a function for some arguments. -/
structure Remembers (memo : MemoRef) (start : World Closure) (result : List Value → Outcome Value)
    (known : Set (List Value)) (world : World Closure) : Prop where
  beside : World.AddsBeside memo start world
  finite : known.Finite
  found : ∀ arguments, AllDiscrete arguments → ∀ heap value,
    (world.heap.readMemo memo).results.get? (memoKey heap arguments) = some value ↔
      arguments ∈ known ∧ result arguments = .value value
  size : (world.heap.readMemo memo).results.size = known.ncard

variable {invoke : Invoke Closure} {memo : MemoRef} {start world ended : World Closure}
  {function : Value} {result : List Value → Outcome Value} {known : Set (List Value)}
  {arguments : List Value}

/-- What a direct call gives. -/
theorem HasOutcome.direct (pure : HasOutcome invoke memo start function result)
    (discrete : AllDiscrete arguments) (context : Value) :
    (invoke function context arguments start).1 = result arguments := by
  obtain ⟨after, gives, _⟩ := pure start (.refl memo start) context arguments discrete
  exact congrArg Prod.fst gives

theorem succeeded_cons (call : Value × List Value) (rest : List (Value × List Value)) :
    succeeded result (call :: rest) = succeeded result [call] ∪ succeeded result rest := by
  ext other
  simp only [succeeded, List.map_cons, List.map_nil, List.mem_cons, List.not_mem_nil, or_false,
    Set.mem_union, Set.mem_ofPred_eq, or_and_right]

theorem succeeded_value {context value : Value} (succeeds : result arguments = .value value) :
    succeeded result [(context, arguments)] = {arguments} := by
  ext other
  constructor
  · rintro ⟨member, -⟩
    exact List.mem_singleton.mp member
  · rintro rfl
    exact ⟨List.mem_singleton_self _, value, succeeds⟩

theorem succeeded_none {context : Value} (fails : ∀ value, result arguments ≠ .value value) :
    succeeded result [(context, arguments)] = ∅ := by
  refine Set.eq_empty_of_forall_notMem ?_
  rintro other ⟨member, value, succeeds⟩
  rw [List.mem_singleton.mp member] at succeeds
  exact fails value succeeds

namespace Remembers

/-- A world with more cells remembers the same. -/
theorem adds (remembers : Remembers memo start result known world)
    (bound : memo.index < start.heap.memos.size) (adds : world.Adds ended) :
    Remembers memo start result known ended := by
  have same := adds.readMemo (remembers.beside.bound bound)
  exact ⟨remembers.beside.trans adds, remembers.finite, same ▸ remembers.found,
    same ▸ remembers.size⟩

/-- An answer that is kept for new arguments is remembered for these and for no others. -/
theorem keep (remembers : Remembers memo start result known world)
    (bound : memo.index < start.heap.memos.size) (discrete : AllDiscrete arguments)
    (unknown : arguments ∉ known) {value : Value} (succeeds : result arguments = .value value)
    (heap : Heap) :
    Remembers memo start result (insert arguments known)
      (world.keep memo (memoKey heap arguments) value) := by
  have changed : (world.keep memo (memoKey heap arguments) value).heap.readMemo memo =
      { world.heap.readMemo memo with
        results := (world.heap.readMemo memo).results.insert (memoKey heap arguments) value } :=
    Heap.readMemo_changeMemo (remembers.beside.bound bound) _
  have missing : (world.heap.readMemo memo).results.get? (memoKey heap arguments) = none := by
    by_contra isKept
    obtain ⟨kept, isKept⟩ := Option.ne_none_iff_exists'.mp isKept
    exact unknown ((remembers.found arguments discrete heap kept).mp isKept).1
  refine ⟨remembers.beside.keep bound _ value, remembers.finite.insert arguments,
    fun other isOther heapToo kept => ?_, ?_⟩
  · rw [changed, Table.get?_insert]
    by_cases same : other = arguments
    · subst same
      rw [if_pos (isOther.memoKey_eq heapToo heap), succeeds, Option.some_inj,
        Outcome.value.injEq]
      exact (and_iff_right (Set.mem_insert _ _)).symm
    · rw [if_neg fun sameKey => same (isOther.eq_of_memoKey discrete sameKey),
        remembers.found other isOther heapToo kept, Set.mem_insert_iff, or_iff_right same]
  · rw [changed, Table.size_insert missing, remembers.size,
      Set.ncard_insert_of_notMem unknown remembers.finite]

/-- A memo that remembers what a function gives answers as the function does. -/
theorem answer (remembers : Remembers memo start result known world)
    (bound : memo.index < start.heap.memos.size)
    (pure : HasOutcome invoke memo start (start.heap.readMemo memo).function result)
    (discrete : AllDiscrete arguments) (context : Value) :
    ∃ after, answer invoke memo context arguments world = (result arguments, after) ∧
      Remembers memo start result (known ∪ succeeded result [(context, arguments)]) after := by
  have known_iff := remembers.found arguments discrete world.heap
  have hasKey := discrete.haveTexts world.heap
  cases isKept : (world.heap.readMemo memo).results.get? (memoKey world.heap arguments) with
  | some value =>
    obtain ⟨isKnown, succeeds⟩ := (known_iff value).mp isKept
    refine ⟨world, by rw [answer_kept hasKey isKept, succeeds], ?_⟩
    rw [succeeded_value succeeds, Set.union_singleton, Set.insert_eq_of_mem isKnown]
    exact remembers
  | none =>
    obtain ⟨ended, gives, adds⟩ := pure world remembers.beside context arguments discrete
    rw [← remembers.beside.function bound] at gives
    have remembersEnded := remembers.adds bound adds
    by_cases succeeds : ∃ value, result arguments = .value value
    · obtain ⟨value, succeeds⟩ := succeeds
      have unknown : arguments ∉ known := by
        intro isKnown
        rw [(known_iff value).mpr ⟨isKnown, succeeds⟩] at isKept
        cases isKept
      rw [succeeds] at gives ⊢
      refine ⟨_, answer_value hasKey isKept gives, ?_⟩
      rw [succeeded_value succeeds, Set.union_singleton]
      exact remembersEnded.keep bound discrete unknown succeeds world.heap
    · have fails : ∀ value, result arguments ≠ .value value :=
        fun value same => succeeds ⟨value, same⟩
      refine ⟨ended, ?_, ?_⟩
      · cases outcome : result arguments with
        | value value => exact absurd outcome (fails value)
        | failure failure => exact answer_failure hasKey isKept (outcome ▸ gives)
        | exhausted => exact answer_exhausted hasKey isKept (outcome ▸ gives)
      · rw [succeeded_none fails, Set.union_empty]
        exact remembersEnded

/-- So it does for calls one after the other. -/
theorem answerEach {calls : List (Value × List Value)}
    (remembers : Remembers memo start result known world)
    (bound : memo.index < start.heap.memos.size)
    (pure : HasOutcome invoke memo start (start.heap.readMemo memo).function result)
    (discrete : ∀ call ∈ calls, AllDiscrete call.2) :
    ∃ last, answerEach invoke memo calls world = (calls.map (result ·.2), last) ∧
      Remembers memo start result (known ∪ succeeded result calls) last := by
  induction calls generalizing known world with
  | nil =>
    refine ⟨world, rfl, ?_⟩
    have nothing : succeeded result [] = ∅ := Set.eq_empty_of_forall_notMem fun _ member =>
      absurd member.1 List.not_mem_nil
    rw [nothing, Set.union_empty]
    exact remembers
  | cons call rest inductionHypothesis =>
    obtain ⟨first, others⟩ := List.forall_mem_cons.mp discrete
    obtain ⟨after, answers, remembersAfter⟩ := remembers.answer bound pure first call.1
    obtain ⟨last, answersRest, remembersLast⟩ := inductionHypothesis remembersAfter others
    refine ⟨last, ?_, ?_⟩
    · rw [Combine.answerEach, answers]
      simp only [answersRest, List.map_cons]
    · rw [succeeded_cons, ← Set.union_assoc]
      exact remembersLast

end Remembers

/-- A new memo remembers nothing. -/
theorem Remembers.ofNew {before : World Closure}
    (makes : Action.newMemo function before = (.value memo, start)) :
    memo.index < start.heap.memos.size ∧ (start.heap.readMemo memo).function = function ∧
      Remembers memo start result ∅ start := by
  have fresh : start.heap.readMemo memo = ⟨function, Table.empty⟩ := by
    cases makes
    exact before.heap.readMemo_newMemo _
  have bound : memo.index < start.heap.memos.size := by
    cases makes
    show before.heap.memos.size < (before.heap.memos.push _).size
    rw [Array.size_push]
    exact Nat.lt_succ_self _
  refine ⟨bound, congrArg Memo.function fresh, .refl _ _, Set.finite_empty, ?_, ?_⟩
  · intro arguments _ heap value
    have nothing : (Table.empty : Table Value).get? (memoKey heap arguments) = none := rfl
    rw [fresh, nothing]
    exact iff_of_false (Option.some_ne_none value).symm fun member => member.1
  · rw [fresh, Set.ncard_empty]
    rfl

/-- A new memo of a function without effects answers every sequence of calls with integers and
booleans as the function itself does, and then it holds as many answers as there are different
arguments for which the function succeeds. No two lists of integers and booleans have one key. -/
theorem memo_transparent {before : World Closure}
    (makes : Action.newMemo function before = (.value memo, start))
    (pure : HasOutcome invoke memo start function result)
    (calls : List (Value × List Value)) (discrete : ∀ call ∈ calls, AllDiscrete call.2) :
    (∃ last, answerEach invoke memo calls start =
        (calls.map fun call => (invoke function call.1 call.2 start).1, last) ∧
      (last.heap.readMemo memo).results.size =
        {arguments | ∃ context, (context, arguments) ∈ calls ∧
          ∃ value, (invoke function context arguments start).1 = .value value}.ncard) ∧
      ∀ (heap other : Heap) (left right : List Value), AllDiscrete left → AllDiscrete right →
        memoKey heap left = memoKey other right → left = right := by
  refine ⟨?_, fun heap other left right isLeft isRight same => isLeft.eq_of_memoKey isRight same⟩
  have ⟨bound, isFunction, (remembers : Remembers memo start result ∅ start)⟩ :=
    Remembers.ofNew makes
  have direct : ∀ call ∈ calls, (invoke function call.1 call.2 start).1 = result call.2 :=
    fun call member => pure.direct (discrete call member) call.1
  obtain ⟨last, answers, remembersLast⟩ :=
    remembers.answerEach bound (isFunction.symm ▸ pure) discrete
  refine ⟨last, ?_, ?_⟩
  · rw [answers, List.map_congr_left direct]
  · rw [remembersLast.size, Set.empty_union]
    congr 1
    ext arguments
    constructor
    · rintro ⟨member, value, succeeds⟩
      obtain ⟨call, isCall, rfl⟩ := List.mem_map.mp member
      exact ⟨call.1, isCall, value, (direct call isCall).trans succeeds⟩
    · rintro ⟨context, isCall, value, succeeds⟩
      exact ⟨List.mem_map.mpr ⟨_, isCall, rfl⟩, value, (direct _ isCall).symm.trans succeeds⟩

/-! ### A function that fails for some arguments -/

/-- A function that gives its argument back if it is truthy and fails otherwise. -/
def insisting : Definition where
  parameters := ["x"]
  body := .expression (.conditional (.variable "x") (.variable "x") (.call (.literal .null) []))
  label := "x ? x : null()"

/-- The world with this function. -/
def insistingWorld : World SlotClosure := (insisting.compile World.empty).2

/-- What the function gives for its arguments. -/
def insisted (arguments : List Value) : Outcome Value :=
  if (arguments.headD .undefined).truthy then .value (arguments.headD .undefined)
  else .failure (.type (.notAFunction "null"))

/-- What the function is compiled to. -/
def insistingClosure : SlotClosure where
  routine := ⟨[0], 1, [],
    .expression (.conditional (.slot 0) (.slot 0) (.call (.value .null) [])), "x ? x : null()"⟩
  captured := []

/-- A call adds one variable, which has the argument. -/
theorem insistingClosure_run (depth : ℕ) (context : Value) (arguments : List Value)
    (world : World SlotClosure) :
    insistingClosure.run (slotEngine.machineWithin (depth + 1)) context arguments world =
      (insisted arguments, world.withVariables (received 1 arguments)) := by
  obtain ⟨frame, enters, has⟩ : ∃ frame, insistingClosure.enter context arguments world =
        (.value frame, world.withVariables (received 1 arguments)) ∧
      frame.Has (world.withVariables (received 1 arguments)).heap (received 1 arguments) :=
    SlotClosure.enter_ofParameters ..
  have reads : Code.evaluate (slotEngine.machineWithin (depth + 1)) frame (.slot 0)
      (world.withVariables (received 1 arguments)) =
        (.value (arguments.headD .undefined), world.withVariables (received 1 arguments)) :=
    Code.evaluate_formula has (.slot 0) rfl
  rw [SlotClosure.run, Action.bind_value enters]
  show Code.evaluate _ _ (.conditional (.slot 0) (.slot 0) (.call (.value .null) [])) _ = _
  rw [Code.evaluate, Action.bind_value reads, insisted]
  by_cases truthy : (arguments.headD .undefined).truthy = true
  · rw [if_pos truthy, if_pos truthy]
    exact reads
  · have text (heap : Heap) : Value.null.literal heap = "null" := by
      rw [Value.literal, Tree.ofValue]
      cases heap.lists.size + heap.maps.size <;> rfl
    have hasLiteral (heap : Heap) : Value.null.hasLiteral heap = true :=
      Value.hasLiteral_leaf (fun _ => Value.noConfusion) fun _ => Value.noConfusion
    rw [if_neg truthy, if_neg truthy, ← text]
    exact Action.readIf_bind (hasLiteral _) _ _

/-- The function may be called in every world that has it. -/
theorem call_insisting {world : World SlotClosure} {function : Value}
    (runs : world.Runs function insistingClosure) (context : Value) (arguments : List Value) :
    ∃ after, call function context arguments world = (insisted arguments, after) ∧
      world.Adds after := by
  have performs : call function context arguments world =
      insistingClosure.run (slotEngine.machineWithin 999999) context arguments world := by
    rw [call, machine, show callDepth = 999999 + 1 from rfl, runs.invoke]
    rfl
  exact ⟨_, performs.trans (insistingClosure_run 999998 context arguments world),
    World.AddsVariables.adds ⟨_, rfl⟩⟩

theorem insisting_hasOutcome {memo : MemoRef} {start : World SlotClosure}
    (makes : Action.newMemo (.function ⟨0⟩) insistingWorld = (.value memo, start)) :
    HasOutcome call memo start (.function ⟨0⟩) insisted := by
  have runs : insistingWorld.Runs (.function ⟨0⟩) insistingClosure := ⟨⟨0⟩, ⟨0⟩, rfl, rfl, rfl⟩
  rintro world ⟨change, _, adds⟩ context arguments _
  cases makes
  refine call_insisting (World.Runs.mono ?_ adds) context arguments
  exact runs

/-- Calls for which the function succeeds and fails, some of them twice. -/
def insistingCalls : List (Value × List Value) :=
  [(.undefined, [.ofInt 1]), (.null, [.ofInt 0]), (.undefined, [.ofInt 1]),
    (.undefined, [.ofInt 1, .boolean true]), (.undefined, [.ofInt 0]), (.undefined, [])]

/-- The answers to these calls are those of the function, its failures included. -/
theorem insisting_transparent : ∃ memo start,
    Action.newMemo (.function ⟨0⟩) insistingWorld = (.value memo, start) ∧
      HasOutcome call memo start (.function ⟨0⟩) insisted ∧
      (∀ call ∈ insistingCalls, AllDiscrete call.2) ∧
      ∃ last, answerEach call memo insistingCalls start =
        ([.value (.ofInt 1), .failure (.type (.notAFunction "null")), .value (.ofInt 1),
          .value (.ofInt 1), .failure (.type (.notAFunction "null")),
          .failure (.type (.notAFunction "null"))], last) := by
  obtain ⟨memo, start, makes⟩ : ∃ memo start,
      Action.newMemo (.function ⟨0⟩) insistingWorld = (.value memo, start) := ⟨_, _, rfl⟩
  have pure := insisting_hasOutcome makes
  have discrete : ∀ call ∈ insistingCalls, AllDiscrete call.2 := by
    have integer (value : ℤ) : (Value.ofInt value).IsDiscrete := .integer _
    have truth : (Value.boolean true).IsDiscrete := .boolean true
    simp [insistingCalls, AllDiscrete, integer, truth]
  obtain ⟨⟨last, answers, _⟩, _⟩ := memo_transparent makes pure insistingCalls discrete
  have direct : ∀ request ∈ insistingCalls,
      (call (.function ⟨0⟩) request.1 request.2 start).1 = insisted request.2 :=
    fun request member => pure.direct (discrete request member) request.1
  refine ⟨memo, start, makes, pure, discrete, last, ?_⟩
  rw [answers, List.map_congr_left direct]
  rfl

end Combine

end Shorthand
