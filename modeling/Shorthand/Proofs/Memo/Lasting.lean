/-
This file shows how long the answers of a memo last.

Asking a memo is one event that finds an answer, or two events with everything in between that
the function of the memo leads to. As no other action changes a memo, every call of a machine
leads along events from one ledger of a memo to the next. So what holds of ledgers holds of memos,
whatever their functions do and however the calls are nested.
-/

import Shorthand.Proofs.Alike.Along
import Shorthand.Proofs.Memo.Ledger
import Shorthand.Proofs.Memo.Tied

namespace Shorthand

variable {Closure : Type}

/-! ### The ledger of a memo -/

/-- What a memo keeps, with the keys of the calls under way. -/
def World.ledger (world : World Closure) (memo : MemoRef) (running : List String) : Ledger :=
  ⟨fun key => (world.heap.readMemo memo).results.get? key, running⟩

/-- The world after the function of a memo has run for a key. Only a value is kept. -/
def World.settle (world : World Closure) (memo : MemoRef) (key : String) :
    Outcome Value → World Closure
  | .value value => world.keep memo key value
  | _ => world

/-- The events of a memo from one world to another, whichever calls are under way. -/
def LedgerPath (memo : MemoRef) (old new : World Closure) : Prop :=
  memo.index < old.heap.memos.size → memo.index < new.heap.memos.size ∧
    ∀ running, ∃ events, (old.ledger memo running).Run events (new.ledger memo running)

namespace World

variable {memo other : MemoRef} {world : World Closure} {key : String}

theorem ledger_settle (isThere : memo.index < world.heap.memos.size) (outcome : Outcome Value)
    (running : List String) :
    (world.settle memo key outcome).ledger memo running =
      (world.ledger memo (key :: running)).after (.ended key outcome) := by
  cases outcome with
  | value value =>
    refine congrArg (Ledger.mk · running) (funext fun name => ?_)
    show ((world.keep memo key value).heap.readMemo memo).results.get? name =
      Function.update (world.ledger memo running).entries key (some value) name
    rw [keep, Heap.readMemo_changeMemo isThere, Table.get?_insert, Function.update_apply]
    rfl
  | failure failure => rfl
  | exhausted => rfl

/-- A call that runs the function, with everything in between. -/
theorem run_call {ended : World Closure} {inner : List Event} {running : List String}
    (isThere : memo.index < ended.heap.memos.size)
    (missing : (world.ledger memo running).entries key = none)
    (run : (world.ledger memo (key :: running)).Run inner (ended.ledger memo (key :: running)))
    (outcome : Outcome Value) :
    (world.ledger memo running).Run (.begun key :: inner ++ [.ended key outcome])
      ((ended.settle memo key outcome).ledger memo running) := by
  rw [ledger_settle isThere]
  exact .step (.begun missing) (run.append (.step (.ended rfl) .still))

theorem ledger_settle_other (different : memo ≠ other) (outcome : Outcome Value)
    (running : List String) :
    (world.settle other key outcome).ledger memo running = world.ledger memo running := by
  cases outcome with
  | value value =>
    rw [ledger, ledger, settle, keep, Heap.readMemo_changeMemo_other different]
  | failure failure => rfl
  | exhausted => rfl

theorem size_settle (other : MemoRef) (key : String) (outcome : Outcome Value) :
    (world.settle other key outcome).heap.memos.size = world.heap.memos.size := by
  cases outcome with
  | value value => exact Array.size_modify
  | failure failure => rfl
  | exhausted => rfl

end World

/-- What leaves the memos alone adds nothing to a ledger. -/
instance (memo : MemoRef) : IsPath (LedgerPath memo : World Closure → World Closure → Prop) where
  step keeps isThere := by
    refine ⟨Nat.lt_of_lt_of_le isThere keeps.memos.length_le, fun running => ⟨[], ?_⟩⟩
    rw [World.ledger, World.ledger, Heap.readMemo_of_prefix keeps.memos isThere]
    exact .still
  trans path further isThere := by
    obtain ⟨staysThere, runs⟩ := path isThere
    obtain ⟨isLast, runsFurther⟩ := further staysThere
    refine ⟨isLast, fun running => ?_⟩
    obtain ⟨events, run⟩ := runs running
    obtain ⟨others, runFurther⟩ := runsFurther running
    exact ⟨events ++ others, run.append runFurther⟩

/-! ### Calls -/

namespace Combine

variable {invoke : Invoke Closure} {memo : MemoRef} {world ended : World Closure}
  {context : Value} {arguments : List Value} {outcome : Outcome Value}

theorem answer_settle (hasKey : haveTexts world.heap arguments = true)
    (missing : (world.heap.readMemo memo).results.get? (memoKey world.heap arguments) = none)
    (runs : invoke (world.heap.readMemo memo).function context arguments world =
      (outcome, ended)) :
    answer invoke memo context arguments world =
      (outcome, ended.settle memo (memoKey world.heap arguments) outcome) := by
  cases outcome with
  | value value => exact answer_value hasKey missing runs
  | failure failure => exact answer_failure hasKey missing runs
  | exhausted => exact answer_exhausted hasKey missing runs

/-- Asking any memo leads along events of every memo. -/
theorem answer_along
    (along : ∀ function context arguments,
      Along (LedgerPath memo) (invoke function context arguments))
    (asked : MemoRef) (context : Value) (arguments : List Value) :
    Along (LedgerPath memo) (answer invoke asked context arguments) := by
  intro world
  cases hasKey : haveTexts world.heap arguments with
  | false =>
    rw [answer_endless hasKey]
    exact IsPath.refl world
  | true =>
  cases found : (world.heap.readMemo asked).results.get? (memoKey world.heap arguments) with
  | some value =>
    rw [answer_kept hasKey found]
    exact IsPath.refl world
  | none =>
    have path := along (world.heap.readMemo asked).function context arguments world
    rw [answer_settle hasKey found rfl]
    intro isThere
    obtain ⟨staysThere, runs⟩ := path isThere
    refine ⟨(World.size_settle ..).symm ▸ staysThere, fun running => ?_⟩
    by_cases same : memo = asked
    · subst same
      obtain ⟨inner, run⟩ := runs (memoKey world.heap arguments :: running)
      exact ⟨_, World.run_call staysThere found run _⟩
    · rw [World.ledger_settle_other same]
      exact runs running

end Combine

/-- Calls of a machine do nothing to a memo but ask it. -/
theorem slotEngine_ledger (memo : MemoRef) (depth : Nat) (function context : Value)
    (arguments : List Value) :
    Along (LedgerPath memo) ((slotEngine.machineWithin depth).invoke function context arguments) :=
  slotEngine_along Combine.answer_along depth function context arguments

/-! ### Histories -/

/-- A memo in a world to which some events have led, with the keys of the calls under way. -/
structure History (memo : MemoRef) (first : Ledger) (events : List Event) (world : World Closure)
    (running : List String) : Prop where
  isThere : memo.index < world.heap.memos.size
  run : first.Run events (world.ledger memo running)

/-- What holds of the answers of a memo after some events, and of the calls that come next. -/
structure Lasting (memo : MemoRef) (first : Ledger) (events : List Event)
    (world : World SlotClosure) (running : List String) : Prop where
  /-- What a call answers while no other call for its key is under way is kept from then on, and
  it is what all later calls for the key find. -/
  answers : ∀ earlier event later value, events = earlier ++ event :: later →
    event.answer? = some value →
    event.key ∉ (earlier ++ [event]).foldl Event.running first.running →
    (∀ next ∈ later, next.key = event.key → next = .kept event.key value) ∧
      (world.ledger memo running).entries event.key = some value
  /-- The same holds of answers that were there in the beginning. -/
  entries : ∀ key value, first.entries key = some value → key ∉ first.running →
    (∀ event ∈ events, event.key = key → event = .kept key value) ∧
      (world.ledger memo running).entries key = some value
  /-- No answer is ever taken away. -/
  remains : ∀ earlier later key, events = earlier ++ later →
    (earlier.foldl Event.store first.entries key).isSome →
    ((world.ledger memo running).entries key).isSome
  /-- What is kept is what was stored last, and a call that fails stores nothing. -/
  stored : (world.ledger memo running).entries = events.foldl Event.store first.entries
  /-- The next call for a key with an answer gives this answer and changes nothing. -/
  keeps : ∀ (invoke : Invoke SlotClosure) context arguments value,
    Combine.haveTexts world.heap arguments = true →
    (world.ledger memo running).entries (Combine.memoKey world.heap arguments) = some value →
    Combine.answer invoke memo context arguments world = (.value value, world) ∧
      History memo first (events ++ [.kept (Combine.memoKey world.heap arguments) value]) world
        running
  /-- Without an answer the function runs. What it does is open, except that it does nothing to
  the memo but ask it. The call ends as the function does, and only a value is stored. -/
  runs : ∀ (invoke : Invoke SlotClosure) context arguments outcome ended inner,
    Combine.haveTexts world.heap arguments = true →
    (world.ledger memo running).entries (Combine.memoKey world.heap arguments) = none →
    invoke (world.heap.readMemo memo).function context arguments world = (outcome, ended) →
    History memo (world.ledger memo (Combine.memoKey world.heap arguments :: running)) inner ended
      (Combine.memoKey world.heap arguments :: running) →
    Combine.answer invoke memo context arguments world =
        (outcome, ended.settle memo (Combine.memoKey world.heap arguments) outcome) ∧
      History memo first
        (events ++ .begun (Combine.memoKey world.heap arguments) :: inner ++
          [.ended (Combine.memoKey world.heap arguments) outcome])
        (ended.settle memo (Combine.memoKey world.heap arguments) outcome) running
  /-- Arguments that hold themselves have no key, and a call with them comes to no end. -/
  endless : ∀ (invoke : Invoke SlotClosure) context arguments,
    Combine.haveTexts world.heap arguments = false →
    Combine.answer invoke memo context arguments world = (.exhausted, world)
  /-- Calls of a machine do nothing to the memo but ask it, whichever calls are under way. -/
  calls : ∀ depth function context arguments outcome ended,
    (slotEngine.machineWithin depth).invoke function context arguments world = (outcome, ended) →
    ∀ under, ∃ inner, History memo (world.ledger memo under) inner ended under
  /-- Nothing that begins now replaces an answer, be it a call of a function or a call of this
  memo or of another one. -/
  spares : ∀ key value, (world.ledger memo running).entries key = some value →
    ∀ depth context arguments,
      (∀ function, (World.ledger ((slotEngine.machineWithin depth).invoke function context
        arguments world).2 memo running).entries key = some value) ∧
      ∀ asked, (World.ledger (Combine.answer (slotEngine.machineWithin depth).invoke asked context
        arguments world).2 memo running).entries key = some value

section

variable {memo : MemoRef} {first : Ledger} {events : List Event} {world : World SlotClosure}
  {running : List String}

theorem History.along (history : History memo first events world running)
    {work : Action SlotClosure Value} (along : Along (LedgerPath memo) work)
    (under : List String) :
    ∃ inner, History memo (world.ledger memo under) inner (work world).2 under := by
  obtain ⟨staysThere, runs⟩ := along world history.isThere
  obtain ⟨inner, run⟩ := runs under
  exact ⟨inner, staysThere, run⟩

/-- What begins now has no calls under way of its own. So it finds all answers settled. -/
theorem History.spares (history : History memo first events world running)
    {work : Action SlotClosure Value} (along : Along (LedgerPath memo) work) {key : String}
    {value : Value} (found : (world.ledger memo running).entries key = some value) :
    ((work world).2.ledger memo running).entries key = some value := by
  obtain ⟨inner, behaves⟩ := history.along along []
  exact (behaves.run.settled ⟨found, List.not_mem_nil⟩).2.found

/-- The answers of a memo last. One is replaced only at the end of a call for its key that was
under way when it was given. -/
theorem answers_last (history : History memo first events world running) :
    Lasting memo first events world running where
  answers earlier event later value same given alone := by
    obtain ⟨finds, settled⟩ := (same ▸ history.run).settled_answer given alone
    exact ⟨finds, settled.found⟩
  entries key value found idle := by
    obtain ⟨finds, settled⟩ := history.run.settled ⟨found, idle⟩
    exact ⟨finds, settled.found⟩
  remains earlier later key same isThere := by
    obtain ⟨middle, before, behind⟩ := (same ▸ history.run).split
    exact behind.isSome (before.entries_eq ▸ isThere)
  stored := history.run.entries_eq
  keeps invoke context arguments value hasKey found :=
    ⟨Combine.answer_kept hasKey found, history.isThere,
      history.run.append (.step (.kept found) .still)⟩
  runs invoke context arguments outcome ended inner hasKey missing runs behaves := by
    refine ⟨Combine.answer_settle hasKey missing runs, ?_, ?_⟩
    · rw [World.size_settle]
      exact behaves.isThere
    · rw [List.append_assoc]
      exact history.run.append (World.run_call behaves.isThere missing behaves.run outcome)
  endless invoke context arguments noKey := Combine.answer_endless noKey
  calls depth function context arguments outcome ended runs under := by
    have behaves := history.along (slotEngine_ledger memo depth function context arguments) under
    rwa [runs] at behaves
  spares key value found depth context arguments := by
    have calls (function context : Value) (arguments : List Value) :=
      slotEngine_ledger memo depth function context arguments
    exact ⟨fun function => history.spares (calls function context arguments) found,
      fun asked => history.spares (Combine.answer_along calls asked context arguments) found⟩

end

/-! ### Functions that ask their own memo -/

/-- A world with a function without parameters and a map that has a memo of this function. -/
def recalling (body : CodeBody) : World SlotClosure where
  heap := { Heap.empty with
    maps := #[Table.empty.insert "m" (.function ⟨1⟩)]
    functions := #[⟨.closure ⟨0⟩, 0, "f"⟩, ⟨.memoized ⟨0⟩, 0, "cached(f)"⟩]
    memos := #[⟨.function ⟨0⟩, Table.empty⟩] }
  closures := #[⟨⟨[], 0, [], body, "f"⟩, []⟩]

/-- Asks the memo of such a world. -/
def World.ask (world : World SlotClosure) (arguments : List Value) :
    Outcome Value × World SlotClosure :=
  Combine.answer (slotEngine.machineWithin 3).invoke ⟨0⟩ (.map ⟨0⟩) arguments world

/-- A function that asks for another key: `arguments.length ? this.m() && "outer" : "inner"`. -/
def passing : World SlotClosure :=
  recalling (.expression (.conditional (.property .arguments (.value (.string "length")))
    (.and (.callMethod .this (.value (.string "m")) []) (.value (.string "outer")))
    (.value (.string "inner"))))

/-- The world after the memo has been asked. -/
def passed : World SlotClosure := (passing.ask [.boolean true]).2

/-- What happens in between. -/
def passages : List Event :=
  [.begun "true", .begun "", .ended "" (.value (.string "inner")),
    .ended "true" (.value (.string "outer"))]

theorem passing_history : History ⟨0⟩ (passing.ledger ⟨0⟩ []) passages passed [] := by
  have results : (passed.heap.readMemo ⟨0⟩).results =
      (Table.empty.insert "" (.string "inner")).insert "true" (.string "outer") := by rfl
  have same : passed.ledger ⟨0⟩ [] =
      ⟨Function.update (Function.update (fun _ => none) "" (some (.string "inner"))) "true"
        (some (.string "outer")), []⟩ := by
    refine congrArg (Ledger.mk · []) (funext fun key => ?_)
    rw [results, Table.get?_insert, Table.get?_insert, Function.update_apply,
      Function.update_apply]
    rfl
  refine ⟨by decide +kernel, ?_⟩
  rw [same]
  exact .step (.begun rfl) (.step (.begun rfl) (.step (.ended rfl) (.step (.ended rfl) .still)))

/-- The answer of the inner call stays after both have ended. -/
theorem passing_lasts :
    History ⟨0⟩ (passing.ledger ⟨0⟩ []) passages passed [] ∧
      Lasting ⟨0⟩ (passing.ledger ⟨0⟩ []) passages passed [] ∧
      ∀ invoke context,
        Combine.answer invoke ⟨0⟩ context [] passed = (.value (.string "inner"), passed) := by
  have lasting := answers_last passing_history
  exact ⟨passing_history, lasting,
    fun invoke context => (lasting.keeps invoke context [] _ (by rfl) (by rfl)).1⟩

/-- A function that asks for the same key: `if (this.busy) { return "inner" } this.busy = true;
this.found = this.m(); return "outer"`. -/
def doubting : World SlotClosure :=
  recalling (.steps [
    .if (.property .this (.value (.string "busy")))
      (.return (some (.value (.string "inner")))) none,
    .evaluate (.assignProperty none .this (.value (.string "busy")) (.value (.boolean true))),
    .evaluate (.assignProperty none .this (.value (.string "found"))
      (.callMethod .this (.value (.string "m")) [])),
    .return (some (.value (.string "outer")))])

/-- An answer is replaced when a call for its key ends that began earlier. -/
theorem inner_answer_replaced :
    (doubting.ask []).1 = .value (.string "outer") ∧
      ((doubting.ask []).2.heap.readMap ⟨0⟩).get? "found" = some (.string "inner") ∧
      ((doubting.ask []).2.ask []).1 = .value (.string "outer") :=
  ⟨by rfl, by rfl, by rfl⟩

end Shorthand
