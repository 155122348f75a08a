/-
This file shows that calls of a memoizing slot answer as a table of earlier answers does.

A history consists of changes that stay away from the slots and of calls of the slots. While the
function runs for a call there may be further calls, for other maps or other keys, and whatever
else it does has to stay away from the slots as well. The calls are those of the machine: nothing
is said here about what they answer.
-/

import Shorthand.Proofs.Memo.Tied

namespace Shorthand

variable {Closure : Type}

/-! ### Histories -/

section

variable (engine : Engine Closure) (receivers : List MapRef) (function : Value) (slot : String)

mutual

/-- What happens between two worlds while the function runs for some receivers and keys, and the
responses of the calls that end in between. -/
inductive Activity : List (MapRef × String) → World Closure → List Response → World Closure →
    Prop where
  | still {busy : List (MapRef × String)} {world : World Closure} : Activity busy world [] world
  | quiet {busy : List (MapRef × String)} {world middle last : World Closure}
      {responses : List Response}
    (changes : Quiet receivers slot world.heap middle.heap)
    (further : Activity busy middle responses last) : Activity busy world responses last
  | call {busy : List (MapRef × String)} {world middle last : World Closure}
      {responses others : List Response}
    (calls : SlotCall busy world responses middle) (further : Activity busy middle others last) :
    Activity busy world (responses ++ others) last

/-- A call of the slot of a map. The function is run for it if the memo that is asked has no
answer, and it is not already running for the same map and the same key. -/
inductive SlotCall : List (MapRef × String) → World Closure → List Response → World Closure →
    Prop where
  | kept {busy : List (MapRef × String)} {world begun after : World Closure} {receiver : MapRef}
      {memo : MemoRef} {arguments : List Value} {depth : Nat} {outcome : Outcome Value}
      {value : Value}
    (member : receiver ∈ receivers) (opens : Opens function slot receiver world memo begun)
    (hasKey : Combine.haveTexts begun.heap arguments = true)
    (found : (begun.heap.readMemo memo).results.get? (Combine.memoKey begun.heap arguments) =
      some value)
    (called : (engine.machineWithin (depth + 1)).callMethod (.map receiver) (.string slot)
      arguments world = (outcome, after)) :
    SlotCall busy world [⟨receiver, Combine.memoKey begun.heap arguments, outcome, none⟩] after
  | computed {busy : List (MapRef × String)} {world begun ended after : World Closure}
      {receiver : MapRef} {memo : MemoRef} {arguments : List Value} {depth : Nat}
      {outcome result : Outcome Value} {responses : List Response}
    (member : receiver ∈ receivers) (opens : Opens function slot receiver world memo begun)
    (hasKey : Combine.haveTexts begun.heap arguments = true)
    (missing : (begun.heap.readMemo memo).results.get? (Combine.memoKey begun.heap arguments) =
      none)
    (notBusy : (receiver, Combine.memoKey begun.heap arguments) ∉ busy)
    (runs : (engine.machineWithin depth).invoke function (.map receiver) arguments begun =
      (result, ended))
    (behaves : Activity ((receiver, Combine.memoKey begun.heap arguments) :: busy) begun responses
      ended)
    (called : (engine.machineWithin (depth + 1)).callMethod (.map receiver) (.string slot)
      arguments world = (outcome, after)) :
    SlotCall busy world
      (responses ++ [⟨receiver, Combine.memoKey begun.heap arguments, outcome, some result⟩]) after
  /-- A call with arguments that have no key. -/
  | endless {busy : List (MapRef × String)} {world begun after : World Closure} {receiver : MapRef}
      {memo : MemoRef} {arguments : List Value} {depth : Nat} {outcome : Outcome Value}
    (member : receiver ∈ receivers) (opens : Opens function slot receiver world memo begun)
    (noKey : Combine.haveTexts begun.heap arguments = false)
    (called : (engine.machineWithin (depth + 1)).callMethod (.map receiver) (.string slot)
      arguments world = (outcome, after)) :
    SlotCall busy world [] after

end

/-- Responses that follow a table, with slots that stay tied to it. Slots that lead to a memo go on
leading there, and for the places that are busy the table stays as it is. -/
structure Advances (busy : List (MapRef × String)) (table : Reference) (world : World Closure)
    (responses : List Response) (after : Reference) (last : World Closure) : Prop where
  follows : Follows table responses after
  tied : Tied receivers function slot after last.heap
  spares : ∀ place ∈ busy, after place.1 place.2 = table place.1 place.2
  leads : ∀ receiver ∈ receivers, ∀ memo, world.heap.Leads slot receiver memo →
    last.heap.Leads slot receiver memo

end

variable {engine : Engine Closure} {receivers : List MapRef} {function : Value} {slot : String}
  {busy : List (MapRef × String)} {table middle after : Reference}
  {world begun last : World Closure} {responses others : List Response}

theorem Advances.trans {between : World Closure}
    (advances : Advances receivers function slot busy table world responses middle between)
    (further : Advances receivers function slot busy middle between others after last) :
    Advances receivers function slot busy table world (responses ++ others) after last where
  follows := advances.follows.append further.follows
  tied := further.tied
  spares place member := (further.spares place member).trans (advances.spares place member)
  leads receiver member memo leads :=
    further.leads receiver member memo (advances.leads receiver member memo leads)

/-! ### Opening a memo -/

namespace Opens

variable {receiver : MapRef} {memo : MemoRef}

theorem tied (opens : Opens function slot receiver world memo begun)
    (member : receiver ∈ receivers) (tied : Tied receivers function slot table world.heap) :
    Tied receivers function slot table begun.heap := by
  cases opens with
  | kept leads => exact tied
  | installed holds _ => exact tied.installed member holds

theorem leads (opens : Opens function slot receiver world memo begun) :
    begun.heap.Leads slot receiver memo := by
  cases opens with
  | kept leads => exact leads
  | installed holds _ => exact Heap.installed_leads holds

/-- Opening the memo of one map does not lead other maps away from theirs. -/
theorem leads_other (opens : Opens function slot receiver world memo begun)
    (tied : Tied receivers function slot table world.heap) {other : MapRef} {kept : MemoRef}
    (isOther : other ∈ receivers) (leads : world.heap.Leads slot other kept) :
    begun.heap.Leads slot other kept := by
  cases opens with
  | kept _ => exact leads
  | installed holds _ =>
    by_cases same : other = receiver
    · subst same
      exact absurd holds leads.not_holds
    · exact (Heap.installed_quiet tied.bounds).leads
        (List.mem_filter.mpr ⟨isOther, decide_eq_true same⟩) leads

/-- A memo is opened for every map whose slot is tied. -/
theorem ofTied (tied : Tied receivers function slot table world.heap)
    (hasLabel : function.hasLiteral world.heap = true) (member : receiver ∈ receivers) :
    ∃ memo begun, Opens function slot receiver world memo begun := by
  rcases tied.stands receiver member with ⟨holds, _⟩ | ⟨memo, leads, _⟩
  · exact ⟨_, _, .installed holds hasLabel⟩
  · exact ⟨memo, world, .kept leads⟩

/-- A memo with an answer in it has been there before. -/
theorem eq_of_found (opens : Opens function slot receiver world memo begun) {key : String}
    {value : Value} (found : (begun.heap.readMemo memo).results.get? key = some value) :
    begun = world := by
  cases opens with
  | kept _ => rfl
  | installed _ _ =>
    have fresh : (world.heap.installed function slot receiver).readMemo ⟨world.heap.memos.size⟩ =
        ⟨function, Table.empty⟩ := world.heap.readMemo_newMemo _
    rw [fresh] at found
    cases found

end Opens

/-! ### Calls one after the other -/

section

variable {receiver : MapRef} {memo : MemoRef} {arguments : List Value} {ended : World Closure}

/-- What a call answers when the memo that it opens has an answer. -/
theorem Opens.callMethod_kept (opens : Opens function slot receiver world memo begun)
    (tied : Tied receivers function slot table world.heap) (member : receiver ∈ receivers)
    (hasKey : Combine.haveTexts begun.heap arguments = true) {value : Value}
    (found : table receiver (Combine.memoKey begun.heap arguments) = some value) (depth : Nat) :
    (engine.machineWithin (depth + 1)).callMethod (.map receiver) (.string slot) arguments world =
      (.value value, world) := by
  obtain ⟨_, _, results⟩ := (opens.tied member tied).answers member opens.leads
  have inMemo := (results _).trans found
  rw [Machine.callMethod_opens engine depth opens, Combine.answer_kept hasKey inMemo,
    opens.eq_of_found inMemo]

/-- A call with arguments that have no key opens a memo and comes to no end. -/
theorem Opens.callMethod_endless (opens : Opens function slot receiver world memo begun)
    (noKey : Combine.haveTexts begun.heap arguments = false) (depth : Nat) :
    (engine.machineWithin (depth + 1)).callMethod (.map receiver) (.string slot) arguments world =
      (.exhausted, begun) :=
  (Machine.callMethod_opens engine depth opens arguments).trans (Combine.answer_endless noKey)

/-- What a call answers when the memo that it opens has no answer and the function yields one. -/
theorem Opens.callMethod_value (opens : Opens function slot receiver world memo begun)
    (tied : Tied receivers function slot table world.heap) (member : receiver ∈ receivers)
    (hasKey : Combine.haveTexts begun.heap arguments = true)
    (missing : table receiver (Combine.memoKey begun.heap arguments) = none) {depth : Nat}
    {value : Value}
    (runs : (engine.machineWithin depth).invoke function (.map receiver) arguments begun =
      (.value value, ended)) :
    (engine.machineWithin (depth + 1)).callMethod (.map receiver) (.string slot) arguments world =
      (.value value, ended.keep memo (Combine.memoKey begun.heap arguments) value) := by
  obtain ⟨_, same, results⟩ := (opens.tied member tied).answers member opens.leads
  rw [Machine.callMethod_opens engine depth opens]
  exact Combine.answer_value hasKey ((results _).trans missing) (by rwa [same])

/-- What a call answers when the memo that it opens has no answer and the function yields none. -/
theorem Opens.callMethod_failed (opens : Opens function slot receiver world memo begun)
    (tied : Tied receivers function slot table world.heap) (member : receiver ∈ receivers)
    (hasKey : Combine.haveTexts begun.heap arguments = true)
    (missing : table receiver (Combine.memoKey begun.heap arguments) = none) {depth : Nat}
    {outcome : Outcome Value} (noValue : ∀ value, outcome ≠ .value value)
    (runs : (engine.machineWithin depth).invoke function (.map receiver) arguments begun =
      (outcome, ended)) :
    (engine.machineWithin (depth + 1)).callMethod (.map receiver) (.string slot) arguments world =
      (outcome, ended) := by
  obtain ⟨_, same, results⟩ := (opens.tied member tied).answers member opens.leads
  rw [Machine.callMethod_opens engine depth opens]
  cases outcome with
  | value value => exact absurd rfl (noValue value)
  | failure failure =>
    exact Combine.answer_failure hasKey ((results _).trans missing) (by rwa [same])
  | exhausted => exact Combine.answer_exhausted hasKey ((results _).trans missing) (by rwa [same])

end

/-- A call for which the function is run takes the table along if all that happens during the run
does. -/
theorem Advances.ofRun {receiver : MapRef} {memo : MemoRef} {arguments : List Value}
    {key : String} {ended last : World Closure} {depth : Nat} {outcome result : Outcome Value}
    (tied : Tied receivers function slot table world.heap) (member : receiver ∈ receivers)
    (opens : Opens function slot receiver world memo begun)
    (hasKey : Combine.haveTexts begun.heap arguments = true)
    (isKey : Combine.memoKey begun.heap arguments = key)
    (missing : (begun.heap.readMemo memo).results.get? key = none)
    (notBusy : (receiver, key) ∉ busy)
    (runs : (engine.machineWithin depth).invoke function (.map receiver) arguments begun =
      (result, ended))
    (called : (engine.machineWithin (depth + 1)).callMethod (.map receiver) (.string slot)
      arguments world = (outcome, last))
    (advances : Advances receivers function slot ((receiver, key) :: busy) table begun responses
      middle ended) :
    ∃ after, Advances receivers function slot busy table world
      (responses ++ [⟨receiver, key, outcome, some result⟩]) after last := by
  subst isKey
  have isMissing := (((opens.tied member tied).answers member opens.leads).2.2 _).symm.trans missing
  -- The place was busy, so nothing that happened during the run has stored an answer there.
  have stillMissing := (advances.spares _ List.mem_cons_self).trans isMissing
  have leads := fun other isOther kept (leads : world.heap.Leads slot other kept) =>
    advances.leads other isOther kept (opens.leads_other tied isOther leads)
  have spares : ∀ place ∈ busy, middle place.1 place.2 = table place.1 place.2 :=
    fun place isBusy => advances.spares place (List.mem_cons_of_mem _ isBusy)
  by_cases succeeds : ∃ value, result = .value value
  · obtain ⟨value, rfl⟩ := succeeds
    rw [opens.callMethod_value tied member hasKey isMissing runs] at called
    cases called
    refine ⟨middle.store _ _ value, advances.follows.append (.stored stillMissing .nil),
      advances.tied.keep member (advances.leads _ member _ opens.leads) _ value, ?_, leads⟩
    intro place isBusy
    refine (Reference.store_other ?_ value).trans (spares place isBusy)
    rintro ⟨sameReceiver, sameKey⟩
    exact notBusy (sameKey ▸ sameReceiver ▸ isBusy)
  · have noValue : ∀ value, result ≠ .value value := fun value same => succeeds ⟨value, same⟩
    rw [opens.callMethod_failed tied member hasKey isMissing noValue runs] at called
    cases called
    exact ⟨middle, advances.follows.append (.failed stillMissing noValue .nil), advances.tied,
      spares, leads⟩

mutual

/-- What happens while the function runs takes the table along. -/
theorem Activity.advances {busy : List (MapRef × String)} {world last : World Closure}
    {responses : List Response} {table : Reference}
    (tied : Tied receivers function slot table world.heap) :
    Activity engine receivers function slot busy world responses last →
      ∃ after, Advances receivers function slot busy table world responses after last
  | .still => ⟨table, .nil, tied, fun _ _ => rfl, fun _ _ _ leads => leads⟩
  | .quiet changes further => by
    obtain ⟨after, advances⟩ := further.advances (tied.quiet changes)
    exact ⟨after, advances.follows, advances.tied, advances.spares,
      fun receiver member memo leads =>
        advances.leads receiver member memo (changes.leads member leads)⟩
  | .call calls further => by
    obtain ⟨middle, advances⟩ := calls.advances tied
    obtain ⟨after, advancesFurther⟩ := further.advances advances.tied
    exact ⟨after, advances.trans advancesFurther⟩

/-- A call takes the table along. -/
theorem SlotCall.advances {busy : List (MapRef × String)} {world last : World Closure}
    {responses : List Response} {table : Reference}
    (tied : Tied receivers function slot table world.heap) :
    SlotCall engine receivers function slot busy world responses last →
      ∃ after, Advances receivers function slot busy table world responses after last
  | .kept member opens hasKey found called => by
    have tiedBegun := opens.tied member tied
    have isKept := ((tiedBegun.answers member opens.leads).2.2 _).symm.trans found
    rw [opens.callMethod_kept tied member hasKey isKept] at called
    cases called
    exact ⟨table, .kept isKept .nil, tied, fun _ _ => rfl, fun _ _ _ leads => leads⟩
  | .computed member opens hasKey missing notBusy runs behaves called => by
    obtain ⟨middle, advances⟩ := behaves.advances (opens.tied member tied)
    exact Advances.ofRun tied member opens hasKey rfl missing notBusy runs called advances
  | .endless member opens noKey called => by
    rw [opens.callMethod_endless noKey] at called
    cases called
    exact ⟨table, .nil, opens.tied member tied, fun _ _ => rfl,
      fun _ isOther _ leads => opens.leads_other tied isOther leads⟩

end

end Shorthand
