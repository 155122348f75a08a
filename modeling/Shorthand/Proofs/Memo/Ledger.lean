/-
This file keeps the books of one memo.

A call finds an answer for its key, or it begins and, some time later, ends with an outcome. In
between the function of the memo runs, and it may ask the memo again, for other keys or for the
same. So a ledger has the answers that are kept and the keys of the calls under way. It says
which events are possible, and every event leads to a next ledger.

An answer that is kept is never taken away. It is replaced only by a call for the same key that
was under way already. While there is none, the answer lasts.
-/

import Mathlib.Logic.Function.Basic
import Shorthand.Action

namespace Shorthand

/-! ### Events -/

/-- What calls do to a memo: one finds an answer, or it begins to run the function, or the latest
of the calls under way ends. -/
inductive Event where
  | kept (key : String) (value : Value)
  | begun (key : String)
  | ended (key : String) (outcome : Outcome Value)

namespace Event

/-- The key that an event is about. -/
def key : Event → String
  | kept key _ => key
  | begun key => key
  | ended key _ => key

/-- What a call gives that is over with the event. -/
def answer? : Event → Option Value
  | kept _ value => some value
  | ended _ (.value value) => some value
  | _ => none

/-- The answers that are kept after the event. Only values are kept. -/
def store (entries : String → Option Value) : Event → String → Option Value
  | ended key (.value value) => Function.update entries key (some value)
  | _ => entries

/-- The keys of the calls under way after the event. -/
def running (before : List String) : Event → List String
  | kept _ _ => before
  | begun key => key :: before
  | ended _ _ => before.tail

end Event

/-! ### Ledgers -/

/-- The answers that a memo keeps and the keys of the calls under way, the latest first. -/
structure Ledger where
  entries : String → Option Value
  running : List String

namespace Ledger

/-- The events that are possible. The function runs only if there is no answer. -/
inductive Allows (ledger : Ledger) : Event → Prop where
  | kept {key : String} {value : Value} (found : ledger.entries key = some value) :
    ledger.Allows (.kept key value)
  | begun {key : String} (missing : ledger.entries key = none) : ledger.Allows (.begun key)
  | ended {key : String} {others : List String} {outcome : Outcome Value}
    (latest : ledger.running = key :: others) : ledger.Allows (.ended key outcome)

/-- A ledger after one more event. -/
def after (ledger : Ledger) (event : Event) : Ledger :=
  ⟨event.store ledger.entries, event.running ledger.running⟩

/-- The events that lead from one ledger to another. -/
inductive Run : Ledger → List Event → Ledger → Prop where
  | still {ledger : Ledger} : ledger.Run [] ledger
  | step {ledger last : Ledger} {event : Event} {events : List Event}
    (allows : ledger.Allows event) (further : (ledger.after event).Run events last) :
    ledger.Run (event :: events) last

/-- There is an answer for a key, and no call for this key is under way. -/
structure Settled (ledger : Ledger) (key : String) (value : Value) : Prop where
  found : ledger.entries key = some value
  idle : key ∉ ledger.running

variable {ledger first middle last : Ledger} {event : Event} {events others : List Event}
  {key : String} {value : Value}

/-! ### One event -/

theorem Allows.found_answer (allows : ledger.Allows event) (answers : event.answer? = some value) :
    (ledger.after event).entries event.key = some value := by
  cases allows with
  | kept found => exact found.trans answers
  | begun missing => cases answers
  | @ended key _ outcome latest =>
    cases outcome with
    | value given => exact (Function.update_self key (some given) ledger.entries).trans answers
    | failure failure => cases answers
    | exhausted => cases answers

/-- Answers may be replaced, but they are not taken away. -/
theorem isSome_after (event : Event) (isThere : (ledger.entries key).isSome) :
    ((ledger.after event).entries key).isSome := by
  cases event with
  | kept other given => exact isThere
  | begun other => exact isThere
  | ended other outcome =>
    cases outcome with
    | value given =>
      show (Function.update ledger.entries other (some given) key).isSome
      by_cases same : key = other
      · rw [same, Function.update_self, Option.isSome_some]
      · rw [Function.update_of_ne same]
        exact isThere
    | failure failure => exact isThere
    | exhausted => exact isThere

/-- An event for another key leaves an answer as it is. -/
theorem entries_after (event : Event) (different : event.key ≠ key) :
    (ledger.after event).entries key = ledger.entries key := by
  cases event with
  | ended other outcome =>
    cases outcome with
    | value given => exact Function.update_of_ne (Ne.symm different) _ _
    | failure failure => rfl
    | exhausted => rfl
  | kept other given => rfl
  | begun other => rfl

namespace Settled

/-- The only event that is possible for a settled key is that its answer is found. -/
theorem eq_kept (settled : ledger.Settled key value) (allows : ledger.Allows event)
    (same : event.key = key) : event = .kept key value := by
  cases allows with
  | kept found =>
    subst same
    rw [Option.some.inj (found.symm.trans settled.found)]
    rfl
  | begun missing =>
    subst same
    cases missing.symm.trans settled.found
  | ended latest =>
    subst same
    exact absurd (latest ▸ List.mem_cons_self) settled.idle

theorem after (settled : ledger.Settled key value) (allows : ledger.Allows event) :
    (ledger.after event).Settled key value := by
  by_cases same : event.key = key
  · rw [settled.eq_kept allows same]
    exact settled
  · refine ⟨(entries_after event same).trans settled.found, ?_⟩
    cases allows with
    | kept found => exact settled.idle
    | begun missing => exact List.not_mem_cons_of_ne_of_not_mem (Ne.symm same) settled.idle
    | ended latest => exact fun member => settled.idle (List.mem_of_mem_tail member)

end Settled

/-! ### Runs of events -/

namespace Run

theorem append (run : first.Run events middle) (further : middle.Run others last) :
    first.Run (events ++ others) last := by
  induction run with
  | still => exact further
  | step allows _ inductionHypothesis => exact .step allows (inductionHypothesis further)

theorem split (run : first.Run (events ++ others) last) :
    ∃ middle, first.Run events middle ∧ middle.Run others last := by
  induction events generalizing first with
  | nil => exact ⟨first, .still, run⟩
  | cons event events inductionHypothesis =>
    cases run with
    | step allows further =>
      obtain ⟨middle, before, behind⟩ := inductionHypothesis further
      exact ⟨middle, .step allows before, behind⟩

/-- The memo keeps what was stored last, and calls that do not end with a value store nothing. -/
theorem entries_eq (run : first.Run events last) :
    last.entries = events.foldl Event.store first.entries := by
  induction run with
  | still => rfl
  | step _ _ inductionHypothesis => exact inductionHypothesis

theorem running_eq (run : first.Run events last) :
    last.running = events.foldl Event.running first.running := by
  induction run with
  | still => rfl
  | step _ _ inductionHypothesis => exact inductionHypothesis

theorem isSome (run : first.Run events last) (isThere : (first.entries key).isSome) :
    (last.entries key).isSome := by
  induction run with
  | still => exact isThere
  | step _ _ inductionHypothesis => exact inductionHypothesis (isSome_after _ isThere)

/-- A settled key stays settled, and whoever asks for it gets its answer. -/
theorem settled (run : first.Run events last) (settled : first.Settled key value) :
    (∀ event ∈ events, event.key = key → event = .kept key value) ∧ last.Settled key value := by
  induction run with
  | still => exact ⟨fun _ member => absurd member List.not_mem_nil, settled⟩
  | step allows _ inductionHypothesis =>
    obtain ⟨finds, stays⟩ := inductionHypothesis (settled.after allows)
    refine ⟨fun event member same => ?_, stays⟩
    rcases List.mem_cons.mp member with rfl | isLater
    · exact settled.eq_kept allows same
    · exact finds event isLater same

/-- The answer of a call is settled if no other call for its key is under way then. -/
theorem settled_answer (run : first.Run (events ++ event :: others) last)
    (answers : event.answer? = some value)
    (alone : event.key ∉ (events ++ [event]).foldl Event.running first.running) :
    (∀ next ∈ others, next.key = event.key → next = .kept event.key value) ∧
      last.Settled event.key value := by
  obtain ⟨middle, before, behind⟩ := run.split
  cases behind with
  | step allows further =>
    refine further.settled ⟨allows.found_answer answers, ?_⟩
    rw [List.foldl_append, ← before.running_eq] at alone
    exact alone

end Run

end Ledger

end Shorthand
