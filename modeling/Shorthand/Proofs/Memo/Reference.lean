/-
This file holds the table that memos are measured by: for every receiver and every key the
answer that is kept for it.

A response is a call that has ended, with what the function gave if it was run for the call. A list
of responses follows a table if the function is run just for the entries that the table lacks,
if what it yields is stored when it succeeds, and if every other call answers what is stored.
-/

import Mathlib.Data.List.Basic
import Shorthand.Action

namespace Shorthand

/-! ### Keys of tables -/

theorem lookup_insertEntry {α : Type} (key other : String) (value : α)
    (entries : List (String × α)) :
    (insertEntry key value entries).lookup other =
      if other = key then some value else entries.lookup other := by
  induction entries with
  | nil =>
    rw [insertEntry, List.lookup_cons]
    by_cases same : other = key
    · rw [if_pos same, beq_iff_eq.mpr same]
    · rw [if_neg same, beq_false_of_ne same]
  | cons entry rest inductionHypothesis =>
    obtain ⟨first, kept⟩ := entry
    rw [insertEntry]
    by_cases before : key < first
    · rw [if_pos before, List.lookup_cons]
      by_cases same : other = key
      · rw [if_pos same, beq_iff_eq.mpr same]
      · rw [if_neg same, beq_false_of_ne same]
    · rw [if_neg before]
      by_cases equal : key = first
      · subst equal
        rw [if_pos rfl, List.lookup_cons, List.lookup_cons]
        by_cases same : other = key
        · rw [if_pos same, beq_iff_eq.mpr same]
        · rw [if_neg same, beq_false_of_ne same]
      · rw [if_neg equal, List.lookup_cons, List.lookup_cons, inductionHypothesis]
        by_cases found : other = first
        · simp only [beq_iff_eq.mpr found]
          rw [if_neg fun same => equal (same.symm.trans found)]
        · simp only [beq_false_of_ne found]

theorem Table.get?_insert {α : Type} (table : Table α) (key other : String) (value : α) :
    (table.insert key value).get? other = if other = key then some value else table.get? other :=
  lookup_insertEntry key other value table.entries

/-! ### The reference table -/

/-- The answers that are kept for receivers and keys. -/
abbrev Reference : Type := MapRef → String → Option Value

/-- The table without answers. -/
def Reference.empty : Reference := fun _ _ => none

/-- The table with an answer for a receiver and a key. -/
def Reference.store (table : Reference) (receiver : MapRef) (key : String) (value : Value) :
    Reference :=
  fun other name => if other = receiver ∧ name = key then some value else table other name

theorem Reference.store_same (table : Reference) (receiver : MapRef) (key : String)
    (value : Value) : table.store receiver key value receiver key = some value :=
  if_pos ⟨rfl, rfl⟩

theorem Reference.store_other {table : Reference} {receiver other : MapRef} {key name : String}
    (different : ¬(other = receiver ∧ name = key)) (value : Value) :
    table.store receiver key value other name = table other name :=
  if_neg different

/-- The answers for one receiver alone. -/
def Reference.only (receiver : MapRef) (table : Reference) : Reference :=
  fun other key => if other = receiver then table other key else none

theorem Reference.only_empty (receiver : MapRef) : empty.only receiver = empty := by
  funext other key
  exact ite_self none

theorem Reference.only_store_same {table : Reference} {receiver other : MapRef}
    (same : other = receiver) {key : String} {value : Value} :
    (table.store other key value).only receiver = (table.only receiver).store other key value := by
  subst same
  funext name text
  simp only [only, store]
  by_cases isReceiver : name = other <;> simp [isReceiver]

theorem Reference.only_store_other {table : Reference} {receiver other : MapRef}
    (different : other ≠ receiver) {key : String} {value : Value} :
    (table.store other key value).only receiver = table.only receiver := by
  funext name text
  simp only [only, store]
  by_cases isReceiver : name = receiver
  · simp [isReceiver, Ne.symm different]
  · simp [isReceiver]

/-- The end of a call for a receiver and a key: its outcome, and the outcome of the function if
it was run. -/
structure Response where
  receiver : MapRef
  key : String
  outcome : Outcome Value
  computed : Option (Outcome Value)

/-- Responses follow a table, which they take to another one. -/
inductive Follows : Reference → List Response → Reference → Prop where
  | nil {table : Reference} : Follows table [] table
  /-- What is kept is answered, and the function is not run. -/
  | kept {table last : Reference} {receiver : MapRef} {key : String} {value : Value}
      {rest : List Response}
    (found : table receiver key = some value) (further : Follows table rest last) :
    Follows table (⟨receiver, key, .value value, none⟩ :: rest) last
  /-- What the function yields is answered and kept. -/
  | stored {table last : Reference} {receiver : MapRef} {key : String} {value : Value}
      {rest : List Response}
    (missing : table receiver key = none)
    (further : Follows (table.store receiver key value) rest last) :
    Follows table (⟨receiver, key, .value value, some (.value value)⟩ :: rest) last
  /-- If the function yields nothing, the call does not either, and nothing is kept. -/
  | failed {table last : Reference} {receiver : MapRef} {key : String}
      {outcome : Outcome Value} {rest : List Response}
    (missing : table receiver key = none) (noValue : ∀ value, outcome ≠ .value value)
    (further : Follows table rest last) :
    Follows table (⟨receiver, key, outcome, some outcome⟩ :: rest) last

namespace Follows

variable {table middle last : Reference} {responses others : List Response}

theorem append (follows : Follows table responses middle) (further : Follows middle others last) :
    Follows table (responses ++ others) last := by
  induction follows with
  | nil => exact further
  | kept found _ inductionHypothesis => exact .kept found (inductionHypothesis further)
  | stored missing _ inductionHypothesis => exact .stored missing (inductionHypothesis further)
  | failed missing noValue _ inductionHypothesis =>
    exact .failed missing noValue (inductionHypothesis further)

/-- An answer that is kept is never replaced. -/
theorem keeps (follows : Follows table responses last) {receiver : MapRef} {key : String}
    {value : Value} (found : table receiver key = some value) :
    last receiver key = some value := by
  induction follows with
  | nil => exact found
  | kept _ _ inductionHypothesis => exact inductionHypothesis found
  | stored missing _ inductionHypothesis =>
    refine inductionHypothesis ((Reference.store_other ?_ _).trans found)
    rintro ⟨rfl, rfl⟩
    rw [found] at missing
    cases missing
  | failed _ _ _ inductionHypothesis => exact inductionHypothesis found

end Follows

/-- Whether the function was run for the response and succeeded. -/
def Response.isStored (response : Response) : Bool :=
  match response.computed with
  | some (.value _) => true
  | _ => false

/-- The receiver and the key of a response. -/
def Response.place (response : Response) : MapRef × String := (response.receiver, response.key)

namespace Follows

variable {table last : Reference} {responses : List Response}

/-- The function succeeds only where the table has no answer. -/
theorem missing_of_isStored (follows : Follows table responses last) {response : Response}
    (member : response ∈ responses) (isStored : response.isStored = true) :
    table response.receiver response.key = none := by
  induction follows with
  | nil => exact absurd member List.not_mem_nil
  | kept found _ inductionHypothesis =>
    rcases List.mem_cons.mp member with rfl | later
    · exact absurd isStored Bool.false_ne_true
    · exact inductionHypothesis later
  | stored missing further inductionHypothesis =>
    rcases List.mem_cons.mp member with rfl | later
    · exact missing
    · have gone := inductionHypothesis later
      rw [Reference.store] at gone
      split at gone
      · cases gone
      · exact gone
  | failed missing noValue _ inductionHypothesis =>
    rcases List.mem_cons.mp member with rfl | later
    · exact missing
    · exact inductionHypothesis later

/-- The function succeeds at most once for each receiver and key. -/
theorem nodup_stored (follows : Follows table responses last) :
    ((responses.filter Response.isStored).map Response.place).Nodup := by
  induction follows with
  | nil => exact List.nodup_nil
  | kept _ _ inductionHypothesis => exact inductionHypothesis
  | stored missing further inductionHypothesis =>
    rw [List.filter_cons_of_pos rfl, List.map_cons, List.nodup_cons]
    refine ⟨fun member => ?_, inductionHypothesis⟩
    obtain ⟨response, isResponse, same⟩ := List.mem_map.mp member
    obtain ⟨later, isStored⟩ := List.mem_filter.mp isResponse
    have gone := further.missing_of_isStored later isStored
    rw [Response.place, Response.place, Prod.mk.injEq] at same
    rw [same.1, same.2, Reference.store_same] at gone
    cases gone
  | @failed _ _ _ _ outcome _ _ noValue _ inductionHypothesis =>
    cases outcome with
    | value value => exact absurd rfl (noValue value)
    | _ => exact inductionHypothesis

/-- Where the table has an answer, it is answered ever after and the function is not run. -/
theorem answered_of_found (follows : Follows table responses last) {response : Response}
    (member : response ∈ responses) {value : Value}
    (found : table response.receiver response.key = some value) :
    response.outcome = .value value ∧ response.computed = none := by
  induction follows with
  | nil => exact absurd member List.not_mem_nil
  | kept foundToo _ inductionHypothesis =>
    rcases List.mem_cons.mp member with rfl | later
    · rw [foundToo] at found
      cases found
      exact ⟨rfl, rfl⟩
    · exact inductionHypothesis later found
  | stored missing _ inductionHypothesis =>
    rcases List.mem_cons.mp member with rfl | later
    · rw [missing] at found
      cases found
    · refine inductionHypothesis later ((Reference.store_other ?_ _).trans found)
      rintro ⟨sameReceiver, sameKey⟩
      rw [sameReceiver, sameKey, missing] at found
      cases found
  | failed missing _ _ inductionHypothesis =>
    rcases List.mem_cons.mp member with rfl | later
    · rw [missing] at found
      cases found
    · exact inductionHypothesis later found

/-- After a call has answered, all further calls for the same receiver and the same key answer the
same, and the function is not run for them. -/
theorem lasting {earlier later : List Response} {response next : Response} {value : Value}
    (follows : Follows table (earlier ++ response :: later) last)
    (answers : response.outcome = .value value) (isLater : next ∈ later)
    (samePlace : next.place = response.place) :
    next.outcome = .value value ∧ next.computed = none := by
  induction earlier generalizing table with
  | nil =>
    obtain ⟨sameReceiver, sameKey⟩ := Prod.mk.inj samePlace
    cases follows with
    | kept found further =>
      cases answers
      exact further.answered_of_found isLater (by rw [sameReceiver, sameKey, found])
    | stored missing further =>
      cases answers
      exact further.answered_of_found isLater
        (by rw [sameReceiver, sameKey, Reference.store_same])
    | failed missing noValue further => exact absurd answers (noValue value)
  | cons first rest inductionHypothesis =>
    cases follows with
    | kept found further => exact inductionHypothesis further
    | stored missing further => exact inductionHypothesis further
    | failed missing noValue further => exact inductionHypothesis further

/-- The responses for one receiver follow the part of the table for it, whatever other receivers
do. -/
theorem single (follows : Follows table responses last) (receiver : MapRef) :
    Follows (table.only receiver) (responses.filter (·.receiver = receiver))
      (last.only receiver) := by
  induction follows with
  | nil => exact .nil
  | @kept _ _ other _ _ _ found _ inductionHypothesis =>
    by_cases same : other = receiver
    · rw [List.filter_cons_of_pos (by simpa using same)]
      exact .kept ((if_pos same).trans found) inductionHypothesis
    · rw [List.filter_cons_of_neg (by simpa using same)]
      exact inductionHypothesis
  | @stored table _ other key value _ missing _ inductionHypothesis =>
    by_cases same : other = receiver
    · rw [List.filter_cons_of_pos (by simpa using same)]
      refine .stored ((if_pos same).trans missing) ?_
      rwa [← Reference.only_store_same same]
    · rw [List.filter_cons_of_neg (by simpa using same)]
      rwa [Reference.only_store_other same] at inductionHypothesis
  | @failed _ _ other _ _ _ missing noValue _ inductionHypothesis =>
    by_cases same : other = receiver
    · rw [List.filter_cons_of_pos (by simpa using same)]
      exact .failed ((if_pos same).trans missing) noValue inductionHypothesis
    · rw [List.filter_cons_of_neg (by simpa using same)]
      exact inductionHypothesis

end Follows

end Shorthand
