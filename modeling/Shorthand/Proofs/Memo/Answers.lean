/-
This file holds the result about memos of methods.

A memoizing function is made of another function and put into the slots of any number of maps.
Whatever happens then to the world and in whichever order the slots are called, a table with a
place for every map and every key describes what the calls answer, and the calls that come next
do what this table says.
-/

import Shorthand.Proofs.Memo.History

namespace Shorthand

variable {Closure : Type}

/-- How the responses of calls and the calls that come next belong to a table of answers. -/
structure Memoized (engine : Engine Closure) (receivers : List MapRef) (function : Value)
    (slot : String) (responses : List Response) (last : World Closure) (table : Reference) :
    Prop where
  follows : Follows .empty responses table
  /-- What is answered for one map depends on nothing that is answered for others. -/
  single : ∀ receiver, Follows .empty (responses.filter (·.receiver = receiver))
    (table.only receiver)
  /-- The function succeeds at most once for each map and each key. -/
  once : ((responses.filter Response.isStored).map Response.place).Nodup
  /-- What has been answered is answered ever after. -/
  lasting : ∀ earlier response later value, responses = earlier ++ response :: later →
    response.outcome = .value value → ∀ next ∈ later, next.place = response.place →
      next.outcome = .value value ∧ next.computed = none
  /-- Every slot opens a memo, unless the function is a value that holds itself. -/
  opens : function.hasLiteral last.heap = true →
    ∀ receiver ∈ receivers, ∃ memo begun, Opens function slot receiver last memo begun
  /-- The next call answers what is in the table and changes nothing. -/
  keeps : ∀ receiver ∈ receivers, ∀ memo begun arguments depth value,
    Opens function slot receiver last memo begun →
    Combine.haveTexts begun.heap arguments = true →
    table receiver (Combine.memoKey begun.heap arguments) = some value →
    (engine.machineWithin (depth + 1)).callMethod (.map receiver) (.string slot) arguments last =
      (.value value, last)
  /-- If the table has nothing, the function is run, and what it yields is kept. -/
  stores : ∀ receiver ∈ receivers, ∀ memo begun arguments depth value ended,
    Opens function slot receiver last memo begun →
    Combine.haveTexts begun.heap arguments = true →
    table receiver (Combine.memoKey begun.heap arguments) = none →
    (engine.machineWithin depth).invoke function (.map receiver) arguments begun =
      (.value value, ended) →
    (engine.machineWithin (depth + 1)).callMethod (.map receiver) (.string slot) arguments last =
      (.value value, ended.keep memo (Combine.memoKey begun.heap arguments) value)
  /-- If the function yields nothing then, nothing is kept. -/
  fails : ∀ receiver ∈ receivers, ∀ memo begun arguments depth outcome ended,
    Opens function slot receiver last memo begun →
    Combine.haveTexts begun.heap arguments = true →
    table receiver (Combine.memoKey begun.heap arguments) = none →
    (engine.machineWithin depth).invoke function (.map receiver) arguments begun =
      (outcome, ended) →
    (∀ value, outcome ≠ .value value) →
    (engine.machineWithin (depth + 1)).callMethod (.map receiver) (.string slot) arguments last =
      (outcome, ended)
  /-- Arguments that hold themselves have no key, and a call with them comes to no end. -/
  endless : ∀ receiver ∈ receivers, ∀ memo begun arguments depth,
    Opens function slot receiver last memo begun →
    Combine.haveTexts begun.heap arguments = false →
    (engine.machineWithin (depth + 1)).callMethod (.map receiver) (.string slot) arguments last =
      (.exhausted, begun)

section

variable {engine : Engine Closure} {receivers : List MapRef} {function : Value} {slot : String}
  {responses : List Response} {last : World Closure} {table : Reference}

theorem Memoized.ofTied (follows : Follows .empty responses table)
    (tied : Tied receivers function slot table last.heap) :
    Memoized engine receivers function slot responses last table where
  follows := follows
  single receiver := Reference.only_empty receiver ▸ follows.single receiver
  once := follows.nodup_stored
  lasting _ _ _ _ split answers _ isLater samePlace :=
    (split ▸ follows).lasting answers isLater samePlace
  opens hasLabel _ member := Opens.ofTied tied hasLabel member
  keeps _ member _ _ _ depth _ opens hasKey found :=
    opens.callMethod_kept tied member hasKey found depth
  stores _ member _ _ _ _ _ _ opens hasKey missing runs :=
    opens.callMethod_value tied member hasKey missing runs
  fails _ member _ _ _ _ _ _ opens hasKey missing runs noValue :=
    opens.callMethod_failed tied member hasKey missing noValue runs
  endless _ _ _ _ _ depth opens noKey := opens.callMethod_endless noKey depth

/-- Slots that all hold the memoizing function are tied to the table without answers. -/
theorem Tied.ofHolds {heap : Heap}
    (holds : ∀ receiver ∈ receivers, heap.Holds function slot receiver) :
    Tied receivers function slot .empty heap where
  stands receiver member := .inl ⟨holds receiver member, fun _ => rfl⟩
  apart first isFirst _ _ _ leads _ := absurd (holds first isFirst) leads.not_holds

end

/-- The function that is made to memoize another one does so. -/
theorem Combine.memoizing_behaviour {function method : Value} {slot : String}
    {world made : World Closure}
    (makes : Combine.memoizing function slot world = (.value method, made)) :
    ∃ cell, method = .function cell ∧
      (made.heap.readFunction cell).behaviour = .memoizing function slot := by
  cases makes
  exact ⟨⟨world.heap.functions.size⟩, rfl,
    congrArg Callable.behaviour (world.heap.readFunction_newFunction _)⟩

/-- A world with a list, with a function that appends to it, and with two maps. -/
def counters : World SlotClosure where
  heap := { Heap.empty with
    lists := #[#[]]
    maps := #[Table.empty, Table.empty]
    functions := #[⟨.method (.list ⟨0⟩) "push", 0, "push"⟩] }
  closures := #[]

/-- The world with a function that memoizes the appending one. -/
def counting : World SlotClosure := (Combine.memoizing (.function ⟨0⟩) "count" counters).2

/-- The world with the memoizing function in a slot of both maps. -/
def counted : World SlotClosure :=
  let slots := Table.empty.insert "count" (.function ⟨1⟩)
  { counting with heap := { counting.heap with maps := #[slots, slots] } }

/-- A call of the slot of a map. -/
def World.count (world : World SlotClosure) (receiver : MapRef) :
    Outcome Value × World SlotClosure :=
  (slotEngine.machineWithin 2).callMethod (.map receiver) (.string "count") [.string "x"] world

/-- The world after a call for the first map, with other items in the list and another entry in
this map. -/
def recounted : World SlotClosure :=
  let world := (counted.count ⟨0⟩).2
  let heap := { world.heap with lists := #[#[.null, .null, .null]] }
  ⟨heap.changeMap ⟨0⟩ (fun table => table.insert "note" .null), world.closures⟩

theorem count_hasKey (heap : Heap) : Combine.haveTexts heap [.string "x"] = true := by
  rw [Combine.haveTexts, List.all_cons, Value.hasText_string]
  rfl

theorem count_key (heap : Heap) : Combine.memoKey heap [.string "x"] = "x" :=
  Value.rawText_leaf (fun _ => Value.noConfusion) heap

/-- The first call for a map runs the function, which does no more than append to the list. -/
theorem count_first {receiver : MapRef} {world ended after : World SlotClosure} {value : Value}
    (member : receiver ∈ [⟨0⟩, ⟨1⟩])
    (holds : world.heap.Holds (.function ⟨0⟩) "count" receiver)
    (runs : (slotEngine.machineWithin 1).invoke (.function ⟨0⟩) (.map receiver) [.string "x"]
      ⟨world.heap.installed (.function ⟨0⟩) "count" receiver, world.closures⟩ =
        (.value value, ended))
    (changes : Quiet [⟨0⟩, ⟨1⟩] "count"
      (world.heap.installed (.function ⟨0⟩) "count" receiver) ended.heap)
    (called : world.count receiver = (.value value, after)) :
    SlotCall slotEngine [⟨0⟩, ⟨1⟩] (.function ⟨0⟩) "count" [] world
      [⟨receiver, "x", .value value, some (.value value)⟩] after := by
  have missing : ((world.heap.installed (.function ⟨0⟩) "count" receiver).readMemo
      ⟨world.heap.memos.size⟩).results.get? (Combine.memoKey
        (world.heap.installed (.function ⟨0⟩) "count" receiver) [.string "x"]) = none :=
    congrArg (fun memo : Memo => memo.results.get? _) (world.heap.readMemo_newMemo _)
  have hasLabel : (Value.function ⟨0⟩).hasLiteral world.heap = true :=
    Value.hasLiteral_leaf (fun _ => Value.noConfusion) fun _ => Value.noConfusion
  have call := SlotCall.computed member (.installed holds hasLabel) (count_hasKey _) missing
    List.not_mem_nil runs (.quiet changes .still) called
  rwa [count_key] at call

/-- The next one answers what is in the memo. -/
theorem count_next {receiver : MapRef} {memo : MemoRef} {world after : World SlotClosure}
    {value : Value} (member : receiver ∈ [⟨0⟩, ⟨1⟩])
    (leads : world.heap.Leads "count" receiver memo)
    (found : (world.heap.readMemo memo).results.get? "x" = some value)
    (called : world.count receiver = (.value value, after)) :
    SlotCall slotEngine [⟨0⟩, ⟨1⟩] (.function ⟨0⟩) "count" [] world
      [⟨receiver, "x", .value value, none⟩] after := by
  rw [← count_key world.heap]
  exact .kept member (.kept leads) (count_hasKey _) (by rwa [count_key]) called

/-- The responses of two calls for the first map and of one for the second map. -/
def counts : List Response :=
  [⟨⟨0⟩, "x", .value (.ofInt 1), some (.value (.ofInt 1))⟩,
    ⟨⟨0⟩, "x", .value (.ofInt 1), none⟩,
    ⟨⟨1⟩, "x", .value (.ofInt 4), some (.value (.ofInt 4))⟩]

theorem counts_activity :
    Activity slotEngine [⟨0⟩, ⟨1⟩] (.function ⟨0⟩) "count" [] counted counts
      (recounted.count ⟨1⟩).2 := by
  have first : SlotCall slotEngine [⟨0⟩, ⟨1⟩] (.function ⟨0⟩) "count" [] counted
      [⟨⟨0⟩, "x", .value (.ofInt 1), some (.value (.ofInt 1))⟩] (counted.count ⟨0⟩).2 :=
    count_first List.mem_cons_self ⟨⟨1⟩, rfl, rfl⟩ (by rfl) (.ofSame rfl rfl rfl) (by rfl)
  have second : SlotCall slotEngine [⟨0⟩, ⟨1⟩] (.function ⟨0⟩) "count" [] recounted
      [⟨⟨0⟩, "x", .value (.ofInt 1), none⟩] recounted :=
    count_next List.mem_cons_self ⟨⟨2⟩, rfl, rfl⟩ (by rfl) (by rfl)
  have third : SlotCall slotEngine [⟨0⟩, ⟨1⟩] (.function ⟨0⟩) "count" [] recounted
      [⟨⟨1⟩, "x", .value (.ofInt 4), some (.value (.ofInt 4))⟩] (recounted.count ⟨1⟩).2 :=
    count_first (List.mem_cons_of_mem _ List.mem_cons_self) ⟨⟨1⟩, rfl, rfl⟩ (by rfl)
      (.ofSame rfl rfl rfl) (by rfl)
  have items : Quiet [⟨0⟩, ⟨1⟩] "count" (counted.count ⟨0⟩).2.heap
      { (counted.count ⟨0⟩).2.heap with lists := #[#[.null, .null, .null]] } :=
    .ofSame rfl rfl rfl
  have note : Quiet [⟨0⟩, ⟨1⟩] "count"
      { (counted.count ⟨0⟩).2.heap with lists := #[#[.null, .null, .null]] } recounted.heap :=
    .entry (by decide) .null
  exact .call first (.quiet (items.trans note) (.call second (.call third .still)))

end Shorthand
