/-
This file shows that every evaluation of a command line is reported, on a line of its own.

A report does not depend on what else is evaluated, since each evaluation begins with an empty
heap. What else it may depend on is the platform: how documents are written, how dates are shown,
and what the clock shows. If documents are written on single lines, whatever text the code, the
result or the message has, the lines of the output are the documents one by one.
-/

import Mathlib
import Shorthand.Proofs.CommandLine.Request
import Shorthand.Proofs.Json.Line
import Shorthand.Proofs.Json.RoundTrip

namespace Shorthand

/-- The member of a document under a key, if the document is a map. -/
def Json.member? (key : String) : Json → Option Json
  | .map entries => entries.lookup key
  | _ => none

/-- A library refuses no document and writes each of them on a single line. -/
def Json.Library.WritesLines (library : Library) : Prop :=
  ∀ document, ∃ text, library.write .compact document = .ok text ∧ '\n' ∉ text.toList

theorem Json.Library.writesLines_usual : usual.WritesLines :=
  fun document => ⟨_, rfl, (Json.onOneLine_text document).noLineFeed⟩

namespace CommandLine

/-! ### Single evaluations -/

namespace Evaluation

/-- A document says what comes of an evaluation in some surroundings: its value, shown as a
document, or the message of its failure, and the code in either case. Nothing comes of an evaluation
that does not end, or whose value holds itself and can never be shown. -/
inductive TellsIn (platform : Platform) (clock : ℕ → Instant) (evaluation : Evaluation) :
    Json → Prop where
  | value {value : Value} {world : World SlotClosure}
      (ends : evaluation.action platform.json (World.begin ⟨platform.dateText, clock⟩) =
        (.value value, world))
      (isShown : value.hasLiteral world.heap = true) :
      TellsIn platform clock evaluation
        (.map [("code", .string evaluation.source), ("value", Json.ofValue world.heap value)])
  | failure {failure : Failure} {world : World SlotClosure}
      (ends : evaluation.action platform.json (World.begin ⟨platform.dateText, clock⟩) =
        (.failure failure, world)) :
      TellsIn platform clock evaluation
        (.map [("code", .string evaluation.source), ("error", .string failure.message)])

variable {platform : Platform} {evaluation : Evaluation} {document other : Json}
  {clock : ℕ → Instant}

theorem TellsIn.unique (tells : evaluation.TellsIn platform clock document)
    (tellsToo : evaluation.TellsIn platform clock other) : document = other := by
  cases tells with
  | value ends =>
    cases tellsToo with
    | value endsToo => cases ends.symm.trans endsToo; rfl
    | failure endsToo => cases ends.symm.trans endsToo
  | failure ends =>
    cases tellsToo with
    | value endsToo => cases ends.symm.trans endsToo
    | failure endsToo => cases ends.symm.trans endsToo; rfl

/-- What comes of an evaluation is reported. -/
theorem TellsIn.exists_report {index : ℕ}
    (tells : evaluation.TellsIn platform (platform.clock index) document) :
    ∃ report, evaluation.report? platform index = some report ∧ report.document = document := by
  rw [report?, Report.ofAction?, Platform.surroundings]
  cases tells with
  | value ends isShown => exact ⟨_, by rw [ends]; exact if_pos isShown, rfl⟩
  | failure ends => exact ⟨_, by rw [ends], rfl⟩

/-- An evaluation comes to an end and can be reported, whatever the clock shows. -/
def Terminates (platform : Platform) (evaluation : Evaluation) : Prop :=
  ∀ clock, ∃ document, evaluation.TellsIn platform clock document

/-- What comes of an evaluation is not a matter of what the clock shows. -/
def IsTimeless (platform : Platform) (evaluation : Evaluation) : Prop :=
  ∀ clock later document, evaluation.TellsIn platform clock document →
    evaluation.TellsIn platform later document

/-- A document says what comes of an evaluation at any time. -/
def Tells (platform : Platform) (evaluation : Evaluation) (document : Json) : Prop :=
  ∀ clock, evaluation.TellsIn platform clock document

theorem exists_tells (terminates : evaluation.Terminates platform)
    (timeless : evaluation.IsTimeless platform) :
    ∃ document, evaluation.Tells platform document := by
  obtain ⟨document, tells⟩ := terminates fun _ => .epoch
  exact ⟨document, fun clock => timeless _ clock document tells⟩

theorem Tells.unique (tells : evaluation.Tells platform document)
    (tellsToo : evaluation.Tells platform other) : document = other :=
  (tells fun _ => .epoch).unique (tellsToo _)

theorem Tells.terminates (tells : evaluation.Tells platform document) :
    evaluation.Terminates platform := fun clock => ⟨document, tells clock⟩

theorem Tells.isTimeless (tells : evaluation.Tells platform document) :
    evaluation.IsTimeless platform := by
  intro clock later other tellsToo
  rw [tellsToo.unique (tells clock)]
  exact tells later

end Evaluation

/-! ### Reports -/

/-- A report is good if its document has no error. -/
theorem Report.isGood_iff (report : Report) :
    report.isGood = true ↔ report.document.member? "error" = none := by
  rw [isGood, document]
  rcases report.result with message | ⟨heap, value⟩
  · exact iff_of_false Bool.false_ne_true (by rintro ⟨⟩)
  · exact iff_of_true rfl rfl

/-! ### Lines -/

theorem linesFrom_append {characters : List Char} (noLineFeed : '\n' ∉ characters)
    (before rest : List Char) :
    linesFrom before (characters ++ rest) = linesFrom (characters.reverse ++ before) rest := by
  induction characters generalizing before with
  | nil => rfl
  | cons first characters inductionHypothesis =>
    rw [List.mem_cons, not_or] at noLineFeed
    have step : linesFrom before (first :: (characters ++ rest)) =
        linesFrom (first :: before) (characters ++ rest) := by
      rw [linesFrom.eq_def]
      split
      · contradiction
      · rename_i same
        exact absurd (List.cons.inj same).1.symm noLineFeed.1
      · rename_i same
        obtain ⟨rfl, rfl⟩ := List.cons.inj same
        rfl
    rw [List.cons_append, step, inductionHypothesis noLineFeed.2, List.reverse_cons,
      List.append_assoc, List.singleton_append]

/-- Texts without line feeds, each with a line feed behind it, are the lines of what they are
together. -/
theorem linesFrom_join {texts : List String} (noLineFeed : ∀ text ∈ texts, '\n' ∉ text.toList) :
    linesFrom [] (String.join (texts.map (· ++ "\n"))).toList = texts.map (· ++ "\n") := by
  induction texts with
  | nil => rfl
  | cons text texts inductionHypothesis =>
    obtain ⟨isFirst, others⟩ := List.forall_mem_cons.mp noLineFeed
    have characters : (String.join ((text :: texts).map (· ++ "\n"))).toList =
        text.toList ++ '\n' :: (String.join (texts.map (· ++ "\n"))).toList := by
      simp [String.toList_join]
    rw [characters, linesFrom_append isFirst, linesFrom, inductionHypothesis others, List.map_cons,
      List.append_nil, List.reverse_cons, List.reverse_reverse, String.ofList_append,
      String.ofList_toList]

/-! ### Whole replies -/

/-- A document is written as a line. -/
def IsWritten (platform : Platform) (document : Json) (line : String) : Prop :=
  platform.json.write .compact document = .ok line

/-- If there are reports on all evaluations, the output are their lines. -/
theorem outputOf_documents {platform : Platform} {write : Json → String}
    (written : ∀ document, IsWritten platform document (write document)) (reports : List Report) :
    outputOf platform.json true (reports.map some) =
      (String.join (reports.map fun report => write report.document ++ "\n"),
        some (reports.all Report.isGood)) := by
  induction reports with
  | nil => rfl
  | cons report reports inductionHypothesis =>
    have rendered : report.render platform.json true = (report.isGood, write report.document) := by
      rw [Report.render, written report.document]
      rfl
    rw [List.map_cons, outputOf, rendered, inductionHypothesis, List.map_cons, String.join_cons,
      List.all_cons]
    rfl

/-- Documents that say what comes of evaluations at any time are those of the reports. -/
theorem exists_told {platform : Platform} {evaluations : List Evaluation}
    {documents : List Json} (tell : List.Forall₂ (Evaluation.Tells platform) evaluations documents)
    (first : ℕ) :
    ∃ reports : List Report, (evaluations.mapIdx fun index evaluation =>
        evaluation.report? platform (first + index)) = reports.map some ∧
      reports.map Report.document = documents := by
  induction tell generalizing first with
  | nil => exact ⟨[], rfl, rfl⟩
  | @cons evaluation document evaluations documents tells _ inductionHypothesis =>
    obtain ⟨report, isReport, same⟩ := (tells (platform.clock first)).exists_report
    obtain ⟨reports, areReports, sameOthers⟩ := inductionHypothesis (first + 1)
    refine ⟨report :: reports, ?_, by rw [List.map_cons, same, sameOthers]⟩
    rw [List.mapIdx_cons, List.map_cons, ← areReports, Nat.add_zero, isReport]
    simp only [Nat.add_assoc, Nat.add_comm 1]

/-- The output for some evaluations are the lines of the documents that tell what comes of each of
them, in their order, and the exit code says whether one of them has an error. -/
theorem Request.IsAskedBy.reply {platform : Platform} {request : Request} {arguments : List String}
    (asked : request.IsAskedBy platform.understand arguments) (some_ : request.evaluations ≠ [])
    {documents : List Json}
    (tell : List.Forall₂ (Evaluation.Tells platform) request.evaluations documents)
    {write : Json → String} (written : ∀ document, IsWritten platform document (write document))
    (input : String) :
    (run platform arguments input).output =
        String.join (documents.map fun document => write document ++ "\n") ∧
      ((run platform arguments input).exitCode = 0 ↔
        ∀ document ∈ documents, document.member? "error" = none) := by
  obtain ⟨settings, understood, isDocuments, notInteractive, areReports⟩ :=
    asked.exists_reports some_
  obtain ⟨reports, found, rfl⟩ := exists_told tell 0
  simp only [Nat.zero_add] at found
  rw [run, understood]
  simp only [notInteractive, Bool.false_eq_true, if_false, areReports, isDocuments, found,
    outputOf_documents written, List.map_map, List.forall_mem_map, ← Report.isGood_iff,
    ← List.all_eq_true]
  refine ⟨rfl, ?_⟩
  split
  · exact iff_of_true rfl ‹_›
  · exact iff_of_false Nat.one_ne_zero ‹_›

/-- A code over two lines, a name that nothing provides, and a call that gives the list of its
arguments. -/
def mixedRequest : Request := ⟨["1 +\n1", "Foo"], some ("arguments", "2")⟩

theorem brokenSum_read : Definition.parseProgram "1 +\n1" = .ok ⟨[], .expression (.binary .add
    (.literal (.number (.integer 1))) (.literal (.number (.integer 1)))), "1 +\n1"⟩ := by
  cbv

theorem unknownName_read :
    Definition.parseProgram "Foo" = .ok ⟨[], .expression (.variable "Foo"), "Foo"⟩ := by cbv

theorem allArguments_read :
    Form.parse "arguments" true = .ok (.bare ⟨[], .expression .arguments, "arguments"⟩) := by cbv

/-- A sum over two lines has a value, the name that nothing provides has none, and the call gives a
list, whatever the surroundings are. -/
theorem mixedRequest_outcomes (surroundings : Surroundings) :
    (∃ world, (Evaluation.code "1 +\n1").action .usual (World.begin surroundings) =
        (.value (.number (.integer 2)), world) ∧
      (Value.number (.integer 2)).hasLiteral world.heap = true ∧
      Json.ofValue world.heap (.number (.integer 2)) = .number (.integer 2)) ∧
    (∃ world, (Evaluation.code "Foo").action .usual (World.begin surroundings) =
      (.failure (.compile (undefinedName "Foo" "Foo")), world)) ∧
    ∃ world, (Evaluation.call "arguments" "2").action .usual (World.begin surroundings) =
        (.value (.list ⟨0⟩), world) ∧
      (Value.list ⟨0⟩).hasLiteral world.heap = true ∧
      Json.ofValue world.heap (.list ⟨0⟩) = .list [.number (.integer 2)] := by
  have document : Json.Library.usual.read "2" = .ok (.number (.integer 2)) := rfl
  refine ⟨⟨((Evaluation.code "1 +\n1").action .usual (World.begin surroundings)).2, ?_⟩,
    ⟨((Evaluation.code "Foo").action .usual (World.begin surroundings)).2, ?_⟩,
    ((Evaluation.call "arguments" "2").action .usual (World.begin surroundings)).2, ?_⟩
  · rw [Evaluation.action, evaluate, Machine.compileProgram, brokenSum_read]
    exact ⟨rfl, rfl, rfl⟩
  · rw [Evaluation.action, evaluate, Machine.compileProgram, unknownName_read]
    rfl
  · rw [Evaluation.action, callWithInput, Json.Library.valueOf, document]
    simp only [Machine.compile, allArguments_read]
    exact ⟨rfl, rfl, rfl⟩

/-- The documents on the evaluations of the request. -/
def mixedDocuments : List Json :=
  [.map [("code", .string "1 +\n1"), ("value", .number (.integer 2))],
    .map [("code", .string "Foo"),
      ("error", .string "error[0] Variable 'Foo' undefined at code 'Foo' in 'Foo'")],
    .map [("code", .string "arguments"), ("value", .list [.number (.integer 2)])]]

/-- They say at any time what comes of the evaluations. -/
theorem mixedRequest_told {platform : Platform} (isUsual : platform.json = .usual) :
    List.Forall₂ (Evaluation.Tells platform) mixedRequest.evaluations mixedDocuments := by
  refine .cons (fun clock => ?_) (.cons (fun clock => ?_) (.cons (fun clock => ?_) .nil))
  all_goals
    obtain ⟨⟨_, sum, sumShown, isSum⟩, ⟨_, name⟩, _, items, itemsShown, areItems⟩ :=
      mixedRequest_outcomes ⟨platform.dateText, clock⟩
    rw [← isUsual] at sum name items
  · exact isSum ▸ Evaluation.TellsIn.value sum sumShown
  · exact Evaluation.TellsIn.failure name
  · exact areItems ▸ Evaluation.TellsIn.value items itemsShown

end CommandLine

end Shorthand
