/-
This file evaluates what the command line asks for and reports the results.

Every evaluation has a heap of its own, so none can tell which others went before it. Each is
reported on a line of its own, as a literal or as a document, and a failure does not keep the
next one from its turn. Only an evaluation that no depth is enough for, or the attempt to show a
value that holds itself, ends the program at once.

The arguments are read, documents are written and instants are shown the way the platform does it.
-/

import Shorthand.Call
import Shorthand.CommandLine.Settings
import Shorthand.Json.Read

namespace Shorthand.CommandLine

/-- What the program runs on. -/
structure Platform where
  understand : ArgumentReader
  json : Json.Library
  dateText : Instant → String
  /-- What the clock shows during each of the evaluations, at each reading. -/
  clock : Nat → Nat → Instant

/-- The usual platform at an instant. -/
def Platform.usual (now : Instant) : Platform :=
  ⟨Settings.read, Json.Library.usual, Instant.text, fun _ _ => now⟩

/-- The surroundings of an evaluation. -/
def Platform.surroundings (platform : Platform) (index : Nat) : Surroundings :=
  ⟨platform.dateText, platform.clock index⟩

/-! ### One evaluation -/

/-- A code and what came of it: a value in its heap, or the message of a failure. -/
structure Report where
  code : String
  result : Except String (Heap × Value)

/-- Reports on an action for a code. There is no report if the action goes too deep, or if its value
can never be shown. -/
def Report.ofAction? (surroundings : Surroundings) (code : String)
    (action : Action SlotClosure Value) : Option Report :=
  match action (World.begin surroundings) with
  | (.value value, world) =>
    if value.hasLiteral world.heap then some ⟨code, .ok (world.heap, value)⟩ else none
  | (.failure failure, _) => some ⟨code, .error failure.message⟩
  | (.exhausted, _) => none

/-- Calls a shorthand with the value of a document. The document is read first. -/
def callWithInput (json : Json.Library) (code input : String) : Action SlotClosure Value := do
  let argument ← json.valueOf input
  let function ← machine.compile code true
  call function .undefined [argument]

namespace Report

/-- Whether an evaluation has a value. -/
def isGood (report : Report) : Bool :=
  match report.result with
  | .ok _ => true
  | .error _ => false

/-- The document with the code and its result. -/
def document (report : Report) : Json :=
  match report.result with
  | .ok (heap, value) => .map [("code", .string report.code), ("value", Json.ofValue heap value)]
  | .error message => .map [("code", .string report.code), ("error", .string message)]

/-- The literal of the value, or the message. -/
def plainLine (report : Report) : String :=
  match report.result with
  | .ok (heap, value) => "> " ++ value.literal heap
  | .error message => "*** " ++ message

/-- Whether all is well with an evaluation, and its line of output. -/
def render (report : Report) (json : Json.Library) (documents : Bool) : Bool × String :=
  if documents then
    match json.write .compact report.document with
    | .ok text => (report.isGood, text)
    | .error message => (false, "*** JSON output failed: " ++ message)
  else (report.isGood, report.plainLine)

end Report

/-! ### All evaluations -/

/-- The reports on all evaluations that the settings ask for, the call last. -/
def Settings.reports (settings : Settings) (platform : Platform) : List (Option Report) :=
  settings.evaluations.mapIdx (fun index code =>
      Report.ofAction? (platform.surroundings index) code (evaluate code)) ++
    match settings.shorthand, settings.input with
    | some code, some input =>
      [Report.ofAction? (platform.surroundings settings.evaluations.length) code
        (callWithInput platform.json code input)]
    | _, _ => []

/-- The report on a line that was entered. -/
def Platform.enter (platform : Platform) (index : Nat) (line : String) : Option Report :=
  Report.ofAction? (platform.surroundings index) line (evaluate line)

/-- Whether a line that was entered is passed over. -/
def isPassedOver (line : String) : Bool := Text.isBlankText line.toList

/-- The lines of a text with their line feeds, after the characters before it in reverse. -/
def linesFrom (before : List Char) : List Char → List String
  | [] => if before.isEmpty then [] else [String.ofList before.reverse]
  | '\n' :: rest => String.ofList ('\n' :: before).reverse :: linesFrom [] rest
  | first :: rest => linesFrom (first :: before) rest

/-- The lines of reports, each ended by a line feed, and whether all is well with all of them. The
first evaluation without a report is the end, and then there is no answer to that. -/
def outputOf (json : Json.Library) (documents : Bool) :
    List (Option Report) → String × Option Bool
  | [] => ("", some true)
  | none :: _ => ("", none)
  | some report :: rest =>
    let (good, line) := report.render json documents
    let (lines, others) := outputOf json documents rest
    (line ++ "\n" ++ lines, others.map (good && ·))

/-- The code that the program exits with if its stack overflows. -/
def overflowCode : Nat := 134

/-- The reply to a command line with a text on standard input. -/
def run (platform : Platform) (arguments : List String) (input : String) : Reply :=
  match platform.understand arguments with
  | .error reply => reply
  | .ok settings =>
    if settings.isInteractive then
      let lines := (linesFrom [] input.toList).filter (!isPassedOver ·)
      let (output, good) := outputOf platform.json settings.documents (lines.mapIdx platform.enter)
      ⟨output, if good.isNone then overflowCode else 0⟩
    else
      match outputOf platform.json settings.documents (settings.reports platform) with
      | (output, some good) => ⟨output, if good then 0 else 1⟩
      | (output, none) => ⟨output, overflowCode⟩

end Shorthand.CommandLine
