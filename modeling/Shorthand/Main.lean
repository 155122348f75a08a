/-
This file is the program: it evaluates what the command line asks for, or the lines that are
entered when it asks for nothing.
-/

import Mathlib
import Shorthand.CommandLine.Report

namespace Shorthand.CommandLine

/-- What the clock shows now. -/
def currentInstant : IO Instant := do
  let nanoseconds := (← Std.Time.Timestamp.now).toNanosecondsSinceUnixEpoch.val
  return match Instant.ofMilliseconds? (nanoseconds.fdiv 1000000) with
    | some instant => { instant with nanoseconds := (nanoseconds.fmod 1000000).toNat }
    | none => .epoch

/-- Evaluates lines of standard input up to its end, and yields the exit code. -/
partial def evaluateLines (documents : Bool) : IO UInt32 := do
  let line ← (← IO.getStdin).getLine
  if line.isEmpty then return 0
  else if isPassedOver line then evaluateLines documents
  else
    let platform := Platform.usual (← currentInstant)
    match platform.enter 0 line with
    | some report =>
      IO.println (report.render platform.json documents).2
      evaluateLines documents
    | none => return overflowCode.toUInt32

/-- Runs the program and yields its exit code. -/
def runProgram (arguments : List String) : IO UInt32 := do
  let platform := Platform.usual (← currentInstant)
  match platform.understand arguments with
  | .ok settings =>
    if settings.isInteractive then evaluateLines settings.documents
    else
      let reply := run platform arguments ""
      IO.print reply.output
      return reply.exitCode.toUInt32
  | .error reply =>
    IO.print reply.output
    if reply.exitCode ≠ 0 then
      IO.eprintln "Usage: [-e CODE]... [-c SHORTHAND -i JSON] [--json]"
    return reply.exitCode.toUInt32

end Shorthand.CommandLine

/-- The program. -/
def main (arguments : List String) : IO UInt32 :=
  Shorthand.CommandLine.runProgram arguments
