/-
This file holds what a command line asks for, and the usual way to read it.

An option with a value has it in the next argument, or in its own after the letter or an equals
sign. An argument that begins with a hyphen is never the value of the option before it, unless
it is the hyphen alone. Only the codes to evaluate may be given more than once. A command line that
cannot be understood, and one that asks about the program itself, has a reply at once.
-/

namespace Shorthand.CommandLine

/-- What the program writes and the code that it exits with. -/
structure Reply where
  output : String
  exitCode : Nat

/-- What the command line asks for. -/
structure Settings where
  evaluations : List String
  shorthand : Option String
  input : Option String
  log : Option String
  history : Option String
  documents : Bool

/-- A way to read the arguments of a command line. -/
abbrev ArgumentReader : Type := List String → Except Reply Settings

/-! ### Single arguments -/

/-- The options that have a value. -/
inductive ValueOption where
  /-- A code to evaluate. -/
  | evaluate
  /-- A shorthand to call with the input. -/
  | call
  /-- A document of JSON. -/
  | input
  /-- What is logged, which is no part of the output. -/
  | log
  /-- The file of lines that were entered before. -/
  | history
deriving DecidableEq

/-- What an argument is by itself. -/
inductive Argument where
  /-- Text that can be the value of an option. -/
  | plain (text : String)
  /-- An option, with its value if this is part of the argument. -/
  | option (name : ValueOption) (attached : Option String)
  /-- The request for documents instead of literals. -/
  | documents
  /-- The question how the program is used. -/
  | help
  /-- The question which version it is. -/
  | version
  /-- The mark after which no options follow. -/
  | endOfOptions
  | unknown

namespace Argument

/-- The option with a value that a letter stands for. -/
def shortOption? : Char → Option ValueOption
  | 'e' => some .evaluate
  | 'c' => some .call
  | 'i' => some .input
  | _ => none

/-- The option with a value that has a name. -/
def longOption? : String → Option ValueOption
  | "eval" => some .evaluate
  | "call" => some .call
  | "input" => some .input
  | "log" => some .log
  | "history" => some .history
  | _ => none

/-- The argument that a letter without a value is. -/
def shortFlag : Char → Argument
  | 'h' => .help
  | 'V' => .version
  | _ => .unknown

/-- The argument that a name without a value is. -/
def longFlag : String → Argument
  | "json" => .documents
  | "help" => .help
  | "version" => .version
  | _ => .unknown

/-- The value after the letter of an option. An equals sign in front of it does not count. -/
def attachedToLetter : List Char → Option String
  | [] => none
  | '=' :: value => some (String.ofList value)
  | value => some (String.ofList value)

/-- The value after the first equals sign, if there is one. -/
def attachedToName : List Char → Option String
  | [] => none
  | _ :: value => some (String.ofList value)

/-- The argument with two hyphens in front of the characters. -/
def ofLong (characters : List Char) : Argument :=
  let name := String.ofList (characters.takeWhile (· ≠ '='))
  let attached := attachedToName (characters.dropWhile (· ≠ '='))
  match longOption? name with
  | some known => .option known attached
  | none => if attached = none then longFlag name else .unknown

/-- What an argument is by its text. -/
def ofText (text : String) : Argument :=
  match text.toList with
  | ['-', '-'] => .endOfOptions
  | '-' :: '-' :: characters => ofLong characters
  | '-' :: letter :: value =>
    match shortOption? letter with
    | some known => .option known (attachedToLetter value)
    | none => shortFlag letter
  | _ => .plain text

end Argument

/-! ### All arguments -/

namespace Settings

/-- What is asked for without any argument. -/
def empty : Settings := ⟨[], none, none, none, none, false⟩

/-- A value for an option that had none. -/
def once (old : Option String) (value : String) : Option (Option String) :=
  match old with
  | none => some (some value)
  | some _ => none

/-- The settings with the value of one more option. -/
def set? (settings : Settings) (name : ValueOption) (value : String) : Option Settings :=
  match name with
  | .evaluate => some { settings with evaluations := settings.evaluations ++ [value] }
  | .call => (once settings.shorthand value).map ({ settings with shorthand := · })
  | .input => (once settings.input value).map ({ settings with input := · })
  | .log => (once settings.log value).map ({ settings with log := · })
  | .history => (once settings.history value).map ({ settings with history := · })

/-- The reply to a command line that cannot be understood. What is wrong with it is not said on
standard output. -/
def misunderstood : Reply := ⟨"", 2⟩

/-- The reply to the question how the program is used. -/
def usage : Reply :=
  ⟨"Evaluates obfunctional expressions given on the command line, or starts a REPL when none " ++
    "are given\n\n" ++
    "Usage: obfunctional [OPTIONS]\n\n" ++
    "Options:\n" ++
    "  -e, --eval <EVAL>        Code to evaluate, may be repeated\n" ++
    "  -c, --call <CALL>        Shorthand to call with the value given by --input\n" ++
    "  -i, --input <INPUT>      JSON value passed to the --call shorthand\n" ++
    "      --json               Print results as JSON objects\n" ++
    "      --log <LOG>          Tracing filter directives\n" ++
    "      --history <HISTORY>  History file of the REPL\n" ++
    "  -h, --help               Print help\n" ++
    "  -V, --version            Print version\n", 0⟩

/-- The reply to the question which version the program is. -/
def version : Reply := ⟨"obfunctional 0.3.0\n", 0⟩

/-- The settings after further arguments, or the reply to them. -/
def readAll (settings : Settings) : ArgumentReader
  | [] => .ok settings
  | argument :: rest =>
    match Argument.ofText argument with
    | .option name (some value) =>
      match settings.set? name value with
      | some settings => settings.readAll rest
      | none => .error misunderstood
    | .option name none =>
      match rest with
      | [] => .error misunderstood
      | value :: rest =>
        match Argument.ofText value with
        | .plain text =>
          match settings.set? name text with
          | some settings => settings.readAll rest
          | none => .error misunderstood
        | _ => .error misunderstood
    | .documents =>
      if settings.documents then .error misunderstood
      else { settings with documents := true }.readAll rest
    | .help => .error usage
    | .version => .error version
    | .endOfOptions => if rest.isEmpty then .ok settings else .error misunderstood
    | .plain _ | .unknown => .error misunderstood

/-- The usual way to read a command line. A shorthand to call needs its input. -/
def read : ArgumentReader := fun arguments => do
  let settings ← empty.readAll arguments
  if settings.shorthand.isSome ∧ settings.input.isNone then .error misunderstood
  else .ok settings

/-- Whether there is nothing to do but to evaluate lines as they are entered. -/
def isInteractive (settings : Settings) : Bool :=
  settings.evaluations.isEmpty && settings.shorthand.isNone

end Settings

end Shorthand.CommandLine
