/-
This file holds the reasons why an evaluation fails, and their messages.
-/

import Shorthand.CompileError

namespace Shorthand

/-- A value that is used in a way its kind does not support. Values and keys are given by their
text. -/
inductive TypeFault where
  | notAFunction (shown : String)
  | notASequence (operation shown : String)
  | unreadableProperty (key shown : String)
  | unknownMethod (typeName name : String)
  | listProperty (key : String)
  | unwritableProperty (key shown : String)
  | argumentsNotAList
  | memoReceiver (slot typeName : String)
  | raised (message : String)
deriving DecidableEq

/-- An argument outside of what an operation accepts. -/
inductive ArgumentFault where
  | chunkSize
  | gap (index length : Nat)
  /-- A text that is refused as a document, with a message. -/
  | json (message : String)
deriving DecidableEq

/-- Why an evaluation fails. -/
inductive Failure where
  | compile (error : CompileError)
  | type (fault : TypeFault)
  | argument (fault : ArgumentFault)

namespace TypeFault

/-- What is wrong about the use of a value. -/
def text : TypeFault → String
  | notAFunction shown => shown ++ " is not a function"
  | notASequence operation shown => operation ++ " called on non-sequence value " ++ shown
  | unreadableProperty key shown => "Cannot read property '" ++ key ++ "' of " ++ shown
  | unknownMethod typeName name => typeName ++ "." ++ name ++ " is not a function"
  | listProperty key => "Cannot set property '" ++ key ++ "' of a list"
  | unwritableProperty key shown => "Cannot set property '" ++ key ++ "' of " ++ shown
  | argumentsNotAList => "apply expects an argument list"
  | memoReceiver slot typeName =>
    "cacheMethod: cannot install '" ++ slot ++ "' on " ++ typeName
  | raised message => message

end TypeFault

namespace ArgumentFault

/-- What is wrong about an argument. -/
def text : ArgumentFault → String
  | chunkSize => "Chunks size must be > 0"
  | gap index length =>
    "index " ++ toString index ++ " is too far past the end of a list of length " ++
      toString length
  | json message => "from_json failed: " ++ message

end ArgumentFault

namespace Failure

/-- The message of a failure. -/
def message : Failure → String
  | compile error => error.message
  | type fault => "TypeError: " ++ fault.text
  | argument fault => "Invalid argument: " ++ fault.text

end Failure

end Shorthand
