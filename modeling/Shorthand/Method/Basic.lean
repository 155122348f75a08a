/-
This file names the methods of each kind of value.

Every kind has one table of names. A name in the table can be read as a property, which yields a
function, and called as a method.
-/

import Shorthand.Value

namespace Shorthand

/-- The methods of lists. -/
inductive ListMethod where
  | forEach | map | reduce | filter | every | some | sum | max | min | pluck | invoke | uniq
  | compact | flatten | find | findBackwards | sortByValue | chunk | zipWith | equals
  | indexOf | lastIndexOf | contains | range | first | last | concat | join | slice | push
  | toString
deriving DecidableEq

/-- The methods of texts. -/
inductive TextMethod where
  | upperCaseFirst | lambda | toFunction | charAt | slice | toUpperCase | toLowerCase | concat
  | indexOf | split | trim | toString
deriving DecidableEq

/-- The methods of functions. -/
inductive FunctionMethod where
  | bind | not | cacheMethod | call | apply | toString
deriving DecidableEq

/-- The methods of numbers. -/
inductive NumberMethod where
  | toFixed | toString
deriving DecidableEq

/-- The methods of dates. -/
inductive DateMethod where
  | getTime | toString
deriving DecidableEq

/-- The names of the methods of lists. -/
def ListMethod.names : List (String × ListMethod) :=
  [("forEach", forEach), ("map", map), ("reduce", reduce), ("filter", filter), ("every", every),
    ("some", some), ("sum", sum), ("max", max), ("min", min), ("pluck", pluck),
    ("invoke", invoke), ("uniq", uniq), ("compact", compact), ("flatten", flatten),
    ("find", find), ("findBackwards", findBackwards), ("sortByValue", sortByValue),
    ("chunk", chunk), ("zipWith", zipWith), ("equals", equals), ("indexOf", indexOf),
    ("lastIndexOf", lastIndexOf), ("contains", contains), ("range", range), ("first", first),
    ("last", last), ("concat", concat), ("join", join), ("slice", slice), ("push", push),
    ("toString", toString)]

/-- The names of the methods of texts. -/
def TextMethod.names : List (String × TextMethod) :=
  [("upperCaseFirst", upperCaseFirst), ("lambda", lambda), ("toFunction", toFunction),
    ("charAt", charAt), ("slice", slice), ("toUpperCase", toUpperCase),
    ("toLowerCase", toLowerCase), ("concat", concat), ("indexOf", indexOf), ("split", split),
    ("trim", trim), ("toString", toString)]

/-- The names of the methods of functions. -/
def FunctionMethod.names : List (String × FunctionMethod) :=
  [("bind", bind), ("not", not), ("cacheMethod", cacheMethod), ("call", call), ("apply", apply),
    ("toString", toString)]

/-- The names of the methods of numbers. -/
def NumberMethod.names : List (String × NumberMethod) :=
  [("toFixed", toFixed), ("toString", toString)]

/-- The names of the methods of dates. -/
def DateMethod.names : List (String × DateMethod) :=
  [("getTime", getTime), ("toString", toString)]

/-- Whether a method of a value can be read as a property with a name. -/
def Value.hasMethod (value : Value) (name : String) : Bool :=
  match value with
  | .list _ => (ListMethod.names.lookup name).isSome
  | .string _ => (TextMethod.names.lookup name).isSome
  | .function _ => (FunctionMethod.names.lookup name).isSome
  | .number _ => (NumberMethod.names.lookup name).isSome
  | .date _ => (DateMethod.names.lookup name).isSome
  | .undefined | .null | .boolean _ | .map _ => false

end Shorthand
