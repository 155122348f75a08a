/-
This file holds the global names: an object with functions of mathematics and a function that
makes dates. Every occurrence of a global name in a source stands for a value of its own.
-/

import Shorthand.Heap

namespace Shorthand

namespace MathFunction

/-- The name of a function of mathematics, which is also its label. -/
def name : MathFunction → String
  | absolute => "abs"
  | floor => "floor"
  | ceiling => "ceil"
  | round => "round"
  | squareRoot => "sqrt"
  | power => "pow"
  | maximum => "max"
  | minimum => "min"

/-- How many parameters a function declares. -/
def arity : MathFunction → Nat
  | power | maximum | minimum => 2
  | _ => 1

/-- All functions, in the order of their slots. -/
def all : List MathFunction :=
  [absolute, floor, ceiling, round, squareRoot, power, maximum, minimum]

end MathFunction

/-- The number nearest to the ratio of a circle to its diameter. -/
def circleRatio : Float := Float.ofBits 0x400921FB54442D18

namespace Heap

/-- The table with functions of mathematics added under their names. -/
def addMathematics (heap : Heap) (table : Table Value) :
    List MathFunction → Table Value × Heap
  | [] => (table, heap)
  | function :: rest =>
    let (cell, heap) :=
      heap.newFunction ⟨.mathematics function, function.arity, function.name⟩
    heap.addMathematics (table.insert function.name (.function cell)) rest

/-- A new object with the functions of mathematics. -/
def newMathematics (heap : Heap) : Value × Heap :=
  let (table, heap) := heap.addMathematics Table.empty MathFunction.all
  let (cell, heap) := heap.newMap (table.insert "PI" (.number (.float circleRatio)))
  (.map cell, heap)

/-- A new function that makes dates. -/
def newDateFunction (heap : Heap) : Value × Heap :=
  let (cell, heap) := heap.newFunction ⟨.date, 1, "Date"⟩
  (.function cell, heap)

/-- A new value for an occurrence of a global name. -/
def newGlobal? (heap : Heap) (name : String) : Option (Value × Heap) :=
  if name = "Math" then some heap.newMathematics
  else if name = "Date" then some heap.newDateFunction
  else none

end Heap

end Shorthand
