import Shorthand.Text.CharacterSet
import Shorthand.Text.Letter
import Shorthand.Text.Blank
import Shorthand.Text.Case
import Shorthand.Text.Invisible
import Shorthand.Text.Search
import Shorthand.Table
import Shorthand.Decimal.Binary
import Shorthand.Decimal.Shortest
import Shorthand.Decimal.Positional
import Shorthand.Decimal.Numeral
import Shorthand.Number.Basic
import Shorthand.Number.Text
import Shorthand.Instant
import Shorthand.Operator
import Shorthand.Text.Quoted
import Shorthand.Token.Basic
import Shorthand.CompileError
import Shorthand.Token.Scan
import Shorthand.Expr.Basic
import Shorthand.Expr.Names
import Shorthand.Expr.Grammar
import Shorthand.Expr.Parse
import Shorthand.Form
import Shorthand.Value
import Shorthand.Heap
import Shorthand.Code
import Shorthand.Failure
import Shorthand.Action
import Shorthand.Value.Nested
import Shorthand.Value.Text
import Shorthand.Value.Tree
import Shorthand.Value.Operate
import Shorthand.Scope
import Shorthand.Global
import Shorthand.Resolve
import Shorthand.Json.Basic
import Shorthand.Json.Library
import Shorthand.Json.Write
import Shorthand.Json.Numeral
import Shorthand.Json.Read
import Shorthand.Property
import Shorthand.Machine
import Shorthand.Sequence.Callback
import Shorthand.Sequence.Traverse
import Shorthand.Sequence.Search
import Shorthand.Sequence.Sort
import Shorthand.Sequence.Shape
import Shorthand.Method.Basic
import Shorthand.Combine
import Shorthand.Method.Call
import Shorthand.Evaluate
import Shorthand.Call
import Shorthand.CommandLine.Settings
import Shorthand.CommandLine.Report
import Shorthand.Main
import Shorthand.Proofs.Alike.Basic
import Shorthand.Proofs.Alike.Operations
import Shorthand.Proofs.Alike.Evaluate
import Shorthand.Proofs.Lexical.Use
import Shorthand.Proofs.Lexical.Walk
import Shorthand.Proofs.Lexical.Layers
import Shorthand.Proofs.Lexical.Lowers
import Shorthand.Proofs.Lexical.Resolution
import Shorthand.Proofs.Lexical.Enter
import Shorthand.Proofs.Lexical.Simulation
import Shorthand.Proofs.Lexical.Refinement
import Shorthand.Proofs.Grammar.Phrase
import Shorthand.Proofs.Grammar.Ensures
import Shorthand.Proofs.Grammar.Sound
import Shorthand.Proofs.Grammar.Follow
import Shorthand.Proofs.Grammar.Run
import Shorthand.Proofs.Grammar.Expressions
import Shorthand.Proofs.Grammar.Complete
import Shorthand.Proofs.Grammar.Exact
import Shorthand.Proofs.Literal.Unfolds
import Shorthand.Proofs.Literal.Scan
import Shorthand.Proofs.Literal.Reading
import Shorthand.Proofs.Literal.Evaluate
import Shorthand.Proofs.Literal.ReadBack
import Shorthand.Proofs.Scan.Extent
import Shorthand.Proofs.Scan.Local
import Shorthand.Proofs.Free.Part
import Shorthand.Proofs.Free.Places
import Shorthand.Proofs.Free.Layout
import Shorthand.Proofs.Free.Parameters
import Shorthand.Proofs.Method.Names
import Shorthand.Proofs.Method.Dispatch
import Shorthand.Proofs.World.Adds
import Shorthand.Proofs.World.Runs
import Shorthand.Proofs.Formula.Reads
import Shorthand.Proofs.Formula.Compute
import Shorthand.Proofs.Traverse.Course
import Shorthand.Proofs.Traverse.Callback
import Shorthand.Proofs.Traverse.Result
import Shorthand.Proofs.Traverse.Steady
import Shorthand.Proofs.Memo.Reference
import Shorthand.Proofs.Memo.Slot
import Shorthand.Proofs.Memo.Tied
import Shorthand.Proofs.Memo.History
import Shorthand.Proofs.Memo.Answers
import Shorthand.Proofs.Forms.Rename
import Shorthand.Proofs.Forms.Operand
import Shorthand.Proofs.Forms.Brackets
import Shorthand.Proofs.Forms.Arrow
import Shorthand.Proofs.Forms.Meaning
import Shorthand.Proofs.Forms.Statements
import Shorthand.Proofs.Number.Rank
import Shorthand.Proofs.Comparison.Swap
import Shorthand.Proofs.Number.Whole
import Shorthand.Proofs.Number.Order
import Shorthand.Proofs.Number.Exact
import Shorthand.Proofs.Memo.Key
import Shorthand.Proofs.Memo.Transparent
import Shorthand.Proofs.Alike.Along
import Shorthand.Proofs.Memo.Ledger
import Shorthand.Proofs.Memo.Lasting
import Shorthand.Proofs.Sort.Merge
import Shorthand.Proofs.Sort.ByValue
import Shorthand.Proofs.Traverse.Written
import Shorthand.Proofs.Traverse.Adjacent
import Shorthand.Proofs.World.Spares
import Shorthand.Proofs.Traverse.Spares
import Shorthand.Proofs.Method.Spares
import Shorthand.Proofs.Shape.Leaves
import Shorthand.Proofs.Shape.Parts
import Shorthand.Proofs.Shape.Equal
import Shorthand.Proofs.Json.Mark
import Shorthand.Proofs.Json.Document
import Shorthand.Proofs.Json.RoundTrip
import Shorthand.Proofs.Json.Line
import Shorthand.Proofs.CommandLine.Request
import Shorthand.Proofs.CommandLine.Reports
import Shorthand.Proofs.Number.Integral
import Shorthand.Proofs.Number.Hexadecimal
import Shorthand.Proofs.Number.Scientific
import Shorthand.Proofs.Number.Numeral
import Shorthand.Proofs.Index.Key
import Shorthand.Proofs.Index.Write
import Shorthand.Proofs.Index.Word
import Shorthand.Proofs.Index.Search
import Shorthand.Proofs.Index.Slice
import Shorthand.Proofs.Text.Occurrence
import Shorthand.Proofs.Text.Bytes
import Shorthand.Proofs.Text.Position
import Shorthand.Proofs.Text.Split
import Shorthand.Proofs.Traverse.Negation
import Shorthand.Proofs.Traverse.Predicates
import Shorthand.Proofs.Forms.Reading
import Shorthand.Proofs.Scan.Begin
import Shorthand.Proofs.Scan.Quoted
import Shorthand.Proofs.Number.Coercion
import Shorthand.Proofs.Refusal.Undefined
import Shorthand.Proofs.Free.Missing
import Shorthand.Proofs.Watch.Walk
import Shorthand.Proofs.Watch.Explain
import Shorthand.Proofs.Watch.Calls
import Shorthand.Proofs.Watch.Names
import Shorthand.Proofs.Progress.Settles
import Shorthand.Proofs.Progress.Rules
import Shorthand.Proofs.Progress.Turn
import Shorthand.Proofs.Progress.Ends
import Shorthand.Proofs.Refusal.Fault
import Shorthand.Proofs.Refusal.Points
import Shorthand.Proofs.Slots.Mention
import Shorthand.Proofs.Slots.Once
import Shorthand.Proofs.Slots.Guarded
import Shorthand.Proofs.Slots.InRange
import Shorthand.Proofs.Slots.Numbering
