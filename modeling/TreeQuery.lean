import TreeQuery.Call
import TreeQuery.Check
import TreeQuery.Combine
import TreeQuery.Diagnostics
import TreeQuery.Discovery.Arguments
import TreeQuery.Discovery.Host
import TreeQuery.Discovery.Listing
import TreeQuery.Discovery.Path
import TreeQuery.Discovery.Run
import TreeQuery.Display.Kind
import TreeQuery.Display.Query
import TreeQuery.Display.Summary
import TreeQuery.Display.Value
import TreeQuery.Display.Words
import TreeQuery.ErrorClass
import TreeQuery.Fault
import TreeQuery.Function
import TreeQuery.Function.Apply
import TreeQuery.Function.Arguments
import TreeQuery.Function.Signature
import TreeQuery.Main
import TreeQuery.Node.Element
import TreeQuery.Node.Make
import TreeQuery.Node.Record
import TreeQuery.Number.Digits
import TreeQuery.Number.Double
import TreeQuery.Number.Reading
import TreeQuery.Number.Shortest
import TreeQuery.Pattern.Basic
import TreeQuery.Pattern.CharSet
import TreeQuery.Pattern.Flags
import TreeQuery.Pattern.Program
import TreeQuery.Pattern.Reader
import TreeQuery.Pattern.Reader.Basic
import TreeQuery.Pattern.Reader.CharSet
import TreeQuery.Pattern.Reader.Escape
import TreeQuery.Pattern.Reader.Flags
import TreeQuery.Pattern.Reader.Group
import TreeQuery.Pattern.Reader.Repetition
import TreeQuery.Pattern.Reader.Ways
import TreeQuery.Pattern.Search
import TreeQuery.PatternError
import TreeQuery.Proofs.Check.Block
import TreeQuery.Proofs.Check.Calls
import TreeQuery.Proofs.Check.Containment
import TreeQuery.Proofs.Check.History
import TreeQuery.Proofs.Check.Trial
import TreeQuery.Proofs.Closed
import TreeQuery.Proofs.Combine
import TreeQuery.Proofs.Discovery.Below
import TreeQuery.Proofs.Discovery.Lookup
import TreeQuery.Proofs.Discovery.Schedule
import TreeQuery.Proofs.Display.Clause
import TreeQuery.Proofs.Display.Deeper
import TreeQuery.Proofs.Display.Expression
import TreeQuery.Proofs.Display.Json
import TreeQuery.Proofs.Display.Node
import TreeQuery.Proofs.Display.Outline
import TreeQuery.Proofs.Display.Quiet
import TreeQuery.Proofs.Display.Rendering
import TreeQuery.Proofs.Display.Respacing
import TreeQuery.Proofs.Display.Summary
import TreeQuery.Proofs.Evaluation
import TreeQuery.Proofs.Fair
import TreeQuery.Proofs.Function.Closed
import TreeQuery.Proofs.Function.Fair
import TreeQuery.Proofs.Function.Keeping
import TreeQuery.Proofs.Keeping
import TreeQuery.Proofs.Node.Calls
import TreeQuery.Proofs.Node.Composed
import TreeQuery.Proofs.Node.Element
import TreeQuery.Proofs.Node.Exact
import TreeQuery.Proofs.Node.Fair
import TreeQuery.Proofs.Node.Flaw
import TreeQuery.Proofs.Node.Fresh
import TreeQuery.Proofs.Node.Given
import TreeQuery.Proofs.Node.Legible
import TreeQuery.Proofs.Node.Make
import TreeQuery.Proofs.Node.Record
import TreeQuery.Proofs.Node.Refusal
import TreeQuery.Proofs.Node.Runs
import TreeQuery.Proofs.Node.Stops
import TreeQuery.Proofs.Query.Combinators
import TreeQuery.Proofs.Query.Elimination
import TreeQuery.Proofs.Query.Entry
import TreeQuery.Proofs.Query.Expression
import TreeQuery.Proofs.Query.Loop
import TreeQuery.Proofs.Query.Paths
import TreeQuery.Proofs.Query.Purity
import TreeQuery.Proofs.Query.Reading
import TreeQuery.Proofs.Query.Records
import TreeQuery.Proofs.Query.Skeleton
import TreeQuery.Proofs.Query.Trace
import TreeQuery.Proofs.Quiet
import TreeQuery.Proofs.Search.Agreement
import TreeQuery.Proofs.Search.Children
import TreeQuery.Proofs.Search.Scan
import TreeQuery.Proofs.Search.Siblings
import TreeQuery.Proofs.Search.Skeleton
import TreeQuery.Proofs.Search.Sound
import TreeQuery.Proofs.Settling
import TreeQuery.Proofs.Store.Growth
import TreeQuery.Proofs.Store.Json
import TreeQuery.Proofs.Store.Rank
import TreeQuery.Proofs.Store.Renaming
import TreeQuery.Proofs.Text.Lines
import TreeQuery.Proofs.Text.Quoted
import TreeQuery.Proofs.Text.Runs
import TreeQuery.Proofs.Tree.Copy
import TreeQuery.Proofs.Tree.Draft
import TreeQuery.Proofs.Tree.Markup
import TreeQuery.Proofs.Tree.Skeleton
import TreeQuery.Query.Run
import TreeQuery.Query.Step
import TreeQuery.Script
import TreeQuery.Script.Apply
import TreeQuery.Search.Children
import TreeQuery.Search.Criterion
import TreeQuery.Search.Descendants
import TreeQuery.Sequence
import TreeQuery.Session
import TreeQuery.Store
import TreeQuery.Store.Equality
import TreeQuery.Text.Blank
import TreeQuery.Text.Casing
import TreeQuery.Text.CharName
import TreeQuery.Text.Collapse
import TreeQuery.Text.Cut
import TreeQuery.Text.Digit
import TreeQuery.Text.Identifier
import TreeQuery.Text.NameTable
import TreeQuery.Text.Printable
import TreeQuery.Text.Quoted
import TreeQuery.Text.Ranges
import TreeQuery.Text.Word
import TreeQuery.Tree
import TreeQuery.Value
