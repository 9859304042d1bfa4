import Interpolation.Calendar.Moment
import Interpolation.Calendar.Reading
import Interpolation.Calendar.Span
import Interpolation.CommandLine.Arguments
import Interpolation.CommandLine.Run
import Interpolation.CommandLine.Task
import Interpolation.Config.Basic
import Interpolation.Config.Invalid
import Interpolation.Config.OfValue
import Interpolation.Engine
import Interpolation.Eval.Call
import Interpolation.Eval.Context
import Interpolation.Eval.Environment
import Interpolation.Eval.Evaluate
import Interpolation.Eval.Filter
import Interpolation.Eval.FilterName
import Interpolation.Eval.Lookup
import Interpolation.Eval.Memory
import Interpolation.Eval.Operator
import Interpolation.Eval.SequenceFilter
import Interpolation.Eval.Setting
import Interpolation.Eval.Signature
import Interpolation.Eval.Stream
import Interpolation.Eval.Test
import Interpolation.Eval.TextFilter
import Interpolation.Eval.TextMethod
import Interpolation.Eval.Walk
import Interpolation.Expr.Compiled
import Interpolation.Expr.Constant
import Interpolation.Expr.Grammar
import Interpolation.Expr.Prepared
import Interpolation.Expr.Syntax
import Interpolation.Expr.Token
import Interpolation.Fault
import Interpolation.Interpolator
import Interpolation.Json.Basic
import Interpolation.Json.Script
import Interpolation.Layout.Braces
import Interpolation.Layout.Percent
import Interpolation.Layout.Specifier
import Interpolation.Main
import Interpolation.Number.Binary
import Interpolation.Number.Decimal
import Interpolation.Number.Fixed
import Interpolation.Number.Layout
import Interpolation.Number.Precision
import Interpolation.Number.Reading
import Interpolation.Number.Shortest
import Interpolation.Proofs.Evaluation.Outcome
import Interpolation.Proofs.Json.Reading
import Interpolation.Proofs.Json.RoundTrip
import Interpolation.Proofs.Json.Trees
import Interpolation.Proofs.Render.FirstFailure
import Interpolation.Proofs.Render.Stages
import Interpolation.Proofs.Scan.Compiling
import Interpolation.Proofs.Scan.Decomposition
import Interpolation.Proofs.Scan.Leftmost
import Interpolation.Proofs.Scan.Segments
import Interpolation.Proofs.Trust.Approval
import Interpolation.Proofs.Trust.Gate
import Interpolation.Proofs.Trust.Markup
import Interpolation.Proofs.Trust.References
import Interpolation.Record
import Interpolation.Session
import Interpolation.Template.Basic
import Interpolation.Template.Delimiters
import Interpolation.Template.Piece
import Interpolation.Template.Render
import Interpolation.Text.Blank
import Interpolation.Text.CaseRanges
import Interpolation.Text.CharacterNames
import Interpolation.Text.Cut
import Interpolation.Text.Decompositions
import Interpolation.Text.Escape
import Interpolation.Text.Letter
import Interpolation.Text.Newlines
import Interpolation.Text.NormalForm
import Interpolation.Text.NumberRanges
import Interpolation.Text.Paragraph
import Interpolation.Text.PrintableRanges
import Interpolation.Text.Quoted
import Interpolation.Text.Tags
import Interpolation.Text.Utf8
import Interpolation.Text.WordRanges
import Interpolation.Trust.Category
import Interpolation.Trust.Glob
import Interpolation.Trust.Policy
import Interpolation.Trust.Url
import Interpolation.Value.Arithmetic
import Interpolation.Value.Basic
import Interpolation.Value.Conversion
import Interpolation.Value.Course
import Interpolation.Value.Datum
import Interpolation.Value.Document
import Interpolation.Value.Equality
import Interpolation.Value.Future
import Interpolation.Value.Loading
import Interpolation.Value.Order
import Interpolation.Value.Shown
import Interpolation.Value.Store
import Interpolation.Yaml.Content
import Interpolation.Yaml.Fault
import Interpolation.Yaml.Node
import Interpolation.Yaml.Position
import Interpolation.Yaml.ScalarText
import Interpolation.Yaml.Tag
import Interpolation.Yaml.Token
import Interpolation.Proofs.Session.Steps
import Interpolation.Proofs.Session.Isolation
import Interpolation.Proofs.Futures.Region
import Interpolation.Proofs.Futures.Agreement
import Interpolation.Proofs.Futures.Building
import Interpolation.Proofs.Futures.Arithmetic
import Interpolation.Proofs.Futures.Operators
import Interpolation.Proofs.Futures.Lookups
import Interpolation.Proofs.Futures.Texts
import Interpolation.Proofs.Futures.Calls
import Interpolation.Proofs.Futures.Sequences
import Interpolation.Proofs.Futures.TextFilters
import Interpolation.Proofs.Futures.Filters
import Interpolation.Proofs.Futures.Streams
import Interpolation.Proofs.Futures.Evaluation
import Interpolation.Proofs.Futures.Parsing
import Interpolation.Proofs.Futures.Folding
import Interpolation.Proofs.Futures.Constants
import Interpolation.Proofs.Futures.Contexts
import Interpolation.Proofs.Futures.Rendering
import Interpolation.Proofs.Futures.Conservative
import Interpolation.Proofs.Futures.Warnings
import Interpolation.Proofs.Engine.Environments
import Interpolation.Proofs.Delimiters.Freezing
import Interpolation.Proofs.Names.Occurrence
import Interpolation.Proofs.Names.Unused
import Interpolation.Proofs.Session.Markers
import Interpolation.Proofs.Scan.Outcomes
import Interpolation.Proofs.Scan.PlainText
import Interpolation.Proofs.Paths.Basic
import Interpolation.Proofs.Paths.Reading
import Interpolation.Proofs.Paths.Replacing
import Interpolation.Proofs.Paths.Evaluation
import Interpolation.Proofs.Paths.Finding
import Interpolation.Proofs.Paths.Loading
import Interpolation.Proofs.Paths.Answers
import Interpolation.Proofs.Paths.Missing
import Interpolation.Proofs.Paths.SeeingThrough
import Interpolation.Proofs.Text.Ranges
import Interpolation.Proofs.Names.Identifiers
import Interpolation.Proofs.Names.Entries
import Interpolation.Proofs.Paths.Nameless
import Interpolation.Proofs.Paths.Slices
import Interpolation.Proofs.Trust.Pattern
import Interpolation.Proofs.Trust.Allowlist
import Interpolation.Proofs.Trust.SameHost
import Interpolation.Proofs.Scan.Joining
import Interpolation.Proofs.Render.Joining
import Interpolation.Proofs.CommandLine.Runs
import Interpolation.Proofs.Config.Leaves
import Interpolation.Proofs.Config.Loading
import Interpolation.Proofs.Scan.Progress
import Interpolation.Proofs.CommandLine.Mappings
import Interpolation.Proofs.Json.Source
import Interpolation.Proofs.Json.Grammar
import Interpolation.Proofs.Yaml.Positions
import Interpolation.Proofs.Yaml.ScalarTexts
import Interpolation.Proofs.Yaml.Scanning
import Interpolation.Proofs.Yaml.Words
import Interpolation.Proofs.Json.Newlines
import Interpolation.Proofs.Yaml.Nodes
import Interpolation.Proofs.Yaml.Numbers
import Interpolation.Proofs.Yaml.Graphs
import Interpolation.Proofs.Yaml.Cells
import Interpolation.Proofs.Yaml.Making
import Interpolation.Proofs.Yaml.Filling
import Interpolation.Proofs.Yaml.Documents
import Interpolation.Proofs.CommandLine.JsonContexts
