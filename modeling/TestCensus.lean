import TestCensus.Text.Lines
import TestCensus.Text.Blank
import TestCensus.Text.Parts
import TestCensus.Text.Slice
import TestCensus.Number.Count
import TestCensus.Category
import TestCensus.MarkerSet
import TestCensus.Decoration
import TestCensus.Docstring
import TestCensus.Docstring.Slices
import TestCensus.Files.NameRule
import TestCensus.Text.Name
import TestCensus.Text.EscapedRanges
import TestCensus.Source.Layout
import TestCensus.Source.Numeral
import TestCensus.Source.Literal
import TestCensus.Source.Token
import TestCensus.Source.Lexer
import TestCensus.Source.Tree
import TestCensus.Source.Grammar
import TestCensus.Source.Expression
import TestCensus.Source.CasePattern
import TestCensus.Source.Statement
import TestCensus.Discovery
import TestCensus.Source.DamageTree
import TestCensus.Source.Reading
import TestCensus.Source.Decorations
import TestCensus.Text.Quoted
import TestCensus.Failure
import TestCensus.Number.Rounding
import TestCensus.Number.Binary64
import TestCensus.Suite
import TestCensus.CountTable
import TestCensus.Tally
import TestCensus.Json.Value
import TestCensus.Json.Printer
import TestCensus.Report.Json
import TestCensus.Report.Markdown
import TestCensus.Report.Styled
import TestCensus.Report.Marks
import TestCensus.Report.Console
import TestCensus.Report.Format
import TestCensus.Collect.Output
import TestCensus.Toml.Value
import TestCensus.Toml.Space
import TestCensus.Toml.Text
import TestCensus.Toml.Number
import TestCensus.Toml.Item
import TestCensus.Toml.Document
import TestCensus.Toml.Printer
import TestCensus.Settings.Basic
import TestCensus.Settings.Validation
import TestCensus.Settings.Text
import TestCensus.Text.Utf8
import TestCensus.Files.Path
import TestCensus.Files.Tree
import TestCensus.Files.Glob
import TestCensus.Files.IgnoreRules
import TestCensus.Files.Walk
import TestCensus.Files.Locate
import TestCensus.Number.Numeral
import TestCensus.Settings.Layers
import TestCensus.Collect.Query
import TestCensus.Census.FileRecord
import TestCensus.Census.CheckPoints
import TestCensus.Census.Run
import TestCensus.Command.Arguments
import TestCensus.Command.Run
import TestCensus.Collect.Process
import TestCensus.Collect.Launch
import TestCensus.Proofs.Source.Spelling
import TestCensus.Proofs.Source.Definitions
import TestCensus.Proofs.Source.Places
import TestCensus.Proofs.Source.StatementPlaces
import TestCensus.Proofs.Discovery.Declarations
import TestCensus.Proofs.Discovery.Tests
import TestCensus.Proofs.Discovery.Markers
import TestCensus.Proofs.Tally.Accounts
import TestCensus.Proofs.Tally.Uncategorized
import TestCensus.Census.Course
import TestCensus.Proofs.Files.Search
import TestCensus.Proofs.Census.Course
import TestCensus.Proofs.Census.Completion
import TestCensus.Proofs.Census.Cancellation
import TestCensus.Proofs.Census.Answers
import TestCensus.Proofs.Census.Independence
import TestCensus.Proofs.Files.Order
import TestCensus.Proofs.Files.Outline
import TestCensus.Proofs.Files.Contents
import TestCensus.Proofs.Census.FileRecord
import TestCensus.Proofs.Census.Records
import TestCensus.Proofs.Settings.Layers
import TestCensus.Proofs.Tally.Rating
import TestCensus.Proofs.Command.Outcome
import TestCensus.Proofs.Text.Numeral
import TestCensus.Proofs.Toml.Texts
import TestCensus.Proofs.Toml.Values
import TestCensus.Proofs.Toml.Documents
import TestCensus.Proofs.Settings.Text
import TestCensus.Json.Reader
import TestCensus.Proofs.Json.RoundTrip
import TestCensus.Report.Contents
import TestCensus.Proofs.Number.Binary64
import TestCensus.Proofs.Number.Tenths
import TestCensus.Proofs.Report.Json
import TestCensus.Proofs.Decoration.Instances
import TestCensus.Proofs.Discovery.FirstDeclarations
import TestCensus.Proofs.Report.Quoted
import TestCensus.Proofs.Report.Markdown
import TestCensus.Proofs.Report.Console
import TestCensus.Proofs.Tally.Percentage
import TestCensus.Proofs.Report.Shares
import TestCensus.Proofs.Decoration.Binding
import TestCensus.Proofs.Files.Union
import TestCensus.Proofs.Discovery.ParametrizedSource
import TestCensus.Proofs.Discovery.Product
import TestCensus.Proofs.Tally.Taxonomy
import TestCensus.Proofs.Discovery.MarkerValues
import TestCensus.Proofs.Discovery.Layout
import TestCensus.Proofs.Source.Rewriting
import TestCensus.Proofs.Source.Parallel
import TestCensus.Proofs.Source.ParallelExpressions
import TestCensus.Proofs.Source.ParallelStatements
import TestCensus.Proofs.Source.Progress
import TestCensus.Proofs.Docstring.Quotes
import TestCensus.Proofs.Source.Returns
import TestCensus.Proofs.Source.ReturnsInLiterals
import TestCensus.Proofs.Source.ReturnsInLayout
import TestCensus.Proofs.Source.ReturnsInSources
import TestCensus.Proofs.Source.ReturnsInDocstrings
import TestCensus.Proofs.Source.RewrittenDecorations
import TestCensus.Proofs.Discovery.LineEnds
import TestCensus.Proofs.Files.NameRule
import TestCensus.Proofs.Census.CountedOnce
import TestCensus.Proofs.Census.ReportedPaths
import TestCensus.Proofs.Docstring.Indentation
import TestCensus.Docstring.Display
import TestCensus.Proofs.Docstring.Display
import TestCensus.Proofs.Docstring.Literals
import TestCensus.Proofs.Docstring.Slices
import TestCensus.Proofs.Source.Damage
import TestCensus.Proofs.Discovery.Docstrings
import TestCensus.Collect.Watch
import TestCensus.Proofs.Collect.Watch
import TestCensus.Shell.Syntax
import TestCensus.Shell.Reader
import TestCensus.Shell.Arithmetic
import TestCensus.Shell.Printing
import TestCensus.Shell.Condition
import TestCensus.Shell.State
import TestCensus.Shell.Utilities
import TestCensus.Shell.Pattern
import TestCensus.Shell.Run
import TestCensus.Shell.Launch
import TestCensus.Shell.Filters
import TestCensus.Main
