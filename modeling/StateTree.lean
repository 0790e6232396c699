import StateTree.CommandLine.Arguments
import StateTree.CommandLine.Command
import StateTree.CommandLine.Help
import StateTree.CommandLine.Outcome
import StateTree.Decimal.Shortest
import StateTree.Expr.Basic
import StateTree.Expr.Translate
import StateTree.Expr.Vocabulary
import StateTree.Expr.Word
import StateTree.Files.Basic
import StateTree.Files.Tree
import StateTree.Graph.Basic
import StateTree.Graph.Cycle
import StateTree.Graph.Defect
import StateTree.Graph.Draft
import StateTree.Graph.Interchange
import StateTree.Graph.Order
import StateTree.Graph.TypeGraph
import StateTree.Graph.WellFormed
import StateTree.Identifier
import StateTree.Json.Double
import StateTree.Json.Reader
import StateTree.Json.Value
import StateTree.Keyed
import StateTree.Layout.Buffer
import StateTree.Layout.Fragment
import StateTree.Layout.Indent
import StateTree.Main
import StateTree.Naming.Convention
import StateTree.Naming.Error
import StateTree.Naming.Registry
import StateTree.Naming.TypeNames
import StateTree.Outline.Basic
import StateTree.Outline.Converter
import StateTree.Outline.File
import StateTree.Path.Basic
import StateTree.Path.Specifier
import StateTree.PropertyKey
import StateTree.Settings.Basic
import StateTree.Settings.File
import StateTree.Source.Declaration
import StateTree.Source.File
import StateTree.Source.Support
import StateTree.Text.Alphabetic
import StateTree.Text.Blank
import StateTree.Text.CaseIgnorable
import StateTree.Text.CaseMap
import StateTree.Text.CaseStyle
import StateTree.Text.Cased
import StateTree.Text.Digits
import StateTree.Text.Interval
import StateTree.Text.Lines
import StateTree.Text.Lowercase
import StateTree.Text.Lowering
import StateTree.Text.Numeric
import StateTree.Text.Position
import StateTree.Text.Quoted
import StateTree.Text.Taken
import StateTree.Text.Uppercase
import StateTree.Text.WordContinue
import StateTree.Text.WordStart
import StateTree.Text.Words
import StateTree.Time.Calendar
import StateTree.Time.Instant
import StateTree.Time.Literal
import StateTree.Time.Scan
import StateTree.Time.Snapshot
import StateTree.Time.Zone
import StateTree.Toml.Lexeme
import StateTree.Toml.Plain
import StateTree.Toml.Reader
import StateTree.Toml.Tree
import StateTree.Toml.Value
import StateTree.Proofs.Expr.Translation
import StateTree.Proofs.Graph.Validation
import StateTree.Proofs.Expr.Eagerness
import StateTree.Proofs.Graph.FinishingOrder
import StateTree.Proofs.Outline.Stages
import StateTree.Proofs.Outline.Range
import StateTree.Proofs.Outline.Verdict
import StateTree.Proofs.Outline.DeclareBeforeUse
import StateTree.Proofs.Expr.Meaning
import StateTree.Proofs.Outline.Reading
import StateTree.Proofs.Naming.Resolution
import StateTree.Proofs.Text.Intervals
import StateTree.Proofs.Text.CaseMapping
import StateTree.Proofs.Naming.Identifiers
import StateTree.Proofs.Expr.Plainness
import StateTree.Proofs.Outline.Unambiguous
import StateTree.Proofs.Outline.WrittenMeaning
import StateTree.Proofs.Outline.LateReferences
import StateTree.Proofs.Naming.Scope
import StateTree.Proofs.Outline.Exports
import StateTree.Proofs.Outline.Signatures
import StateTree.Proofs.Outline.Closure
import StateTree.Proofs.Naming.FirstProposals
import StateTree.Proofs.Outline.MethodNames
import StateTree.Proofs.Text.Literals
import StateTree.Proofs.PropertyKey
import StateTree.Proofs.Outline.Bodies
import StateTree.Proofs.Expr.Rendering
import StateTree.Proofs.Graph.Renumbering
import StateTree.Proofs.Naming.Requests
import StateTree.Proofs.Naming.Renumbering
import StateTree.Proofs.Outline.Renumbering
import StateTree.Proofs.Layout.Rows
import StateTree.Proofs.Layout.DocComments
import StateTree.Proofs.Graph.Descriptions
import StateTree.Proofs.Source.Documentation
import StateTree.Proofs.Outline.Descriptions
import StateTree.Proofs.Keyed
import StateTree.Proofs.Graph.Entries
import StateTree.Proofs.Graph.Interchange
import StateTree.Proofs.Graph.Operations
import StateTree.Proofs.Graph.Drafts
import StateTree.Proofs.Path.Parts
import StateTree.Proofs.Path.Resolution
import StateTree.Proofs.Graph.DependenciesFirst
import StateTree.Proofs.Text.RawLiterals
import StateTree.Proofs.Outline.ImportLine
import StateTree.Proofs.Files.Lawful
import StateTree.Proofs.Json.PlainNames
import StateTree.Proofs.CommandLine.FailedGeneration
import StateTree.Proofs.Time.Calendar
import StateTree.Proofs.Time.Instant
import StateTree.Proofs.Time.Scanning
import StateTree.Proofs.Time.RoundTrip
import StateTree.Proofs.Text.LiteralGrammar
import StateTree.Proofs.BareKeys
import StateTree.Proofs.Expr.Depth
import StateTree.Proofs.Naming.LaterRequests
import StateTree.Proofs.Naming.RepeatedRequests
import StateTree.Proofs.Naming.SharedNames
import StateTree.Proofs.Text.Words
import StateTree.Proofs.Time.WholeNumbers
import StateTree.Proofs.Time.Validation
import StateTree.Proofs.Path.RelativeSpecifiers
import StateTree.Proofs.Settings.Changes
import StateTree.Proofs.Text.Lines
import StateTree.Proofs.Layout.Returns
import StateTree.Proofs.Source.Returns
import StateTree.Proofs.Outline.Returns
import StateTree.Proofs.Outline.Lines
import StateTree.Proofs.Text.Position
import StateTree.Proofs.Text.StyledNames
import StateTree.Proofs.Time.Numerals
