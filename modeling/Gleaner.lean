import Gleaner.Accessor
import Gleaner.Argument.Basic
import Gleaner.Argument.Document
import Gleaner.Argument.Expansion
import Gleaner.Argument.Reader
import Gleaner.CommandLine.Checking
import Gleaner.CommandLine.Configuration
import Gleaner.CommandLine.EnvFile
import Gleaner.CommandLine.Environment
import Gleaner.CommandLine.Extraction
import Gleaner.CommandLine.Logging
import Gleaner.CommandLine.Request
import Gleaner.CommandLine.Session
import Gleaner.CommandLine.Settings
import Gleaner.CommandLine.Surroundings
import Gleaner.Context
import Gleaner.Entries
import Gleaner.Extractor
import Gleaner.Failure
import Gleaner.Host
import Gleaner.Json.Basic
import Gleaner.Json.Equality
import Gleaner.Json.Reader
import Gleaner.Json.Record
import Gleaner.Json.Writer
import Gleaner.Key
import Gleaner.Main
import Gleaner.Mapping
import Gleaner.Number.Binary64
import Gleaner.Number.Decimal
import Gleaner.Number.Numeral
import Gleaner.Output.Format
import Gleaner.Output.Style
import Gleaner.Output.Table
import Gleaner.Output.Tree
import Gleaner.Output.Writer
import Gleaner.Path.Segment
import Gleaner.Pattern.Basic
import Gleaner.Pattern.Reader
import Gleaner.Pipeline.Definition
import Gleaner.Pipeline.Run
import Gleaner.Problem
import Gleaner.Proofs.Argument.Accessor
import Gleaner.Proofs.Argument.Configuration
import Gleaner.Proofs.Argument.Grammar
import Gleaner.Proofs.Argument.Meaning
import Gleaner.Proofs.Argument.Numbering
import Gleaner.Proofs.Argument.OneLevel
import Gleaner.Proofs.Argument.Precedence
import Gleaner.Proofs.Argument.Unexpanded
import Gleaner.Proofs.Argument.Verbatim
import Gleaner.Proofs.CommandLine.Checking
import Gleaner.Proofs.Entries
import Gleaner.Proofs.Extractor.Agreement
import Gleaner.Proofs.Extractor.Composition
import Gleaner.Proofs.Extractor.Fields
import Gleaner.Proofs.Extractor.Refusal
import Gleaner.Proofs.Failure.Messages
import Gleaner.Proofs.Failure.Reachable
import Gleaner.Proofs.Failure.Report
import Gleaner.Proofs.Failure.Wrapping
import Gleaner.Proofs.Json.Document
import Gleaner.Proofs.Json.Line
import Gleaner.Proofs.Number.Binary64
import Gleaner.Proofs.Number.Decimal
import Gleaner.Proofs.Number.Numeral
import Gleaner.Proofs.Output.Purity
import Gleaner.Proofs.Output.Table
import Gleaner.Proofs.Output.Tree
import Gleaner.Proofs.Path.Reading
import Gleaner.Proofs.Path.Segments
import Gleaner.Proofs.Pipeline.Building
import Gleaner.Proofs.Pipeline.Fold
import Gleaner.Proofs.Pipeline.Invariant
import Gleaner.Proofs.Pipeline.Step
import Gleaner.Proofs.Resolver.Call
import Gleaner.Proofs.Resolver.Chain
import Gleaner.Proofs.Resolver.Equality
import Gleaner.Proofs.Resolver.Evaluation
import Gleaner.Proofs.Resolver.Guard
import Gleaner.Proofs.Resolver.Inquiry
import Gleaner.Proofs.Resolver.Isolation
import Gleaner.Proofs.Resolver.Limit
import Gleaner.Proofs.Resolver.Position
import Gleaner.Proofs.Resolver.Refusal
import Gleaner.Proofs.Resolver.Scope
import Gleaner.Proofs.Stage.MainArgument
import Gleaner.Proofs.Stage.Refusal
import Gleaner.Proofs.Stage.Trimming
import Gleaner.Proofs.Subject.Equality
import Gleaner.Proofs.Subject.Plain
import Gleaner.Proofs.Subject.Retraction
import Gleaner.Proofs.Text.Line
import Gleaner.Proofs.Text.Trim
import Gleaner.Proofs.Traversal
import Gleaner.Resolver
import Gleaner.Services
import Gleaner.Settings
import Gleaner.Stage.Basic
import Gleaner.Stage.BuiltIn
import Gleaner.Subject
import Gleaner.Text.Case
import Gleaner.Text.CaseTable
import Gleaner.Text.CasedTable
import Gleaner.Text.FoldTable
import Gleaner.Text.LetterTable
import Gleaner.Text.Property
import Gleaner.Text.Quoted
import Gleaner.Text.ScriptTable
import Gleaner.Text.Space
import Gleaner.Text.Span
import Gleaner.Text.SymbolTable
import Gleaner.Toml.Reader
import Gleaner.Toml.Table
import Gleaner.Yaml.Node
import Gleaner.Yaml.Reader
import Gleaner.Yaml.Scalar
import Gleaner.Yaml.Writer
