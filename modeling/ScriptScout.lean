import ScriptScout.Analysis.EventHook
import ScriptScout.Analysis.GraphqlText
import ScriptScout.Analysis.HttpCall
import ScriptScout.Analysis.Run
import ScriptScout.Analysis.Sink
import ScriptScout.Analysis.State
import ScriptScout.Analysis.UrlUse
import ScriptScout.Command.Analyze
import ScriptScout.Command.Arguments
import ScriptScout.Command.Outcome
import ScriptScout.Command.Run
import ScriptScout.Decimal.Layout
import ScriptScout.Decimal.Reader
import ScriptScout.Decimal.Shortest
import ScriptScout.Files.Discovery
import ScriptScout.Files.Disk
import ScriptScout.Files.Glob
import ScriptScout.Files.Ignore
import ScriptScout.Files.Path
import ScriptScout.Finding
import ScriptScout.Grammar.Class
import ScriptScout.Grammar.Declaration
import ScriptScout.Grammar.Dialect
import ScriptScout.Grammar.Expression
import ScriptScout.Grammar.Function
import ScriptScout.Grammar.Literal
import ScriptScout.Grammar.Markup
import ScriptScout.Grammar.Module
import ScriptScout.Grammar.Parse
import ScriptScout.Grammar.Parser
import ScriptScout.Grammar.Pattern
import ScriptScout.Grammar.Repair
import ScriptScout.Grammar.Signature
import ScriptScout.Grammar.Statement
import ScriptScout.Grammar.Token
import ScriptScout.Grammar.Tree
import ScriptScout.Grammar.Trivia
import ScriptScout.Grammar.Type
import ScriptScout.Graphql.Document
import ScriptScout.Graphql.Keyword
import ScriptScout.Graphql.Plausible
import ScriptScout.Json.Reader
import ScriptScout.Json.Record
import ScriptScout.Json.Value
import ScriptScout.Json.Writer
import ScriptScout.Main
import ScriptScout.Proofs.Binding
import ScriptScout.Proofs.BraceGrammar
import ScriptScout.Proofs.CollectedFiles
import ScriptScout.Proofs.CommonWords
import ScriptScout.Proofs.Compiled
import ScriptScout.Proofs.Concatenation
import ScriptScout.Proofs.ConcatenationRuns
import ScriptScout.Proofs.Coverage
import ScriptScout.Proofs.DirectoryGlob
import ScriptScout.Proofs.DiskWrite
import ScriptScout.Proofs.Distinct
import ScriptScout.Proofs.Events
import ScriptScout.Proofs.Exclusion
import ScriptScout.Proofs.Extension
import ScriptScout.Proofs.GraphqlStep
import ScriptScout.Proofs.Independence
import ScriptScout.Proofs.Initializer
import ScriptScout.Proofs.JsonNumber
import ScriptScout.Proofs.JsonOrder
import ScriptScout.Proofs.JsonText
import ScriptScout.Proofs.KeywordKind
import ScriptScout.Proofs.LiteralForms
import ScriptScout.Proofs.LoweredTree
import ScriptScout.Proofs.LoweringDepth
import ScriptScout.Proofs.LoweringMachine
import ScriptScout.Proofs.LoweringNesting
import ScriptScout.Proofs.LoweringRules
import ScriptScout.Proofs.Memory
import ScriptScout.Proofs.Occurrence
import ScriptScout.Proofs.PathText
import ScriptScout.Proofs.PositionOrder
import ScriptScout.Proofs.Positions
import ScriptScout.Proofs.Rebuilt
import ScriptScout.Proofs.RebuiltHeaders
import ScriptScout.Proofs.Records
import ScriptScout.Proofs.ReportText
import ScriptScout.Proofs.SettingsFile
import ScriptScout.Proofs.SettingsLookup
import ScriptScout.Proofs.Share
import ScriptScout.Proofs.SourceOrder
import ScriptScout.Proofs.SpanText
import ScriptScout.Proofs.Stateless
import ScriptScout.Proofs.StringSpelling
import ScriptScout.Proofs.TaggedTemplates
import ScriptScout.Proofs.TemplateChunks
import ScriptScout.Proofs.TemplateKind
import ScriptScout.Proofs.TerminalLines
import ScriptScout.Proofs.Text.Bytes
import ScriptScout.Proofs.Text.Lines
import ScriptScout.Proofs.Text.Parts
import ScriptScout.Proofs.TomlNumber
import ScriptScout.Proofs.TomlString
import ScriptScout.Proofs.TomlText
import ScriptScout.Proofs.UrlReport
import ScriptScout.Proofs.WalkOrder
import ScriptScout.Report.Data
import ScriptScout.Report.Terminal
import ScriptScout.Resolve
import ScriptScout.Settings
import ScriptScout.Settings.File
import ScriptScout.Syntax.LiteralValue
import ScriptScout.Syntax.Lowering
import ScriptScout.Syntax.Node
import ScriptScout.Syntax.Reading
import ScriptScout.Text.Basic
import ScriptScout.Text.CharTable
import ScriptScout.Text.Mark
import ScriptScout.Text.Quoted
import ScriptScout.Text.Span
import ScriptScout.Text.Upper
import ScriptScout.Text.Word
import ScriptScout.Toml.Reader
import ScriptScout.Toml.Table
import ScriptScout.Toml.Text
import ScriptScout.Toml.Writer
import ScriptScout.Url.Classify
import ScriptScout.Url.Shape
import ScriptScout.Walk
import ScriptScout.Web.Address
import ScriptScout.Web.Domain.Composition
import ScriptScout.Web.Domain.Direction
import ScriptScout.Web.Domain.Joining
import ScriptScout.Web.Domain.Mapping
import ScriptScout.Web.Domain.Name
import ScriptScout.Web.Domain.Punycode
import ScriptScout.Web.Host
import ScriptScout.Web.Percent
