import LinkSieve.Command.Check
import LinkSieve.Command.Harvest
import LinkSieve.Command.Host
import LinkSieve.Command.Invocation
import LinkSieve.Command.Links
import LinkSieve.Command.Matching
import LinkSieve.Command.Outcome
import LinkSieve.Command.Run
import LinkSieve.Command.Test
import LinkSieve.Command.Transcript
import LinkSieve.CommandLine.Invocation
import LinkSieve.CommandLine.Option
import LinkSieve.CommandLine.Scan
import LinkSieve.Config
import LinkSieve.Expression.Definition
import LinkSieve.Expression.Formula
import LinkSieve.Expression.Lexer
import LinkSieve.Expression.Parser
import LinkSieve.Expression.PatternTable
import LinkSieve.Expression.Token
import LinkSieve.Files.Error
import LinkSieve.Files.Local
import LinkSieve.Files.System
import LinkSieve.Files.Tree
import LinkSieve.Filter
import LinkSieve.Harvest.FileName
import LinkSieve.Harvest.Harvester
import LinkSieve.Harvest.Report
import LinkSieve.Harvest.Selection
import LinkSieve.Json
import LinkSieve.Link.Anchor
import LinkSieve.Link.Entity
import LinkSieve.Link.FileName
import LinkSieve.Link.Resolve
import LinkSieve.Link.Scheme
import LinkSieve.Main
import LinkSieve.Matcher
import LinkSieve.Program
import LinkSieve.Proofs.Command.Console
import LinkSieve.Proofs.Command.Definition
import LinkSieve.Proofs.Command.Failure
import LinkSieve.Proofs.Command.Subjects
import LinkSieve.Proofs.Command.Verdict
import LinkSieve.Proofs.CommandLine.Given
import LinkSieve.Proofs.Expression.Acceptance
import LinkSieve.Proofs.Expression.Canonical
import LinkSieve.Proofs.Expression.Definition
import LinkSieve.Proofs.Expression.Depth
import LinkSieve.Proofs.Expression.Descent
import LinkSieve.Proofs.Expression.Grammar
import LinkSieve.Proofs.Expression.Invariant
import LinkSieve.Proofs.Expression.Layout
import LinkSieve.Proofs.Expression.Lexeme
import LinkSieve.Proofs.Expression.LexicalError
import LinkSieve.Proofs.Expression.Name
import LinkSieve.Proofs.Expression.Naming
import LinkSieve.Proofs.Expression.Nesting
import LinkSieve.Proofs.Expression.PatternTable
import LinkSieve.Proofs.Expression.Position
import LinkSieve.Proofs.Expression.Reading
import LinkSieve.Proofs.Expression.Scan
import LinkSieve.Proofs.Expression.Traversal
import LinkSieve.Proofs.Files.Fetch
import LinkSieve.Proofs.Files.Local
import LinkSieve.Proofs.Files.LocalName
import LinkSieve.Proofs.Files.Mirror
import LinkSieve.Proofs.Files.Place
import LinkSieve.Proofs.Filter
import LinkSieve.Proofs.Harvest.Claim
import LinkSieve.Proofs.Harvest.Command
import LinkSieve.Proofs.Harvest.Delivery
import LinkSieve.Proofs.Harvest.Destination
import LinkSieve.Proofs.Harvest.Execution
import LinkSieve.Proofs.Harvest.FileName
import LinkSieve.Proofs.Harvest.Handling
import LinkSieve.Proofs.Harvest.Independence
import LinkSieve.Proofs.Harvest.Paging
import LinkSieve.Proofs.Harvest.Plan
import LinkSieve.Proofs.Harvest.Replay
import LinkSieve.Proofs.Harvest.Run
import LinkSieve.Proofs.Harvest.Selection
import LinkSieve.Proofs.Json
import LinkSieve.Proofs.Link.Anchor
import LinkSieve.Proofs.Link.Entity
import LinkSieve.Proofs.Link.FileName
import LinkSieve.Proofs.Link.Site
import LinkSieve.Proofs.Link.Tag
import LinkSieve.Proofs.Link.Walk
import LinkSieve.Proofs.Link.WrittenAnchor
import LinkSieve.Proofs.Retrieval.Recording
import LinkSieve.Proofs.Retrieval.Repetition
import LinkSieve.Proofs.Text.Percent
import LinkSieve.Proofs.Unicode.Class
import LinkSieve.Regex.Compile
import LinkSieve.Regex.Expr
import LinkSieve.Regex.Lexeme
import LinkSieve.Regex.Meaning
import LinkSieve.Regex.Parser
import LinkSieve.Regex.Search
import LinkSieve.Regex.Size
import LinkSieve.Regex.Tree
import LinkSieve.Retrieval.Policy
import LinkSieve.Retrieval.Retry
import LinkSieve.Retrieval.Script
import LinkSieve.Terminal.Style
import LinkSieve.Terminal.Table
import LinkSieve.Terminal.Width
import LinkSieve.Text.Bytes
import LinkSieve.Text.Cut
import LinkSieve.Text.Percent
import LinkSieve.Text.Trim
import LinkSieve.Text.Utf8
import LinkSieve.Toml.Document
import LinkSieve.Toml.Lexeme
import LinkSieve.Toml.Value
import LinkSieve.Unicode.Age
import LinkSieve.Unicode.BinaryProperty
import LinkSieve.Unicode.CaseFolding
import LinkSieve.Unicode.CharSet
import LinkSieve.Unicode.Class
import LinkSieve.Unicode.GeneralCategory
import LinkSieve.Unicode.Property
import LinkSieve.Unicode.Script
import LinkSieve.Unicode.ScriptExtension
import LinkSieve.Unicode.Segmentation
