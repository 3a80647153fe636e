import ScriptRunner.CommandLine.Argument
import ScriptRunner.CommandLine.Help
import ScriptRunner.CommandLine.Reader
import ScriptRunner.CommandLine.Usage
import ScriptRunner.Decimal.Double
import ScriptRunner.Decimal.Shortest
import ScriptRunner.Decimal.Written
import ScriptRunner.FileTree.Basic
import ScriptRunner.FileTree.Edit
import ScriptRunner.FileTree.Resolve
import ScriptRunner.Locator.Contents
import ScriptRunner.Locator.Item
import ScriptRunner.Locator.Order
import ScriptRunner.Locator.Root
import ScriptRunner.Locator.Walk
import ScriptRunner.Log.Directive
import ScriptRunner.Log.DirectiveReader
import ScriptRunner.Log.Entry
import ScriptRunner.Log.Filter
import ScriptRunner.Log.Line
import ScriptRunner.Pattern.CharacterSet
import ScriptRunner.Pattern.Error
import ScriptRunner.Pattern.Escape
import ScriptRunner.Pattern.Expression
import ScriptRunner.Pattern.Meaning
import ScriptRunner.Pattern.Place
import ScriptRunner.Pattern.Reader
import ScriptRunner.Program
import ScriptRunner.Run.Connector
import ScriptRunner.Run.Database
import ScriptRunner.Run.Error
import ScriptRunner.Run.Event
import ScriptRunner.Run.Output
import ScriptRunner.Run.Runner
import ScriptRunner.Script.Block
import ScriptRunner.Script.Comment
import ScriptRunner.Script.Directive
import ScriptRunner.Script.Keyword
import ScriptRunner.Script.Outline
import ScriptRunner.Script.Source
import ScriptRunner.Script.Splitter
import ScriptRunner.Settings
import ScriptRunner.Text.Alphanumeric
import ScriptRunner.Text.Basic
import ScriptRunner.Text.Blank
import ScriptRunner.Text.CombiningClass
import ScriptRunner.Text.Composed
import ScriptRunner.Text.Digit
import ScriptRunner.Text.Direction
import ScriptRunner.Text.Escape
import ScriptRunner.Text.Extender
import ScriptRunner.Text.Joining
import ScriptRunner.Text.Lowercase
import ScriptRunner.Text.Markup
import ScriptRunner.Text.Quoted
import ScriptRunner.Text.Runs
import ScriptRunner.Text.Search
import ScriptRunner.Text.Similarity
import ScriptRunner.Text.Style
import ScriptRunner.Text.Table
import ScriptRunner.Text.Unprintable
import ScriptRunner.Text.Utf8
import ScriptRunner.Toml.Document
import ScriptRunner.Toml.Layout
import ScriptRunner.Toml.Moment
import ScriptRunner.Toml.Number
import ScriptRunner.Toml.Quotation
import ScriptRunner.Toml.Value
import ScriptRunner.Url.Address
import ScriptRunner.Url.Basic
import ScriptRunner.Url.DomainName
import ScriptRunner.Url.DomainName.Mapping
import ScriptRunner.Url.Host
import ScriptRunner.Url.Path
import ScriptRunner.Url.Percent
import ScriptRunner.Url.Punycode
import ScriptRunner.Url.Reader
import ScriptRunner.Url.Redact
import ScriptRunner.Main
import ScriptRunner.Proofs.Grouping
import ScriptRunner.Proofs.LineKinds
import ScriptRunner.Proofs.ScriptLines
import ScriptRunner.Proofs.RenderedScripts
import ScriptRunner.Proofs.Executions
import ScriptRunner.Proofs.WalkItems
import ScriptRunner.Proofs.Lifecycle
import ScriptRunner.Proofs.FailFast
import ScriptRunner.Proofs.CommentLines
import ScriptRunner.Proofs.PathNames
import ScriptRunner.Proofs.Lookups
import ScriptRunner.Proofs.WalkYields
import ScriptRunner.Proofs.WalkOrder
import ScriptRunner.Proofs.DirectoryContents
import ScriptRunner.Proofs.EncodedTexts
import ScriptRunner.Proofs.ChangingTrees
import ScriptRunner.Proofs.Noninterference
import ScriptRunner.Proofs.SplitterState
import ScriptRunner.Proofs.Resumption
import ScriptRunner.Proofs.Plans
import ScriptRunner.Proofs.Telling
import ScriptRunner.Proofs.Rehearsals
import ScriptRunner.Proofs.CutScripts
import ScriptRunner.Proofs.QuotedLiterals
import ScriptRunner.Proofs.ReadLines
import ScriptRunner.Proofs.LineNumbers
import ScriptRunner.Proofs.EmptyStatements
import ScriptRunner.Proofs.Reports
import ScriptRunner.Proofs.ShownTargets
import ScriptRunner.Proofs.ClosedComments
import ScriptRunner.Proofs.CommentModes
import ScriptRunner.Proofs.Accounts
import ScriptRunner.Proofs.EmptyWalks
import ScriptRunner.Proofs.StrippedLines
import ScriptRunner.Proofs.Directives
import ScriptRunner.Proofs.StatementNumbers
import ScriptRunner.Proofs.Specificity
import ScriptRunner.Proofs.QuietLogging
