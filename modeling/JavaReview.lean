import JavaReview.Command.Address
import JavaReview.Command.Analyze
import JavaReview.Command.Arguments
import JavaReview.Command.Name
import JavaReview.Command.Reviews
import JavaReview.Command.Rules
import JavaReview.Command.Run
import JavaReview.Command.Session
import JavaReview.Command.Style
import JavaReview.Command.Value
import JavaReview.Command.Workspace
import JavaReview.Comparison
import JavaReview.Config
import JavaReview.Counts
import JavaReview.Diagnostic
import JavaReview.Engine
import JavaReview.File.Disk
import JavaReview.File.Node
import JavaReview.File.Tree
import JavaReview.Finding
import JavaReview.Http.Cookie
import JavaReview.Http.Form
import JavaReview.Http.MediaType
import JavaReview.Http.Message
import JavaReview.Http.QuotedPrintable
import JavaReview.Http.Target
import JavaReview.Json.Fit
import JavaReview.Json.Number
import JavaReview.Json.Read
import JavaReview.Json.Value
import JavaReview.Json.Write
import JavaReview.Log
import JavaReview.Main
import JavaReview.Password
import JavaReview.Path
import JavaReview.Pattern.Basic
import JavaReview.Pattern.CharClass
import JavaReview.Pattern.Matcher
import JavaReview.Pattern.OnePass
import JavaReview.Pattern.Parse
import JavaReview.Pattern.Program
import JavaReview.Pattern.Reading
import JavaReview.Pattern.Tree
import JavaReview.Registry
import JavaReview.Report
import JavaReview.Report.Html
import JavaReview.Report.Text
import JavaReview.Review
import JavaReview.Review.Json
import JavaReview.Rule
import JavaReview.Rule.Block
import JavaReview.Rule.Builtin
import JavaReview.Rule.InfiniteLoop
import JavaReview.Rule.LineRules
import JavaReview.Rule.Loops
import JavaReview.Rule.Unreachable
import JavaReview.Rule.UnusedImport
import JavaReview.Rule.UnusedVariable
import JavaReview.RulePack
import JavaReview.Server.Analyze
import JavaReview.Server.Auth
import JavaReview.Server.Basic
import JavaReview.Server.Reviews
import JavaReview.Server.Route
import JavaReview.Server.Rules
import JavaReview.Server.Waivers
import JavaReview.Source.Lines
import JavaReview.Source.Load
import JavaReview.Startup
import JavaReview.Store.Archive
import JavaReview.Store.Basic
import JavaReview.Store.Json
import JavaReview.Store.Opening
import JavaReview.Store.Reviews
import JavaReview.Store.RuleStates
import JavaReview.Store.Setting
import JavaReview.Store.Sign
import JavaReview.Store.Source
import JavaReview.Store.Time
import JavaReview.Store.Users
import JavaReview.Store.Waivers
import JavaReview.Text.Base64
import JavaReview.Text.Binary64
import JavaReview.Text.Bytes
import JavaReview.Text.Case
import JavaReview.Text.Decimal
import JavaReview.Text.Html
import JavaReview.Text.Quoted
import JavaReview.Text.Search
import JavaReview.Text.Space
import JavaReview.Text.Unicode.CaseMap
import JavaReview.Text.Unicode.Category
import JavaReview.Text.Unicode.Ranges
import JavaReview.Text.Unicode.Script
import JavaReview.Time.Calendar
import JavaReview.Time.HttpDate
import JavaReview.Time.Instant
import JavaReview.Time.Rfc3339
import JavaReview.Token
import JavaReview.Toolbox
import JavaReview.Toolbox.Rpc
import JavaReview.TypeName
import JavaReview.Waiver
import JavaReview.Word
import JavaReview.Yaml.Cursor
import JavaReview.Yaml.Expansion
import JavaReview.Yaml.Node
import JavaReview.Yaml.Place
import JavaReview.Yaml.Record
import JavaReview.Yaml.Scalar
import JavaReview.Yaml.Text
import JavaReview.Yaml.Token
import JavaReview.Yaml.Window
import JavaReview.Proofs.Basic
import JavaReview.Proofs.Engine.Segments
import JavaReview.Proofs.Registry.Flags
import JavaReview.Proofs.Engine.Toggling
import JavaReview.Proofs.Comparison.Keys
import JavaReview.Proofs.Comparison.Occurrences
import JavaReview.Proofs.Comparison.Matching
import JavaReview.Proofs.Time.Calendar
import JavaReview.Proofs.Time.Digits
import JavaReview.Proofs.Time.TextOrder
import JavaReview.Proofs.Store.Expiry
import JavaReview.Proofs.Store.Operations
import JavaReview.Proofs.Store.Tables
import JavaReview.Proofs.Store.Consistency
import JavaReview.Proofs.Time.RoundTrip
import JavaReview.Proofs.Store.Reloading
import JavaReview.Proofs.Server.Steps
import JavaReview.Proofs.Registry.StoredFlags
import JavaReview.Proofs.Server.Restart
import JavaReview.Proofs.Waiver.Algebra
import JavaReview.Proofs.Store.Additions
import JavaReview.Proofs.Command.Analyzing
import JavaReview.Proofs.Intake
import JavaReview.Proofs.Engine.Faults
import JavaReview.Proofs.Server.Guards
import JavaReview.Proofs.Server.Visits
import JavaReview.Proofs.Server.Sessions
import JavaReview.Proofs.Server.Overlap
import JavaReview.Proofs.Engine.Progress
import JavaReview.Proofs.Engine.Interleaving
import JavaReview.Proofs.Engine.Batch
import JavaReview.Proofs.Rule.Compiling
import JavaReview.Proofs.Rule.Lines
import JavaReview.Proofs.Engine.Counted
import JavaReview.Proofs.Store.Failures
import JavaReview.Proofs.Http.Query
import JavaReview.Proofs.Server.Paging
import JavaReview.Proofs.Rule.BlankLines
import JavaReview.Proofs.Source.LineEnds
import JavaReview.Proofs.Report.Reloaded
import JavaReview.Proofs.Json.RoundTrip
import JavaReview.Proofs.Report.Decoding
import JavaReview.Proofs.Report.Markup
import JavaReview.Proofs.Server.BodyLimit
import JavaReview.Proofs.File.Writing
import JavaReview.Proofs.Report.Files
import JavaReview.Proofs.Command.Reporting
import JavaReview.Proofs.Rule.LoopBlocks
import JavaReview.Proofs.Rule.LoopScan
import JavaReview.Proofs.Rule.PassedOver
import JavaReview.Proofs.Rule.LoopReads
import JavaReview.Proofs.Rule.LoopBreak
import JavaReview.Proofs.Rule.LineScan
import JavaReview.Proofs.Rule.AfterExit
import JavaReview.Proofs.Rule.BlockExtent
import JavaReview.Proofs.Rule.BraceTotals
import JavaReview.Proofs.Rule.ConcatInLoop
import JavaReview.Proofs.Rule.UnusedImports
import JavaReview.Proofs.Rule.UnusedVariables
import JavaReview.Proofs.Rule.DeclaredNames
import JavaReview.Proofs.Rule.NestedLoops
import JavaReview.Proofs.Registry.Calls
import JavaReview.Proofs.Registry.Index
import JavaReview.Proofs.Registry.Packs
import JavaReview.Proofs.Text.Bytes
import JavaReview.Proofs.Text.Case
import JavaReview.Proofs.Password
import JavaReview.Proofs.File.Cleaning
import JavaReview.Proofs.File.Reading
import JavaReview.Proofs.Source.Loading
import JavaReview.Proofs.Report.Placing
import JavaReview.Proofs.Registry.SentStates
