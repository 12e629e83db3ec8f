import ChatEngine.ActionId
import ChatEngine.Answer
import ChatEngine.Bot.Basic
import ChatEngine.Bot.Builder
import ChatEngine.Bot.Run
import ChatEngine.Bundled.Karma
import ChatEngine.Bundled.Monday
import ChatEngine.Bundled.Versioner
import ChatEngine.Calendar.ClockChanges
import ChatEngine.Calendar.Date
import ChatEngine.Calendar.Moment
import ChatEngine.Calendar.Zone
import ChatEngine.Calendar.ZoneNames
import ChatEngine.CommandLine.Basic
import ChatEngine.Config.Basic
import ChatEngine.Config.Conversion
import ChatEngine.Config.Environment
import ChatEngine.Config.File
import ChatEngine.Config.Reader
import ChatEngine.Crc32
import ChatEngine.Decimal.Integer
import ChatEngine.Decimal.Shortest
import ChatEngine.Directory
import ChatEngine.Driver
import ChatEngine.Effect
import ChatEngine.Entries
import ChatEngine.Event
import ChatEngine.Fault
import ChatEngine.Json.Reader
import ChatEngine.Json.Writer
import ChatEngine.Log
import ChatEngine.Log.Pipeline
import ChatEngine.Lru
import ChatEngine.Mention
import ChatEngine.Message
import ChatEngine.Metrics.Registry
import ChatEngine.Metrics.Series
import ChatEngine.Plugin.Basic
import ChatEngine.Plugin.Help
import ChatEngine.Plugin.Registry
import ChatEngine.Plugin.Service
import ChatEngine.Processor
import ChatEngine.Program
import ChatEngine.Redaction.Basic
import ChatEngine.Redaction.Sanitize
import ChatEngine.Redaction.Template
import ChatEngine.Reply.Pending
import ChatEngine.Reply.Reconcile
import ChatEngine.Responses
import ChatEngine.Retry
import ChatEngine.Router
import ChatEngine.Schedule
import ChatEngine.Scheduler
import ChatEngine.Simulation.Description
import ChatEngine.Simulation.Report
import ChatEngine.Simulation.Script
import ChatEngine.Simulation.Session.Bundled
import ChatEngine.Simulation.Session.Configuring
import ChatEngine.Simulation.Session.Connecting
import ChatEngine.Simulation.Session.Launching
import ChatEngine.Simulation.Session.Logging
import ChatEngine.Simulation.Session.Messages
import ChatEngine.Simulation.Session.Metering
import ChatEngine.Simulation.Session.Plugins
import ChatEngine.Simulation.Session.Running
import ChatEngine.Simulation.Session.Testing
import ChatEngine.Simulation.Workspace
import ChatEngine.Slack.Connection
import ChatEngine.Slack.Request
import ChatEngine.Slack.Services
import ChatEngine.Store
import ChatEngine.Testing.Expectation
import ChatEngine.Testing.Tester
import ChatEngine.Text.CaseTable
import ChatEngine.Text.Char
import ChatEngine.Text.Format
import ChatEngine.Text.NameTable
import ChatEngine.Text.Pattern
import ChatEngine.Text.PrintableTable
import ChatEngine.Text.Quoted
import ChatEngine.Text.Trim
import ChatEngine.Text.Utf8
import ChatEngine.Text.WordTable
import ChatEngine.Trigger
import ChatEngine.Value
import ChatEngine.Value.Field
import ChatEngine.Value.Key
import ChatEngine.Yaml.Cursor
import ChatEngine.Yaml.Error
import ChatEngine.Yaml.Lexer.Basic
import ChatEngine.Yaml.Lexer.Scalar
import ChatEngine.Yaml.Lexer.Scan
import ChatEngine.Yaml.Node.Basic
import ChatEngine.Yaml.Node.Parser
import ChatEngine.Yaml.Node.Value
import ChatEngine.Yaml.Scalar
import ChatEngine.Yaml.Tag
import ChatEngine.Yaml.Token
import ChatEngine.Main
import ChatEngine.Proofs.LruEviction
import ChatEngine.Proofs.OutboxCalls
import ChatEngine.Proofs.Transcript
import ChatEngine.Proofs.LiveReplies
import ChatEngine.Proofs.TrackedReplies
import ChatEngine.Proofs.EditRevision
import ChatEngine.Proofs.LocalAccount
import ChatEngine.Proofs.RouterQueues
import ChatEngine.Proofs.PartitionedRuns
import ChatEngine.Proofs.FaultContainment
import ChatEngine.Proofs.BlindActions
import ChatEngine.Proofs.IdleEvents
import ChatEngine.Proofs.BlindRuns
import ChatEngine.Proofs.OwnMessages
import ChatEngine.Proofs.MalformedMessages
import ChatEngine.Proofs.PatternMatches
import ChatEngine.Proofs.RedactedTexts
import ChatEngine.Proofs.CachedProfiles
import ChatEngine.Proofs.CanonicalIntegers
import ChatEngine.Proofs.KarmaScores
import ChatEngine.Proofs.CompleteShutdown
import ChatEngine.Proofs.FreshStreams
import ChatEngine.Proofs.PrintedIdentities
import ChatEngine.Proofs.SealedRegistries
import ChatEngine.Proofs.TestedPlugins
import ChatEngine.Proofs.CounterReadings
import ChatEngine.Proofs.MeteredCalls
import ChatEngine.Proofs.MeteredRuns
import ChatEngine.Proofs.TrackedOrigins
import ChatEngine.Proofs.ReplyDifferences
import ChatEngine.Proofs.RepeatedDeletions
import ChatEngine.Proofs.ComposedReplies
import ChatEngine.Proofs.SparedOrigins
import ChatEngine.Proofs.ReplyDestinations
import ChatEngine.Proofs.TrimmedTexts
import ChatEngine.Proofs.MentionGrammar
import ChatEngine.Proofs.KarmaRankings
import ChatEngine.Proofs.UnreadableScores
import ChatEngine.Proofs.ValidSchedules
import ChatEngine.Proofs.ReplacedContents
import ChatEngine.Proofs.HeededStops
import ChatEngine.Proofs.ShownUsages
import ChatEngine.Proofs.TextLines
import ChatEngine.Proofs.HelpSections
import ChatEngine.Proofs.MergedOptions
import ChatEngine.Proofs.Checksums
import ChatEngine.Proofs.PartitionArithmetic
import ChatEngine.Proofs.SanitizedValues
import ChatEngine.Proofs.ScoreTables
import ChatEngine.Proofs.ChangedThings
import ChatEngine.Proofs.DoubleBits
import ChatEngine.Proofs.NearestDoubles
import ChatEngine.Proofs.DecimalDoubles
import ChatEngine.Proofs.ShortestDecimals
import ChatEngine.Proofs.Exposition
import ChatEngine.Proofs.NumberTexts
import ChatEngine.Proofs.ReadableExports
import ChatEngine.Proofs.OrderedDoubles
import ChatEngine.Proofs.HistogramBuckets
