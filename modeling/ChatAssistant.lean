import ChatAssistant.Table
import ChatAssistant.Text.LowerCase
import ChatAssistant.Text.Quoted
import ChatAssistant.Text.Utf8
import ChatAssistant.Number.Layout
import ChatAssistant.Number.Decimal
import ChatAssistant.Json.Printer
import ChatAssistant.Json.Record
import ChatAssistant.Yaml.Value
import ChatAssistant.Yaml.Printer
import ChatAssistant.Config.Refresh
import ChatAssistant.Settings.Store
import ChatAssistant.Settings.Watcher
import ChatAssistant.Conversation.Client
import ChatAssistant.Gateway.Answer
import ChatAssistant.Gateway.Exchange
import ChatAssistant.Command.Completion
import ChatAssistant.Command.Session
import ChatAssistant.CommandLine.Help
import ChatAssistant.CommandLine.Program
import ChatAssistant.Main
import ChatAssistant.Proofs.Channel
import ChatAssistant.Proofs.Config.Update
import ChatAssistant.Proofs.Config.Parameter
import ChatAssistant.Proofs.Json.Document
import ChatAssistant.Proofs.Json.Valued
import ChatAssistant.Proofs.Gateway.Completion
import ChatAssistant.Proofs.Number.Order
import ChatAssistant.Proofs.Config.Sendable
import ChatAssistant.Proofs.Command.Effect
import ChatAssistant.Proofs.Command.Course
import ChatAssistant.Proofs.Command.InForce
import ChatAssistant.Proofs.Command.Failure
import ChatAssistant.Proofs.Dialogue
import ChatAssistant.Proofs.Settings.SignedZero
import ChatAssistant.Proofs.Settings.Watching
import ChatAssistant.Proofs.Settings.Freshness
import ChatAssistant.Proofs.Settings.UpToDate
import ChatAssistant.Proofs.Conversation.Desk
import ChatAssistant.Proofs.Conversation.Ledger
import ChatAssistant.Proofs.Conversation.Recorded
import ChatAssistant.Proofs.Conversation.Requests
import ChatAssistant.Proofs.Conversation.Stream
import ChatAssistant.Proofs.Json.Spelling
import ChatAssistant.Proofs.Json.Scaling
import ChatAssistant.Proofs.Json.Written
import ChatAssistant.Proofs.Number.Shortest
import ChatAssistant.Proofs.Json.Figures
import ChatAssistant.Proofs.Gateway.RequestBody
import ChatAssistant.Proofs.Config.Agreement
import ChatAssistant.Proofs.Conversation.Likeness
import ChatAssistant.Proofs.Conversation.KeySecrecy
import ChatAssistant.Proofs.Conversation.Snapshots
import ChatAssistant.Proofs.Gateway.UsageReports
import ChatAssistant.Proofs.Settings.Overrides
import ChatAssistant.Proofs.Dialogue.Replies
import ChatAssistant.Proofs.Files
import ChatAssistant.Proofs.Table
import ChatAssistant.Proofs.Number.Canonical
import ChatAssistant.Proofs.Number.Digits
import ChatAssistant.Proofs.Number.ReadBack
import ChatAssistant.Proofs.Json.Layouts
import ChatAssistant.Proofs.Json.Doubles
import ChatAssistant.Proofs.Yaml.RoundTrip
import ChatAssistant.Proofs.Yaml.Legible
import ChatAssistant.Proofs.Yaml.Readings
import ChatAssistant.Proofs.Settings.Saved
import ChatAssistant.Proofs.Command.Saved
import ChatAssistant.Proofs.Command.SettingsFile
import ChatAssistant.Proofs.Text.Words
import ChatAssistant.Proofs.Terminal.Wrapping
import ChatAssistant.Proofs.Terminal.Indentation
import ChatAssistant.Proofs.Text.Blank
import ChatAssistant.Proofs.Gateway.Refusal
import ChatAssistant.Proofs.Settings.Differences
import ChatAssistant.Proofs.Number.Closeness
import ChatAssistant.Proofs.Json.Accuracy
import ChatAssistant.Proofs.Json.Verbatim
import ChatAssistant.Proofs.Json.Denotation
import ChatAssistant.Proofs.Config.TokenLimit
import ChatAssistant.Proofs.Command.TypedKey
import ChatAssistant.Proofs.CommandLine.Precedence
import ChatAssistant.Proofs.CommandLine.OneShot
import ChatAssistant.Proofs.Settings.Sections
import ChatAssistant.Proofs.Command.Completion
import ChatAssistant.Proofs.Timestamp.Calendar
import ChatAssistant.Proofs.Message.Canonical
