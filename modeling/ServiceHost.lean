import ServiceHost.CommandLine
import ServiceHost.Config.Decode
import ServiceHost.Config.Document
import ServiceHost.Config.Load
import ServiceHost.Config.Schema
import ServiceHost.Config.Validation
import ServiceHost.Coordination.Options
import ServiceHost.Decimal.Nearest
import ServiceHost.Decimal.Shortest
import ServiceHost.Duration
import ServiceHost.Http.Body
import ServiceHost.Http.Envelope
import ServiceHost.Http.Health
import ServiceHost.Http.Message
import ServiceHost.Http.Options
import ServiceHost.Http.Route
import ServiceHost.Http.Router
import ServiceHost.Http.Sample
import ServiceHost.Json.Number
import ServiceHost.Json.Reader
import ServiceHost.Json.Token
import ServiceHost.Json.Value
import ServiceHost.Json.Writer
import ServiceHost.Lifecycle.Behavior
import ServiceHost.Lifecycle.Coordinator
import ServiceHost.Lifecycle.Drain
import ServiceHost.Lifecycle.Error
import ServiceHost.Lifecycle.Event
import ServiceHost.Lifecycle.Host
import ServiceHost.Lifecycle.Metrics
import ServiceHost.Lifecycle.Phase
import ServiceHost.Lifecycle.Readiness
import ServiceHost.Lifecycle.Registry
import ServiceHost.Lifecycle.Resource
import ServiceHost.Lifecycle.Routine
import ServiceHost.Lifecycle.Scheduler
import ServiceHost.Lifecycle.Script
import ServiceHost.Lifecycle.Session
import ServiceHost.Lifecycle.Startup
import ServiceHost.Lifecycle.StopReason
import ServiceHost.Lifecycle.Trigger
import ServiceHost.Logging.Directive
import ServiceHost.Logging.FieldValue
import ServiceHost.Logging.Filter
import ServiceHost.Logging.Level
import ServiceHost.Logging.Pattern
import ServiceHost.Main
import ServiceHost.Net.Network
import ServiceHost.Net.SocketAddress
import ServiceHost.Proofs.Config.Endpoint
import ServiceHost.Proofs.Config.Overlay
import ServiceHost.Proofs.Config.ReadBack
import ServiceHost.Proofs.Config.Rewritten
import ServiceHost.Proofs.Config.Rules
import ServiceHost.Proofs.Config.Settings
import ServiceHost.Proofs.Config.Written
import ServiceHost.Proofs.Http.Accepted
import ServiceHost.Proofs.Http.BodyLimit
import ServiceHost.Proofs.Http.Envelope
import ServiceHost.Proofs.Http.RequestId
import ServiceHost.Proofs.Http.Timeout
import ServiceHost.Proofs.Json.Canonical
import ServiceHost.Proofs.Json.Document
import ServiceHost.Proofs.Json.Grammar
import ServiceHost.Proofs.Json.Lexical
import ServiceHost.Proofs.Json.Meaning
import ServiceHost.Proofs.Json.Tokens
import ServiceHost.Proofs.Lifecycle.Account
import ServiceHost.Proofs.Lifecycle.Alarm
import ServiceHost.Proofs.Lifecycle.Arrival
import ServiceHost.Proofs.Lifecycle.Attempts
import ServiceHost.Proofs.Lifecycle.Beside
import ServiceHost.Proofs.Lifecycle.Books
import ServiceHost.Proofs.Lifecycle.Boot
import ServiceHost.Proofs.Lifecycle.Calls
import ServiceHost.Proofs.Lifecycle.Causes
import ServiceHost.Proofs.Lifecycle.Channel
import ServiceHost.Proofs.Lifecycle.Close
import ServiceHost.Proofs.Lifecycle.Conduct
import ServiceHost.Proofs.Lifecycle.Dialing
import ServiceHost.Proofs.Lifecycle.Drain
import ServiceHost.Proofs.Lifecycle.Guest
import ServiceHost.Proofs.Lifecycle.Hear
import ServiceHost.Proofs.Lifecycle.History
import ServiceHost.Proofs.Lifecycle.Idle
import ServiceHost.Proofs.Lifecycle.Late
import ServiceHost.Proofs.Lifecycle.Life
import ServiceHost.Proofs.Lifecycle.Moments
import ServiceHost.Proofs.Lifecycle.Move
import ServiceHost.Proofs.Lifecycle.Outcome
import ServiceHost.Proofs.Lifecycle.Panics
import ServiceHost.Proofs.Lifecycle.Peers
import ServiceHost.Proofs.Lifecycle.Phases
import ServiceHost.Proofs.Lifecycle.Reason
import ServiceHost.Proofs.Lifecycle.Reckoning
import ServiceHost.Proofs.Lifecycle.Report
import ServiceHost.Proofs.Lifecycle.RequestedStop
import ServiceHost.Proofs.Lifecycle.Routing
import ServiceHost.Proofs.Lifecycle.Run
import ServiceHost.Proofs.Lifecycle.Serving
import ServiceHost.Proofs.Lifecycle.Sharing
import ServiceHost.Proofs.Lifecycle.Shutdown
import ServiceHost.Proofs.Lifecycle.Steps
import ServiceHost.Proofs.Lifecycle.Success
import ServiceHost.Proofs.Lifecycle.Table
import ServiceHost.Proofs.Lifecycle.Takes
import ServiceHost.Proofs.Text.Digit
import ServiceHost.Proofs.Toml.Lines
import ServiceHost.Proofs.Toml.Tables
import ServiceHost.Service
import ServiceHost.Text.Alphanumeric
import ServiceHost.Text.Blank
import ServiceHost.Text.Digit
import ServiceHost.Text.Printable
import ServiceHost.Text.Quoted
import ServiceHost.Text.Ranges
import ServiceHost.Text.Slice
import ServiceHost.Text.Split
import ServiceHost.Text.Utf8
import ServiceHost.Toml.Moment
import ServiceHost.Toml.Numeral
import ServiceHost.Toml.Quoted
import ServiceHost.Toml.Statement
import ServiceHost.Toml.Table
