import RunOperator.Api.Calls
import RunOperator.Api.Credentials
import RunOperator.Api.Dialogue
import RunOperator.Api.Status
import RunOperator.Api.Watcher
import RunOperator.Client.Error
import RunOperator.CommandLine.Basic
import RunOperator.CommandLine.Parser
import RunOperator.Config.Basic
import RunOperator.Config.Decode
import RunOperator.Config.Dotenv
import RunOperator.Config.Layer
import RunOperator.Config.Source
import RunOperator.Instant.Basic
import RunOperator.Instant.Calendar
import RunOperator.Instant.Format
import RunOperator.Instant.Parser
import RunOperator.Json.Basic
import RunOperator.Json.Binary64
import RunOperator.Json.Decode
import RunOperator.Json.Parser
import RunOperator.Json.Printer
import RunOperator.Lifecycle.Evaluation
import RunOperator.Lifecycle.Stamps
import RunOperator.Lifecycle.State
import RunOperator.Main
import RunOperator.Monitor.Basic
import RunOperator.Monitor.Poll
import RunOperator.Operator.Session
import RunOperator.Pattern.Bracket
import RunOperator.Pattern.CharSet
import RunOperator.Pattern.Escape
import RunOperator.Pattern.Expr
import RunOperator.Pattern.Parser
import RunOperator.Pattern.Size
import RunOperator.Proofs.ActionEffects
import RunOperator.Proofs.ApiPolls
import RunOperator.Proofs.Attendance
import RunOperator.Proofs.Broadcast
import RunOperator.Proofs.Cancellation
import RunOperator.Proofs.CanonicalTimestamps
import RunOperator.Proofs.ClusterView
import RunOperator.Proofs.Custody
import RunOperator.Proofs.Durations
import RunOperator.Proofs.Evaluation
import RunOperator.Proofs.Exclusion
import RunOperator.Proofs.Exits
import RunOperator.Proofs.FailedPolls
import RunOperator.Proofs.Feed
import RunOperator.Proofs.Filtering
import RunOperator.Proofs.GiveUpTime
import RunOperator.Proofs.InjectedFailures
import RunOperator.Proofs.Layering
import RunOperator.Proofs.Leases
import RunOperator.Proofs.LostUpdate
import RunOperator.Proofs.Members
import RunOperator.Proofs.MetadataTimes
import RunOperator.Proofs.MonotoneLifecycle
import RunOperator.Proofs.Noninterference
import RunOperator.Proofs.Orphans
import RunOperator.Proofs.PassThrough
import RunOperator.Proofs.PollOutcomes
import RunOperator.Proofs.PollRecord
import RunOperator.Proofs.Provenance
import RunOperator.Proofs.Replica
import RunOperator.Proofs.Resumption
import RunOperator.Proofs.RetryAccounting
import RunOperator.Proofs.Rounding
import RunOperator.Proofs.RunFields
import RunOperator.Proofs.Shutdown
import RunOperator.Proofs.SourceOrder
import RunOperator.Proofs.Staffing
import RunOperator.Proofs.StampedLives
import RunOperator.Proofs.Startup
import RunOperator.Proofs.StoreEffects
import RunOperator.Proofs.Tenure
import RunOperator.Proofs.Utf8
import RunOperator.Proofs.Variables
import RunOperator.Proofs.Versions
import RunOperator.Proofs.Wakeups
import RunOperator.Proofs.WireFormat
import RunOperator.Registry.Basic
import RunOperator.Run.Basic
import RunOperator.Run.Codec
import RunOperator.Run.Filter
import RunOperator.Run.Key
import RunOperator.Run.Metadata
import RunOperator.Store.Basic
import RunOperator.Text.Blank
import RunOperator.Text.Digit
import RunOperator.Text.Quoted
import RunOperator.Text.Raw
import RunOperator.Token.Basic
import RunOperator.Toml.Basic
import RunOperator.Toml.Document
import RunOperator.Toml.Number
import RunOperator.Toml.Text
import RunOperator.Unicode.Category
import RunOperator.Unicode.Folding
import RunOperator.Unicode.Letter
import RunOperator.Unicode.Property
import RunOperator.Unicode.Ranges
import RunOperator.Unicode.Script
import RunOperator.Watch.Event
import RunOperator.Watch.Roster
import RunOperator.World.Basic
import RunOperator.World.Clock
import RunOperator.Yaml.Document
import RunOperator.Yaml.Value
