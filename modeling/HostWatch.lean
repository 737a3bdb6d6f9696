import HostWatch.Alert.Book
import HostWatch.Alert.Dispatcher
import HostWatch.Alert.Event
import HostWatch.Alert.Finding
import HostWatch.Alert.Notice
import HostWatch.Alert.Queue
import HostWatch.CommandLine.Arguments
import HostWatch.CommandLine.Check
import HostWatch.CommandLine.LogFilter
import HostWatch.Config.Basic
import HostWatch.Config.EnvFile
import HostWatch.Config.Environment
import HostWatch.Config.Load
import HostWatch.Config.Overrides
import HostWatch.Config.Record
import HostWatch.Config.Rules
import HostWatch.Docker.Listing
import HostWatch.Docker.Output
import HostWatch.DomainName.Label
import HostWatch.DomainName.Mapping
import HostWatch.DomainName.Punycode
import HostWatch.Fault
import HostWatch.History.Store
import HostWatch.History.Window
import HostWatch.Host.File
import HostWatch.Host.Info
import HostWatch.Host.Mount
import HostWatch.Host.Path
import HostWatch.Json.Basic
import HostWatch.Json.Parse
import HostWatch.Json.Record
import HostWatch.Json.Render
import HostWatch.Json.Tagged
import HostWatch.KeyMap
import HostWatch.Log
import HostWatch.Main
import HostWatch.Monitor.Basic
import HostWatch.Monitor.Cycle
import HostWatch.Monitor.Journal
import HostWatch.Monitor.Outside
import HostWatch.Monitor.Service
import HostWatch.Monitor.Slots
import HostWatch.Monitor.Ticker
import HostWatch.Notify.Delivery
import HostWatch.Notify.Mailbox
import HostWatch.Notify.Transport
import HostWatch.Number.Binary
import HostWatch.Number.Decimal
import HostWatch.Number.Places
import HostWatch.Number.Shortest
import HostWatch.Rehearsal.FileTree
import HostWatch.Rehearsal.Harness
import HostWatch.Rehearsal.Script
import HostWatch.Sample.Container
import HostWatch.Sample.Endpoint
import HostWatch.Sample.Resource
import HostWatch.Stats.Server
import HostWatch.Text.Base64
import HostWatch.Text.Blank
import HostWatch.Text.CodeRange
import HostWatch.Text.Composition
import HostWatch.Text.Cursive
import HostWatch.Text.Direction
import HostWatch.Text.Hidden
import HostWatch.Text.Letter
import HostWatch.Text.Mark
import HostWatch.Text.Quoted
import HostWatch.Text.Uppercase
import HostWatch.Text.Utf8
import HostWatch.Time.Instant
import HostWatch.Time.Timestamp
import HostWatch.Toml.Parse
import HostWatch.Toml.Scalar
import HostWatch.Toml.Table
import HostWatch.Toml.Text
import HostWatch.Web.Basic
import HostWatch.Web.Probe
import HostWatch.Proofs.Alert.Debounce
import HostWatch.Proofs.Alert.Episode
import HostWatch.Proofs.Alert.Cooldown
import HostWatch.Proofs.Alert.Delivery
import HostWatch.Proofs.Alert.Snapshot
import HostWatch.Proofs.History.Retention
import HostWatch.Proofs.Monitor.Channels
import HostWatch.Proofs.Monitor.SingleCycle
import HostWatch.Proofs.Monitor.Subject
import HostWatch.Proofs.Monitor.Interleaving
import HostWatch.Proofs.Monitor.Uninterrupted
import HostWatch.Proofs.Monitor.Answers
import HostWatch.Proofs.Monitor.Failure
import HostWatch.Proofs.Monitor.Due
import HostWatch.Proofs.Config.Accepted
import HostWatch.Proofs.Config.Validation
import HostWatch.Proofs.Config.Ignored
import HostWatch.Proofs.Monitor.EndpointRun
import HostWatch.Proofs.Monitor.SampleReading
import HostWatch.Proofs.Monitor.DiskRun
import HostWatch.Proofs.Number.Order
import HostWatch.Proofs.Number.Value
import HostWatch.Proofs.Monitor.LoadRun
import HostWatch.Proofs.Stats.Access
import HostWatch.Proofs.Monitor.Outage
import HostWatch.Proofs.Monitor.Sight
import HostWatch.Proofs.Monitor.Tasks
import HostWatch.Proofs.Monitor.Running
import HostWatch.Proofs.Monitor.Closing
import HostWatch.Proofs.Monitor.Carrying
import HostWatch.Proofs.Monitor.Shutdown
import HostWatch.Proofs.Monitor.Beat
import HostWatch.Proofs.Monitor.Keeping
import HostWatch.Proofs.Monitor.Schedule
import HostWatch.Proofs.Monitor.FirstTick
import HostWatch.Proofs.Monitor.Slots
import HostWatch.Proofs.Monitor.Probing
import HostWatch.Proofs.Config.AllowList
import HostWatch.Proofs.Config.Locality
import HostWatch.Proofs.Json.Overlay
import HostWatch.Proofs.Config.Defaults
import HostWatch.Proofs.Time.Calendar
import HostWatch.Proofs.Time.Timestamp
import HostWatch.Proofs.Json.RoundTrip
import HostWatch.Proofs.Json.Records
import HostWatch.Proofs.Text.Base64
import HostWatch.Proofs.Text.Utf8
import HostWatch.Proofs.Stats.BasicAuth
import HostWatch.Proofs.Alert.Markup
import HostWatch.Proofs.Docker.Listing
import HostWatch.Proofs.Docker.Inspection
import HostWatch.Proofs.Host.DiskUsage
import HostWatch.Proofs.Config.Secrets
import HostWatch.Proofs.Config.Precedence
import HostWatch.Proofs.Notify.Startup
import HostWatch.Proofs.Rehearsal.Replay
