import HostWatch.Alert.Book
import HostWatch.Alert.Dispatcher
import HostWatch.History.Store
set_option autoImplicit false

/-!
# Monitor: the state

Everything that the monitor remembers: the history, the book of unhealthy episodes,
the events that wait for dispatch, and the dispatcher.  The configuration does not
change while the monitor runs.
-/

namespace HostWatch

open HostWatch.Time (Instant)

/-- What the monitor watches, and the dispatch of what it finds. -/
inductive Domain where
  | resources
  | endpoints
  | containers
  | dispatch
  deriving DecidableEq, Repr, Inhabited

/-- The name of a domain. -/
def Domain.text : Domain → String
  | resources => "resources"
  | endpoints => "endpoints"
  | containers => "containers"
  | dispatch => "dispatch"

/-- The state of a monitor. -/
structure Monitor where
  config : MonitorConfig
  history : History
  book : AlertBook
  pending : AlertQueue
  dispatcher : Dispatcher
  startedAt : Instant
  deriving Inhabited

/-- What a monitor reports about itself. -/
structure MonitorStatus where
  appName : String
  startedAt : Instant
  uptimeSecs : Int
  history : HistoryStatus
  pending : Nat
  trackedStates : Nat
  channels : List String
  deriving DecidableEq, Repr, Inhabited

/-- A status as an object. -/
def MonitorStatus.toJson (s : MonitorStatus) : Json :=
  .obj [("app_name", .str s.appName), ("started_at", s.startedAt.toJson),
    ("uptime_secs", .int s.uptimeSecs), ("history", s.history.toJson),
    ("pending_alerts", .ofNat s.pending), ("tracked_states", .ofNat s.trackedStates),
    ("channels", .ofStrings s.channels)]

namespace Monitor

/-- A monitor that has done nothing yet. -/
def new (config : MonitorConfig) (channels : List String) (now : Instant) : Monitor where
  config := config
  history := .new config.historyCapacity.toNat
  book := .new AlertBook.defaultThreshold
  pending := .empty
  dispatcher := .new config.alerting channels
  startedAt := now

/-- What the monitor reports about itself. -/
def status (m : Monitor) (now : Instant) : MonitorStatus where
  appName := m.config.appName
  startedAt := m.startedAt
  uptimeSecs := (m.startedAt.elapsed now).tdiv 1000000000
  history := m.history.status now
  pending := m.pending.size
  trackedStates := m.book.size
  channels := m.dispatcher.channels

end Monitor

end HostWatch
