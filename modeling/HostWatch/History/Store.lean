import HostWatch.Alert.Event
import HostWatch.History.Window
import HostWatch.Sample.Container
set_option autoImplicit false

/-!
# History: the four windows

Dispatched alerts, resource samples, endpoint results and container samples are kept
apart, each in a window of the same capacity.
-/

namespace HostWatch

open HostWatch.Time (Instant)

/-- What a window of the history holds. -/
inductive Category where
  | alerts
  | resources
  | endpoints
  | containers
  deriving DecidableEq, Repr, Inhabited

/-- The latest entries of every category. -/
structure History where
  alerts : Window AlertEvent
  resources : Window ResourceSample
  endpoints : Window EndpointResult
  containers : Window ContainerSample
  deriving Inhabited

/-- How many entries a history holds, and at which time. -/
structure HistoryStatus where
  alerts : Nat
  resources : Nat
  endpoints : Nat
  containers : Nat
  capacity : Nat
  time : Instant
  deriving DecidableEq, Repr, Inhabited

/-- A status as an object. -/
def HistoryStatus.toJson (s : HistoryStatus) : Json :=
  .obj [("alerts_count", .ofNat s.alerts), ("resources_count", .ofNat s.resources),
    ("endpoints_count", .ofNat s.endpoints), ("containers_count", .ofNat s.containers),
    ("max_history_size", .ofNat s.capacity), ("timestamp", s.time.toJson)]

namespace History

/-- A history without entries; a capacity of zero stands for the usual one. -/
def new (capacity : Nat) : History where
  alerts := .new capacity
  resources := .new capacity
  endpoints := .new capacity
  containers := .new capacity

/-- The number of entries of a category. -/
def count (h : History) : Category → Nat
  | .alerts => h.alerts.count
  | .resources => h.resources.count
  | .endpoints => h.endpoints.count
  | .containers => h.containers.count

/-- Drops the entries of a category. -/
def clear (h : History) : Category → History
  | .alerts => { h with alerts := h.alerts.clear }
  | .resources => { h with resources := h.resources.clear }
  | .endpoints => { h with endpoints := h.endpoints.clear }
  | .containers => { h with containers := h.containers.clear }

/-- The latest result of an endpoint. -/
def latestEndpoint? (h : History) (name : String) : Option EndpointResult :=
  h.endpoints.findLatest? (·.name == name)

/-- How many entries the history holds. -/
def status (h : History) (now : Instant) : HistoryStatus where
  alerts := h.alerts.count
  resources := h.resources.count
  endpoints := h.endpoints.count
  containers := h.containers.count
  capacity := h.alerts.capacity
  time := now

end History

end HostWatch
