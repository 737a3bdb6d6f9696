import HostWatch.Monitor.Outside
import HostWatch.Monitor.Slots
set_option autoImplicit false

/-!
# Monitor: the journal

What a service has done, entry by entry: cycles, calls, handled events and log lines.
The questions that are asked about a service are answered from its journal.
-/

namespace HostWatch

/-- One entry of the journal. -/
inductive Entry where
  /-- a cycle began -/
  | began (domain : Domain) (time : Nat)
  /-- a call was made -/
  | called (domain : Domain) (call : Call) (span : Span)
  /-- an event was handled by the dispatcher -/
  | handled (handling : Handling)
  /-- a cycle was finished, having queued or taken a number of events -/
  | finished (domain : Domain) (count time : Nat)
  /-- a collaborator broke down -/
  | broke (domain : Domain)
  /-- a line was logged -/
  | logged (line : LogLine)
  deriving Inhabited

namespace Entry

/-- The log lines of a journal. -/
def logs (journal : List Entry) : List LogLine :=
  journal.filterMap fun
    | .logged line => some line
    | _ => none

/-- What became of the events that were handled. -/
def handlings (journal : List Entry) : List Handling :=
  journal.filterMap fun
    | .handled h => some h
    | _ => none

/-- The events that every channel was asked to send. -/
def sent (journal : List Entry) : List AlertEvent := Handling.sent (handlings journal)

/-- The paths of each collection of resources. -/
def collections (journal : List Entry) : List (List String) :=
  journal.filterMap fun
    | .called _ (.collect paths) _ => some paths
    | _ => none

/-- The endpoints that were probed, with the times of the probes. -/
def probes (journal : List Entry) : List (String × Span) :=
  journal.filterMap fun
    | .called _ (.probe check) span => some (check.name, span)
    | _ => none

/-- The names of each listing of containers. -/
def listings (journal : List Entry) : List (List String) :=
  journal.filterMap fun
    | .called _ (.list names) _ => some names
    | _ => none

/-- How many events the last finished cycle of a domain queued or took. -/
def lastCount (domain : Domain) (journal : List Entry) : Nat :=
  ((journal.filterMap fun
    | .finished d count _ => if d = domain then some count else none
    | _ => none).getLast?).getD 0

end Entry

end HostWatch
