import HostWatch.Monitor.Cycle
set_option autoImplicit false

/-!
# Monitor: the outside

The outside of a monitor is a state of any type with a function for each kind of call.
An answer comes with the time it takes, and a collaborator that breaks down gives none.
An event is handed to all channels together, and one that breaks down leaves the answers of
the others without a reader.
-/

namespace HostWatch

open HostWatch.Time (Instant)

/-- The answer to a call: how many milliseconds it takes, and what it is.  A collaborator
that breaks down gives none. -/
structure Answer (α : Type) where
  takes : Nat
  outcome : Option (Except Fault α)

/-- What a channel answers to an event. -/
inductive Receipt where
  /-- the delivery is over: why it failed, if it did -/
  | given (failure : Option String)
  /-- the channel broke down -/
  | missing
  deriving DecidableEq, Repr, Inhabited

namespace Receipt

instance : Coe (Option String) Receipt := ⟨given⟩

/-- The channel broke down. -/
def isMissing : Receipt → Bool
  | given _ => false
  | missing => true

/-- Why the delivery failed, as far as the channel says so. -/
def failure : Receipt → Option String
  | given failure => failure
  | missing => none

/-- What so many channels reply to an event; nothing if one of them broke down. -/
def outcome (receipts : Nat → Receipt) (channels : Nat) : Option (Nat → Option String) :=
  if (List.range channels).any fun i => (receipts i).isMissing then none
  else some fun i => (receipts i).failure

end Receipt

/-- What the channels answer to an event, and how long they take. -/
structure Acknowledgement where
  takes : Nat
  reply : Nat → Receipt

/-- The collaborators of a monitor. -/
structure Collaborators (σ : Type) where
  /-- reads the resources, with the disks of the given paths -/
  collect : σ → List String → σ × Answer ResourceSample
  /-- probes an endpoint -/
  probe : σ → EndpointCheck → σ × Answer EndpointResult
  /-- there is a container runtime -/
  hasRuntime : Bool
  /-- asks whether the container runtime can be used -/
  ready : σ → Except Fault Unit
  /-- lists the containers with the given names -/
  list : σ → List String → σ × Answer (List ContainerSample)
  /-- hands an event to every channel -/
  deliver : σ → AlertEvent → σ × Acknowledgement
  /-- the time of day -/
  wallClock : σ → Instant

/-- One call to the outside. -/
inductive Call where
  | collect (paths : List String)
  | probe (check : EndpointCheck)
  | list (names : List String)
  | deliver (event : AlertEvent)
  deriving DecidableEq, Inhabited

/-- What came back from a call. -/
inductive Reply where
  | sampled (outcome : Except Fault ResourceSample)
  | probed (check : EndpointCheck) (outcome : Except Fault EndpointResult)
  | listed (outcome : Except Fault (List ContainerSample))
  | handled (handling : Handling)
  deriving Inhabited

end HostWatch
