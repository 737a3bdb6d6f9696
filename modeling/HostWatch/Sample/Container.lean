import HostWatch.Sample.Endpoint
set_option autoImplicit false

/-!
# Sample: containers

The state of one container, with its JSON form, and what is wrong with it, if
anything is.
-/

namespace HostWatch

open HostWatch.Time (Instant)

/-- The state of one container. -/
structure ContainerSample where
  id : String
  name : String
  /-- the runtime's words for the state, with its age -/
  status : String
  /-- the runtime's one word for the state -/
  state : String
  running : Bool
  restarts : UInt32
  exitCode : Int64
  error : Option String
  time : Instant
  deriving DecidableEq, Inhabited

namespace ContainerSample

/-- A container as an object. -/
def toJson (c : ContainerSample) : Json :=
  .obj [("container_id", .str c.id), ("name", .str c.name), ("status", .str c.status),
    ("state", .str c.state), ("running", .bool c.running),
    ("restart_count", .ofNat c.restarts.toNat), ("exit_code", .int c.exitCode.toInt),
    ("error", .ofOption .str c.error), ("timestamp", c.time.toJson)]

/-- A container from a record. -/
def ofJson? (v : Json) : Option ContainerSample := do
  let r ← Json.Record.ofJson? .json
    ["container_id", "name", "status", "state", "running", "restart_count", "exit_code", "error",
      "timestamp"] v
  return {
    id := ← r.required "container_id" Json.text?
    name := ← r.required "name" Json.text?
    status := ← r.required "status" Json.text?
    state := ← r.required "state" Json.text?
    running := ← r.required "running" Json.bool?
    restarts := ← r.required "restart_count" Json.uint32?
    exitCode := ← r.required "exit_code" Json.int64?
    error := ← r.optional "error" Json.text?
    time := ← r.required "timestamp" Instant.ofJson? }

/-- What is wrong with a container: it is stopped, or it exited with a code other
than zero and `137` (killed on request), or the runtime reports an error. -/
def problem? (c : ContainerSample) : Option String :=
  if !c.running then some ("Container " ++ c.name ++ " (" ++ c.id ++ ") is stopped")
  else if c.exitCode ≠ 0 && c.exitCode ≠ 137 then
    some ("Container " ++ c.name ++ " (" ++ c.id ++ ") exited with error code: "
      ++ Number.intText c.exitCode.toInt)
  else
    match c.error with
    | some e =>
      if e.isEmpty then none
      else some ("Container " ++ c.name ++ " (" ++ c.id ++ ") has error: " ++ e)
    | none => none

/-- How many containers of a round are running. -/
def tally (samples : List ContainerSample) : Tally := .ofList (samples.map (·.running))

end ContainerSample

end HostWatch
