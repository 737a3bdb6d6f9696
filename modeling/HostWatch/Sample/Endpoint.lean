import HostWatch.Sample.Resource
set_option autoImplicit false

/-!
# Sample: endpoints

What one probe of an HTTP endpoint found, with its JSON form, and the count of
good and bad results of a round.
-/

namespace HostWatch

open HostWatch.Time (Instant)

/-- The result of probing an endpoint. -/
structure EndpointResult where
  name : String
  url : String
  /-- the status of the answer, when there was one -/
  status : Option UInt16
  latencyMillis : UInt64
  success : Bool
  error : Option String
  time : Instant
  deriving DecidableEq, Repr, Inhabited

namespace EndpointResult

/-- A result as an object. -/
def toJson (e : EndpointResult) : Json :=
  .obj [("name", .str e.name), ("url", .str e.url),
    ("status_code", .ofOption (fun c : UInt16 => .ofNat c.toNat) e.status),
    ("latency_ms", .ofNat e.latencyMillis.toNat), ("success", .bool e.success),
    ("error", .ofOption .str e.error), ("timestamp", e.time.toJson)]

/-- A result from a record. -/
def ofJson? (v : Json) : Option EndpointResult := do
  let r ← Json.Record.ofJson? .json
    ["name", "url", "status_code", "latency_ms", "success", "error", "timestamp"] v
  return {
    name := ← r.required "name" Json.text?
    url := ← r.required "url" Json.text?
    status := ← r.optional "status_code" Json.uint16?
    latencyMillis := ← r.required "latency_ms" Json.uint64?
    success := ← r.required "success" Json.bool?
    error := ← r.optional "error" Json.text?
    time := ← r.required "timestamp" Instant.ofJson? }

end EndpointResult

/-- How many of a number of things are good. -/
structure Tally where
  total : Nat
  good : Nat
  deriving DecidableEq, Repr, Inhabited

namespace Tally

/-- The tally of a list of verdicts. -/
def ofList (flags : List Bool) : Tally := ⟨flags.length, flags.count true⟩

/-- How many are not good. -/
def bad (t : Tally) : Nat := t.total - t.good

/-- The good share in percent; none of nothing is zero. -/
def rate (t : Tally) : Float :=
  if t.total = 0 then 0.0 else t.good.toFloat / t.total.toFloat * 100.0

end Tally

/-- How many results of a round are good. -/
def EndpointResult.tally (results : List EndpointResult) : Tally :=
  .ofList (results.map (·.success))

end HostWatch
