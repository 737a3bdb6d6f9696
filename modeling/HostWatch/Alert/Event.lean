import HostWatch.Json.Record
import HostWatch.Sample.Resource
set_option autoImplicit false

/-!
# Alerts: levels and events

An event says that something has become unhealthy (`critical`) or healthy again
(`warning`).  Its kind is the key of what it is about, such as `cpu` or
`http_api`.
-/

namespace HostWatch

open HostWatch.Time (Instant)

/-- How grave an alert is. -/
inductive AlertLevel where
  /-- a recovery -/
  | warning
  /-- an outage -/
  | critical
  deriving DecidableEq, Repr, Inhabited

namespace AlertLevel

/-- The level in small letters. -/
def text : AlertLevel → String
  | warning => "warning"
  | critical => "critical"

/-- The level with a name. -/
def ofName? (name : String) : Option AlertLevel :=
  if name = "warning" then some warning
  else if name = "critical" then some critical
  else none

/-- The level that a text names, blanks around it and letter case aside; what is not
a level is refused with the reason. -/
def ofText (s : String) : Except String AlertLevel :=
  let name := Text.lowerAscii (Text.trim s)
  match ofName? name with
  | some level => .ok level
  | none => .error ("unknown alert level: " ++ name)

/-- The value stands for "no payload" in an object that names a level: `null` in JSON,
an empty array or table in TOML. -/
def isUnit : Json.Format → Json → Bool
  | .json, .null => true
  | .toml, .arr [] => true
  | .toml, .obj [] => true
  | _, _ => false

/-- A level from its name, or from an object whose only member is named for it. -/
def ofJson? (format : Json.Format) : Json → Option AlertLevel
  | .str s => ofName? s
  | .obj [(name, v)] => if isUnit format v then ofName? name else none
  | _ => none

/-- A level in JSON. -/
def toJson (l : AlertLevel) : Json := .str l.text

theorem ofName?_text (l : AlertLevel) : ofName? l.text = some l := by
  cases l <;> rfl

theorem ofJson?_toJson (format : Json.Format) (l : AlertLevel) :
    ofJson? format l.toJson = some l := ofName?_text l

end AlertLevel

/-- An alert that waits for dispatch. -/
structure AlertEvent where
  /-- the key of what the alert is about -/
  kind : String
  message : String
  level : AlertLevel
  time : Instant
  deriving DecidableEq, Repr, Inhabited

namespace AlertEvent

/-- An event as an object. -/
def toJson (e : AlertEvent) : Json :=
  .obj [("type", .str e.kind), ("message", .str e.message), ("level", e.level.toJson),
    ("timestamp", e.time.toJson)]

/-- An event from a record. -/
def ofJson? (v : Json) : Option AlertEvent := do
  let r ← Json.Record.ofJson? .json ["type", "message", "level", "timestamp"] v
  return {
    kind := ← r.required "type" Json.text?
    message := ← r.required "message" Json.text?
    level := ← r.required "level" (AlertLevel.ofJson? .json)
    time := ← r.required "timestamp" Instant.ofJson? }

end AlertEvent

end HostWatch
