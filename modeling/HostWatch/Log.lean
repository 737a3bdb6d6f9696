import HostWatch.Json.Basic
set_option autoImplicit false

/-!
# Log lines

What the monitor says about its own work: a severity, a message and named fields.
Log lines are values; the functions that do the work return them beside their
result.
-/

namespace HostWatch

/-- How grave a log line is. -/
inductive Severity where
  | error
  | warn
  | info
  | debug
  deriving DecidableEq, Repr, Inhabited

/-- The severity in capitals. -/
def Severity.text : Severity → String
  | .error => "ERROR"
  | .warn => "WARN"
  | .info => "INFO"
  | .debug => "DEBUG"

/-- One line of the log. -/
structure LogLine where
  severity : Severity
  message : String
  fields : List (String × String)
  deriving DecidableEq, Repr, Inhabited

namespace LogLine

/-- A line without fields. -/
def plain (severity : Severity) (message : String) : LogLine := ⟨severity, message, []⟩

/-- A line as an object; without fields it has no member for them. -/
def toJson (l : LogLine) : Json :=
  .obj ([("level", .str l.severity.text), ("message", .str l.message)] ++
    if l.fields.isEmpty then []
    else [("fields", .obj (l.fields.map fun f => (f.1, .str f.2)))])

end LogLine

end HostWatch
