import HostWatch.Json.Basic
import HostWatch.Number.Decimal
import HostWatch.Number.Shortest
import HostWatch.Text.Quoted
set_option autoImplicit false

/-!
# Json: writing text

The compact text of a value: no spaces, members in their order, quote, backslash
and control characters escaped and everything else as it is.  A float is written
with the fewest digits that read back and always with a point or an exponent, so that
it is read back as a float.
-/

namespace HostWatch.Json

open HostWatch.Number HostWatch.Text

/-- One character inside a string. -/
def escapeChar (c : Char) : String :=
  if c = '"' then "\\\""
  else if c = '\\' then "\\\\"
  else if c = '\n' then "\\n"
  else if c = '\r' then "\\r"
  else if c = '\t' then "\\t"
  else if c = '\x08' then "\\b"
  else if c = '\x0c' then "\\f"
  else if c.toNat < 0x20 then
    "\\u00" ++ String.ofList [hexDigit (c.toNat / 16), hexDigit (c.toNat % 16)]
  else c.toString

/-- A string in quotes. -/
def renderString (s : String) : String :=
  s.toList.foldl (fun acc c => acc ++ escapeChar c) "\"" ++ "\""

/-- A float; what is not finite has no JSON number. -/
def renderFloat (x : Float) : String := if isFinite x then dataText x else "null"

mutual
/-- The compact text of a value. -/
def render : Json → String
  | .null => "null"
  | .bool b => if b then "true" else "false"
  | .int n => intText n
  | .float x => renderFloat x
  | .str s => renderString s
  | .arr items => "[" ++ renderItems true items "" ++ "]"
  | .obj members => "\x7b" ++ renderMembers true members "" ++ "\x7d"
  | .malformed => "null"

/-- The items of an array on top of what is written so far. -/
def renderItems (first : Bool) : List Json → String → String
  | [], acc => acc
  | v :: vs, acc =>
    renderItems false vs ((if first then acc else acc ++ ",") ++ render v)

/-- The members of an object on top of what is written so far. -/
def renderMembers (first : Bool) : List (String × Json) → String → String
  | [], acc => acc
  | (k, v) :: rest, acc =>
    renderMembers false rest ((if first then acc else acc ++ ",") ++ renderString k ++ ":" ++ render v)
end

end HostWatch.Json
