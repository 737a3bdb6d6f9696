import HostWatch.Number.Binary
set_option autoImplicit false

/-!
# Json: values

A JSON value keeps apart what a reader may have to tell apart: whole numbers and
floats, and objects with their members in the order written, a repeated name
included.  A text can also be well formed and still stand for no value, such as a
string with half a surrogate pair; `malformed` marks the place, so that a reader
that skips the value does not fail on it and one that wants it does.
-/

namespace HostWatch

/-- A JSON value. -/
inductive Json where
  /-- `null` -/
  | null
  /-- `true` and `false` -/
  | bool (b : Bool)
  /-- a number written without point and exponent -/
  | int (n : Int)
  /-- any other number -/
  | float (x : Float)
  /-- a string -/
  | str (s : String)
  /-- an array -/
  | arr (items : List Json)
  /-- an object, its members in the order written -/
  | obj (members : List (String × Json))
  /-- well-formed text without a value -/
  | malformed
  deriving Inhabited

namespace Json

/-- A float as JSON shows it: JSON has no infinities and no NaN, so these are `null`. -/
def ofFloat (x : Float) : Json := if Number.isFinite x then .float x else .null

/-- A natural number. -/
def ofNat (n : Nat) : Json := .int n

/-- A value that may be missing; a missing one is `null`. -/
def ofOption {α : Type} (f : α → Json) : Option α → Json
  | none => .null
  | some a => f a

/-- A list of texts. -/
def ofStrings (xs : List String) : Json := .arr (xs.map .str)

end Json

end HostWatch
