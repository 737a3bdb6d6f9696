import HostWatch.Json.Basic
set_option autoImplicit false

/-!
# Json: reading records

A record is read from an object, whose members may come in any order and among
members that the record does not know, or from an array of its fields in their
order.  The three ways to ask for a field say what its absence means:

- `Record.required`: the record cannot be read;
- `Record.withDefault`: the given value stands in;
- `Record.optional`: nothing is there, which an object may say by leaving the field
  out and either form by `null`; an array has to say it.

`null` never stands for anything else, and a member of the record that is repeated
makes it unreadable.
-/

namespace HostWatch.Json

/-- The notation that a value was written in. -/
inductive Format where
  /-- JSON: an array holds no item beyond the record's fields -/
  | json
  /-- TOML: items beyond the record's fields are ignored -/
  | toml
  deriving DecidableEq, Repr, Inhabited

/-- The fields of a record that were given. -/
structure Record where
  /-- read from an array -/
  positional : Bool
  /-- the given fields by name -/
  fields : List (String × Json)

/-- No name occurs twice. -/
def distinct : List String → Bool
  | [] => true
  | x :: xs => !xs.contains x && distinct xs

namespace Record

/-- The fields `names`, in their order, of a value. -/
def ofJson? (format : Format) (names : List String) : Json → Option Record
  | .obj members =>
    let known := members.filter fun m => names.contains m.1
    if distinct (known.map (·.1)) then some ⟨false, known⟩ else none
  | .arr items =>
    if format = .json && names.length < items.length then none
    else some ⟨true, names.zip items⟩
  | _ => none

/-- What was given for a field. -/
def find? (r : Record) (name : String) : Option Json := r.fields.lookup name

/-- A field that has to be there. -/
def required {α : Type} (r : Record) (name : String) (read : Json → Option α) : Option α :=
  (r.find? name).bind read

/-- A field with a value that stands in when it is left out. -/
def withDefault {α : Type} (r : Record) (name : String) (read : Json → Option α) (d : α) :
    Option α :=
  match r.find? name with
  | none => some d
  | some v => read v

/-- A value or `null`. -/
def nullable {α : Type} (read : Json → Option α) : Json → Option (Option α)
  | .null => some none
  | v => (read v).map some

/-- A field that may be missing. -/
def optional {α : Type} (r : Record) (name : String) (read : Json → Option α) :
    Option (Option α) :=
  match r.find? name with
  | none => if r.positional then none else some none
  | some v => nullable read v

end Record

/-! ## Plain values -/

/-- A text. -/
def text? : Json → Option String
  | .str s => some s
  | _ => none

/-- A truth value. -/
def bool? : Json → Option Bool
  | .bool b => some b
  | _ => none

/-- A whole number from `low` to below `high`. -/
def intIn? (low high : Int) : Json → Option Int
  | .int n => if low ≤ n && n < high then some n else none
  | _ => none

/-- An unsigned number of 16 bits. -/
def uint16? (v : Json) : Option UInt16 := (intIn? 0 UInt16.size v).map fun n => n.toNat.toUInt16

/-- An unsigned number of 32 bits. -/
def uint32? (v : Json) : Option UInt32 := (intIn? 0 UInt32.size v).map fun n => n.toNat.toUInt32

/-- An unsigned number of 64 bits. -/
def uint64? (v : Json) : Option UInt64 := (intIn? 0 UInt64.size v).map fun n => n.toNat.toUInt64

/-- A signed number of 64 bits. -/
def int64? (v : Json) : Option Int64 :=
  (intIn? (-(Nat.pow 2 63 : Nat)) (Nat.pow 2 63 : Nat) v).map Int64.ofInt

/-- A float; whole numbers are floats too. -/
def float? : Json → Option Float
  | .float x => some x
  | .int n =>
    let x := Float.ofScientific n.natAbs false 0
    some (if n < 0 then -x else x)
  | _ => none

/-- A list, each item read in the same way. -/
def list? {α : Type} (read : Json → Option α) : Json → Option (List α)
  | .arr items => items.mapM read
  | _ => none

end HostWatch.Json
