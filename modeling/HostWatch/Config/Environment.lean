import HostWatch.Log
import HostWatch.Number.Decimal
import HostWatch.Text.Blank
set_option autoImplicit false

/-!
# Configuration: variables of the environment

A variable counts as set when its value is not blank.  Texts are taken as they are;
numbers and switches are read without the blanks around them, and a value that cannot
be read counts as not set and leaves a log line (`Variable.complaint?`).
-/

namespace HostWatch

open HostWatch.Text HostWatch.Number

/-- The values of the environment's variables. -/
abbrev Environment := String → Option String

/-- How the names of all variables begin. -/
def variableFront : String := "MONIC_"

namespace Environment

/-- An environment of a single entry, which is the text `NAME=value`.  A name reaches it
when the entry begins with the name and an equals sign; what is after them is the value. -/
def entry (name value : String) : Environment := fun n =>
  if n.isEmpty then none else afterFront? (n ++ "=") (name ++ "=" ++ value)

/-- The environment of some entries, of which the first that a name reaches counts. -/
def ofEntries (entries : List (String × String)) : Environment := fun n =>
  entries.findSome? fun e => entry e.1 e.2 n

/-- An environment with an entry for a variable that it may lack. -/
def withEntry (env : Environment) (name value : String) : Environment := fun n =>
  (env n).or (entry name value n)

/-- The value of a variable that is set. -/
def get? (env : Environment) (name : String) : Option String :=
  (env (variableFront ++ name)).filter fun v => !isAllBlank v

/-- The entries of a variable that holds a comma-separated list. -/
def list? (env : Environment) (name : String) : Option (List String) :=
  (env.get? name).map commaList

/-- One of the variables is set. -/
def anySet (env : Environment) (names : List String) : Bool :=
  names.any fun n => (env.get? n).isSome

end Environment

/-- A variable whose value has to be read. -/
structure Variable (α : Type) where
  name : String
  read : String → Option α
  /-- what the value should have been, in words for the log -/
  expected : String

namespace Variable

variable {α : Type}

/-- The value of the variable; none when it is not set or cannot be read. -/
def value? (v : Variable α) (env : Environment) : Option α :=
  (env.get? v.name).bind fun raw => v.read (trim raw)

/-- The log line for a value that cannot be read. -/
def complaint? (v : Variable α) (env : Environment) : Option LogLine :=
  match env.get? v.name with
  | none => none
  | some raw =>
    match v.read (trim raw) with
    | some _ => none
    | none => some (.plain .warn
        ("Ignoring " ++ variableFront ++ v.name ++ ": cannot parse '" ++ raw ++ "'" ++ v.expected))

/-- A complaint is made exactly when the variable is set and has no value. -/
theorem complaint?_isSome_iff (v : Variable α) (env : Environment) :
    (v.complaint? env).isSome = true ↔ (env.get? v.name).isSome = true ∧ v.value? env = none := by
  simp only [complaint?, value?]
  cases env.get? v.name with
  | none => simp
  | some raw => cases h : v.read (trim raw) <;> simp [h]

/-- An unsigned number of 64 bits. -/
def word64 (name : String) : Variable UInt64 :=
  ⟨name, fun s => (natBelow? UInt64.size s).map Nat.toUInt64, ""⟩

/-- An unsigned number of 16 bits. -/
def word16 (name : String) : Variable UInt16 :=
  ⟨name, fun s => (natBelow? UInt16.size s).map Nat.toUInt16, ""⟩

/-- A float. -/
def number (name : String) : Variable Float := ⟨name, float?, ""⟩

/-- The words for "on" and "off". -/
def readSwitch (s : String) : Option Bool :=
  let word := lowerAscii s
  if ["1", "true", "yes", "on"].contains word then some true
  else if ["0", "false", "no", "off"].contains word then some false
  else none

/-- A switch. -/
def switch (name : String) : Variable Bool := ⟨name, readSwitch, " as a boolean"⟩

end Variable

end HostWatch
