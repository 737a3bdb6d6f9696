import HostWatch.Text.Blank
set_option autoImplicit false

/-!
# Host: paths by their parts

A path is compared part by part: repeated slashes, a slash at the end and parts that
stand for the same directory do not count, except a single point that a relative path
starts with.  A part that stands for the parent directory is a part like any other.
-/

namespace HostWatch

/-- One part of a path. -/
inductive PathPart where
  /-- the root directory -/
  | root
  /-- the point that a relative path starts with -/
  | here
  /-- a name -/
  | name (chars : List Char)
  deriving DecidableEq, Repr, Inhabited

namespace PathPart

/-- The names between the slashes, without those that add nothing. -/
def names (pieces : List (List Char)) : List PathPart :=
  (pieces.filter fun p => p ≠ [] ∧ p ≠ ['.']).map .name

/-- The parts of a path. -/
def ofPath (path : String) : List PathPart :=
  match path.toList with
  | '/' :: rest => .root :: names (Text.splitAt '/' rest)
  | cs =>
    match Text.splitAt '/' cs with
    | ['.'] :: rest => .here :: names rest
    | pieces => names pieces

/-- A path lies in a directory when the parts of the directory come first. -/
def liesIn (path directory : List PathPart) : Bool := directory.isPrefixOf path

theorem liesIn_iff {path directory : List PathPart} :
    liesIn path directory = true ↔ directory <+: path := by
  simp [liesIn]

end PathPart

end HostWatch
