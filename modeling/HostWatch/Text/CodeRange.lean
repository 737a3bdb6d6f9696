set_option autoImplicit false

/-!
# Text: ranges of code points

A property of characters is given by the ranges of code points that have it, and a
relation of characters by runs in which the partner is at a fixed distance.
-/

namespace HostWatch.Text

/-- The code points from `low` to `high`. -/
structure CodeRange where
  low : Nat
  high : Nat
  deriving DecidableEq, Repr, Inhabited

namespace CodeRange

/-- The code point lies in the range. -/
def covers (r : CodeRange) (n : Nat) : Bool := r.low ≤ n && n ≤ r.high

/-- One of the ranges holds the character. -/
def anyCovers (rs : List CodeRange) (c : Char) : Bool := rs.any (·.covers c.toNat)

end CodeRange

/-- Code points from `low` to `high`, every one or every second, whose partners are at the
distance `shift`. -/
structure CodeRun where
  low : Nat
  high : Nat
  stride : Nat
  shift : Int
  deriving DecidableEq, Repr, Inhabited

namespace CodeRun

/-- The code point lies in the run. -/
def covers (r : CodeRun) (n : Nat) : Bool :=
  r.low ≤ n && n ≤ r.high && (n - r.low) % r.stride == 0

/-- The partner of a code point of the run. -/
def partner (r : CodeRun) (n : Nat) : Char := Char.ofNat (n + r.shift).toNat

end CodeRun

end HostWatch.Text
