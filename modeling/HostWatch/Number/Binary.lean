set_option autoImplicit false

/-!
# Number: what a float stands for

A float is a sign and either an exact value `m * 2 ^ q`, an infinity, or no
number at all.  Everything that is written about floats in this library (the
shortest digits, a fixed number of places) starts from this exact value and
works over `Nat` and `Int` from there.
-/

namespace HostWatch.Number

/-- What a float stands for, apart from its sign. -/
inductive Magnitude where
  /-- not a number -/
  | nan
  /-- an infinity -/
  | infinite
  /-- the exact value `m * 2 ^ q` -/
  | finite (m : Nat) (q : Int)
  deriving DecidableEq, Repr, Inhabited

/-- The sign bit of a float. -/
def isNegative (x : Float) : Bool := x.toBits >>> 63 == 1

/-- The biased exponent field of a float. -/
def exponentField (x : Float) : Nat := ((x.toBits >>> 52) &&& 0x7FF).toNat

/-- The fraction field of a float. -/
def fractionField (x : Float) : Nat := (x.toBits &&& 0xFFFFFFFFFFFFF).toNat

/-- The magnitude of a float. -/
def magnitude (x : Float) : Magnitude :=
  let e := exponentField x
  let f := fractionField x
  if e = 0x7FF then (if f = 0 then .infinite else .nan)
  else if e = 0 then .finite f (-1074)
  else .finite (Nat.pow 2 52 + f) ((e : Int) - 1075)

/-- The gap below the value is half the gap above it: the value is a power of two
and not among the smallest ones. -/
def narrowBelow (x : Float) : Bool := fractionField x == 0 && 1 < exponentField x

/-- The float is a number that is not an infinity. -/
def isFinite (x : Float) : Bool := exponentField x != 0x7FF

/-- The exact value of a float as a fraction, apart from its sign: numerator and
denominator of `m * 2 ^ q`. -/
def fraction (m : Nat) (q : Int) : Nat × Nat :=
  (m * Nat.pow 2 q.toNat, Nat.pow 2 (-q).toNat)

end HostWatch.Number
