import HostWatch.Number.Binary
set_option autoImplicit false

/-!
# Number: a fixed number of places

Percentages in messages and log lines have one or two places.  The exact value of
the float is rounded, not its shortest text, and an exact half goes to the even
neighbour: `0.25` has the text `0.2`, and `0.35`, whose value lies below the half,
has `0.3`.
-/

namespace HostWatch.Number

/-- A quotient rounded to the nearest natural number, an exact half to the even one. -/
def roundDiv (num den : Nat) : Nat :=
  let q := num / den
  let r := num % den
  if 2 * r < den then q
  else if den < 2 * r then q + 1
  else q + q % 2

/-- A natural number of units of `10 ^ -places`, with its point. -/
def placesText (places units : Nat) : String :=
  let ds := units.repr
  let padded := if ds.length ≤ places then "".pushn '0' (places + 1 - ds.length) ++ ds else ds
  if places = 0 then padded
  else
    let cs := padded.toList
    let cut := cs.length - places
    String.ofList (cs.take cut) ++ "." ++ String.ofList (cs.drop cut)

/-- The text of a float with a fixed number of places. -/
def fixedText (places : Nat) (x : Float) : String :=
  match magnitude x with
  | .nan => "NaN"
  | .infinite => if isNegative x then "-inf" else "inf"
  | .finite m q =>
    let (num, den) := fraction m q
    let text := placesText places (roundDiv (num * Nat.pow 10 places) den)
    if isNegative x then "-" ++ text else text

end HostWatch.Number
