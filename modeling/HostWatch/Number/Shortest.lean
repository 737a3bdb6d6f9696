import HostWatch.Number.Binary
set_option autoImplicit false

/-!
# Number: the fewest digits that read back

The text of a float has as few significant digits as any decimal that rounds to
the same float, and of these the nearest; it is always positional, so an exponent
is never written.

The decimals that round to a value form an interval: from half way to the
neighbour below to half way to the neighbour above, its ends included exactly when
`m` is even.  For one digit, two digits and so on, the two decimals of that length
around the value are tested against the interval in exact arithmetic; the first
length with a hit wins, and of two hits the nearer.  An exact half goes up in the text
for readers, and to the even digit in data formats.
-/

namespace HostWatch.Number

/-- The decimal `digits * 10 ^ exponent`. -/
structure Digits where
  digits : Nat
  exponent : Int
  deriving DecidableEq, Repr, Inhabited

namespace Digits

/-- Compare a decimal with the binary number `n * 2 ^ j`, without rounding. -/
def compareBinary (d : Digits) (n : Nat) (j : Int) : Ordering :=
  compare (d.digits * Nat.pow 10 d.exponent.toNat * Nat.pow 2 (-j).toNat)
    (n * Nat.pow 2 j.toNat * Nat.pow 10 (-d.exponent).toNat)

/-- The decimal lies among the numbers that round to `m * 2 ^ q`. -/
def readsBack (m : Nat) (q : Int) (narrow : Bool) (d : Digits) : Bool :=
  let low := if narrow then 4 * m - 1 else 4 * m - 2
  let closed := m % 2 == 0
  let above := d.compareBinary low (q - 2)
  let below := d.compareBinary (4 * m + 2) (q - 2)
  (above == .gt || (closed && above == .eq)) && (below == .lt || (closed && below == .eq))

/-- Trailing zeros move from the digits into the exponent; `fuel` bounds how many. -/
def strip : Nat → Digits → Digits
  | 0, d => d
  | fuel + 1, d =>
    if d.digits % 10 = 0 && d.digits ≠ 0 then strip fuel ⟨d.digits / 10, d.exponent + 1⟩ else d

end Digits

/-- How many decimal digits a number has; zero has one. -/
def digitCount (n : Nat) : Nat := n.repr.length

/-- The least `s` from `s` on with `den ≤ num * 10 ^ s`, where `num` already holds
the power of ten; `fuel` bounds the search. -/
def leadingZeros : Nat → Nat → Nat → Nat → Nat
  | 0, _, _, s => s
  | fuel + 1, num, den, s => if den ≤ num then s else leadingZeros fuel (num * 10) den (s + 1)

/-- The power of ten just above a positive fraction: the least `k` with
`num / den < 10 ^ k`. -/
def decimalScale (num den : Nat) : Int :=
  if den ≤ num then digitCount (num / den)
  else 1 - (leadingZeros (den.log2 + 1) num den 0 : Nat)

/-- The decimals of `n` digits next to a fraction below `10 ^ k`: the one not above
it and its successor, with the comparison of the fraction with their middle. -/
def neighbours (num den : Nat) (k : Int) (n : Nat) : Digits × Digits × Ordering :=
  let e := k - n
  let a := num * Nat.pow 10 (-e).toNat
  let b := den * Nat.pow 10 e.toNat
  let low := a / b
  (⟨low, e⟩, ⟨low + 1, e⟩, compare (2 * (a % b)) b)

/-- Where a value goes that lies half way between two decimals. -/
inductive Half where
  | up
  | even
  deriving DecidableEq, Repr, Inhabited

/-- The nearer of two neighbouring decimals, after the comparison of the value with their
middle. -/
def Half.nearer (half : Half) (low high : Digits) : Ordering → Digits
  | .lt => low
  | .eq => if half = .even ∧ low.digits % 2 = 0 then low else high
  | .gt => high

/-- The first length of `n, n + 1, …` with a decimal that reads back; `fuel` bounds
how many lengths are tried. -/
def search (half : Half) (num den m : Nat) (q : Int) (narrow : Bool) (k : Int) :
    Nat → Nat → Option Digits
  | 0, _ => none
  | fuel + 1, n =>
    let (low, high, middle) := neighbours num den k n
    let lowHit := low.readsBack m q narrow
    let highHit := high.readsBack m q narrow
    if lowHit && highHit then some (half.nearer low high middle)
    else if lowHit then some low
    else if highHit then some high
    else search half num den m q narrow k fuel (n + 1)

/-- The shortest decimal that rounds to `m * 2 ^ q`, the nearest of that length.
Seventeen digits are enough for every float; were they not, the exact value would
be written. -/
def shortest (half : Half) (m : Nat) (q : Int) (narrow : Bool) : Digits :=
  let (num, den) := fraction m q
  let k := decimalScale num den
  let d := (search half num den m q narrow k 17 1).getD ⟨num * Nat.pow 5 (-q).toNat, min q 0⟩
  d.strip (digitCount d.digits)

/-- A decimal written without an exponent. -/
def positional (d : Digits) : String :=
  let ds := d.digits.repr
  if 0 ≤ d.exponent then ds ++ "".pushn '0' d.exponent.toNat
  else
    let places := d.exponent.natAbs
    let padded := if ds.length ≤ places then "".pushn '0' (places + 1 - ds.length) ++ ds else ds
    let cs := padded.toList
    let cut := cs.length - places
    String.ofList (cs.take cut) ++ "." ++ String.ofList (cs.drop cut)

/-- The text of a float: the fewest digits that read back, without an exponent; a
negative zero keeps its sign. -/
def floatText (x : Float) : String :=
  match magnitude x with
  | .nan => "NaN"
  | .infinite => if isNegative x then "-inf" else "inf"
  | .finite m q =>
    let text := if m = 0 then "0" else positional (shortest .up m q (narrowBelow x))
    if isNegative x then "-" ++ text else text

/-- The text of a float in data formats: a point or an exponent always shows that it is
a float.  The exponent, always with its sign, stands from `10 ^ 16` on and below
`10 ^ -5`. -/
def dataText (x : Float) : String :=
  match magnitude x with
  | .nan => "NaN"
  | .infinite => if isNegative x then "-inf" else "inf"
  | .finite m q =>
    let d := if m = 0 then ⟨0, 0⟩ else shortest .even m q (narrowBelow x)
    let ds := d.digits.repr
    let scale := d.exponent + ds.length
    let text :=
      if -5 < scale && scale ≤ 16 then
        if 0 ≤ d.exponent then positional d ++ ".0" else positional d
      else
        let cs := ds.toList
        let rest := String.ofList (cs.drop 1)
        String.ofList (cs.take 1) ++ (if rest.isEmpty then "" else "." ++ rest) ++ "e"
          ++ (if scale - 1 < 0 then "-" else "+") ++ (scale - 1).natAbs.repr
    if isNegative x then "-" ++ text else text

end HostWatch.Number
