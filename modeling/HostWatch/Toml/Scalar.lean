import HostWatch.Number.Binary
import HostWatch.Number.Decimal
import HostWatch.Time.Instant
import HostWatch.Toml.Text
set_option autoImplicit false

/-!
# Toml: numbers and dates

Between the digits of a number single underscores may stand.  Whole numbers have 64 bits
and may be written in base 16, 8 or 2; a positive float beyond the floats is refused, a
negative one is the negative infinity.  A date or a time of day is a record with a single
field that no section of a configuration knows.
-/

namespace HostWatch.Toml

open HostWatch.Json.Parse (Step hexValue?)
open HostWatch.Number

/-- Digits that go on after a first one. -/
def moreDigits (isDigit : Char → Bool) : Step (List Char)
  | '_' :: c :: r =>
    if isDigit c then (moreDigits isDigit r).map fun (ds, r) => (c :: ds, r) else none
  | c :: r =>
    if isDigit c then (moreDigits isDigit r).map fun (ds, r) => (c :: ds, r)
    else if c = '_' then none
    else some ([], c :: r)
  | [] => some ([], [])

/-- One digit or more. -/
def digits (isDigit : Char → Bool) : Step (List Char)
  | c :: r => if isDigit c then moreDigits isDigit (c :: r) else none
  | [] => none

/-- A sign, which may be missing: whether it is a minus, and the rest. -/
def sign : List Char → Bool × List Char
  | '+' :: r => (false, r)
  | '-' :: r => (true, r)
  | cs => (false, cs)

/-- Decimal digits without a superfluous zero in front. -/
def wholeDigits : Step (List Char)
  | '0' :: r => some (['0'], r)
  | cs => digits Char.isDigit cs

/-- A whole number in a base. -/
def inBase (base : Nat) (cs : List Char) : Option (Json × List Char) := do
  let isDigit (c : Char) : Bool := (hexValue? c).any (· < base)
  let (ds, r) ← digits isDigit cs
  let n := ds.foldl (fun n c => base * n + (hexValue? c).getD 0) 0
  if n < Nat.pow 2 63 then some (.int n, r) else none

/-- A whole number. -/
def integer? : Step Json
  | '0' :: 'x' :: r => inBase 16 r
  | '0' :: 'o' :: r => inBase 8 r
  | '0' :: 'b' :: r => inBase 2 r
  | cs => do
    let (negative, r) := sign cs
    let (ds, r) ← wholeDigits r
    let n : Int := if negative then -(ofDigits ds : Int) else ofDigits ds
    if -(Nat.pow 2 63 : Nat) ≤ n && n < (Nat.pow 2 63 : Nat) then some (.int n, r) else none

/-- An exponent after its letter: whether it is negative, and its digits. -/
def exponent? (cs : List Char) : Option ((Bool × List Char) × List Char) := do
  let (negative, r) := sign cs
  let (ds, r) ← digits Char.isDigit r
  some ((negative, ds), r)

/-- An exponent that may be missing. -/
def optionalExponent : Step (Option (Bool × List Char))
  | 'e' :: r => (exponent? r).map fun (e, r) => (some e, r)
  | 'E' :: r => (exponent? r).map fun (e, r) => (some e, r)
  | cs => some (none, cs)

/-- The float that is written; none when it is beyond the floats and positive. -/
def written? (w : Written) (rest : List Char) : Option (Json × List Char) :=
  let x := w.numeral.toFloat
  if isFinite x || w.negative then some (.float x, rest) else none

/-- A float with a point or an exponent. -/
def decimal? (cs : List Char) : Option (Json × List Char) := do
  let (negative, r) := sign cs
  let (whole, r) ← wholeDigits r
  match r with
  | '.' :: r => do
    let (fraction, r) ← digits Char.isDigit r
    let (exponent, r) ← optionalExponent r
    written? ⟨negative, whole, some fraction, exponent⟩ r
  | _ => do
    let (exponent, r) ← optionalExponent r
    if exponent.isSome then written? ⟨negative, whole, none, exponent⟩ r else none

/-- An infinity, or no number at all. -/
def special? (cs : List Char) : Option (Json × List Char) :=
  let (negative, r) := sign cs
  let signed (x : Float) : Json := .float (if negative then -x else x)
  match r with
  | 'i' :: 'n' :: 'f' :: r => some (signed (1.0 / 0.0), r)
  | 'n' :: 'a' :: 'n' :: r => some (signed (0.0 / 0.0), r)
  | _ => none

/-! ## Dates and times -/

/-- A number of `width` digits between two bounds. -/
def fixedDigits? (width low high : Nat) (cs : List Char) : Option (Nat × List Char) :=
  let ds := cs.take width
  let n := ofDigits ds
  if ds.length = width && ds.all Char.isDigit && low ≤ n && n ≤ high then some (n, cs.drop width)
  else none

/-- A given character. -/
def one? (c : Char) : List Char → Option (List Char)
  | d :: r => if d = c then some r else none
  | [] => none

/-- The characters after a date. -/
def date? (cs : List Char) : Option (List Char) := do
  let (year, r) ← fixedDigits? 4 0 9999 cs
  let r ← one? '-' r
  let (month, r) ← fixedDigits? 2 1 12 r
  let r ← one? '-' r
  let (_, r) ← fixedDigits? 2 1 (Time.monthLength year month) r
  some r

/-- The characters after a fraction of a second, which may be missing. -/
def fraction? : List Char → Option (List Char)
  | '.' :: c :: r => if c.isDigit then some (r.dropWhile Char.isDigit) else none
  | cs => some cs

/-- The characters after a time of day. -/
def timeOfDay? (cs : List Char) : Option (List Char) := do
  let (_, r) ← fixedDigits? 2 0 23 cs
  let r ← one? ':' r
  let (_, r) ← fixedDigits? 2 0 59 r
  let r ← one? ':' r
  let (_, r) ← fixedDigits? 2 0 60 r
  fraction? r

/-- The characters after an offset from universal time, which may be missing. -/
def offset? : List Char → Option (List Char)
  | c :: r =>
    if c = 'Z' || c = 'z' then some r
    else if c = '+' || c = '-' then do
      let (_, r) ← fixedDigits? 2 0 23 r
      let r ← one? ':' r
      let (_, r) ← fixedDigits? 2 0 59 r
      some r
    else some (c :: r)
  | [] => some []

/-- The characters after a date, after a date with a time of day, or after a time of day. -/
def afterMoment? (cs : List Char) : Option (List Char) :=
  match date? cs with
  | none => timeOfDay? cs
  | some [] => some []
  | some (c :: r) =>
    if c = 'T' || c = 't' || c = ' ' then
      match timeOfDay? r with
      | some r => offset? r
      | none => some (c :: r)
    else some (c :: r)

/-- A date or a time. -/
def moment? (cs : List Char) : Option (Json × List Char) :=
  (afterMoment? cs).map fun r =>
    (.obj [("moment", .str (String.ofList (cs.take (cs.length - r.length))))], r)

/-- A date, a time or a number. -/
def scalar? (cs : List Char) : Option (Json × List Char) :=
  (moment? cs).orElse fun _ => (decimal? cs).orElse fun _ =>
    (special? cs).orElse fun _ => integer? cs

end HostWatch.Toml
