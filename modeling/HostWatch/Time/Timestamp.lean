import HostWatch.Number.Decimal
import HostWatch.Text.Blank
import HostWatch.Time.Instant
set_option autoImplicit false

/-!
# Time: written timestamps

Instants are written in universal time as `2024-01-01T00:00:00.250Z`, with no
fraction or with three, six or nine digits of it, the fewest that lose nothing.
They are read in any offset, with blanks around the numbers, one or two digits for
each but the year, a small `t` or `z`, a blank in place of the `T`, and offsets
such as `+05:30`, `+0530` or `UTC`.

The long form in messages is `Mon, 1 Jan 2024 00:00:00 +0000`; it exists for the
years 0 to 9999 only.
-/

namespace HostWatch.Time

open HostWatch.Number HostWatch.Text

/-! ## Writing -/

/-- A number padded with zeros to at least `width` digits. -/
def padded (width n : Nat) : String :=
  let ds := n.repr
  "".pushn '0' (width - ds.length) ++ ds

/-- The year: four digits, with a sign outside 0 to 9999. -/
def yearText (y : Int) : String :=
  if 0 ≤ y && y ≤ 9999 then padded 4 y.toNat
  else (if y < 0 then "-" else "+") ++ padded 4 y.natAbs

/-- The fraction of a second: nothing, or a point and three, six or nine digits. -/
def fractionText (nanos : Nat) : String :=
  if nanos = 0 then ""
  else if nanos % 1000000 = 0 then "." ++ padded 3 (nanos / 1000000)
  else if nanos % 1000 = 0 then "." ++ padded 6 (nanos / 1000)
  else "." ++ padded 9 nanos

/-- Hours, minutes and seconds. -/
def clockText (r : Reading) : String :=
  padded 2 r.hour ++ ":" ++ padded 2 r.minute ++ ":" ++ padded 2 r.second

/-- The timestamp of an instant. -/
def Instant.timestamp (t : Instant) : String :=
  let r := t.reading
  yearText r.date.year ++ "-" ++ padded 2 r.date.month ++ "-" ++ padded 2 r.date.day
    ++ "T" ++ clockText r ++ fractionText r.nanos ++ "Z"

/-- The days of the week from the day of 1970-01-01 on. -/
def weekdays : List String := ["Thu", "Fri", "Sat", "Sun", "Mon", "Tue", "Wed"]

/-- The months. -/
def months : List String :=
  ["Jan", "Feb", "Mar", "Apr", "May", "Jun", "Jul", "Aug", "Sep", "Oct", "Nov", "Dec"]

/-- The long form of an instant; `none` outside the years 0 to 9999. -/
def Instant.longForm? (t : Instant) : Option String :=
  let r := t.reading
  if r.date.year < 0 || 9999 < r.date.year then none
  else
    let weekday := weekdays.getD (t.day % 7).toNat ""
    let month := months.getD (r.date.month - 1) ""
    some (weekday ++ ", " ++ r.date.day.repr ++ " " ++ month ++ " " ++ padded 4 r.date.year.toNat
      ++ " " ++ clockText r ++ " +0000")

/-! ## Reading -/

/-- Blanks are skipped. -/
def skipBlanks (cs : List Char) : List Char := cs.dropWhile isBlank

/-- Between one and `width` digits after blanks. -/
def number? (width : Nat) (cs : List Char) : Option (Nat × List Char) :=
  let cs := skipBlanks cs
  let ds := (cs.take width).takeWhile Char.isDigit
  if ds.isEmpty then none else some (ofDigits ds, cs.drop ds.length)

/-- A year: four digits at most, or a sign and any number of digits. -/
def year? (cs : List Char) : Option (Int × List Char) :=
  match skipBlanks cs with
  | '+' :: r => (digits r).map fun (n, r) => ((n : Int), r)
  | '-' :: r => (digits r).map fun (n, r) => (-(n : Int), r)
  | cs => (number? 4 cs).map fun (n, r) => ((n : Int), r)
where
  /-- One digit or more, without blanks. -/
  digits (cs : List Char) : Option (Nat × List Char) :=
    let ds := cs.takeWhile Char.isDigit
    if ds.isEmpty then none else some (ofDigits ds, cs.drop ds.length)

/-- One given character after blanks. -/
def literal? (c : Char) (cs : List Char) : Option (List Char) :=
  match skipBlanks cs with
  | d :: r => if d = c then some r else none
  | [] => none

/-- The fraction of a second in nanoseconds: a point and digits, of which the first
nine count. -/
def nanos? : List Char → Option (Nat × List Char)
  | '.' :: r =>
    let ds := (r.take 9).takeWhile Char.isDigit
    if ds.isEmpty then none
    else some (ofDigits ds * Nat.pow 10 (9 - ds.length), r.dropWhile Char.isDigit)
  | cs => some (0, cs)

/-- Two digits, the first of them at most `top`. -/
def pair? (top : Nat) : List Char → Option (Nat × List Char)
  | a :: b :: r =>
    if a.isDigit && b.isDigit && digitValue a ≤ top then
      some (10 * digitValue a + digitValue b, r)
    else none
  | _ => none

/-- An offset in seconds: `Z`, `UTC`, or a sign, hours, colons or blanks, minutes. -/
def offset? (cs : List Char) : Option (Int × List Char) :=
  let cs := skipBlanks cs
  if lowerAscii (String.ofList (cs.take 3)) = "utc" then some (0, cs.drop 3)
  else
    match cs with
    | 'Z' :: r => some (0, r)
    | 'z' :: r => some (0, r)
    | sign :: r => do
      let negative ← if sign = '+' then some false
        else if sign = '-' || sign = '\u2212' then some true else none
      let (hours, r) ← pair? 9 r
      let (minutes, r) ← pair? 5 (r.dropWhile fun c => c = ':' || isBlank c)
      let seconds : Int := hours * 3600 + minutes * 60
      return (if negative then -seconds else seconds, r)
    | [] => none

/-- The instant that a timestamp names; `none` for any other text, for a date or a
time of day that does not exist, and for an offset of a day or more. -/
def Instant.ofTimestamp? (s : String) : Option Instant := do
  let (year, cs) ← year? s.toList
  let cs ← literal? '-' cs
  let (month, cs) ← number? 2 cs
  let cs ← literal? '-' cs
  let (day, cs) ← number? 2 cs
  let cs ← match cs with
    | c :: r => if c = 't' || c = 'T' || c = ' ' then some r else none
    | [] => none
  let (hour, cs) ← number? 2 cs
  let cs ← literal? ':' cs
  let (minute, cs) ← number? 2 cs
  let cs ← literal? ':' cs
  let (second, cs) ← number? 2 cs
  let (nanos, cs) ← nanos? cs
  let (offset, cs) ← offset? cs
  let date : Date := ⟨year, month, day⟩
  if (skipBlanks cs).isEmpty && date.isValid && hour ≤ 23 && minute ≤ 59 && second ≤ 60
      && offset.natAbs < 86400 then
    let t := Instant.ofReading ⟨date, hour, minute, second, nanos⟩ offset
    if yearInRange year && yearInRange t.reading.date.year then some t else none
  else none

end HostWatch.Time
