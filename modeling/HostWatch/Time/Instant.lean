set_option autoImplicit false

/-!
# Time: instants and the calendar

An instant is a count of seconds since 1970-01-01T00:00:00Z and a count of
nanoseconds.  The nanoseconds of an inserted sixtieth second run from one to two
milliards, so that such a second can be read and written; the distance of two
instants of one day counts the inserted second between them
(`elapsed_near_count`).

The calendar is the proleptic Gregorian one.  Days are counted from 0000-03-01, so
that the day inserted in leap years is the last one of its year.
-/

namespace HostWatch.Time

/-- A moment in universal time. -/
structure Instant where
  seconds : Int
  nanos : Nat
  deriving DecidableEq, Repr, Inhabited

namespace Instant

/-- Nanoseconds since 1970-01-01T00:00:00Z. -/
def count (t : Instant) : Int := t.seconds * 1000000000 + t.nanos

/-- The second of its day an instant lies in. -/
def secondOfDay (t : Instant) : Int := t.seconds % 86400

/-- The instant lies in an inserted second. -/
def isInserted (t : Instant) : Bool := 1000000000 ≤ t.nanos

/-- Nanoseconds from `earlier` to `later`; negative when they are the other way
round.  An inserted second counts when its successor is reached on the same clock
round. -/
def elapsed (earlier later : Instant) : Int :=
  later.count - earlier.count +
    (if earlier.secondOfDay < later.secondOfDay && earlier.isInserted then 1000000000
     else if later.secondOfDay < earlier.secondOfDay && later.isInserted then -1000000000
     else 0)

/-- The distance is the difference of the counts up to one inserted second. -/
theorem elapsed_near_count (a b : Instant) :
    b.count - a.count - 1000000000 ≤ elapsed a b ∧
      elapsed a b ≤ b.count - a.count + 1000000000 := by
  simp only [elapsed]
  split
  · omega
  · split <;> omega

end Instant

/-! ## Calendar dates -/

/-- A calendar date: year, month from 1, day of the month from 1. -/
structure Date where
  year : Int
  month : Nat
  day : Nat
  deriving DecidableEq, Repr, Inhabited

/-- Leap years are the multiples of four, except of a hundred unless of four hundred. -/
def isLeapYear (y : Int) : Bool := y % 4 == 0 && (y % 100 != 0 || y % 400 == 0)

/-- How many days a month has. -/
def monthLength (y : Int) (m : Nat) : Nat :=
  if m = 2 then (if isLeapYear y then 29 else 28)
  else if m = 4 || m = 6 || m = 9 || m = 11 then 30
  else 31

namespace Date

/-- The date exists. -/
def isValid (d : Date) : Bool :=
  1 ≤ d.month && d.month ≤ 12 && 1 ≤ d.day && d.day ≤ monthLength d.year d.month

/-- Days from 1970-01-01 to the date. -/
def toDays (d : Date) : Int :=
  let y := if d.month ≤ 2 then d.year - 1 else d.year
  let shifted : Int := ((d.month + 9) % 12 : Nat)
  let dayOfYear := (153 * shifted + 2) / 5 + d.day - 1
  365 * y + y / 4 - y / 100 + y / 400 + dayOfYear - 719468

/-- The date a number of days after 1970-01-01. -/
def ofDays (days : Int) : Date :=
  let z := days + 719468
  let era := z / 146097
  let dayOfEra := z % 146097
  let yearOfEra := (dayOfEra - dayOfEra / 1460 + dayOfEra / 36524 - dayOfEra / 146096) / 365
  let dayOfYear := dayOfEra - (365 * yearOfEra + yearOfEra / 4 - yearOfEra / 100)
  let shifted := (5 * dayOfYear + 2) / 153
  let day := (dayOfYear - (153 * shifted + 2) / 5 + 1).toNat
  let month := (if shifted < 10 then shifted + 3 else shifted - 9).toNat
  let year := yearOfEra + era * 400
  ⟨if month ≤ 2 then year + 1 else year, month, day⟩

end Date

/-! ## Clock readings -/

/-- A date with the time of day; the second `60` is an inserted one. -/
structure Reading where
  date : Date
  hour : Nat
  minute : Nat
  second : Nat
  nanos : Nat
  deriving DecidableEq, Repr, Inhabited

namespace Instant

/-- The day an instant lies in, counted from 1970-01-01. -/
def day (t : Instant) : Int := t.seconds / 86400

/-- What a clock for universal time shows at an instant. -/
def reading (t : Instant) : Reading :=
  let s := (t.seconds % 86400).toNat
  ⟨Date.ofDays t.day, s / 3600, s / 60 % 60, s % 60 + t.nanos / 1000000000, t.nanos % 1000000000⟩

/-- The instant at which a clock that is `offset` seconds ahead of universal time
shows the reading. -/
def ofReading (r : Reading) (offset : Int) : Instant :=
  let inserted := if r.second = 60 then 1 else 0
  ⟨r.date.toDays * 86400 + r.hour * 3600 + r.minute * 60 + (r.second - inserted : Nat) - offset,
    r.nanos + inserted * 1000000000⟩

/-- Years that an instant may lie in. -/
def yearInRange (y : Int) : Bool := -262143 ≤ y && y ≤ 262142

end Instant

end HostWatch.Time
