set_option autoImplicit false

/-!
# Number: decimal numerals

A numeral is a sign, a natural number and a power of ten; `Numeral.toFloat` is
the float nearest to it.  `Numeral.scan` reads the digits, the point and the
exponent in one place, so that the data formats differ only in which spellings
they let through.
-/

namespace HostWatch.Number

/-- The number `± digits * 10 ^ exponent`. -/
structure Numeral where
  negative : Bool
  digits : Nat
  exponent : Int
  deriving DecidableEq, Repr, Inhabited

/-- The value of a decimal digit. -/
def digitValue (c : Char) : Nat := c.toNat - 0x30

/-- The number that a list of decimal digits writes. -/
def ofDigits (cs : List Char) : Nat := cs.foldl (fun n c => 10 * n + digitValue c) 0

/-- The text of a natural number in decimal. -/
def natText (n : Nat) : String := n.repr

/-- The text of an integer in decimal. -/
def intText (n : Int) : String := if n < 0 then "-" ++ n.natAbs.repr else n.natAbs.repr

namespace Numeral

/-- The float nearest to the numeral, an exact half going to the even neighbour.
Numerals outside `10 ^ -400 … 10 ^ 400` are decided without computing the power:
the least positive float is above `10 ^ -324` and the greatest below `10 ^ 309`. -/
def toFloat (n : Numeral) : Float :=
  let size : Int := (n.digits.repr.length : Int) + n.exponent
  let x : Float :=
    if n.digits = 0 then 0.0
    else if 400 < size then 1.0 / 0.0
    else if size < -400 then 0.0
    else if n.exponent < 0 then Float.ofScientific n.digits true n.exponent.natAbs
    else Float.ofScientific (n.digits * Nat.pow 10 n.exponent.toNat) false 0
  if n.negative then -x else x

end Numeral

/-- The parts of a written decimal: integer digits, fraction digits when there is
a point, exponent when there is one. -/
structure Written where
  negative : Bool
  whole : List Char
  fraction : Option (List Char)
  exponent : Option (Bool × List Char)
  deriving DecidableEq, Repr, Inhabited

namespace Written

/-- The number that is written. -/
def numeral (w : Written) : Numeral :=
  let frac := w.fraction.getD []
  let exp : Int := match w.exponent with
    | none => 0
    | some (negative, ds) => if negative then -(ofDigits ds : Int) else ofDigits ds
  ⟨w.negative, ofDigits (w.whole ++ frac), exp - frac.length⟩

/-- Digits, a point with digits, an exponent: the longest front of the list that
can be read so, and the rest.  Each part may be missing or empty; the caller
decides which of these it lets through. -/
def scan (negative : Bool) (cs : List Char) : Written × List Char :=
  let whole := cs.takeWhile Char.isDigit
  let cs := cs.dropWhile Char.isDigit
  let (fraction, cs) := match cs with
    | '.' :: r => (some (r.takeWhile Char.isDigit), r.dropWhile Char.isDigit)
    | _ => (none, cs)
  let (exponent, cs) := match cs with
    | c :: r =>
      if c = 'e' || c = 'E' then
        match r with
        | '+' :: r => (some (false, r.takeWhile Char.isDigit), r.dropWhile Char.isDigit)
        | '-' :: r => (some (true, r.takeWhile Char.isDigit), r.dropWhile Char.isDigit)
        | _ => (some (false, r.takeWhile Char.isDigit), r.dropWhile Char.isDigit)
      else (none, cs)
    | [] => (none, cs)
  (⟨negative, whole, fraction, exponent⟩, cs)

/-- An exponent, when there is one, has digits. -/
def exponentOk (w : Written) : Bool := w.exponent.all fun e => !e.2.isEmpty

end Written

/-! ## Numbers in settings

The spellings below are those that a setting given as plain text may use. -/

/-- An unsigned number below `bound`: decimal digits, one plus sign allowed. -/
def natBelow? (bound : Nat) (s : String) : Option Nat :=
  let cs := match s.toList with
    | '+' :: r => r
    | cs => cs
  if cs.isEmpty || !cs.all Char.isDigit then none
  else if ofDigits cs < bound then some (ofDigits cs) else none

/-- A float: a sign, then `inf`, `infinity` or `nan` in any case, or digits with a
point and an exponent, of which the digits before or after the point may be
missing but not both. -/
def float? (s : String) : Option Float :=
  let (negative, cs) := match s.toList with
    | '+' :: r => (false, r)
    | '-' :: r => (true, r)
    | cs => (false, cs)
  let signed (x : Float) : Float := if negative then -x else x
  let word := cs.map Char.toLower
  if word = "inf".toList || word = "infinity".toList then some (signed (1.0 / 0.0))
  else if word = "nan".toList then some (signed (0.0 / 0.0))
  else
    let (w, rest) := Written.scan negative cs
    if rest.isEmpty && (!w.whole.isEmpty || !(w.fraction.getD []).isEmpty) && w.exponentOk then
      some w.numeral.toFloat
    else none

end HostWatch.Number
