import HostWatch.Json.Basic
import HostWatch.Number.Decimal
set_option autoImplicit false

/-!
# Json: reading text

A reader for JSON text.  Each step takes the characters that are left and returns
a value with the characters after it, or `none` when the text breaks the grammar.
The steps for values, arrays and objects call each other.  They are bounded by
`fuel`, which starts above the length of the text and falls no faster than the text
is used up.

Whole numbers outside the range of 64 bits are read as floats, like every number
with a point or an exponent; a number beyond the floats is `malformed`.
-/

namespace HostWatch.Json.Parse

open HostWatch.Number

/-- A step reads a value from the front of the text. -/
abbrev Step (α : Type) : Type := List Char → Option (α × List Char)

/-- The four characters that may stand between tokens. -/
def isSpace (c : Char) : Bool := c == ' ' || c == '\n' || c == '\r' || c == '\t'

/-- Spaces are skipped. -/
def skip (cs : List Char) : List Char := cs.dropWhile isSpace

/-- The value of a hexadecimal digit. -/
def hexValue? (c : Char) : Option Nat :=
  let n := c.toNat
  if 0x30 ≤ n && n ≤ 0x39 then some (n - 0x30)
  else if 0x41 ≤ n && n ≤ 0x46 then some (n - 0x37)
  else if 0x61 ≤ n && n ≤ 0x66 then some (n - 0x57)
  else none

/-- Four hexadecimal digits. -/
def hexQuad? : Step Nat
  | a :: b :: c :: d :: r => do
    let a ← hexValue? a
    let b ← hexValue? b
    let c ← hexValue? c
    let d ← hexValue? d
    return (((a * 16 + b) * 16 + c) * 16 + d, r)
  | _ => none

/-- The character that a one-letter escape stands for. -/
def escapeValue? (c : Char) : Option Char :=
  if c = '"' || c = '\\' || c = '/' then some c
  else if c = 'b' then some '\x08'
  else if c = 'f' then some '\x0c'
  else if c = 'n' then some '\n'
  else if c = 'r' then some '\r'
  else if c = 't' then some '\t'
  else none

/-- The characters of a string up to its closing quote, in reverse on top of `acc`.
`ok` turns false at half a surrogate pair, and the string is then read to its end
but has no value.  The fuel is at least the number of characters left. -/
def stringChars : Nat → Bool → List Char → Step (Option String)
  | 0, _, _, _ => none
  | _ + 1, _, _, [] => none
  | fuel + 1, ok, acc, c :: r =>
    if c = '"' then some (if ok then some (String.ofList acc.reverse) else none, r)
    else if c.toNat < 0x20 then none
    else if c ≠ '\\' then stringChars fuel ok (c :: acc) r
    else
      match r with
      | 'u' :: r => do
        let (high, r) ← hexQuad? r
        if 0xD800 ≤ high && high ≤ 0xDBFF then
          match r with
          | '\\' :: 'u' :: r' =>
            let (low, r'') ← hexQuad? r'
            if 0xDC00 ≤ low && low ≤ 0xDFFF then
              let n := 0x10000 + (high - 0xD800) * 0x400 + (low - 0xDC00)
              stringChars fuel ok (Char.ofNat n :: acc) r''
            else stringChars fuel false acc r
          | _ => stringChars fuel false acc r
        else if 0xDC00 ≤ high && high ≤ 0xDFFF then stringChars fuel false acc r
        else stringChars fuel ok (Char.ofNat high :: acc) r
      | e :: r => do
        let v ← escapeValue? e
        stringChars fuel ok (v :: acc) r
      | [] => none

/-- The string after an opening quote; the inner `none` is a string without a value. -/
def stringBody (fuel : Nat) (cs : List Char) : Option (Option String × List Char) :=
  stringChars fuel true [] cs

/-- A number: no superfluous zero in front, digits after a point and in an exponent. -/
def number (cs : List Char) : Option (Json × List Char) :=
  let (negative, cs) := match cs with
    | '-' :: r => (true, r)
    | cs => (false, cs)
  let (w, rest) := Written.scan negative cs
  if w.whole.isEmpty || (w.whole.head? = some '0' && 1 < w.whole.length)
      || w.fraction = some [] || !w.exponentOk then none
  else
    let n := ofDigits w.whole
    let value : Json :=
      if w.fraction.isNone && w.exponent.isNone && !(negative && n = 0)
          && (if negative then n ≤ Nat.pow 2 63 else n < UInt64.size) then
        .int (if negative then -(n : Int) else n)
      else
        let x := w.numeral.toFloat
        if isFinite x then .float x else .malformed
    some (value, rest)

mutual
/-- A value, after spaces. -/
def value : Nat → Step Json
  | 0, _ => none
  | fuel + 1, cs =>
    match skip cs with
    | 'n' :: 'u' :: 'l' :: 'l' :: r => some (.null, r)
    | 't' :: 'r' :: 'u' :: 'e' :: r => some (.bool true, r)
    | 'f' :: 'a' :: 'l' :: 's' :: 'e' :: r => some (.bool false, r)
    | '"' :: r => (stringBody fuel r).map fun (s, r) => ((s.map .str).getD .malformed, r)
    | '[' :: r =>
      match skip r with
      | ']' :: r => some (.arr [], r)
      | r => items fuel [] r
    | '\x7b' :: r =>
      match skip r with
      | '\x7d' :: r => some (.obj [], r)
      | r => members fuel true [] r
    | cs => number cs

/-- The items of an array that has one, up to its closing bracket. -/
def items : Nat → List Json → Step Json
  | 0, _, _ => none
  | fuel + 1, acc, cs => do
    let (v, r) ← value fuel cs
    match skip r with
    | ',' :: r => items fuel (v :: acc) r
    | ']' :: r => some (.arr (v :: acc).reverse, r)
    | _ => none

/-- The members of an object that has one, up to its closing brace; `ok` turns false
at a name without a value. -/
def members : Nat → Bool → List (String × Json) → Step Json
  | 0, _, _, _ => none
  | fuel + 1, ok, acc, cs =>
    match skip cs with
    | '"' :: r => do
      let (name, r) ← stringBody fuel r
      match skip r with
      | ':' :: r =>
        let (v, r) ← value fuel r
        let ok := ok && name.isSome
        let acc := (name.getD "", v) :: acc
        match skip r with
        | ',' :: r => members fuel ok acc r
        | '\x7d' :: r => some (if ok then .obj acc.reverse else .malformed, r)
        | _ => none
      | _ => none
    | _ => none
end

end Parse

/-- The value that a JSON text stands for; `none` when the text is not JSON. -/
def parse? (s : String) : Option Json := do
  let cs := s.toList
  let (v, rest) ← Parse.value (2 * cs.length + 2) cs
  if (Parse.skip rest).isEmpty then some v else none

end HostWatch.Json
