set_option autoImplicit false

/-!
# Text: bytes in base 64

Three bytes are written as four digits of six bits; a last group of one or two bytes has
two or three digits and is filled up with equals signs.  Reading is strict: the fill has
to be there, and the bits of the last digit that belong to no byte have to be zero, so
that some bytes have one written form only.
-/

namespace HostWatch.Text

/-- The digit of a value below 64. -/
def base64Digit (n : Nat) : Char :=
  if n < 26 then Char.ofNat (0x41 + n)
  else if n < 52 then Char.ofNat (0x61 + (n - 26))
  else if n < 62 then Char.ofNat (0x30 + (n - 52))
  else if n = 62 then '+'
  else '/'

/-- The value of a digit. -/
def base64Value? (c : Char) : Option Nat :=
  let n := c.toNat
  if 0x41 ≤ n && n ≤ 0x5A then some (n - 0x41)
  else if 0x61 ≤ n && n ≤ 0x7A then some (n - 0x61 + 26)
  else if 0x30 ≤ n && n ≤ 0x39 then some (n - 0x30 + 52)
  else if c = '+' then some 62
  else if c = '/' then some 63
  else none

/-- Some bytes in base 64. -/
def encodeBase64 : List UInt8 → List Char
  | [] => []
  | [a] =>
    let n := a.toNat
    [base64Digit (n / 4), base64Digit (n % 4 * 16), '=', '=']
  | [a, b] =>
    let n := a.toNat * 256 + b.toNat
    [base64Digit (n / 1024), base64Digit (n / 16 % 64), base64Digit (n % 16 * 4), '=']
  | a :: b :: c :: rest =>
    let n := (a.toNat * 256 + b.toNat) * 256 + c.toNat
    base64Digit (n / 262144) :: base64Digit (n / 4096 % 64) :: base64Digit (n / 64 % 64)
      :: base64Digit (n % 64) :: encodeBase64 rest

/-- The bytes of the last group of digits. -/
def decodeLastGroup? (a b c d : Char) : Option (List UInt8) := do
  let x ← base64Value? a
  let y ← base64Value? b
  if c = '=' && d = '=' then
    if y % 16 = 0 then some [(x * 4 + y / 16).toUInt8] else none
  else
    let z ← base64Value? c
    if d = '=' then
      let n := (x * 64 + y) * 64 + z
      if z % 4 = 0 then some [(n / 1024).toUInt8, (n / 4 % 256).toUInt8] else none
    else
      let w ← base64Value? d
      let n := ((x * 64 + y) * 64 + z) * 64 + w
      some [(n / 65536).toUInt8, (n / 256 % 256).toUInt8, (n % 256).toUInt8]

/-- The bytes that a text in base 64 stands for. -/
def decodeBase64? : List Char → Option (List UInt8)
  | [] => some []
  | [a, b, c, d] => decodeLastGroup? a b c d
  | a :: b :: c :: d :: rest => do
    let x ← base64Value? a
    let y ← base64Value? b
    let z ← base64Value? c
    let w ← base64Value? d
    let n := ((x * 64 + y) * 64 + z) * 64 + w
    let bytes ← decodeBase64? rest
    some ((n / 65536).toUInt8 :: (n / 256 % 256).toUInt8 :: (n % 256).toUInt8 :: bytes)
  | _ => none

end HostWatch.Text
