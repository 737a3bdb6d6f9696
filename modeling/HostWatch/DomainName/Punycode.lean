set_option autoImplicit false

/-!
# Domain names: letters beyond ASCII in ASCII

A label is written as its ASCII characters, a dash when there are any, and numbers that
say which other characters stand where.  The characters beyond ASCII are taken in the
order of their code points; each number counts the places that are passed over since the
last one, a place being a code point and a position in the label.

Numbers are written with the 36 digits `a` to `z` and `0` to `9`, the lowest digit first.
Digits below a threshold end a number, and the thresholds follow the size of the numbers
so far (`adapt`).
-/

namespace HostWatch.DomainName.Punycode

/-! ## Numbers -/

/-- The digit with a value. -/
def digit (d : Nat) : Char := if d < 26 then Char.ofNat (97 + d) else Char.ofNat (22 + d)

/-- The value of a digit; capitals count as small letters. -/
def digitValue? (c : Char) : Option Nat :=
  let n := c.toNat
  if 97 ≤ n ∧ n ≤ 122 then some (n - 97)
  else if 65 ≤ n ∧ n ≤ 90 then some (n - 65)
  else if 48 ≤ n ∧ n ≤ 57 then some (n - 22)
  else none

/-- The threshold of the digit at a place; places are counted in steps of 36. -/
def threshold (place bias : Nat) : Nat := max 1 (min 26 (place - bias))

theorem threshold_pos (place bias : Nat) : 0 < threshold place bias := by
  unfold threshold
  omega

/-- A number from the digit at a place on. -/
def number (bias place n : Nat) : List Char :=
  let t := threshold place bias
  if n < t then [digit n]
  else digit (t + (n - t) % (36 - t)) :: number bias (place + 36) ((n - t) / (36 - t))
termination_by n
decreasing_by
  have := threshold_pos place bias
  have := Nat.div_le_self (n - threshold place bias) (36 - threshold place bias)
  omega

/-- Reads a number from the digit at a place on, with the weight of that digit: the number
and what follows it. -/
def readNumber? (bias place weight : Nat) : List Char → Option (Nat × List Char)
  | [] => none
  | c :: cs =>
    match digitValue? c with
    | none => none
    | some d =>
      let t := threshold place bias
      if d < t then some (d * weight, cs)
      else (readNumber? bias (place + 36) (weight * (36 - t)) cs).map
        fun r => (d * weight + r.1, r.2)

theorem length_of_readNumber? {bias place weight : Nat} {cs : List Char} {r : Nat × List Char}
    (h : readNumber? bias place weight cs = some r) : r.2.length < cs.length := by
  induction cs generalizing place weight r with
  | nil => simp [readNumber?] at h
  | cons c cs ih =>
    simp only [readNumber?] at h
    split at h
    · simp at h
    · split at h
      · simp [← Option.some.inj h]
      · obtain ⟨s, hs, he⟩ := Option.map_eq_some_iff.1 h
        have := ih hs
        simp only [← he, List.length_cons]
        omega

/-- Divides by 35 until 455 is reached: the rest, and 36 for each division. -/
def shrink (delta k : Nat) : Nat × Nat :=
  if delta ≤ 455 then (delta, k) else shrink (delta / 35) (k + 36)
termination_by delta
decreasing_by omega

/-- The bias after a number, of which the label holds `count` characters afterwards. -/
def adapt (delta count : Nat) (first : Bool) : Nat :=
  let delta := if first then delta / 700 else delta / 2
  let (rest, k) := shrink (delta + delta / count) 0
  k + 36 * rest / (rest + 38)

/-! ## Writing -/

/-- A label that is being written. -/
structure Writing where
  text : List Char
  /-- the places passed over since the last number -/
  delta : Nat
  bias : Nat
  /-- how many characters of the label are written -/
  count : Nat
  deriving DecidableEq, Repr, Inhabited

/-- Passes a character of the label while `code` is written; `basic` characters were
written at the start. -/
def Writing.pass (basic code : Nat) (w : Writing) (c : Char) : Writing :=
  if c.toNat < code then { w with delta := w.delta + 1 }
  else if c.toNat = code then
    { text := w.text ++ number w.bias 36 w.delta
      delta := 0
      bias := adapt w.delta (w.count + 1) (w.count = basic)
      count := w.count + 1 }
  else w

/-- Writes the characters with the given code points, of which all below `next` are
written. -/
def writeCodes (label : List Char) (basic : Nat) : Nat → Writing → List Nat → Writing
  | _, w, [] => w
  | next, w, code :: codes =>
    let w := { w with delta := w.delta + (code - next) * (w.count + 1) }
    let w := label.foldl (Writing.pass basic code) w
    writeCodes label basic (code + 1) { w with delta := w.delta + 1 } codes

/-- The character is one of ASCII. -/
def isBasic (c : Char) : Bool := c.toNat < 0x80

/-- A label in ASCII. -/
def encode (label : List Char) : List Char :=
  let basic := label.filter isBasic
  let codes := ((label.filter (!isBasic ·)).map Char.toNat).mergeSort.eraseDups
  let front := if basic.isEmpty then [] else basic ++ ['-']
  front ++ (writeCodes label basic.length 0x80 ⟨[], 0, 72, basic.length⟩ codes).text

/-! ## Reading -/

/-- Puts the characters that numbers describe into a label.  The code point and the
position are those after the last one, and the position is 0 before the first. -/
def place? (code position bias : Nat) (label : List Char) (cs : List Char) : Option (List Char) :=
  if cs.isEmpty then some label
  else
    match _h : readNumber? bias 36 1 cs with
    | none => none
    | some (delta, rest) =>
      let size := label.length + 1
      let first : Bool := position = 0
      let code := code + (position + delta) / size
      let position := (position + delta) % size
      if code.isValidChar then
        place? code (position + 1) (adapt delta size first)
          (label.insertIdx position (Char.ofNat code)) rest
      else none
termination_by cs.length
decreasing_by exact length_of_readNumber? _h

/-- The label that a text writes.  What is before the last dash are the ASCII characters,
and the dash belongs to them unless there are none. -/
def decode? (text : List Char) : Option (List Char) :=
  let isNoDash (c : Char) : Bool := c ≠ '-'
  let numbers := (text.reverse.takeWhile isNoDash).reverse
  match (text.reverse.dropWhile isNoDash).tail.reverse with
  | [] => place? 0x80 0 72 [] text
  | basic => if basic.all isBasic then place? 0x80 0 72 basic numbers else none

end HostWatch.DomainName.Punycode
