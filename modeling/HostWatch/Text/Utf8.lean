set_option autoImplicit false

/-!
# Text: bytes in UTF-8

Bytes are read character by character.  Where they spell no character, the reader takes
as many bytes as could still begin one, and at least one byte, for a single broken
piece.  `decode?` refuses broken pieces; `decodeLossy` puts the replacement character
in the place of each.
-/

namespace HostWatch.Text

/-- The byte continues a character. -/
def isContinuation (b : UInt8) : Bool := 0x80 ≤ b && b ≤ 0xBF

/-- What is known after the first byte of a character: how many bytes follow, the bounds
of the next one, and the bits of the first. -/
structure Lead where
  following : Nat
  low : UInt8
  high : UInt8
  bits : Nat
  deriving DecidableEq, Repr, Inhabited

/-- What a first byte beyond ASCII says. -/
def lead? (b : UInt8) : Option Lead :=
  let n := b.toNat
  if 0xC2 ≤ n && n ≤ 0xDF then some ⟨1, 0x80, 0xBF, n - 0xC0⟩
  else if n = 0xE0 then some ⟨2, 0xA0, 0xBF, 0⟩
  else if n = 0xED then some ⟨2, 0x80, 0x9F, 0xD⟩
  else if 0xE1 ≤ n && n ≤ 0xEF then some ⟨2, 0x80, 0xBF, n - 0xE0⟩
  else if n = 0xF0 then some ⟨3, 0x90, 0xBF, 0⟩
  else if n = 0xF4 then some ⟨3, 0x80, 0x8F, 4⟩
  else if 0xF1 ≤ n && n ≤ 0xF3 then some ⟨3, 0x80, 0xBF, n - 0xF0⟩
  else none

/-- The rest of a character of which `following` bytes are missing: the character, or
none when it breaks off, and the bytes after it. -/
def finishChar (following : Nat) (low high : UInt8) (bits : Nat) :
    List UInt8 → Option Char × List UInt8
  | [] => (if following = 0 then some (Char.ofNat bits) else none, [])
  | b :: bs =>
    if following = 0 then (some (Char.ofNat bits), b :: bs)
    else if low ≤ b && b ≤ high then
      finishChar (following - 1) 0x80 0xBF (bits * 64 + (b.toNat - 0x80)) bs
    else (none, b :: bs)

theorem snd_finishChar_suffix (following : Nat) (low high : UInt8) (bits : Nat) (bs : List UInt8) :
    (finishChar following low high bits bs).2 <:+ bs := by
  induction bs generalizing following low high bits with
  | nil => exact List.suffix_refl _
  | cons b bs ih =>
    simp only [finishChar]
    split
    · exact List.suffix_refl _
    · split
      · exact (ih _ _ _ _).trans (List.suffix_cons b bs)
      · exact List.suffix_refl _

/-- The first piece of some bytes: a character, or none for a broken piece, and the bytes
after it. -/
def firstPiece (b : UInt8) (bs : List UInt8) : Option Char × List UInt8 :=
  if b < 0x80 then (some (Char.ofNat b.toNat), bs)
  else
    match lead? b with
    | none => (none, bs)
    | some l => finishChar l.following l.low l.high l.bits bs

theorem snd_firstPiece_suffix (b : UInt8) (bs : List UInt8) : (firstPiece b bs).2 <:+ bs := by
  simp only [firstPiece]
  split
  · exact List.suffix_refl _
  · split
    · exact List.suffix_refl _
    · exact snd_finishChar_suffix _ _ _ _ _

/-- The pieces of some bytes: characters, and `none` for every broken piece. -/
def pieces : List UInt8 → List (Option Char)
  | [] => []
  | b :: bs => (firstPiece b bs).1 :: pieces (firstPiece b bs).2
termination_by bs => bs.length
decreasing_by
  have := (snd_firstPiece_suffix b bs).length_le
  simp only [List.length_cons]
  omega

/-- The text of some bytes, with the replacement character for every broken piece. -/
def decodeLossy (bs : List UInt8) : String :=
  String.ofList ((pieces bs).map fun p => p.getD '\ufffd')

/-- The text of some bytes; none when a piece is broken. -/
def decode? (bs : List UInt8) : Option String := ((pieces bs).mapM id).map String.ofList

/-! ## Positions in bytes -/

/-- A text in front of a position and from there on; none when the position is within a
character or beyond the end. -/
def cutAt? : Nat → List Char → Option (List Char × List Char)
  | 0, cs => some ([], cs)
  | _ + 1, [] => none
  | n + 1, c :: cs =>
    if c.utf8Size ≤ n + 1 then
      (cutAt? (n + 1 - c.utf8Size) cs).map fun p => (c :: p.1, p.2)
    else none

/-- The part of a text between two positions. -/
def slice? (start stop : Nat) (cs : List Char) : Option (List Char) :=
  (cutAt? stop cs).bind fun p => (cutAt? start p.1).map (·.2)

end HostWatch.Text
