import Mathlib.Data.List.Basic
import HostWatch.Text.Base64
set_option autoImplicit false

/-!
# Text: base 64 is read back

Some bytes are read back from their written form (`decodeBase64?_encodeBase64`).  Three bytes and
four digits are one number below `2 ^ 24`, cut in eights or in sixes, and the last group of one or
two bytes is such a number with zeros below it.

The written form consists of letters, digits and the signs `+`, `/` and `=`, so that it is plain
and holds no blank (`isPlain_of_mem_encodeBase64`).
-/

namespace HostWatch.Text

/-! ## Digits -/

theorem base64Value?_base64Digit {n : Nat} (h : n < 64) :
    base64Value? (base64Digit n) = some n :=
  (by decide : ∀ n < 64, base64Value? (base64Digit n) = some n) n h

theorem base64Digit_ne_fill {n : Nat} (h : n < 64) : base64Digit n ≠ '=' :=
  (by decide : ∀ n < 64, base64Digit n ≠ '=') n h

/-- The character is plain: printed, and no blank. -/
def IsPlain (c : Char) : Prop := 0x20 < c.toNat ∧ c.toNat < 0x7F

theorem isPlain_base64Digit {n : Nat} (h : n < 64) : IsPlain (base64Digit n) :=
  (by decide : ∀ n < 64, 0x20 < (base64Digit n).toNat ∧ (base64Digit n).toNat < 0x7F) n h

theorem isPlain_fill : IsPlain '=' := by
  unfold IsPlain
  decide

/-! ## Groups -/

/-- Four digits are three bytes, whether or not more digits come. -/
theorem decodeBase64?_digits {x y z w : Nat} (hx : x < 64) (hy : y < 64) (hz : z < 64)
    (hw : w < 64) (rest : List Char) :
    decodeBase64? (base64Digit x :: base64Digit y :: base64Digit z :: base64Digit w :: rest) =
      (decodeBase64? rest).map fun bytes =>
        let n := ((x * 64 + y) * 64 + z) * 64 + w
        (n / 65536).toUInt8 :: (n / 256 % 256).toUInt8 :: (n % 256).toUInt8 :: bytes := by
  have hvalues := And.intro (base64Value?_base64Digit hx) <|
    And.intro (base64Value?_base64Digit hy) <|
      And.intro (base64Value?_base64Digit hz) (base64Value?_base64Digit hw)
  cases rest with
  | nil =>
    simp [decodeBase64?, decodeLastGroup?, hvalues, base64Digit_ne_fill hz, base64Digit_ne_fill hw]
  | cons c rest =>
    simp only [decodeBase64?, hvalues]
    cases decodeBase64? (c :: rest) <;> rfl

theorem toUInt8_toNat (a : UInt8) : a.toNat.toUInt8 = a := UInt8.ofNat_toNat

/-- The last byte alone: its lowest two bits begin a digit of their own. -/
theorem decodeBase64?_one (a : UInt8) : decodeBase64? (encodeBase64 [a]) = some [a] := by
  have ha := a.toNat_lt
  have hfirst := base64Value?_base64Digit (n := a.toNat / 4) (by omega)
  have hsecond := base64Value?_base64Digit (n := a.toNat % 4 * 16) (by omega)
  have hzeros : a.toNat % 4 * 16 % 16 = 0 := Nat.mul_mod_left _ _
  have hback : a.toNat / 4 * 4 + a.toNat % 4 * 16 / 16 = a.toNat := by omega
  have hgroup : decodeBase64? (encodeBase64 [a]) =
      some [(a.toNat / 4 * 4 + a.toNat % 4 * 16 / 16).toUInt8] := by
    simp only [encodeBase64, decodeBase64?, decodeLastGroup?, hfirst, hsecond, hzeros,
      Option.bind_eq_bind, Option.bind_some, decide_true, Bool.and_self, if_true]
  rw [hgroup, hback, toUInt8_toNat]

/-- The last two bytes: the lowest four bits begin a digit of their own. -/
theorem decodeBase64?_two (a b : UInt8) :
    decodeBase64? (encodeBase64 [a, b]) = some [a, b] := by
  have ha := a.toNat_lt
  have hb := b.toNat_lt
  obtain ⟨n, hn⟩ : ∃ n, n = a.toNat * 256 + b.toNat := ⟨_, rfl⟩
  have hfirst := base64Value?_base64Digit (n := n / 1024) (by omega)
  have hsecond := base64Value?_base64Digit (n := n / 16 % 64) (by omega)
  have hthird := base64Value?_base64Digit (n := n % 16 * 4) (by omega)
  have hdigit : base64Digit (n % 16 * 4) ≠ '=' := base64Digit_ne_fill (by omega)
  have hzeros : n % 16 * 4 % 4 = 0 := Nat.mul_mod_left _ _
  have hback : (n / 1024 * 64 + n / 16 % 64) * 64 + n % 16 * 4 = n * 4 := by omega
  have hgroup : decodeBase64? (encodeBase64 [a, b]) =
      some [(n * 4 / 1024).toUInt8, (n * 4 / 4 % 256).toUInt8] := by
    simp only [encodeBase64, ← hn, decodeBase64?, decodeLastGroup?, hfirst, hsecond, hthird,
      hdigit, hzeros, hback, Option.bind_eq_bind, Option.bind_some, decide_false, Bool.false_and,
      Bool.false_eq_true, if_false, if_true]
  have hhigh : n * 4 / 1024 = a.toNat := by omega
  have hlow : n * 4 / 4 % 256 = b.toNat := by omega
  rw [hgroup, hhigh, hlow, toUInt8_toNat, toUInt8_toNat]

theorem decodeBase64?_three (a b c : UInt8) (rest : List UInt8) :
    decodeBase64? (encodeBase64 (a :: b :: c :: rest)) =
      (decodeBase64? (encodeBase64 rest)).map fun bytes => a :: b :: c :: bytes := by
  have ha := a.toNat_lt
  have hb := b.toNat_lt
  have hc := c.toNat_lt
  obtain ⟨n, hn⟩ : ∃ n, n = (a.toNat * 256 + b.toNat) * 256 + c.toNat := ⟨_, rfl⟩
  have hback : ((n / 262144 * 64 + n / 4096 % 64) * 64 + n / 64 % 64) * 64 + n % 64 = n := by
    omega
  have hhigh : n / 65536 = a.toNat := by omega
  have hmiddle : n / 256 % 256 = b.toNat := by omega
  have hlow : n % 256 = c.toNat := by omega
  simp only [encodeBase64, ← hn]
  rw [decodeBase64?_digits (by omega) (by omega) (by omega) (by omega)]
  simp only [hback, hhigh, hmiddle, hlow, toUInt8_toNat]

/-! ## Reading back -/

/-- **Some bytes** are read back from base 64. -/
theorem decodeBase64?_encodeBase64 (bytes : List UInt8) :
    decodeBase64? (encodeBase64 bytes) = some bytes := by
  induction bytes using encodeBase64.induct with
  | case1 => rfl
  | case2 a => exact decodeBase64?_one a
  | case3 a b => exact decodeBase64?_two a b
  | case4 a b c rest ih => rw [decodeBase64?_three, ih, Option.map_some]

theorem isPlain_of_mem_encodeBase64 {bytes : List UInt8} :
    ∀ c ∈ encodeBase64 bytes, IsPlain c := by
  induction bytes using encodeBase64.induct with
  | case1 => exact List.forall_mem_nil _
  | case2 a =>
    have ha := a.toNat_lt
    simp only [encodeBase64, List.forall_mem_cons]
    exact ⟨isPlain_base64Digit (by omega), isPlain_base64Digit (by omega), isPlain_fill,
      isPlain_fill, List.forall_mem_nil _⟩
  | case3 a b =>
    have ha := a.toNat_lt
    have hb := b.toNat_lt
    simp only [encodeBase64, List.forall_mem_cons]
    exact ⟨isPlain_base64Digit (by omega), isPlain_base64Digit (by omega),
      isPlain_base64Digit (by omega), isPlain_fill, List.forall_mem_nil _⟩
  | case4 a b c rest ih =>
    have ha := a.toNat_lt
    have hb := b.toNat_lt
    have hc := c.toNat_lt
    simp only [encodeBase64, List.forall_mem_cons]
    exact ⟨isPlain_base64Digit (by omega), isPlain_base64Digit (by omega),
      isPlain_base64Digit (by omega), isPlain_base64Digit (by omega), ih⟩

end HostWatch.Text
