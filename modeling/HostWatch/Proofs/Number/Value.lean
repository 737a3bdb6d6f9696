import Mathlib.Algebra.Order.Field.Rat
import Mathlib.Tactic.Ring
import HostWatch.Proofs.Number.Order
set_option autoImplicit false

/-!
# Number: what a float stands for, as a rational number

A float stands for a rational number, unless it is an infinity or no number at all (`value?`).
Floats are ordered as the numbers that they stand for (`le_iff_value_le`): a larger exponent
belongs to a larger number, since all significands but those of the least exponent have the same
number of binary digits (`IsSignificand`).  So a float lies between two others exactly when it
stands for a number between theirs (`between_iff`).
-/

namespace HostWatch.Number

open Float.Model Float.Model.UnpackedFloat

/-- The number that an unpacked float stands for. -/
def valueOf? : UnpackedFloat → Option ℚ
  | .zero _ => some 0
  | .finite .positive m e _ => some (m * 2 ^ e)
  | .finite .negative m e _ => some (-(m * 2 ^ e))
  | .infinity _ | .notANumber => none

/-- The number that a float stands for. -/
def value? (x : Float) : Option ℚ := valueOf? x.toModel.unpack

/-- A significand has 53 binary digits; it has fewer only next to the least exponent. -/
def IsSignificand (m : Nat) (e : Int) : Prop := m < 2 ^ 53 ∧ -1074 ≤ e ∧ (2 ^ 52 ≤ m ∨ e = -1074)

theorem isSignificand_of_unpack {x : Float} {s : Sign} {m : Nat} {e : Int} {hpos : 0 < m}
    (h : x.toModel.unpack = .finite s m e hpos) : IsSignificand m e := by
  unfold Float.Model.unpack UnpackedFloat.unpack at h
  extract_lets mantissaVec exponentVec exponent signVec sign at h
  have hfraction : mantissaVec.toNat < 2 ^ 52 := mantissaVec.isLt
  have hexponent : exponent = (exponentVec.toNat : Int) - 1075 := rfl
  -- The exponent field tells infinities, the numbers next to zero and all others apart.
  by_cases hfull : exponentVec = -1#_
  · by_cases hinfinite : mantissaVec = 0#_
    · rw [if_pos hfull, if_pos hinfinite] at h
      cases h
    · rw [if_pos hfull, if_neg hinfinite] at h
      cases h
  · rw [if_neg hfull] at h
    by_cases hzero : exponentVec = 0#_
    · have hfield : exponentVec.toNat = 0 := by rw [hzero]; rfl
      rw [if_pos hzero] at h
      by_cases hnone : mantissaVec = 0#_
      · rw [dif_pos hnone] at h
        cases h
      · rw [dif_neg hnone] at h
        obtain ⟨rfl, rfl, rfl⟩ := UnpackedFloat.finite.inj h
        exact ⟨by omega, by omega, .inr (by omega)⟩
    · have hfield : exponentVec.toNat ≠ 0 := fun h0 => hzero (BitVec.eq_of_toNat_eq h0)
      have hleading : (1#1 ++ mantissaVec).toNat = 2 ^ 52 + mantissaVec.toNat := by
        rw [BitVec.toNat_append, show (1#1).toNat = 1 from rfl, Nat.shiftLeft_eq, Nat.one_mul,
          Nat.or_comm, Nat.or_two_pow_eq_add_of_lt mantissaVec.isLt, Nat.add_comm]
      rw [if_neg hzero] at h
      obtain ⟨rfl, rfl, rfl⟩ := UnpackedFloat.finite.inj h
      rw [hleading]
      exact ⟨by omega, by omega, .inl (Nat.le_add_right _ _)⟩

/-- **A larger exponent** belongs to a larger number. -/
theorem lt_of_exponent_lt {m m' : Nat} {e e' : Int} (h : IsSignificand m e)
    (h' : IsSignificand m' e') (hlt : e < e') : (m : ℚ) * 2 ^ e < m' * 2 ^ e' := by
  obtain ⟨hm, hleast, _⟩ := h
  have hm' : 2 ^ 52 ≤ m' := h'.2.2.resolve_right (by omega)
  have hpos : (0 : ℚ) < 2 ^ e := zpow_pos two_pos e
  calc (m : ℚ) * 2 ^ e
      < 2 ^ 53 * 2 ^ e := mul_lt_mul_of_pos_right (by exact_mod_cast hm) hpos
    _ = 2 ^ 52 * 2 ^ (e + 1) := by
      rw [zpow_add_one₀ two_ne_zero]
      ring
    _ ≤ 2 ^ 52 * 2 ^ e' :=
      mul_le_mul_of_nonneg_left (zpow_le_zpow_right₀ one_le_two (by omega)) (by norm_num)
    _ ≤ m' * 2 ^ e' :=
      mul_le_mul_of_nonneg_right (by exact_mod_cast hm') (zpow_pos two_pos e').le

/-- Exponents first and significands after them are compared as the numbers are. -/
theorem compare_magnitudes {m m' : Nat} {e e' : Int} (h : IsSignificand m e)
    (h' : IsSignificand m' e') :
    (compare e e').then (compare m m') = compare ((m : ℚ) * 2 ^ e) (m' * 2 ^ e') := by
  rcases lt_trichotomy e e' with hlt | rfl | hlt
  · rw [compare_lt_iff_lt.2 hlt, compare_lt_iff_lt.2 (lt_of_exponent_lt h h' hlt)]
    rfl
  · have hscale : (0 : ℚ) < 2 ^ e := zpow_pos two_pos e
    rw [compare_eq_iff_eq.2 (rfl : e = e), Ordering.eq_then]
    rcases lt_trichotomy m m' with hlt | rfl | hlt
    · rw [compare_lt_iff_lt.2 hlt,
        compare_lt_iff_lt.2 (mul_lt_mul_of_pos_right (Nat.cast_lt.2 hlt) hscale)]
    · rw [compare_eq_iff_eq.2 rfl, compare_eq_iff_eq.2 rfl]
    · rw [compare_gt_iff_gt.2 hlt,
        compare_gt_iff_gt.2 (mul_lt_mul_of_pos_right (Nat.cast_lt.2 hlt) hscale)]
  · rw [compare_gt_iff_gt.2 hlt, compare_gt_iff_gt.2 (lt_of_exponent_lt h' h hlt)]
    rfl

theorem compare_neg (a b : ℚ) : compare (-a) (-b) = (compare a b).swap := by
  rcases lt_trichotomy a b with hlt | rfl | hlt
  · rw [compare_lt_iff_lt.2 hlt, compare_gt_iff_gt.2 (neg_lt_neg hlt)]
    rfl
  · rw [compare_eq_iff_eq.2 rfl, compare_eq_iff_eq.2 rfl]
    rfl
  · rw [compare_gt_iff_gt.2 hlt, compare_lt_iff_lt.2 (neg_lt_neg hlt)]
    rfl

/-- The float has a significand, if it has digits at all. -/
def HasSignificand : UnpackedFloat → Prop
  | .finite _ m e _ => IsSignificand m e
  | _ => True

/-- **Unpacked floats compare** as the numbers that they stand for. -/
theorem compare_eq_compare_value {u v : UnpackedFloat} {a b : ℚ} (hu : valueOf? u = some a)
    (hv : valueOf? v = some b) (hleft : HasSignificand u) (hright : HasSignificand v) :
    u.compare v = some (compare a b) := by
  have hscaled : ∀ {m : Nat} (e : Int), 0 < m → (0 : ℚ) < m * 2 ^ e :=
    fun e hm => mul_pos (Nat.cast_pos.2 hm) (zpow_pos two_pos e)
  have hless : ∀ {a b : ℚ}, a < b → some Ordering.lt = some (compare a b) :=
    fun h => congrArg some (compare_lt_iff_lt.2 h).symm
  have hmore : ∀ {a b : ℚ}, b < a → some Ordering.gt = some (compare a b) :=
    fun h => congrArg some (compare_gt_iff_gt.2 h).symm
  cases u with
  | notANumber => cases hu
  | infinity s => cases hu
  | zero s =>
    obtain rfl : 0 = a := Option.some.inj hu
    cases v with
    | notANumber => cases hv
    | infinity s' => cases hv
    | zero s' =>
      obtain rfl : 0 = b := Option.some.inj hv
      exact congrArg some (compare_eq_iff_eq.2 rfl).symm
    | finite s' m' e' hm' =>
      have hpos' := hscaled e' hm'
      cases s' with
      | positive =>
        obtain rfl := Option.some.inj hv
        exact hless hpos'
      | negative =>
        obtain rfl := Option.some.inj hv
        exact hmore (neg_neg_of_pos hpos')
  | finite s m e hm =>
    have hpos := hscaled e hm
    cases v with
    | notANumber => cases hv
    | infinity s' => cases hv
    | zero s' =>
      obtain rfl : 0 = b := Option.some.inj hv
      cases s with
      | positive =>
        obtain rfl := Option.some.inj hu
        exact hmore hpos
      | negative =>
        obtain rfl := Option.some.inj hu
        exact hless (neg_neg_of_pos hpos)
    | finite s' m' e' hm' =>
      have hpos' := hscaled e' hm'
      cases s with
      | positive =>
        obtain rfl := Option.some.inj hu
        cases s' with
        | positive =>
          obtain rfl := Option.some.inj hv
          exact congrArg some (compare_magnitudes hleft hright)
        | negative =>
          obtain rfl := Option.some.inj hv
          exact hmore ((neg_neg_of_pos hpos').trans hpos)
      | negative =>
        obtain rfl := Option.some.inj hu
        cases s' with
        | positive =>
          obtain rfl := Option.some.inj hv
          exact hless ((neg_neg_of_pos hpos).trans hpos')
        | negative =>
          obtain rfl := Option.some.inj hv
          rw [compare_neg, ← compare_magnitudes hleft hright]
          rfl

theorem hasSignificand_unpack (x : Float) : HasSignificand x.toModel.unpack := by
  cases h : x.toModel.unpack with
  | finite s m e hpos => exact isSignificand_of_unpack h
  | notANumber => trivial
  | infinity s => trivial
  | zero s => trivial

/-- **The order of floats** is that of the numbers that they stand for. -/
theorem le_iff_value_le {x y : Float} {a b : ℚ} (hx : value? x = some a) (hy : value? y = some b) :
    x ≤ y ↔ a ≤ b := by
  rw [le_iff_order?, order?, compare_eq_compare_value hx hy (hasSignificand_unpack x)
    (hasSignificand_unpack y)]
  rw [← compare_le_iff_le]
  exact Ordering.isLE_iff_ne_gt

/-- What lies between two numbers is a number. -/
theorem exists_valueOf_between {u v t : UnpackedFloat} {a b : ℚ} (hu : valueOf? u = some a)
    (hv : valueOf? v = some b) (hlow : (u.compare t).any (·.isLE) = true)
    (hhigh : (t.compare v).any (·.isLE) = true) : ∃ r, valueOf? t = some r := by
  cases t with
  | notANumber =>
    rw [compare_notANumber_left] at hhigh
    cases hhigh
  | infinity s =>
    cases s with
    | positive =>
      cases v with
      | notANumber => cases hv
      | infinity s' => cases hv
      | zero s' => cases hhigh
      | finite s' m e hm => cases hhigh
    | negative =>
      cases u with
      | notANumber => cases hu
      | infinity s' => cases hu
      | zero s' => cases hlow
      | finite s' m e hm => cases s' <;> cases hlow
  | zero s => exact ⟨_, rfl⟩
  | finite s m e hm => cases s <;> exact ⟨_, rfl⟩

/-- **A float lies between two others** exactly when it stands for a number between theirs. -/
theorem between_iff {x low high : Float} {a b : ℚ} (ha : value? low = some a)
    (hb : value? high = some b) :
    low ≤ x ∧ x ≤ high ↔ ∃ r, value? x = some r ∧ a ≤ r ∧ r ≤ b := by
  constructor
  · rintro ⟨hlow, hhigh⟩
    obtain ⟨r, hr⟩ :=
      exists_valueOf_between ha hb (le_iff_order?.1 hlow) (le_iff_order?.1 hhigh)
    exact ⟨r, hr, (le_iff_value_le ha hr).1 hlow, (le_iff_value_le hr hb).1 hhigh⟩
  · rintro ⟨r, hr, hlow, hhigh⟩
    exact ⟨(le_iff_value_le ha hr).2 hlow, (le_iff_value_le hr hb).2 hhigh⟩

end HostWatch.Number
