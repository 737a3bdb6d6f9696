import HostWatch.Number.Binary
set_option autoImplicit false

/-!
# Number: above and below

Two floats compare in one of three ways, unless one of them is no number, and the two orders of
asking mirror each other (`compare_swap`).  So a finite value that is not at or above some
threshold lies below it, provided that the threshold is a number; that something else is at or
above the threshold shows that it is one (`lt_iff_not_le`).
-/

namespace HostWatch.Number

open Float.Model Float.Model.UnpackedFloat

theorem compare_swap (a b : UnpackedFloat) : b.compare a = (a.compare b).map Ordering.swap := by
  have hexponents : ∀ e e' : Int, compare e' e = (compare e e').swap :=
    fun _ _ => Std.OrientedCmp.eq_swap
  have hmantissas : ∀ m m' : Nat, compare m' m = (compare m m').swap :=
    fun _ _ => Std.OrientedCmp.eq_swap
  cases a with
  | notANumber => cases b <;> rfl
  | infinity s =>
    cases b with
    | notANumber => cases s <;> rfl
    | infinity s' => cases s <;> cases s' <;> rfl
    | zero s' => cases s <;> rfl
    | finite s' m' e' h' => cases s <;> rfl
  | zero s =>
    cases b with
    | notANumber => rfl
    | infinity s' => cases s' <;> rfl
    | zero s' => rfl
    | finite s' m' e' h' => cases s' <;> rfl
  | finite s m e h =>
    cases b with
    | notANumber => cases s <;> rfl
    | infinity s' => cases s <;> cases s' <;> rfl
    | zero s' => cases s <;> rfl
    | finite s' m' e' h' =>
      have hmagnitudes : (compare e' e).then (compare m' m) =
          ((compare e e').then (compare m m')).swap := by
        rw [hexponents, hmantissas, Ordering.swap_then]
      cases s with
      | positive =>
        cases s' with
        | positive => exact congrArg some hmagnitudes
        | negative => rfl
      | negative =>
        cases s' with
        | positive => rfl
        | negative => exact congrArg (fun o => some o.swap) hmagnitudes

theorem compare_notANumber_left (b : UnpackedFloat) :
    UnpackedFloat.notANumber.compare b = none := by
  cases b <;> rfl

theorem isSome_compare {a b : UnpackedFloat} (ha : a ≠ .notANumber) (hb : b ≠ .notANumber) :
    (a.compare b).isSome = true := by
  cases a with
  | notANumber => exact absurd rfl ha
  | infinity s =>
    cases b with
    | notANumber => exact absurd rfl hb
    | infinity s' => cases s <;> rfl
    | zero s' => cases s <;> rfl
    | finite s' m' e' h' => cases s <;> rfl
  | zero s =>
    cases b with
    | notANumber => exact absurd rfl hb
    | infinity s' => cases s' <;> rfl
    | zero s' => rfl
    | finite s' m' e' h' => cases s' <;> rfl
  | finite s m e h =>
    cases b with
    | notANumber => exact absurd rfl hb
    | infinity s' => cases s <;> cases s' <;> rfl
    | zero s' => cases s <;> rfl
    | finite s' m' e' h' => cases s <;> cases s' <;> rfl

/-- The exponent field that is read from the bits is the one that the float is made of. -/
theorem exponentField_eq (x : Float) :
    exponentField x =
      (@unpackExponent Format.binary64 x.toModel.toBits.toBitVec).toNat := by
  show (x.toModel.toBits.toNat >>> 52) &&& 2047 = (x.toModel.toBits.toNat >>> 52) % 2 ^ 11
  exact Nat.and_two_pow_sub_one_eq_mod _ 11

theorem unpack_ne_notANumber {x : Float} (h : isFinite x = true) :
    x.toModel.unpack ≠ .notANumber := by
  have hexponent :
      @unpackExponent Format.binary64 x.toModel.toBits.toBitVec ≠ -1#_ := by
    intro hones
    have hfield := exponentField_eq x
    rw [hones] at hfield
    simp [isFinite, hfield] at h
  unfold Float.Model.unpack UnpackedFloat.unpack
  extract_lets mantissaVec exponentVec exponent signVec sign
  rw [if_neg (show ¬ exponentVec = -1#_ from hexponent)]
  by_cases hsmall : exponentVec = 0#_
  · rw [if_pos hsmall]
    by_cases hzero : mantissaVec = 0#_
    · rw [dif_pos hzero]
      exact UnpackedFloat.noConfusion
    · rw [dif_neg hzero]
      exact UnpackedFloat.noConfusion
  · rw [if_neg hsmall]
    exact UnpackedFloat.noConfusion

/-- How two floats compare. -/
def order? (a b : Float) : Option Ordering := a.toModel.unpack.compare b.toModel.unpack

theorem le_iff_order? {a b : Float} : a ≤ b ↔ (order? a b).any (·.isLE) = true := by
  show decide (a.toModel.unpack.le b.toModel.unpack = true) = true ↔ _
  rw [decide_eq_true_eq]
  rfl

theorem lt_iff_order? {a b : Float} : a < b ↔ order? a b = some .lt := by
  show decide (a.toModel.unpack.lt b.toModel.unpack = true) = true ↔ _
  rw [decide_eq_true_eq]
  show (order? a b == some .lt) = true ↔ _
  rw [beq_iff_eq]

/-- **Below means not at or above**, for a finite value and a threshold that some value is at
or above of. -/
theorem lt_iff_not_le {value threshold high : Float} (hvalue : isFinite value = true)
    (hhigh : threshold ≤ high) : value < threshold ↔ ¬ threshold ≤ value := by
  have hnumber : threshold.toModel.unpack ≠ .notANumber := by
    intro hnan
    rw [le_iff_order?, order?, hnan, compare_notANumber_left] at hhigh
    cases hhigh
  obtain ⟨o, ho⟩ : ∃ o, order? value threshold = some o :=
    Option.isSome_iff_exists.1 (isSome_compare (unpack_ne_notANumber hvalue) hnumber)
  have hswap : order? threshold value = some o.swap := by
    rw [order?, compare_swap, ← order?, ho, Option.map_some]
  rw [lt_iff_order?, le_iff_order?, ho, hswap]
  cases o <;> decide

end HostWatch.Number
