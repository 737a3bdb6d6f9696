import HostWatch.Proofs.Json.Overlay
set_option autoImplicit false

/-!
# Json: reading what was written

What a reader makes of a plain value that was written for it, and how a reader of records goes from
one field to the next when it knows what the object gives.
-/

namespace HostWatch.Json

open HostWatch.Number

variable {α β : Type}

/-- A value is written so that it reads as another one, which is written in the same way. -/
structure ReadsBackAs (write : α → Json) (read : Json → Option α) (a b : α) : Prop where
  reads : read (write a) = some b
  writes : write b = write a

/-! ## Plain values -/

theorem intIn?_of_mem {low high n : Int} (hlow : low ≤ n) (hhigh : n < high) :
    intIn? low high (.int n) = some n := by
  rw [intIn?, if_pos (by simp [hlow, hhigh])]

theorem uint16?_ofNat (n : UInt16) : uint16? (.ofNat n.toNat) = some n := by
  rw [uint16?, ofNat, intIn?_of_mem (Int.natCast_nonneg _) (Int.ofNat_lt.2 n.toNat_lt)]
  simp

theorem uint32?_ofNat (n : UInt32) : uint32? (.ofNat n.toNat) = some n := by
  rw [uint32?, ofNat, intIn?_of_mem (Int.natCast_nonneg _) (Int.ofNat_lt.2 n.toNat_lt)]
  simp

theorem uint64?_ofNat (n : UInt64) : uint64? (.ofNat n.toNat) = some n := by
  rw [uint64?, ofNat, intIn?_of_mem (Int.natCast_nonneg _) (Int.ofNat_lt.2 n.toNat_lt)]
  simp

theorem int64?_int (n : Int64) : int64? (.int n.toInt) = some n := by
  have hread := intIn?_of_mem n.le_toInt n.toInt_lt
  have hmap := congrArg (Option.map Int64.ofInt) hread
  rw [Option.map_some, Int64.ofInt_toInt] at hmap
  exact hmap

theorem float?_ofFloat {x : Float} (hfinite : isFinite x = true) :
    float? (.ofFloat x) = some x := by
  rw [ofFloat, if_pos hfinite]
  rfl

/-! ## Lists and what may be missing -/

theorem list?_map {read : Json → Option α} {write : α → Json} {xs : List α}
    (hread : ∀ x ∈ xs, read (write x) = some x) : list? read (.arr (xs.map write)) = some xs := by
  show (xs.map write).mapM read = some xs
  induction xs with
  | nil => rfl
  | cons x xs ih =>
    rw [List.map_cons, List.mapM_cons]
    exact bind_of_read (hread x (.head _))
      (bind_of_read (ih fun y hy => hread y (.tail _ hy)) rfl)

theorem list?_ofStrings (xs : List String) : list? text? (.ofStrings xs) = some xs :=
  list?_map fun _ _ => rfl

theorem nullable_ofOption {read : Json → Option α} {write : α → Json} {f : α → α} {a : Option α}
    (hwrite : ∀ x, write x ≠ .null) (hread : ∀ x, read (write x) = some (f x)) :
    Record.nullable read (.ofOption write a) = some (a.map f) := by
  cases a with
  | none => rfl
  | some x =>
    rw [ofOption, Record.nullable_of_ne_null (hwrite x), hread x]
    rfl

theorem ofOption_map {write : α → Json} {f : α → α} (hwrite : ∀ x, write (f x) = write x)
    (a : Option α) : Json.ofOption write (a.map f) = .ofOption write a := by
  cases a with
  | none => rfl
  | some x => exact hwrite x

theorem nullable_ofOption_str (a : Option String) :
    Record.nullable text? (.ofOption .str a) = some a := by
  cases a <;> rfl

/-! ## Fields -/

namespace Record

variable {r : Record} {name : String} {v : Json} {read : Json → Option α} {a d : α}

theorem bind_required {f : α → Option β} {b : β} (hfind : r.find? name = some v)
    (hread : read v = some a) (hrest : f a = some b) : (r.required name read >>= f) = some b := by
  rw [required, hfind]
  exact bind_of_read hread hrest

theorem bind_optional {f : Option α → Option β} {b : β} {a : Option α}
    (hfind : r.find? name = some v) (hread : nullable read v = some a) (hrest : f a = some b) :
    (r.optional name read >>= f) = some b := by
  rw [optional, hfind]
  exact bind_of_read hread hrest

theorem bind_withDefault {f : α → Option β} {b : β} (hfind : r.find? name = some v)
    (hread : read v = some a) (hrest : f a = some b) :
    (r.withDefault name read d >>= f) = some b := by
  rw [withDefault_of_find?_some hfind]
  exact bind_of_read hread hrest

theorem bind_withDefault_missing {f : α → Option β} {b : β} (hfind : r.find? name = none)
    (hrest : f d = some b) : (r.withDefault name read d >>= f) = some b := by
  rw [withDefault_of_find?_none hfind]
  exact hrest

end Record

end HostWatch.Json
