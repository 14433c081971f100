import Mathlib
import LaneFlow.Quantity

/-!
# Laws that all quantities share

The rules of this library ask for no laws of arithmetic.  Some laws hold all the
same, for exact numbers and for floating point numbers with all their rounding:
what a sum starts with is neutral, and the larger of two numbers that compare is
the one that is not smaller.  `Quantity.Regular` collects them, so that a fact
that needs no more is proved once.

Floating point numbers are taken apart here as they are put together: a sign, a
mantissa and an exponent, or a zero, an infinity, what is not a number.

## Main results

* `Quantity.float_add_sumStart`, `Quantity.float_max_of_le` — the laws for
  floating point numbers.
-/

namespace LaneFlow.Quantity

/-- Adding the start of a sum changes nothing, and of two quantities that
compare the larger one is the maximum. -/
class Regular (α : Type) [Quantity α] : Prop where
  add_sumStart : ∀ x : α, x + sumStart = x
  max_of_le : ∀ {a b : α}, le b a = true → max a b = a

instance : Regular Rat where
  add_sumStart := add_zero
  max_of_le {a b} h := by
    rw [rat_le, decide_eq_true_eq] at h
    rw [rat_max, if_neg (not_lt.2 h)]

/-! ## Floating point numbers -/

open Float.Model (UnpackedFloat)

theorem unpack_sumStart : (sumStart : Float).toModel.unpack = .zero .negative := rfl

/-- A zero is neutral if it is negative; a positive one would take away the sign
of a negative zero. -/
theorem unpacked_add_zero (x : UnpackedFloat) :
    x.add .binary64 (.zero .negative) = x := by
  cases x with
  | zero sign => cases sign <;> rfl
  | _ => rfl

/-- Taking a number apart loses nothing. -/
theorem pack_unpack (x : Float.Model) : Float.Model.pack x.unpack = x := by
  obtain ⟨bits, hvalid⟩ := x
  simp only [Float.Model.pack, Float.Model.unpack, Float.Model.mk.injEq]
  exact congrArg UInt64.ofBitVec (UnpackedFloat.pack_unpack_of_valid hvalid)

theorem float_add_sumStart (x : Float) : x + sumStart = x := by
  have hsum : x + sumStart = ⟨Float.Model.pack
      (x.toModel.unpack.add .binary64 (sumStart : Float).toModel.unpack)⟩ := rfl
  rw [hsum, unpack_sumStart, unpacked_add_zero, pack_unpack]

theorem compare_swap (a b : UnpackedFloat) :
    b.compare a = (a.compare b).map Ordering.swap := by
  cases a with
  | infinity sign =>
      cases b with
      | infinity sign' => cases sign <;> cases sign' <;> rfl
      | _ => cases sign <;> rfl
  | notANumber =>
      cases b with
      | infinity sign => cases sign <;> rfl
      | finite sign => cases sign <;> rfl
      | _ => rfl
  | zero sign =>
      cases b with
      | infinity sign' => cases sign' <;> rfl
      | finite sign' => cases sign' <;> rfl
      | _ => rfl
  | finite sign m e =>
      cases b with
      | finite sign' m' e' =>
          cases sign <;> cases sign' <;>
            simp [UnpackedFloat.compare, Ordering.swap_then, Int.compare_swap,
              Nat.compare_swap]
      | infinity sign' => cases sign' <;> rfl
      | _ => cases sign <;> rfl

theorem float_le_iff {a b : Float} :
    b ≤ a ↔ (b.toModel.unpack.compare a.toModel.unpack).any (·.isLE) = true := by
  show decide (b.toModel ≤ a.toModel) = true ↔ _
  rw [decide_eq_true_iff]
  rfl

theorem float_lt_iff {a b : Float} :
    a < b ↔ a.toModel.unpack.compare b.toModel.unpack = some .lt := by
  show decide (a.toModel < b.toModel) = true ↔ _
  rw [decide_eq_true_iff]
  show (_ == _) = true ↔ _
  rw [beq_iff_eq]

theorem float_not_lt_of_le {a b : Float} (h : b ≤ a) : ¬ a < b := by
  rw [float_le_iff, compare_swap] at h
  rw [float_lt_iff]
  intro hlt
  rw [hlt] at h
  exact absurd h (by decide)

/-- What compares is a number. -/
theorem float_not_isNaN_of_le {a b : Float} (h : b ≤ a) : ¬ a.isNaN = true := by
  rw [float_le_iff] at h
  show ¬ a.toModel.unpack.isNaN = true
  cases ha : a.toModel.unpack with
  | notANumber =>
      rw [ha, compare_swap] at h
      exact absurd h (by simp [UnpackedFloat.compare])
  | _ => simp [UnpackedFloat.isNaN]

theorem float_max_of_le {a b : Float} (h : le b a = true) : max a b = a := by
  have hle : b ≤ a := of_decide_eq_true h
  show (if a.isNaN then b else if a < b then b else a) = a
  rw [if_neg (float_not_isNaN_of_le hle), if_neg (float_not_lt_of_le hle)]

instance : Regular Float := ⟨float_add_sumStart, float_max_of_le⟩

end LaneFlow.Quantity
