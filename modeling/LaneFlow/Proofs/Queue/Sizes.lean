import Mathlib
import LaneFlow.Queue.LaneQueue

/-!
# Exact sizes

The storage of a segment and its flow budget count the sizes of vehicles.
Over exact numbers such counts add up: it matters neither in which order
vehicles come and go nor how they are grouped.

## Main results

* `totalSize_append`, `totalSize_flatMap` — the sizes of a whole are those of
  its parts.
* `Quantity.sum_rat` — the sum that the library takes is the exact one.
-/

namespace LaneFlow

theorem Quantity.zero_rat : (0.0 : Rat) = 0 := by norm_num

theorem Quantity.sum_rat (xs : List Rat) : Quantity.sum xs = xs.sum := by
  have hfrom : ∀ (xs : List Rat) (x : Rat),
      xs.foldl (· + ·) x = x + xs.sum := by
    intro xs
    induction xs with
    | nil => simp
    | cons y ys ih =>
        intro x
        rw [List.foldl_cons, ih, List.sum_cons, add_assoc]
  have h := hfrom xs 0
  rw [zero_add] at h
  exact h

/-- The sizes of several vehicles together. -/
def totalSize (vs : List (Vehicle Rat)) : Rat := (vs.map (·.size)).sum

@[simp] theorem totalSize_nil : totalSize [] = 0 := rfl

@[simp] theorem totalSize_cons (v : Vehicle Rat) (vs : List (Vehicle Rat)) :
    totalSize (v :: vs) = v.size + totalSize vs := by
  simp [totalSize]

@[simp] theorem totalSize_append (vs ws : List (Vehicle Rat)) :
    totalSize (vs ++ ws) = totalSize vs + totalSize ws := by
  simp [totalSize]

theorem totalSize_flatMap {β : Type} (xs : List β)
    (f : β → List (Vehicle Rat)) :
    totalSize (xs.flatMap f) = (xs.map fun x => totalSize (f x)).sum := by
  induction xs with
  | nil => rfl
  | cons x xs ih =>
      rw [List.flatMap_cons, totalSize_append, ih, List.map_cons,
        List.sum_cons]

theorem totalSize_nonneg {vs : List (Vehicle Rat)}
    (h : ∀ v ∈ vs, 0 ≤ v.size) : 0 ≤ totalSize vs := by
  refine List.sum_nonneg fun x hx => ?_
  obtain ⟨v, hv, rfl⟩ := List.mem_map.1 hx
  exact h v hv

end LaneFlow
