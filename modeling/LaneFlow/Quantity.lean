/-!
# Quantities

Lengths, speeds, capacities and vehicle sizes are *quantities*. The rules of
this library are written over any type of quantities, so that one definition
serves twice: over `Float` it is what the program computes, over `Rat` it is the
same rule with exact arithmetic.

`Quantity` lists what the rules need and states no law. A fact proved from the
class alone holds for floating point numbers with all their rounding; a fact
that needs laws is proved at `Rat`.

Three operations deserve a word:

* `min` and `max` take the other argument when one of them is not a number, and
  the first one when both are equal;
* `before` is a total order on all values, in which something that is not a
  number comes last. It decides between loads, where `lt` could leave the
  decision open;
* `secondsAt` cuts the duration of a way down to whole seconds and clamps it to
  the range of a clock. A length that is divided by a speed of zero is infinite
  over `Float`, so it takes all seconds of the clock; over `Rat`, where such a
  division gives zero, this is said in so many words.

## Main results

* `Quantity.sum_nil`, `Quantity.sum_concat`: the sum is taken from the left.
* `Quantity.rat_min`, `Quantity.rat_max`, `Quantity.rat_lt`, …: what the
  operations are at `Rat`.
-/

namespace LaneFlow

/-- The last second a clock can show. Clocks count in 32 bits. -/
def clockEnd : Nat := 0xffffffff

/-- What the rules of this library ask of numbers. -/
class Quantity (α : Type)
    extends Add α, Sub α, Mul α, Div α, OfScientific α where
  /-- The quantity of a count. -/
  ofCount : Nat → α
  /-- What a sum starts with: adding it changes no value, not even the sign of a
  zero. -/
  sumStart : α
  /-- Strictly smaller; false if either side is not a number. -/
  lt : α → α → Bool
  /-- Smaller or equal; false if either side is not a number. -/
  le : α → α → Bool
  /-- The smaller of two quantities. -/
  min : α → α → α
  /-- The larger of two quantities. -/
  max : α → α → α
  /-- The distance from zero. -/
  abs : α → α
  /-- Strictly earlier in the total order of all values. -/
  before : α → α → Bool
  /-- Whole seconds that some length takes at some speed, between 0 and
  `clockEnd`; 0 for what is not a number. -/
  secondsAt : α → α → Nat
  /-- Whether digits can be written for a quantity. -/
  isFinite : α → Bool

namespace Quantity

/-- The sum of a list, taken from the left. -/
def sum {α : Type} [Quantity α] (xs : List α) : α :=
  xs.foldl (· + ·) sumStart

@[simp] theorem sum_nil {α : Type} [Quantity α] :
    sum ([] : List α) = sumStart := rfl

theorem sum_concat {α : Type} [Quantity α] (xs : List α) (x : α) :
    sum (xs ++ [x]) = sum xs + x := by
  simp [sum, List.foldl_append]

/-! ## Floating point numbers -/

/--
The place of a floating point number in the total order: negative numbers from
the most negative up, then minus zero, zero, positive numbers, and last what is
not a number. A total order of all bit patterns would put what is not a number
and has a sign first; `Float.toBits` forgets that sign, so there is one place
for all of it.
-/
def orderKey (x : Float) : Int :=
  let bits := x.toBits.toNat
  if bits < 0x8000000000000000 then (bits : Int)
  else 0x7fffffffffffffff - (bits : Int)

instance : Quantity Float where
  ofCount := Float.ofNat
  sumStart := -0.0
  lt a b := decide (a < b)
  le a b := decide (a ≤ b)
  min a b := if a.isNaN then b else if b < a then b else a
  max a b := if a.isNaN then b else if a < b then b else a
  abs := Float.abs
  before a b := decide (orderKey a < orderKey b)
  secondsAt length speed := (length / speed).toUInt32.toNat
  isFinite := Float.isFinite

/-! ## Exact numbers -/

instance : Quantity Rat where
  ofCount n := (n : Rat)
  sumStart := 0
  lt a b := decide (a < b)
  le a b := decide (a ≤ b)
  min a b := if b < a then b else a
  max a b := if a < b then b else a
  abs a := if a < 0 then -a else a
  before a b := decide (a < b)
  secondsAt length speed :=
    if speed = 0 then if 0 < length then clockEnd else 0
    else Nat.min (length / speed).floor.toNat clockEnd
  isFinite _ := true

theorem rat_lt (a b : Rat) : lt a b = decide (a < b) := rfl

theorem rat_le (a b : Rat) : le a b = decide (a ≤ b) := rfl

theorem rat_min (a b : Rat) : min a b = if b < a then b else a := rfl

theorem rat_max (a b : Rat) : max a b = if a < b then b else a := rfl

theorem rat_abs (a : Rat) : abs a = if a < 0 then -a else a := rfl

theorem rat_sumStart : (sumStart : Rat) = 0 := rfl

theorem rat_secondsAt_of_ne (length : Rat) {speed : Rat} (h : speed ≠ 0) :
    secondsAt length speed = Nat.min (length / speed).floor.toNat clockEnd :=
  if_neg h

/-- At speed zero nothing gets anywhere. -/
theorem rat_secondsAt_zero {length : Rat} (h : 0 < length) :
    secondsAt length 0 = clockEnd :=
  (if_pos rfl).trans (if_pos h)

end Quantity

end LaneFlow
