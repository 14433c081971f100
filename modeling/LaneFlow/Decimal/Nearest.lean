import LaneFlow.Decimal.Shortest

/-!
# The nearest number of the format

A fraction of whole numbers is rounded to the floating point number nearest to
it, and a tie goes to the even neighbour. The fraction is first measured in
units of `2 ^ q`, where `q` is the largest exponent that leaves 53 binary
digits, or the smallest exponent of the format; then the count of units is
rounded.

Bit patterns of positive numbers are consecutive, so exponent and count add up
to the pattern, also where rounding carries into the next exponent.

## Main results

* `roundDiv_error`: rounding to a whole number is off by at most one half.
-/

namespace LaneFlow.Decimal

/-- A fraction rounded to a whole number; a tie goes to the even neighbour. -/
def roundDiv (num den : Nat) : Nat :=
  let below := num / den
  let rest := num % den
  if 2 * rest < den then below
  else if den < 2 * rest then below + 1
  else below + below % 2

/-- Rounding to a whole number is off by at most one half. -/
theorem roundDiv_error (num : Nat) {den : Nat} (h : 0 < den) :
    2 * num ≤ 2 * (den * roundDiv num den) + den ∧
      2 * (den * roundDiv num den) ≤ 2 * num + den := by
  have hdiv := Nat.div_add_mod num den
  have hlt := Nat.mod_lt num h
  have hone : den * (num / den + 1) = den * (num / den) + den :=
    Nat.mul_succ _ _
  simp only [roundDiv]
  split
  · omega
  · split
    · omega
    · rcases Nat.mod_two_eq_zero_or_one (num / den) with hp | hp
      · rw [hp, Nat.add_zero]
        omega
      · rw [hp]
        omega

/-- The largest power of two that is at most a positive fraction. -/
def floorLog (num den : Nat) : Int :=
  let estimate := (num.log2 : Int) - den.log2
  if den * Nat.pow 2 estimate.toNat ≤ num * Nat.pow 2 (-estimate).toNat then
    estimate
  else estimate - 1

/-- The bit pattern of infinity. -/
def infinityBits : Nat := 0x7ff0000000000000

/-- The bit pattern of the number nearest to a fraction. -/
def nearestBits (num den : Nat) : Nat :=
  if num = 0 then 0
  else
    let unit := max (floorLog num den - 52) (-1074)
    let count :=
      roundDiv (num * Nat.pow 2 (-unit).toNat) (den * Nat.pow 2 unit.toNat)
    min ((unit + 1074).toNat * 0x10000000000000 + count) infinityBits

/--
The number nearest to `digits · 10 ^ exponent`. Far outside the range of the
format the answer is known without looking at the digits.
-/
def nearest (digits : Nat) (exponent : Int) : Float :=
  let places : Int := digits.log2
  if digits = 0 then 0.0
  else if 400 < exponent then Float.ofBits infinityBits.toUInt64
  else if exponent < -400 - places then 0.0
  else
    Float.ofBits
      (nearestBits (digits * Nat.pow 10 exponent.toNat)
        (Nat.pow 10 (-exponent).toNat)).toUInt64

end LaneFlow.Decimal
