import LaneFlow.Decimal.Reading

/-!
# Numbers in JSON

A number in a document is the whole number that its leading digits make, as long
as that fits into 64 bits, times a power of ten. One multiplication or division
is done, and what it rounds to is the number. So the last digit can differ from
that of the nearest number.

A number beyond the range of the format cannot be read. One that is too small is
zero.

## Main results

* `gather_nil`: without digits nothing is gathered.
-/

namespace LaneFlow.Json

open LaneFlow.Decimal

/-- The largest whole number that digits are gathered up to. -/
def gatherLimit : Nat := 0xffffffffffffffff

/-- Gathers digits as long as they fit, and counts those that do. -/
def gather (n : Nat) : List Char → Nat × Nat
  | [] => (n, 0)
  | d :: rest =>
    let next := 10 * n + digitValue d
    if gatherLimit < next then (n, 0)
    else
      let gathered := gather next rest
      (gathered.1, gathered.2 + 1)

@[simp] theorem gather_nil (n : Nat) : gather n [] = (n, 0) := rfl

/-- The largest power of ten that is at hand. -/
def largestPower : Nat := 308

/-- A number times a power of ten, unless that is beyond the range. -/
def scaleUp? (x : Float) (places : Nat) : Option Float :=
  if places ≤ largestPower then
    let y := x * nearest 1 places
    if y.isInf then none else some y
  else if x == 0.0 then some x
  else none

/-- A number divided by a power of ten. The division is done in two steps if it
takes so many places. -/
def scaleDown (x : Float) (places : Nat) : Float :=
  if places ≤ largestPower then x / nearest 1 places
  else if places ≤ 2 * largestPower then
    x / nearest 1 largestPower / nearest 1 (places - largestPower)
  else 0.0

/-- The number with some digits before the point, some after it, and an
exponent. -/
def magnitude? (whole fraction : List Char) (exponent : Int) : Option Float :=
  let front := gather 0 whole
  let all := gather front.1 fraction
  let places : Int := whole.length - front.2 - all.2 + exponent
  let x := all.1.toUInt64.toFloat
  if places < 0 then some (scaleDown x places.natAbs)
  else scaleUp? x places.natAbs

end LaneFlow.Json
