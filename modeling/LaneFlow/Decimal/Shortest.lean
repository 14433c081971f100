/-!
# Shortest decimal digits

A floating point number stands for every real number that rounds to it. Its
*shortest digits* are the fewest decimal digits that name one of those reals
and, among those, the ones nearest to the number itself.

The number is taken apart into `m · 2 ^ q`. For 1, 2, … digits the two
neighbours of the number on the grid of that many digits are tested in exact
arithmetic against the interval of reals that round to it. The ends of that
interval belong to it exactly if `m` is even, because rounding takes a tie to
the even neighbour.

## Main results

* `Dyadic.onGrid_mul`: a grid point that is picked lies in the interval.
-/

namespace LaneFlow.Decimal

/-- The decimal number `digits · 10 ^ exponent`. -/
structure Digits where
  digits : Nat
  exponent : Int
deriving DecidableEq, Repr

/-- The positive number `mantissa · 2 ^ exponent`, as a binary format stores
it. -/
structure Dyadic where
  mantissa : Nat
  exponent : Int
  /-- The gap to the next smaller number of the format is half the gap to the
  next larger one. -/
  atPowerOfTwo : Bool
deriving DecidableEq, Repr

/-- What to do with a number that lies halfway between two decimal numbers. -/
inductive Tie where
  | toEven
  | up
deriving DecidableEq, Repr

/--
One decimal grid, all of it measured in a unit in which everything is a whole
number: `step` is the distance between two points of the grid, `value` the
number, `low` and `high` the ends of the interval of reals that round to it,
which belong to the interval if `closed`.
-/
structure Grid where
  step : Nat
  value : Nat
  low : Nat
  high : Nat
  closed : Bool
deriving Repr

/-- The multiple `c` of the step lies in the interval. -/
def Grid.holds (g : Grid) (c : Nat) : Bool :=
  if g.closed then g.low ≤ c * g.step && c * g.step ≤ g.high
  else g.low < c * g.step && c * g.step < g.high

/-- The nearest of the number's two neighbours on the grid that lie in the
interval. -/
def Grid.nearest? (g : Grid) (tie : Tie) : Option Nat :=
  let below := g.value / g.step
  match g.holds below, g.holds (below + 1) with
  | false, false => none
  | true, false => some below
  | false, true => some (below + 1)
  | true, true =>
    let down := g.value - below * g.step
    let up := (below + 1) * g.step - g.value
    if down < up then some below
    else if up < down then some (below + 1)
    else match tie with
      | .up => some (below + 1)
      | .toEven => some (if below % 2 = 0 then below else below + 1)

theorem Grid.holds_of_nearest? {g : Grid} {tie : Tie} {c : Nat}
    (h : g.nearest? tie = some c) : g.holds c = true := by
  simp only [Grid.nearest?] at h
  split at h
  · simp at h
  · simp_all
  · simp_all
  · split at h
    · simp_all
    · split at h
      · simp_all
      · cases tie <;> grind

namespace Dyadic

/-- The grid of the multiples of `10 ^ place`, seen from `x`. -/
def grid (x : Dyadic) (place : Int) : Grid :=
  let scale := Nat.pow 2 (x.exponent - 2).toNat * Nat.pow 10 (-place).toNat
  { step := Nat.pow 10 place.toNat * Nat.pow 2 (2 - x.exponent).toNat
    value := 4 * x.mantissa * scale
    low := (4 * x.mantissa - if x.atPowerOfTwo then 1 else 2) * scale
    high := (4 * x.mantissa + 2) * scale
    closed := x.mantissa % 2 = 0 }

/-- Whether `10 ^ place` is at most `x`. -/
def reaches (x : Dyadic) (place : Int) : Bool :=
  let g := x.grid place
  g.step ≤ g.value

/--
The place of the first digit of `x`, that is the largest power of ten that `x`
reaches. The estimate from the binary exponent is at most one off.
-/
def leadingPlace (x : Dyadic) : Int :=
  let estimate := ((x.mantissa.log2 + x.exponent) * 30103).fdiv 100000
  if x.reaches (estimate + 1) then estimate + 1
  else if x.reaches estimate then estimate
  else estimate - 1

/-- The digits of `x` on the first of the next `count` grids that has a point in
the interval. -/
def searchFrom (x : Dyadic) (tie : Tie) (place : Int) : Nat → Digits
  | 0 => ⟨(x.grid place).value / (x.grid place).step, place⟩
  | count + 1 =>
    match (x.grid place).nearest? tie with
    | some c => ⟨c, place⟩
    | none => searchFrom x tie (place - 1) count

/-- The shortest digits of `x`; seventeen always suffice for the numbers of a 64
bit format. -/
def shortest (x : Dyadic) (tie : Tie) : Digits :=
  searchFrom x tie x.leadingPlace 17

/-- The point of a grid that a search stops at lies in the interval of that
grid. -/
theorem onGrid_mul {x : Dyadic} {tie : Tie} {place : Int} {c : Nat}
    (h : (x.grid place).nearest? tie = some c) :
    (x.grid place).holds c = true :=
  Grid.holds_of_nearest? h

end Dyadic

/-- A floating point number, taken apart. -/
inductive Parts where
  | notANumber
  | infinite (negative : Bool)
  | zero (negative : Bool)
  | finite (negative : Bool) (magnitude : Dyadic)
deriving Repr

/-- Takes a number apart into its sign and `m · 2 ^ q`. -/
def Parts.ofFloat (x : Float) : Parts :=
  let bits : Nat := x.toBits.toNat
  let negative : Bool := 0x8000000000000000 ≤ bits
  let fraction : Nat := bits % 0x10000000000000
  let exponent : Nat := bits / 0x10000000000000 % 0x800
  if exponent = 0x7ff then
    if fraction = 0 then .infinite negative else .notANumber
  else if exponent = 0 then
    if fraction = 0 then .zero negative
    else .finite negative ⟨fraction, -1074, false⟩
  else
    .finite negative
      ⟨0x10000000000000 + fraction, (exponent : Int) - 1075,
        fraction = 0 && 1 < exponent⟩

end LaneFlow.Decimal
