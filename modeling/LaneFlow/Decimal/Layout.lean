import LaneFlow.Decimal.Shortest

/-!
# Writing numbers

`Layout` holds the decisions of a way to write numbers. Two of them are used:
`plain` in messages and `document` in the files that are written. Both write the
shortest digits that read back as the same number and keep the sign of zero.

## Main results

* `getLast?_dropTrailingZeros`: no zero is left at the end of digits.
-/

namespace LaneFlow.Decimal

/-- The decisions of a way to write numbers. -/
structure Layout where
  /-- Whether a number whose first digit stands at this power of ten is written
  without an exponent. -/
  positional : Int → Bool
  /-- A whole number written without an exponent ends in `.0`. -/
  keepsFraction : Bool
  /-- What becomes of a number halfway between two candidates. -/
  tie : Tie
  notANumber : String
  infinity : String
  negativeInfinity : String

/-- Numbers in messages never have an exponent, and whole numbers have no
fraction. -/
def plain : Layout where
  positional _ := true
  keepsFraction := false
  tie := .up
  notANumber := "NaN"
  infinity := "inf"
  negativeInfinity := "-inf"

/--
Numbers in documents are written without an exponent if their first digit stands
between the fifth place after the point and the sixteenth before it. What is not
a finite number is `null`.
-/
def document : Layout where
  positional place := -5 ≤ place && place ≤ 15
  keepsFraction := true
  tie := .toEven
  notANumber := "null"
  infinity := "null"
  negativeInfinity := "null"

/-- The decimal digits of a count. -/
def digitText (n : Nat) : String :=
  String.ofList (Nat.toDigits 10 n)

/-- A list of digits without the zeros at its end. -/
def dropTrailingZeros (ds : List Char) : List Char :=
  (ds.reverse.dropWhile (· == '0')).reverse

theorem getLast?_dropTrailingZeros (ds : List Char) :
    (dropTrailingZeros ds).getLast? ≠ some '0' := by
  rw [dropTrailingZeros, List.getLast?_reverse]
  intro h
  have hhead := List.head?_dropWhile_not (· == '0') ds.reverse
  simp [h] at hhead

namespace Layout

/-- The text of a zero. -/
def zeroText (l : Layout) : String :=
  if l.keepsFraction then "0.0" else "0"

/--
Writes digits without an exponent. The digits start at the power of ten `place`;
the point is set after the digit of the ones, and zeros fill the gap on either
side of it.
-/
def positionalText (l : Layout) (ds : List Char) (place : Int) : String :=
  if place < 0 then
    String.ofList ("0.".toList ++ List.replicate (-place - 1).toNat '0' ++ ds)
  else
    let whole := place.toNat + 1
    let front := ds.take whole ++ List.replicate (whole - ds.length) '0'
    let back := ds.drop whole
    if back.isEmpty then
      String.ofList (front ++ if l.keepsFraction then ".0".toList else [])
    else
      String.ofList (front ++ '.' :: back)

/-- Writes digits with the point after the first of them, and the exponent with
its sign. -/
def exponentText (ds : List Char) (place : Int) : String :=
  let mantissa := match ds with
    | [] => []
    | d :: [] => [d]
    | d :: rest => d :: '.' :: rest
  let sign := if place < 0 then "e-" else "e+"
  String.ofList mantissa ++ sign ++ digitText place.natAbs

/-- Writes the magnitude of a number other than zero. -/
def magnitudeText (l : Layout) (x : Dyadic) : String :=
  let shortest := x.shortest l.tie
  let all := Nat.toDigits 10 shortest.digits
  let place := shortest.exponent + all.length - 1
  let ds := dropTrailingZeros all
  if l.positional place then l.positionalText ds place
  else exponentText ds place

/-- The text of a number. -/
def write (l : Layout) (x : Float) : String :=
  match Parts.ofFloat x with
  | .notANumber => l.notANumber
  | .infinite false => l.infinity
  | .infinite true => l.negativeInfinity
  | .zero negative => (if negative then "-" else "") ++ l.zeroText
  | .finite negative x => (if negative then "-" else "") ++ l.magnitudeText x

end Layout

/-- The text of a number in a message. -/
def text (x : Float) : String := plain.write x

/-- The text of a number in a document. -/
def documentText (x : Float) : String := document.write x

end LaneFlow.Decimal
