import LaneFlow.Decimal.Nearest

/-!
# Reading numbers

A number is written with an optional sign, digits with or without a point, and
an optional exponent. At least one digit stands before or after the point. In
place of digits there may be a name for infinity or for what is not a number, in
any case of letters.

## Main results

* `leadingDigits_append`: taking the digits off a text loses nothing.
-/

namespace LaneFlow.Decimal

/-- The value of a decimal digit. -/
def digitValue (c : Char) : Nat := c.toNat - '0'.toNat

/-- The whole number that some digits stand for. -/
def wholeNumber (ds : List Char) : Nat :=
  ds.foldl (fun n c => 10 * n + digitValue c) 0

/-- The digits that a text starts with, and what follows them. -/
def leadingDigits (cs : List Char) : List Char × List Char :=
  (cs.takeWhile Char.isDigit, cs.dropWhile Char.isDigit)

theorem leadingDigits_append (cs : List Char) :
    (leadingDigits cs).1 ++ (leadingDigits cs).2 = cs :=
  List.takeWhile_append_dropWhile

/-- A sign at the start of a text, and what follows it. -/
def leadingSign : List Char → Bool × List Char
  | '-' :: rest => (true, rest)
  | '+' :: rest => (false, rest)
  | cs => (false, cs)

/-- The exponent that makes up the rest of a number; an empty rest is the
exponent zero. -/
def exponent? : List Char → Option Int
  | [] => some 0
  | e :: rest =>
    if e = 'e' ∨ e = 'E' then
      let (negative, cs) := leadingSign rest
      let (ds, end_) := leadingDigits cs
      if ds.isEmpty ∨ ¬ end_.isEmpty then none
      else some (if negative then -(wholeNumber ds : Int) else wholeNumber ds)
    else none

/-- The magnitude that is written in digits. -/
def magnitude? (cs : List Char) : Option Float :=
  let (whole, rest) := leadingDigits cs
  let (fraction, rest) := match rest with
    | '.' :: more => leadingDigits more
    | _ => ([], rest)
  if whole.isEmpty ∧ fraction.isEmpty then none
  else
    (exponent? rest).map fun e =>
      nearest (wholeNumber (whole ++ fraction)) (e - fraction.length)

/-- The magnitude that is written as a name. -/
def named? (cs : List Char) : Option Float :=
  match String.ofList (cs.map Char.toLower) with
  | "inf" => some (1.0 / 0.0)
  | "infinity" => some (1.0 / 0.0)
  | "nan" => some (0.0 / 0.0)
  | _ => none

/-- The number that a text stands for. -/
def ofText? (text : String) : Option Float :=
  let (negative, cs) := leadingSign text.toList
  ((magnitude? cs).or (named? cs)).map fun x => if negative then -x else x

end LaneFlow.Decimal
