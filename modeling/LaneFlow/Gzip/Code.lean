import LaneFlow.Gzip.Bits

/-!
# Prefix codes

A prefix code gives each symbol a row of bits such that none is the start of
another. It is known once the lengths of the rows are: among rows of one length
the symbols are in order, and shorter rows come before longer ones.

So reading a symbol needs no table of rows. With each bit the number of the row
read so far is compared with the numbers of the rows of that length, which are
consecutive.

## Main results

* `Code.take_nil`: no symbol without bits.
-/

namespace LaneFlow.Gzip

/-- The longest row of bits of a symbol. -/
def longestRow : Nat := 15

/-- A prefix code. -/
structure Code where
  /-- How many symbols have rows of length one, two, … -/
  counts : List Nat
  /-- The symbols by the length of their rows. -/
  symbols : List Nat
deriving Repr

namespace Code

/-- The symbols whose rows have some length. -/
def symbolsOf (lengths : List Nat) (length : Nat) : List Nat :=
  (List.range lengths.length).filter fun s => lengths[s]? = some length

/-- How much of the room for rows is taken, in parts of the room of a longest
row. -/
def roomTaken (counts : List Nat) : Nat :=
  counts.foldl (fun room n => 2 * room + n) 0

/--
The code in which the symbol of each number has a row of the given length, or
none if that is zero. All room must be taken, unless there is at most one
symbol.
-/
def ofLengths? (lengths : List Nat) : Option Code :=
  let bySize := (List.range longestRow).map fun i => symbolsOf lengths (i + 1)
  let counts := bySize.map List.length
  let symbols := bySize.flatten
  if symbols.length ≤ 1 ∨ roomTaken counts = Nat.pow 2 longestRow then
    some ⟨counts, symbols⟩
  else none

/--
The symbol at the start of some bits. `row` is the number of the row read so
far, `first` that of the first row of its length, and `index` the place of the
first symbol with a row of that length.
-/
def takeFrom (symbols : List Nat) (row first index : Nat) :
    List Nat → Bits → Except Fault (Nat × Bits)
  | [], _ => .error .corrupt
  | _, [] => .error .starved
  | count :: counts, b :: rest =>
    let row := 2 * row + if b then 1 else 0
    let first := 2 * first
    if row < first + count then
      match symbols[index + (row - first)]? with
      | some s => .ok (s, rest)
      | none => .error .corrupt
    else takeFrom symbols row (first + count) (index + count) counts rest

/-- The symbol at the start of some bits, and the bits after it. -/
def take (c : Code) (bits : Bits) : Except Fault (Nat × Bits) :=
  takeFrom c.symbols 0 0 0 c.counts bits

theorem take_nil (c : Code) (h : c.counts ≠ []) :
    c.take [] = .error .starved := by
  unfold take
  cases hc : c.counts with
  | nil => exact absurd hc h
  | cons count counts => rfl

end Code

end LaneFlow.Gzip
