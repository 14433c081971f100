/-!
# Bits

Compressed data is a row of bits; within a byte the lowest bit comes first.
Taking bits off the front fails if there are not enough of them, and everything
that is built from them may find that they make no sense.

## Main results

* `Gzip.takeBits_zero`: no bits make zero.
* `Gzip.length_bitsOf`: eight bits for each byte.
-/

namespace LaneFlow.Gzip

/-- A row of bits. -/
abbrev Bits := List Bool

/-- Why compressed data cannot be read on. -/
inductive Fault where
  /-- It ends too early. -/
  | starved
  /-- It makes no sense. -/
  | corrupt
deriving Repr, DecidableEq

/-- The bits of a byte, the lowest first. -/
def byteBits (b : UInt8) : Bits := (List.range 8).map fun i => b.toNat.testBit i

/-- The bits of several bytes. -/
def bitsOf (bytes : List UInt8) : Bits := bytes.flatMap byteBits

theorem length_bitsOf (bytes : List UInt8) :
    (bitsOf bytes).length = 8 * bytes.length := by
  induction bytes with
  | nil => rfl
  | cons b rest ih => simp_all [bitsOf, byteBits, Nat.mul_add, Nat.add_comm]

/-- The number that the next bits make, the lowest first, and the bits after
them. -/
def takeBits : Nat → Bits → Except Fault (Nat × Bits)
  | 0, bits => .ok (0, bits)
  | _ + 1, [] => .error .starved
  | n + 1, b :: rest => do
    let (high, rest) ← takeBits n rest
    return ((if b then 1 else 0) + 2 * high, rest)

@[simp] theorem takeBits_zero (bits : Bits) :
    takeBits 0 bits = .ok (0, bits) := rfl

/-- The bytes that the next bits make. -/
def takeBytes : Nat → Bits → Except Fault (List UInt8 × Bits)
  | 0, bits => .ok ([], bits)
  | n + 1, bits => do
    let (b, bits) ← takeBits 8 bits
    let (bytes, bits) ← takeBytes n bits
    return (b.toUInt8 :: bytes, bits)

/-- The bits from the next whole byte on, if all bits together fill whole
bytes. -/
def alignToByte (bits : Bits) : Bits := bits.drop (bits.length % 8)

end LaneFlow.Gzip
