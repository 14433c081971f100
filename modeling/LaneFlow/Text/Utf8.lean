/-!
# UTF-8

A file is a list of bytes, a text a list of characters. Reading characters off
bytes keeps a place for each byte that belongs to no character, so that a reader
can decide what that means for it.

## Main results

* `Utf8.decode_ascii`: a byte of ASCII is a character by itself.
-/

namespace LaneFlow.Utf8

/-- The number that the last six bits of a byte inside a character stand for. -/
def tail? (low high : Nat) (b : UInt8) : Option Nat :=
  if low ≤ b.toNat ∧ b.toNat ≤ high then some (b.toNat % 64) else none

/-- The number of a character of two bytes. -/
def two? (a b : UInt8) : Option Nat := do
  let x ← tail? 0x80 0xbf b
  if 0xc2 ≤ a.toNat ∧ a.toNat ≤ 0xdf then some (a.toNat % 32 * 64 + x) else none

/-- The number of a character of three bytes, which is no half of a pair of 16
bit units. -/
def three? (a b c : UInt8) : Option Nat := do
  if a.toNat < 0xe0 ∨ 0xef < a.toNat then none
  let x ←
    tail? (if a = 0xe0 then 0xa0 else 0x80) (if a = 0xed then 0x9f else 0xbf) b
  let y ← tail? 0x80 0xbf c
  some ((a.toNat % 16 * 64 + x) * 64 + y)

/-- The number of a character of four bytes. -/
def four? (a b c d : UInt8) : Option Nat := do
  if a.toNat < 0xf0 ∨ 0xf4 < a.toNat then none
  let x ←
    tail? (if a = 0xf0 then 0x90 else 0x80) (if a = 0xf4 then 0x8f else 0xbf) b
  let y ← tail? 0x80 0xbf c
  let z ← tail? 0x80 0xbf d
  some (((a.toNat % 8 * 64 + x) * 64 + y) * 64 + z)

/-- The first character of some bytes, and how many bytes it takes beyond the
first. -/
def first? (a : UInt8) (rest : List UInt8) : Option (Nat × Nat) :=
  if a < 0x80 then some (a.toNat, 0)
  else match rest with
    | [] => none
    | b :: rest => ((two? a b).map (·, 1)).or <| match rest with
      | [] => none
      | c :: rest => ((three? a b c).map (·, 2)).or <| match rest with
        | [] => none
        | d :: _ => (four? a b c d).map (·, 3)

/--
The characters of some bytes, with a place for each byte that belongs to no
character. The first argument counts bytes that belong to a character that has
been read.
-/
def decodeFrom : Nat → List UInt8 → List (Option Char)
  | _, [] => []
  | skip + 1, _ :: rest => decodeFrom skip rest
  | 0, a :: rest =>
    match first? a rest with
    | some (n, more) => some (Char.ofNat n) :: decodeFrom more rest
    | none => none :: decodeFrom 0 rest

/-- The characters of some bytes, with a place for each byte that belongs to no
character. -/
def decode (bytes : List UInt8) : List (Option Char) := decodeFrom 0 bytes

/-- The bytes of a text. -/
def encode (s : String) : List UInt8 := s.toUTF8.data.toList

theorem decode_ascii {a : UInt8} (h : a < 0x80) (rest : List UInt8) :
    decode (a :: rest) = some (Char.ofNat a.toNat) :: decode rest := by
  simp [decode, decodeFrom, first?, h]

end LaneFlow.Utf8
