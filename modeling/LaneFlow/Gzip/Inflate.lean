import LaneFlow.Gzip.Code

/-!
# Inflating

Compressed data consists of blocks. A block holds bytes as they are, or symbols
of two prefix codes: symbols of the first stand for a byte, for the end of the
block, or for the length of a piece that came before; a symbol of the second
tells how far back that piece starts. The codes are fixed, or the block starts
with the lengths of their rows, which are themselves written in a prefix code.

## Main results

* `Gzip.copyBack_zero`: a piece of length zero adds nothing.
-/

namespace LaneFlow.Gzip

/-- The two codes of a block. -/
structure Codes where
  symbols : Code
  distances : Code

/-- The lengths of the rows of the fixed codes. -/
def fixedLengths : List Nat × List Nat :=
  (List.replicate 144 8 ++ List.replicate 112 9 ++ List.replicate 24 7 ++
      List.replicate 8 8,
    List.replicate 32 5)

/-- The codes of two lists of lengths. -/
def codesOf (lengths : List Nat × List Nat) : Except Fault Codes :=
  match Code.ofLengths? lengths.1, Code.ofLengths? lengths.2 with
  | some symbols, some distances => .ok ⟨symbols, distances⟩
  | _, _ => .error .corrupt

/-- The first length of each symbol for a piece, and how many bits are added to
it. -/
def pieceLengths : List (Nat × Nat) :=
  [(3, 0), (4, 0), (5, 0), (6, 0), (7, 0), (8, 0), (9, 0), (10, 0), (11, 1),
   (13, 1), (15, 1), (17, 1), (19, 2), (23, 2), (27, 2), (31, 2), (35, 3),
   (43, 3), (51, 3), (59, 3), (67, 4), (83, 4), (99, 4), (115, 4), (131, 5),
   (163, 5), (195, 5), (227, 5), (258, 0)]

/-- The first distance of each symbol for a distance, and how many bits are
added to it. -/
def pieceDistances : List (Nat × Nat) :=
  [(1, 0), (2, 0), (3, 0), (4, 0), (5, 1), (7, 1), (9, 2), (13, 2), (17, 3),
   (25, 3), (33, 4), (49, 4), (65, 5), (97, 5), (129, 6), (193, 6), (257, 7),
   (385, 7), (513, 8), (769, 8), (1025, 9), (1537, 9), (2049, 10), (3073, 10),
   (4097, 11), (6145, 11), (8193, 12), (12289, 12), (16385, 13), (24577, 13)]

/-- A number that starts from an entry of a table. -/
def takeFromTable (table : List (Nat × Nat)) (symbol : Nat) (bits : Bits) :
    Except Fault (Nat × Bits) :=
  match table[symbol]? with
  | none => .error .corrupt
  | some (base, more) => do
    let (n, bits) ← takeBits more bits
    return (base + n, bits)

/-- Repeats what came some way back, byte by byte. Before the beginning there
are zeros. -/
def copyBack (distance : Nat) : Nat → Array UInt8 → Array UInt8
  | 0, out => out
  | n + 1, out =>
    let b := if distance ≤ out.size then out[out.size - distance]?.getD 0 else 0
    copyBack distance n (out.push b)

@[simp] theorem copyBack_zero (distance : Nat) (out : Array UInt8) :
    copyBack distance 0 out = out := rfl

/-- What has been read, and the bits after it or what went wrong. -/
abbrev Inflated := Array UInt8 × Except Fault Bits

/-- The end of the block among its symbols. -/
def endOfBlock : Nat := 256

/-- The symbols of a block. The first argument bounds the number of symbols. -/
def inflateSymbols (c : Codes) : Nat → Array UInt8 → Bits → Inflated
  | 0, out, _ => (out, .error .starved)
  | steps + 1, out, bits =>
    match c.symbols.take bits with
    | .error fault => (out, .error fault)
    | .ok (s, rest) =>
      if s < endOfBlock then inflateSymbols c steps (out.push s.toUInt8) rest
      else if s = endOfBlock then (out, .ok rest)
      else
        let piece : Except Fault (Nat × Nat × Bits) := do
          let (length, bits) ←
            takeFromTable pieceLengths (s - endOfBlock - 1) rest
          let (d, bits) ← c.distances.take bits
          let (distance, bits) ← takeFromTable pieceDistances d bits
          return (length, distance, bits)
        match piece with
        | .error fault => (out, .error fault)
        | .ok (length, distance, rest) =>
          inflateSymbols c steps (copyBack distance length out) rest

/-- A block of bytes as they are. -/
def inflateStored (out : Array UInt8) (bits : Bits) : Inflated :=
  let sizes : Except Fault (Nat × Bits) := do
    let (size, bits) ← takeBits 16 (alignToByte bits)
    let (check, bits) ← takeBits 16 bits
    if size + check = 0xffff then return (size, bits) else throw .corrupt
  match sizes with
  | .error fault => (out, .error fault)
  | .ok (size, bits) =>
    match takeBytes size bits with
    | .ok (bytes, bits) => (out ++ bytes, .ok bits)
    | .error fault =>
      match takeBytes (bits.length / 8) bits with
      | .ok (bytes, _) => (out ++ bytes, .error fault)
      | .error _ => (out, .error fault)

/-! ## The lengths of the rows of a block's codes -/

/-- The order in which the lengths for the code of lengths are written. -/
def lengthOrder : List Nat :=
  [16, 17, 18, 0, 8, 7, 9, 6, 10, 5, 11, 4, 12, 3, 13, 2, 14, 1, 15]

/-- Several numbers of the same number of bits. -/
def takeNumbers (size : Nat) : Nat → Bits → Except Fault (List Nat × Bits)
  | 0, bits => .ok ([], bits)
  | n + 1, bits => do
    let (x, bits) ← takeBits size bits
    let (xs, bits) ← takeNumbers size n bits
    return (x :: xs, bits)

/--
Lengths up to a total, given those read so far with the last one first. A symbol
repeats the last length or zero several times. The first argument bounds the
number of symbols.
-/
def takeLengths (c : Code) (total : Nat) :
    Nat → List Nat → Bits → Except Fault (List Nat × Bits)
  | 0, _, _ => .error .corrupt
  | steps + 1, read, bits =>
    if read.length = total then .ok (read.reverse, bits)
    else if total < read.length then .error .corrupt
    else do
      let (s, bits) ← c.take bits
      if s < 16 then takeLengths c total steps (s :: read) bits
      else if s = 16 then
        match read with
        | [] => throw .corrupt
        | last :: _ =>
          let (n, bits) ← takeBits 2 bits
          takeLengths c total steps (List.replicate (n + 3) last ++ read) bits
      else
        let (n, bits) ← takeBits (if s = 17 then 3 else 7) bits
        let zeros := n + if s = 17 then 3 else 11
        takeLengths c total steps (List.replicate zeros 0 ++ read) bits

/-- The codes that a block starts with. -/
def takeCodes (bits : Bits) : Except Fault (Codes × Bits) := do
  let (symbols, bits) ← takeBits 5 bits
  let (distances, bits) ← takeBits 5 bits
  let (lengths, bits) ← takeBits 4 bits
  let (xs, bits) ← takeNumbers 3 (lengths + 4) bits
  let lengthFor (s : Nat) : Nat := ((lengthOrder.zip xs).lookup s).getD 0
  match Code.ofLengths? ((List.range 19).map lengthFor) with
  | none => throw .corrupt
  | some c =>
    let total := symbols + 257 + (distances + 1)
    let (all, bits) ← takeLengths c total (total + 1) [] bits
    let codes ← codesOf (all.take (symbols + 257), all.drop (symbols + 257))
    return (codes, bits)

/-! ## Blocks -/

/-- The contents of a block of some kind. -/
def inflateBlock (kind : Nat) (out : Array UInt8) (bits : Bits) : Inflated :=
  let symbols (codes : Except Fault (Codes × Bits)) : Inflated :=
    match codes with
    | .error fault => (out, .error fault)
    | .ok (c, bits) => inflateSymbols c (bits.length + 1) out bits
  match kind with
  | 0 => inflateStored out bits
  | 1 => symbols ((codesOf fixedLengths).map (·, bits))
  | 2 => symbols (takeCodes bits)
  | _ => (out, .error .corrupt)

/-- Blocks up to the last one. The first argument bounds their number. -/
def inflateBlocks : Nat → Array UInt8 → Bits → Inflated
  | 0, out, _ => (out, .error .starved)
  | steps + 1, out, bits =>
    let start : Except Fault (Nat × Nat × Bits) := do
      let (last, bits) ← takeBits 1 bits
      let (kind, bits) ← takeBits 2 bits
      return (last, kind, bits)
    match start with
    | .error fault => (out, .error fault)
    | .ok (last, kind, bits) =>
      match inflateBlock kind out bits with
      | (out, .error fault) => (out, .error fault)
      | (out, .ok bits) =>
        if last = 1 then (out, .ok bits) else inflateBlocks steps out bits

/-- The bytes of compressed data. -/
def inflate (bits : Bits) : Inflated := inflateBlocks (bits.length + 1) #[] bits

end LaneFlow.Gzip
