import LaneFlow.Contents
import LaneFlow.Gzip.Inflate

/-!
# Compressed files

A compressed file starts with a header, which may hold a name and a comment, and
ends with a checksum and the size of its contents. Whatever follows that is not
looked at.

A file that is damaged can yield a part of its contents before the damage shows.
A reader gets all of them if only the end is missing or wrong, and whole windows
of them if the data itself makes no sense.
-/

namespace LaneFlow.Gzip

/-! ## Checksums -/

/-- The checksum after one more bit. -/
def checksumShift (c : UInt32) : UInt32 :=
  if c &&& 1 = 1 then (c >>> 1) ^^^ 0xedb88320 else c >>> 1

/-- The checksum after one more byte. -/
def checksumStep (c : UInt32) (b : UInt8) : UInt32 :=
  (List.range 8).foldl (fun c _ => checksumShift c) (c ^^^ b.toUInt32)

/-- The checksum of some bytes. -/
def checksum (bytes : List UInt8) : UInt32 :=
  bytes.foldl checksumStep 0xffffffff ^^^ 0xffffffff

/-! ## The header -/

/-- The longest text in a header. -/
def longestText : Nat := 65535

/-- What follows a text that ends in a zero byte. -/
def skipText? (bytes : List UInt8) : Option (List UInt8) :=
  match bytes.dropWhile (· != 0) with
  | [] => none
  | _ :: rest =>
    if bytes.length - rest.length ≤ longestText then some rest else none

/-- A number of two bytes, and what follows it. -/
def takeShort? : List UInt8 → Option (Nat × List UInt8)
  | a :: b :: rest => some (a.toNat + 256 * b.toNat, rest)
  | _ => none

/-- What follows a part that a flag of the header announces. -/
def skipIf (present : Bool) (skip? : List UInt8 → Option (List UInt8))
    (bytes : List UInt8) : Option (List UInt8) :=
  if present then skip? bytes else some bytes

/-- What follows a field of any contents. -/
def skipExtra? (bytes : List UInt8) : Option (List UInt8) := do
  let (size, rest) ← takeShort? bytes
  if rest.length < size then none else some (rest.drop size)

/-- What follows the checksum of a header that starts at `all`. -/
def skipChecksum? (all bytes : List UInt8) : Option (List UInt8) := do
  let (check, rest) ← takeShort? bytes
  let header := all.take (all.length - bytes.length)
  if (checksum header).toNat % 0x10000 = check then some rest else none

/-- What follows the header of a file. -/
def skipHeader? (all : List UInt8) : Option (List UInt8) :=
  match all with
  | 0x1f :: 0x8b :: 8 :: flags :: _ :: _ :: _ :: _ :: _ :: _ :: rest => do
    if flags &&& 0xe0 != 0 then none
    let rest ← skipIf (flags &&& 4 != 0) skipExtra? rest
    let rest ← skipIf (flags &&& 8 != 0) skipText? rest
    let rest ← skipIf (flags &&& 16 != 0) skipText? rest
    skipIf (flags &&& 2 != 0) (skipChecksum? all) rest
  | _ => none

/-! ## The contents -/

/-- The size of the window in which data is kept before a reader gets it. -/
def windowSize : Nat := 32768

/-- Whether the bits after the data hold the checksum and the size of some
bytes. -/
def isSealed (bytes : List UInt8) (bits : Bits) : Bool :=
  match takeBytes 8 (alignToByte bits) with
  | .error _ => false
  | .ok (ending, _) =>
    let number (ds : List UInt8) : Nat :=
      ds.foldr (fun d n => d.toNat + 256 * n) 0
    number (ending.take 4) = (checksum bytes).toNat &&
      number (ending.drop 4) = bytes.length % 0x100000000

/-- What a reader gets of a compressed file. -/
def unpack (file : Contents) : Contents :=
  match skipHeader? file.bytes with
  | none => .nothing
  | some rest =>
    match inflate (bitsOf rest) with
    | (out, .ok bits) => ⟨out.toList, isSealed out.toList bits⟩
    | (out, .error .starved) => ⟨out.toList, false⟩
    | (out, .error .corrupt) =>
      ⟨out.toList.take (out.size / windowSize * windowSize), false⟩

end LaneFlow.Gzip
