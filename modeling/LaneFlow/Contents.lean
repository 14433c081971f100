/-!
# What a reader gets of a file

A file may be damaged. A reader then gets the bytes in front of the damage and
learns of it when it asks for more.
-/

namespace LaneFlow

/-- Bytes of a file, and whether the file is sound up to its end. -/
structure Contents where
  bytes : List UInt8
  isSound : Bool := true
deriving Repr, DecidableEq

/-- What a reader gets if nothing can be read; that counts as damage. -/
def Contents.nothing : Contents := ⟨[], false⟩

end LaneFlow
