import LaneFlow.Capacity.Allocation

/-!
# Storage of a segment

A segment holds a limited number of vehicles. A vehicle that enters takes its
room at once, while the room of one that leaves becomes free only when the step
is settled. So the order of entries and exits within one step does not matter.

## Main results

* `Storage.inUse_release`: a vehicle that leaves frees nothing within the step.
* `Storage.hasRoom_release`: nor does it open the segment.
-/

namespace LaneFlow

/-- The room on a segment and the changes of the current step. -/
structure Storage (α : Type) where
  /-- The room of the segment. -/
  max : α
  /-- Room left by vehicles in this step. -/
  released : α
  /-- Room taken by vehicles in this step. -/
  consumed : α
  /-- Room in use when the step began. -/
  used : α
deriving Repr, DecidableEq

namespace Storage

variable {α : Type} [Quantity α]

/-- An empty segment with some room. -/
def empty (max : α) : Storage α := ⟨max, 0.0, 0.0, 0.0⟩

/--
The room of a segment. It holds at least the vehicles of one second; otherwise a
segment shorter than a vehicle would never let one in.
-/
def ofSegment (s : Segment α) : Storage α :=
  empty (Quantity.max s.storage s.flow)

/-- The room in use, with what was taken in this step. -/
def inUse (s : Storage α) : α := s.used + s.consumed

/-- Whether a vehicle may enter. -/
def hasRoom (s : Storage α) : Bool := Quantity.lt 0.0 (s.max - s.inUse)

/-- Takes the room of a vehicle that enters. -/
def consume (s : Storage α) (size : α) : Storage α :=
  { s with consumed := s.consumed + size }

/-- Notes the room of a vehicle that leaves. -/
def release (s : Storage α) (size : α) : Storage α :=
  { s with released := s.released + size }

/-- Ends the step: what was released becomes free. -/
def settle (s : Storage α) : Storage α :=
  { s with
    used := Quantity.max 0.0 (s.inUse - s.released)
    released := 0.0
    consumed := 0.0 }

@[simp] theorem inUse_release (s : Storage α) (size : α) :
    (s.release size).inUse = s.inUse := rfl

@[simp] theorem hasRoom_release (s : Storage α) (size : α) :
    (s.release size).hasRoom = s.hasRoom := rfl

@[simp] theorem consume_max (s : Storage α) (size : α) :
    (s.consume size).max = s.max := rfl

@[simp] theorem release_max (s : Storage α) (size : α) :
    (s.release size).max = s.max := rfl

@[simp] theorem settle_max (s : Storage α) : s.settle.max = s.max := rfl

theorem release_consume (s : Storage α) (a b : α) :
    (s.release a).consume b = (s.consume b).release a := rfl

end Storage

end LaneFlow
