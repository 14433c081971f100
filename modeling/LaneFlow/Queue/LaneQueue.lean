import LaneFlow.Queue.Flow
import LaneFlow.Queue.Storage
import LaneFlow.Queue.Vehicle

/-!
# The queue on one segment

Vehicles line up on a segment and leave it in the order in which they entered.
The first vehicle may leave when it has had time to reach the end of the segment
and the flow budget is open.

## Main results

* `LaneQueue.vehicles_push`, `LaneQueue.vehicles_pop?`: entering appends,
  leaving takes the first.
* `LaneQueue.hasRoom_of_pop?`: a vehicle that leaves does not open the segment
  within the step.
-/

namespace LaneFlow

/-- A vehicle in a queue and the second in which it can leave at the
earliest. -/
structure Waiting (α : Type) where
  vehicle : Vehicle α
  exit : Nat
deriving Repr, DecidableEq

/-- The queue on one segment of a link. -/
structure LaneQueue (α : Type) where
  id : Id .lane
  waiting : List (Waiting α) := []
  length : α
  freespeed : α
  flow : FlowBudget α
  storage : Storage α
  /-- The links that the segment leads to. -/
  toLinks : List (Id .link)
deriving Repr, DecidableEq

/-- Some seconds later, as far as the clock goes. -/
def later (now seconds : Nat) : Nat := Nat.min (now + seconds) clockEnd

namespace LaneQueue

variable {α : Type} [Quantity α]

/-- The empty queue of a segment. -/
def ofSegment (id : Id .lane) (s : Segment α) (freespeed : α)
    (toLinks : List (Id .link)) : LaneQueue α :=
  { id
    length := s.length
    freespeed
    flow := .ofSegment s
    storage := .ofSegment s
    toLinks }

/-- Seconds to the end of the segment: at least one, and at speed zero all there
are. -/
def travelTime (q : LaneQueue α) (v : Vehicle α) : Nat :=
  Nat.max 1 (Quantity.secondsAt q.length (Quantity.min q.freespeed v.maxSpeed))

/-- The second in which a vehicle that enters now can leave at the earliest. -/
def exitTime (q : LaneQueue α) (v : Vehicle α) (now : Nat) : Nat :=
  later now (q.travelTime v)

/-- Lets a vehicle in at the back. -/
def push (q : LaneQueue α) (v : Vehicle α) (now : Nat) : LaneQueue α :=
  { q with
    storage := q.storage.consume v.size
    waiting := q.waiting ++ [⟨v, q.exitTime v now⟩] }

/-- Lets the first vehicle out, whether it may leave or not. -/
def pop? (q : LaneQueue α) : Option (Vehicle α × LaneQueue α) :=
  match q.waiting with
  | [] => none
  | w :: rest =>
    some (w.vehicle,
      { q with
        waiting := rest
        flow := q.flow.spend w.vehicle.size
        storage := q.storage.release w.vehicle.size })

/-- The first vehicle, if it may leave now. -/
def due? (q : LaneQueue α) (now : Nat) : Option (Vehicle α) :=
  if q.flow.isOpen then
    (q.waiting.head?.filter (·.exit ≤ now)).map (·.vehicle)
  else none

/-- Fills up the flow budget. -/
def refill (q : LaneQueue α) (now : Nat) : LaneQueue α :=
  { q with flow := q.flow.refill now }

/-- Ends the step for the storage. -/
def settle (q : LaneQueue α) : LaneQueue α :=
  { q with storage := q.storage.settle }

/-- Whether a vehicle may enter. -/
def hasRoom (q : LaneQueue α) : Bool := q.storage.hasRoom

/-- The storage in use. -/
def inUse (q : LaneQueue α) : α := q.storage.inUse

omit [Quantity α] in
/-- The vehicles from the first to the last. -/
def vehicles (q : LaneQueue α) : List (Vehicle α) := q.waiting.map (·.vehicle)

omit [Quantity α] in
/-- The number of vehicles. -/
def count (q : LaneQueue α) : Nat := q.waiting.length

omit [Quantity α] in
/-- Whether the segment leads to a link. -/
def leadsTo (q : LaneQueue α) (link : Id .link) : Bool := link.isIn q.toLinks

/-! ## The time on a segment -/

/-- The length is divided by the lower of the two speeds, and the whole seconds
of that count. -/
theorem travelTime_float (q : LaneQueue Float) (v : Vehicle Float) :
    q.travelTime v = Nat.max 1
      (q.length / Quantity.min q.freespeed v.maxSpeed).toUInt32.toNat := rfl

/-- The same over exact numbers, as long as there is some speed. -/
theorem travelTime_rat (q : LaneQueue Rat) (v : Vehicle Rat)
    (h : Quantity.min q.freespeed v.maxSpeed ≠ 0) :
    q.travelTime v = Nat.max 1
      (Nat.min (q.length / Quantity.min q.freespeed v.maxSpeed).floor.toNat
        clockEnd) := by
  rw [travelTime, Quantity.rat_secondsAt_of_ne q.length h]

/-- A vehicle that does not move never reaches the end of the segment. -/
theorem travelTime_of_standing (q : LaneQueue Rat) (v : Vehicle Rat)
    (h : Quantity.min q.freespeed v.maxSpeed = 0) (hlength : 0 < q.length) :
    q.travelTime v = clockEnd := by
  rw [travelTime, h, Quantity.rat_secondsAt_zero hlength]
  rfl

/-! ## The vehicles of a queue -/

@[simp] theorem vehicles_push (q : LaneQueue α) (v : Vehicle α) (now : Nat) :
    (q.push v now).vehicles = q.vehicles ++ [v] := by
  simp [vehicles, push]

theorem vehicles_pop? {q r : LaneQueue α} {v : Vehicle α}
    (h : q.pop? = some (v, r)) : q.vehicles = v :: r.vehicles := by
  unfold pop? at h
  split at h
  · cases h
  · rename_i hw
    cases h
    simp [vehicles, hw]

theorem pop?_eq_none_iff {q : LaneQueue α} :
    q.pop? = none ↔ q.waiting = [] := by
  unfold pop?
  split <;> simp_all

theorem hasRoom_of_pop? {q r : LaneQueue α} {v : Vehicle α}
    (h : q.pop? = some (v, r)) : r.hasRoom = q.hasRoom := by
  unfold pop? at h
  split at h
  · cases h
  · cases h
    rfl

@[simp] theorem hasRoom_refill (q : LaneQueue α) (now : Nat) :
    (q.refill now).hasRoom = q.hasRoom := rfl

end LaneQueue

end LaneFlow
