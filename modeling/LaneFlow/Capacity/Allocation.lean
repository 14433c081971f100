import LaneFlow.Config.Basic
import LaneFlow.Road.Lane

/-!
# Capacities of links and lanes

Capacities are shared out over the segments of a link. A link without lanes is
one segment. A link with lanes has its trunk, which reaches from its start to
the point where the first lane begins, and then each lane from its own start to
the end of the link.

* The *flow capacity* of a link, in vehicles per second, follows from its
  capacity alone. The trunk has all of it, and a lane the share that it
  represents of the link's lanes.
* The *storage capacity* of a segment is the number of vehicles that stand on
  it. That of the link is the sum over its segments.

Nothing here asks whether the lanes fit the link; `LaneFlow.Capacity.Validation`
does.

## Main results

* `allocate_lanes`: lanes keep their number and order.
* `allocate_flow`: the flow of a link does not depend on its lanes.
-/

namespace LaneFlow

/-- What turns the attributes of a link into capacities. -/
structure Factors (α : Type) where
  flow : α
  storage : α
  cellSize : α
deriving Repr, DecidableEq

/-- A part of a link on which vehicles queue. -/
structure Segment (α : Type) where
  length : α
  lanes : α
  storage : α
  flow : α
deriving Repr, DecidableEq

/-- A lane with its segment. -/
structure LaneCapacity (α : Type) where
  lane : Id .lane
  segment : Segment α
deriving Repr, DecidableEq

/-- The capacities of a link and of all its segments. -/
structure LinkCapacity (α : Type) where
  link : Id .link
  flow : α
  space : α
  trunk : Segment α
  lanes : List (LaneCapacity α)
deriving Repr, DecidableEq

namespace Factors

variable {α : Type} [Quantity α]

/-- The scales of a configuration together with the cell size of a network. -/
def ofScaling (scaling : Scaling α) (cellSize : α) : Factors α :=
  ⟨scaling.flow, scaling.storage, cellSize⟩

/-- Vehicles per second, for a capacity per period. -/
def flowCapacity (f : Factors α) (capacity period : α) : α :=
  capacity * f.flow / period

/-- Vehicles that stand on some lanes of some length. -/
def storageCapacity (f : Factors α) (length lanes : α) : α :=
  length * lanes * f.storage / f.cellSize

end Factors

variable {α : Type} [Quantity α]

/-- The segment of a lane; its flow is the share of the link's lanes that it
represents. -/
def Lane.allocate (lane : Lane α) (linkFlow linkLanes : α) (f : Factors α) :
    LaneCapacity α :=
  { lane := lane.id
    segment :=
      { length := lane.start
        lanes := lane.representedLanes
        storage := f.storageCapacity lane.start lane.representedLanes
        flow := linkFlow / linkLanes * lane.representedLanes } }

/-- The segment that a link has before its lanes, given its length. -/
def Link.trunkSegment (link : Link α) (length : α) (f : Factors α) :
    Segment α :=
  { length
    lanes := link.lanes
    storage := f.storageCapacity length link.lanes
    flow := f.flowCapacity link.capacity link.capacityPeriod }

/-- The capacities of a link and of its lanes, if it has any. -/
def Link.allocate (link : Link α) (lanes : Option (LaneAssignment α))
    (f : Factors α) : LinkCapacity α :=
  let flow := f.flowCapacity link.capacity link.capacityPeriod
  match lanes with
  | none =>
    let trunk := link.trunkSegment link.length f
    { link := link.id, flow, space := trunk.storage, trunk, lanes := [] }
  | some a =>
    let trunk := link.trunkSegment (link.length - a.maxStart) f
    let lanes := a.lanes.map (·.allocate flow link.lanes f)
    { link := link.id
      flow
      space := trunk.storage + Quantity.sum (lanes.map (·.segment.storage))
      trunk
      lanes }

namespace LinkCapacity

omit [Quantity α] in
/-- Whether the link is split into lanes. -/
def hasLanes (c : LinkCapacity α) : Bool := !c.lanes.isEmpty

omit [Quantity α] in
/-- The first lane with an id. -/
def lane? (c : LinkCapacity α) (id : Id .lane) : Option (LaneCapacity α) :=
  c.lanes.find? (·.lane.same id)

/-- The flow capacity of all lanes together. -/
def laneFlow (c : LinkCapacity α) : α :=
  Quantity.sum (c.lanes.map (·.segment.flow))

end LinkCapacity

/-! ## What an allocation keeps -/

@[simp] theorem Link.allocate_link (link : Link α)
    (lanes : Option (LaneAssignment α))
    (f : Factors α) : (link.allocate lanes f).link = link.id := by
  cases lanes <;> rfl

theorem Link.allocate_flow (link : Link α) (lanes : Option (LaneAssignment α))
    (f : Factors α) : (link.allocate lanes f).flow =
      f.flowCapacity link.capacity link.capacityPeriod := by
  cases lanes <;> rfl

theorem Link.allocate_lanes (link : Link α) (a : LaneAssignment α)
    (f : Factors α) :
    (link.allocate (some a) f).lanes.map (·.lane) = a.lanes.map (·.id) := by
  simp [Link.allocate, Lane.allocate, Function.comp_def]

end LaneFlow
