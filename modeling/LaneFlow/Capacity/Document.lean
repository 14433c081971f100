import LaneFlow.Capacity.Table
import LaneFlow.Document.Value

/-!
# Capacities as documents

How the capacities of links are written. The fields of a lane's segment stand
directly in the record of the lane.

## Main results

* `LinkCapacity.write_link`: the record of a link starts with the text of its
  id.
-/

namespace LaneFlow

open LaneFlow.Document

variable {α : Type} [Quantity α]

/-- The fields of a segment. -/
def Segment.fields (s : Segment α) : List (String × Document.Tree (Value α)) :=
  [("length", .ofNumber s.length), ("number_of_lanes", .ofNumber s.lanes),
   ("storage_capacity", .ofNumber s.storage),
   ("simulated_flow_capacity", .ofNumber s.flow)]

/-- The capacities of a lane as a document. -/
def LaneCapacity.write (c : LaneCapacity α) : Document.Tree (Value α) :=
  .ofFields (("lane_id", .ofText c.lane.external) :: c.segment.fields)

/-- The capacities of a link as a document. -/
def LinkCapacity.write (c : LinkCapacity α) : Document.Tree (Value α) :=
  .ofFields
    [("link_id", .ofText c.link.external),
     ("simulated_flow_capacity", .ofNumber c.flow),
     ("space_cap", .ofNumber c.space),
     ("original_segment", .ofFields c.trunk.fields),
     ("downstream_lanes", .list (c.lanes.map (·.write)))]

/-- The capacities of all links as a document. -/
def CapacityTable.write (t : CapacityTable α) : Document.Tree (Value α) :=
  .ofFields [("links", .list (t.entries.map (·.write)))]

/-- The record of a link starts with the text of its id. -/
theorem LinkCapacity.write_link (c : LinkCapacity α) :
    ∃ rest, c.write =
      .record ((.ofText "link_id", .ofText c.link.external) :: rest) :=
  ⟨_, rfl⟩

end LaneFlow
