import LaneFlow.Decimal.Layout
import LaneFlow.Road.Lane

/-!
# Findings about lanes

Capacities can be computed for lanes that make no sense: lanes that start before
their link does, that stand for more or fewer lanes than the link has, or that
belong to no link. Each of these is a `Finding`.

The lanes of a network are checked link by link in the order of the links' ids,
so that the findings do not depend on the order in which lanes were declared.

## Main results

* `LaneAssignment.findings_nil`: a link whose assignment has no lanes has no
  findings.
-/

namespace LaneFlow

/-- Something about the lanes of a link that is most likely not meant. -/
inductive Finding (α : Type) where
  | laneExceedsLink (link : Id .link) (lane : Id .lane) (start linkLength : α)
  | representedLanesMismatch (link : Id .link) (declared linkLanes : α)
  | noLinkLanes (link : Id .link) (linkLanes : α)
  | unknownLink (link : Id .link)
deriving Repr, DecidableEq

namespace Finding

/-- The link that a finding is about. -/
def link {α : Type} : Finding α → Id .link
  | .laneExceedsLink link .. => link
  | .representedLanesMismatch link .. => link
  | .noLinkLanes link _ => link
  | .unknownLink link => link

/-- The name of a kind of finding. -/
def kindName {α : Type} : Finding α → String
  | .laneExceedsLink .. => "LaneExceedsLink"
  | .representedLanesMismatch .. => "RepresentedLanesMismatch"
  | .noLinkLanes .. => "NoLinkLanes"
  | .unknownLink _ => "UnknownLink"

/-- A finding in words. -/
def message : Finding Float → String
  | .laneExceedsLink link lane start linkLength =>
    "lane " ++ lane.external ++ " on link " ++ link.external ++ " starts " ++
      Decimal.text start ++
      "m from the link end, but the link is only " ++ Decimal.text linkLength ++
        "m long"
  | .representedLanesMismatch link declared linkLanes =>
    "lanes on link " ++ link.external ++ " represent " ++
      Decimal.text declared ++
      " lanes, but the link has " ++ Decimal.text linkLanes
  | .noLinkLanes link linkLanes =>
    "link " ++ link.external ++ " has lanes but " ++ Decimal.text linkLanes ++
      " lanes of its own"
  | .unknownLink link =>
    "lanes are defined for link " ++ link.external ++
      ", which is not part of the network"

end Finding

/-- How far the represented lanes may be from the lanes of the link. -/
def representedLanesTolerance {α : Type} [Quantity α] : α := 1e-9

variable {α : Type} [Quantity α]

namespace LaneAssignment

/-- The finding about a link that has lanes at its end and none of its own. -/
def widthFindings (a : LaneAssignment α) (link : Link α) : List (Finding α) :=
  if Quantity.le link.lanes 0.0 && !a.lanes.isEmpty then
    [.noLinkLanes link.id link.lanes] else []

/-- The findings about lanes that are longer than the link. -/
def lengthFindings (a : LaneAssignment α) (link : Link α) : List (Finding α) :=
  (a.lanes.filter fun lane => Quantity.lt link.length lane.start).map
    fun lane => .laneExceedsLink link.id lane.id lane.start link.length

/-- The finding about lanes that stand for another number of lanes than the link
has. -/
def countFindings (a : LaneAssignment α) (link : Link α) : List (Finding α) :=
  let declared := a.representedLanes
  let apart := Quantity.abs (declared - link.lanes)
  if !a.lanes.isEmpty && Quantity.lt representedLanesTolerance apart then
    [.representedLanesMismatch link.id declared link.lanes]
  else []

/-- All findings about the lanes of one link. -/
def findings (a : LaneAssignment α) (link : Link α) : List (Finding α) :=
  a.widthFindings link ++ a.lengthFindings link ++ a.countFindings link

theorem findings_nil {a : LaneAssignment α} (link : Link α) (h : a.lanes = []) :
    a.findings link = [] := by
  simp [findings, widthFindings, lengthFindings, countFindings, h]

end LaneAssignment

namespace LaneRegistry

/-- The lanes of all links in the order of the links' ids. -/
def inOrder (r : LaneRegistry α) : List (LaneAssignment α) :=
  r.assignments.mergeSort fun a b => a.link.internal ≤ b.link.internal

/-- The findings about the lanes of one link of a network, or that it has no
such link. -/
def findingsOf (n : Network α) (a : LaneAssignment α) : List (Finding α) :=
  match n.link? a.link with
  | some link => a.findings link
  | none => [.unknownLink a.link]

/-- All findings about the lanes of a network. -/
def findings (r : LaneRegistry α) (n : Network α) : List (Finding α) :=
  r.inOrder.flatMap (findingsOf n)

end LaneRegistry

end LaneFlow
