import LaneFlow.Road.Lane
import LaneFlow.Scenario.Fault

/-!
# Lanes in files

A lane file lists lanes link by link. A lane that leads to other lanes is the
trunk of its link, and there is at most one; all others lead to the node at the
end of the link.

The link of an assignment need not be in the network. What a lane leads to must
exist: other lanes in the same assignment, links in the network.

## Main results

* `LaneFile.laneCount_eq`: the number of lanes in a file is that of its
  assignments together.
-/

namespace LaneFlow

/-- A lane in a file. -/
structure LaneRecord (α : Type) where
  id : String
  start : α
  represented : Option α := none
  capacity : Option α := none
  toLanes : List String := []
  toLinks : List String := []
deriving Repr, DecidableEq, BEq

/-- The lanes of a link in a file. -/
structure AssignmentRecord (α : Type) where
  link : String
  lanes : List (LaneRecord α) := []
deriving Repr, DecidableEq, BEq

/-- The contents of a lane file. -/
structure LaneFile (α : Type) where
  assignments : List (AssignmentRecord α) := []
deriving Repr, DecidableEq, BEq

namespace LaneFile

variable {α : Type}

/-- The number of lanes in a file. -/
def laneCount (f : LaneFile α) : Nat :=
  f.assignments.foldl (fun n a => n + a.lanes.length) 0

theorem laneCount_eq (f : LaneFile α) :
    f.laneCount = (f.assignments.flatMap (·.lanes)).length := by
  have hfrom : ∀ (as : List (AssignmentRecord α)) (n : Nat),
      as.foldl (fun n a => n + a.lanes.length) n =
        n + (as.flatMap (·.lanes)).length := by
    intro as
    induction as with
    | nil => simp
    | cons a as ih =>
        intro n
        rw [List.foldl_cons, ih, List.flatMap_cons, List.length_append,
          Nat.add_assoc]
  simpa [laneCount] using hfrom f.assignments 0

/-- How a lane is called when it refers to something that does not exist. -/
def laneName (a : AssignmentRecord α) (r : LaneRecord α) : String :=
  s!"lane {r.id} on link {a.link}"

/-- The ids of the lanes that a lane leads to, all of which must be in the same
assignment. -/
def lanesOf (a : AssignmentRecord α) (r : LaneRecord α) (s : IdStore) :
    List String → Except ScenarioFault (List (Id .lane) × IdStore)
  | [] => .ok ([], s)
  | lane :: rest =>
    if a.lanes.any (·.id == lane) then
      let (id, s) := s.create .lane lane
      match lanesOf a r s rest with
      | .ok (ids, s) => .ok (id :: ids, s)
      | .error fault => .error fault
    else .error (.unknownReference .lane lane (laneName a r))

/-- The ids of the links that a lane leads to, all of which must be in the
network. -/
def linksOf (n : Network α) (a : AssignmentRecord α) (r : LaneRecord α)
    (s : IdStore) : List String → Except ScenarioFault (List (Id .link))
  | [] => .ok []
  | link :: rest =>
    match (s.find? .link link).filter fun id => (n.link? id).isSome with
    | some id => (linksOf n a r s rest).map (id :: ·)
    | none => .error (.unknownReference .link link (laneName a r))

/-- The lane of a record. -/
def toLane (n : Network α) (a : AssignmentRecord α) (r : LaneRecord α)
    (s : IdStore) : Except ScenarioFault (Lane α × IdStore) := do
  let (toLanes, s) ← lanesOf a r s r.toLanes
  let toLinks ← linksOf n a r s r.toLinks
  let (id, s) := s.create .lane r.id
  return (⟨id, r.start, r.represented, r.capacity, toLanes, toLinks⟩, s)

/-- Puts a lane where it belongs: a lane that leads to other lanes is the
trunk. -/
def place (link : String) (result : LaneAssignment α) (lane : Lane α) :
    Except ScenarioFault (LaneAssignment α) :=
  if lane.toLanes.isEmpty then .ok (result.addLane lane)
  else if result.trunk.isSome then .error (.laneTree link)
  else .ok (result.setTrunk lane)

/-- Adds the lanes of a record to an assignment. -/
def addLanes (n : Network α) (a : AssignmentRecord α)
    (result : LaneAssignment α) (s : IdStore) :
    List (LaneRecord α) → Except ScenarioFault (LaneAssignment α × IdStore)
  | [] => .ok (result, s)
  | r :: rest => do
    let (lane, s) ← toLane n a r s
    let result ← place a.link result lane
    addLanes n a result s rest

/-- Adds the assignments of a file to a registry. -/
def addAssignments (n : Network α) (registry : LaneRegistry α) (s : IdStore) :
    List (AssignmentRecord α) → Except ScenarioFault (LaneRegistry α × IdStore)
  | [] => .ok (registry, s)
  | a :: rest => do
    let (link, s) := s.create .link a.link
    if (registry.get? link).isSome then throw (.lanesTwice a.link)
    let (result, s) ← addLanes n a { link } s a.lanes
    match registry.add result with
    | .ok registry => addAssignments n registry s rest
    | .error fault => throw (.refused (.lanes fault))

/-- The lanes of a file, for a network. -/
def toLanes (f : LaneFile α) (n : Network α) (s : IdStore) :
    Except ScenarioFault (LaneRegistry α × IdStore) :=
  addAssignments n {} s f.assignments

end LaneFile

end LaneFlow
