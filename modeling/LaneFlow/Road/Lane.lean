import LaneFlow.Road.Network

/-!
# Lanes at the end of a link

Towards its end a link may split into lanes, each of which starts at some
distance from the end and leads to some of the links that follow. What remains
of the link before all of them is its *trunk*.

A lane may stand for several lanes of the road, and for one if nothing is said.
A `LaneAssignment` holds the lanes of one link, and a `LaneRegistry` those of a
whole network.

## Main results

* `LaneRegistry.add_of_new`: lanes of a new link are added.
* `LaneRegistry.get?_add_self`: what was added is found under its link.
-/

namespace LaneFlow

/-- The number of lanes that a lane stands for if nothing is said. -/
def defaultRepresentedLanes {α : Type} [Quantity α] : α := 1.0

/-- A lane that runs from a point on a link to the end of the link. -/
structure Lane (α : Type) where
  id : Id .lane
  /-- Metres between the start of the lane and the end of the link. -/
  start : α
  /-- The number of lanes of the road that this one stands for, if it is
  declared. -/
  represented : Option α := none
  /-- Vehicles per hour; kept, but nothing is computed from it. -/
  capacity : Option α := none
  toLanes : List (Id .lane) := []
  toLinks : List (Id .link) := []
deriving Repr, DecidableEq

/-- The lanes of one link in the order of their declaration. -/
structure LaneAssignment (α : Type) where
  link : Id .link
  /-- The declaration of the trunk, if there is one. -/
  trunk : Option (Lane α) := none
  /-- The lanes that lead to the node at the end of the link. -/
  lanes : List (Lane α) := []
deriving Repr, DecidableEq

/-- The lanes of all links that have any, in the order in which they were
added. -/
structure LaneRegistry (α : Type) where
  assignments : List (LaneAssignment α) := []
deriving Repr, DecidableEq

namespace Lane

variable {α : Type}

/-- The number of lanes of the road that a lane stands for. -/
def representedLanes [Quantity α] (l : Lane α) : α :=
  l.represented.getD defaultRepresentedLanes

/-- Whether a lane leads to a link. -/
def leadsTo (l : Lane α) (link : Id .link) : Bool := link.isIn l.toLinks

end Lane

namespace LaneAssignment

variable {α : Type}

/-- The text of the id of a trunk that is not declared. -/
def undeclaredTrunk (link : Id .link) : String := link.external ++ ".ol"

/-- The id of the trunk of a link; without a declaration it is named after the
link. -/
def trunkId (a : LaneAssignment α) (s : IdStore) : Id .lane × IdStore :=
  match a.trunk with
  | some lane => (lane.id, s)
  | none => s.create .lane (undeclaredTrunk a.link)

/--
The largest distance from the end of the link at which a lane starts, and at
least zero. Everything farther back belongs to the trunk.
-/
def maxStart [Quantity α] (a : LaneAssignment α) : α :=
  a.lanes.foldl (fun m lane => Quantity.max m lane.start) 0.0

/-- The number of lanes of the road that all lanes together stand for. -/
def representedLanes [Quantity α] (a : LaneAssignment α) : α :=
  Quantity.sum (a.lanes.map Lane.representedLanes)

/-- The assignment with one more lane. -/
def addLane (a : LaneAssignment α) (lane : Lane α) : LaneAssignment α :=
  { a with lanes := a.lanes ++ [lane] }

/-- The assignment with a declared trunk. -/
def setTrunk (a : LaneAssignment α) (lane : Lane α) : LaneAssignment α :=
  { a with trunk := some lane }

end LaneAssignment

/-- A link whose lanes were added before. -/
structure LanesTwice where
  link : Id .link
deriving Repr, DecidableEq

/-- What is said about a link whose lanes were added before. -/
def LanesTwice.message (f : LanesTwice) : String :=
  s!"Lanes for link {f.link.external} were already added."

namespace LaneRegistry

variable {α : Type}

/-- The lanes of a link, if any were added. -/
def get? (r : LaneRegistry α) (link : Id .link) : Option (LaneAssignment α) :=
  r.assignments.find? (·.link.same link)

/-- Adds the lanes of a link, unless the link has some. -/
def add (r : LaneRegistry α) (a : LaneAssignment α) :
    Except LanesTwice (LaneRegistry α) :=
  if (r.get? a.link).isSome then .error ⟨a.link⟩ else .ok ⟨r.assignments ++ [a]⟩

/-- The number of links with lanes. -/
def size (r : LaneRegistry α) : Nat := r.assignments.length

theorem add_of_new {r : LaneRegistry α} {a : LaneAssignment α}
    (h : r.get? a.link = none) : r.add a = .ok ⟨r.assignments ++ [a]⟩ := by
  simp [add, h]

theorem get?_add_self {r s : LaneRegistry α} {a : LaneAssignment α}
    (h : r.add a = .ok s) : s.get? a.link = some a := by
  unfold add at h
  split at h
  · cases h
  · rename_i hsome
    cases h
    have hnone : r.assignments.find? (·.link.same a.link) = none := by
      simpa [get?] using hsome
    simp [get?, List.find?_append, hnone]

end LaneRegistry

/-! ## Building a lane from its fields -/

/-- A field that a lane cannot do without. -/
inductive LaneField where
  | id
  | start
deriving Repr, DecidableEq

/-- The name of a field of a lane. -/
def LaneField.name : LaneField → String
  | .id => "id"
  | .start => "starts_at_meter_from_link_end"

/-- What is said about a lane that lacks a field. -/
def LaneField.missingMessage (f : LaneField) : String :=
  s!"\x60{f.name}\x60 must be initialized"

/-- A lane some of whose fields may still be open. -/
structure LaneDraft (α : Type) where
  id : Option (Id .lane) := none
  start : Option α := none
  represented : Option α := none
  capacity : Option α := none
  toLanes : List (Id .lane) := []
  toLinks : List (Id .link) := []

/-- The lane of a draft; of the fields that cannot be missed, the id is asked
for first. -/
def LaneDraft.build {α : Type} (d : LaneDraft α) : Except LaneField (Lane α) :=
  match d.id, d.start with
  | none, _ => .error .id
  | some _, none => .error .start
  | some id, some start =>
    .ok ⟨id, start, d.represented, d.capacity, d.toLanes, d.toLinks⟩

end LaneFlow
