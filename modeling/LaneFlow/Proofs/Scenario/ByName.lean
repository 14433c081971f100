import LaneFlow.Capacity.Table
import LaneFlow.Scenario.LaneFile
import LaneFlow.Scenario.NetworkFile

/-!
# Capacities by name

From two files and a configuration to capacities there are three steps: the
network file becomes a network, the lane file becomes lanes for that network,
and the capacities are computed.  All of them go through ids.

Here the same is said without ids, on the texts and numbers of the files and of
the configuration alone: which reference is the first that leads nowhere, which
lanes stand at the end of a link, what capacities they have, and what is to be
found about them (`capacitiesByName`).  What is seen of capacities and refusals
from outside is their texts and numbers, and of several findings about lanes it
is left open in which order they are told (`SameOutcome`).

That the two agree, for every store, is shown in
`LaneFlow.Proofs.Scenario.Agreement`.
-/

namespace LaneFlow

variable {α : Type}

/-! ## What is seen from outside -/

/-- The capacities of a lane under its name. -/
structure NamedLane (α : Type) where
  lane : String
  segment : Segment α
deriving Repr, DecidableEq

/-- The capacities of a link under its name. -/
structure NamedCapacity (α : Type) where
  link : String
  flow : α
  space : α
  trunk : Segment α
  lanes : List (NamedLane α)
deriving Repr, DecidableEq

/-- A finding about lanes, with the names of what it is about. -/
inductive NamedFinding (α : Type) where
  | laneExceedsLink (link lane : String) (start linkLength : α)
  | representedLanesMismatch (link : String) (declared linkLanes : α)
  | noLinkLanes (link : String) (linkLanes : α)
  | unknownLink (link : String)
deriving Repr, DecidableEq

/-- Why files and a configuration give no capacities. -/
inductive Refusal (φ : Type) where
  /-- The contents of a file make no scenario. -/
  | contents (fault : ScenarioFault)
  /-- Findings stand against computing capacities. -/
  | lanes (found : List φ)
  /-- A place leads out of its list. -/
  | astray
deriving Repr, DecidableEq

def LaneCapacity.named (c : LaneCapacity α) : NamedLane α :=
  ⟨c.lane.external, c.segment⟩

def LinkCapacity.named (c : LinkCapacity α) : NamedCapacity α :=
  ⟨c.link.external, c.flow, c.space, c.trunk, c.lanes.map (·.named)⟩

def Finding.named : Finding α → NamedFinding α
  | .laneExceedsLink link lane start linkLength =>
    .laneExceedsLink link.external lane.external start linkLength
  | .representedLanesMismatch link declared linkLanes =>
    .representedLanesMismatch link.external declared linkLanes
  | .noLinkLanes link linkLanes => .noLinkLanes link.external linkLanes
  | .unknownLink link => .unknownLink link.external

def Refusal.named : Refusal (Finding α) → Refusal (NamedFinding α)
  | .contents fault => .contents fault
  | .lanes found => .lanes (found.map (·.named))
  | .astray => .astray

/-- What comes of files and a configuration, as it is seen from outside. -/
abbrev NamedOutcome (α : Type) :=
  Except (Refusal (NamedFinding α)) (List (NamedCapacity α))

/-- The same outcome, but for the order of findings. -/
inductive SameOutcome : NamedOutcome α → NamedOutcome α → Prop
  | refl (x : NamedOutcome α) : SameOutcome x x
  | found {xs ys : List (NamedFinding α)} (h : xs.Perm ys) :
      SameOutcome (.error (.lanes xs)) (.error (.lanes ys))

theorem SameOutcome.of_eq {x y : NamedOutcome α} (h : x = y) :
    SameOutcome x y := h ▸ .refl x

theorem SameOutcome.symm {x y : NamedOutcome α} (h : SameOutcome x y) :
    SameOutcome y x := by
  cases h with
  | refl => exact .refl x
  | found h => exact .found h.symm

theorem SameOutcome.trans {x y z : NamedOutcome α} (h : SameOutcome x y)
    (h' : SameOutcome y z) : SameOutcome x z := by
  cases h with
  | refl => exact h'
  | found h =>
      cases h' with
      | refl => exact .found h
      | found h' => exact .found (h.trans h')

/-- Of capacities there is nothing to reorder. -/
theorem SameOutcome.eq_ok {x y : NamedOutcome α} {cs : List (NamedCapacity α)}
    (h : SameOutcome x y) (hy : y = .ok cs) : x = .ok cs := by
  cases h with
  | refl => exact hy
  | found => cases hy

variable [Quantity α]

/-! ## References by name -/

/-- The fault of a reference, unless there is something of that name. -/
def unknown? (names : List String) (kind : Referent) (referencedBy : String)
    (name : String) : Option ScenarioFault :=
  if name ∈ names then none
  else some (.unknownReference kind name referencedBy)

/-- The fault of a link, whose ends must be among some nodes. -/
def LinkRecord.fault? (nodes : List String) (r : LinkRecord α) :
    Option ScenarioFault :=
  (unknown? nodes .node s!"link {r.id}" r.source).or
    (unknown? nodes .node s!"link {r.id}" r.target)

/-- The fault of the first link that has one. -/
def NetworkFile.fault? (f : NetworkFile α) : Option ScenarioFault :=
  f.links.findSome? (·.fault? (f.nodes.map (·.id)))

/-- The fault of the first reference of a lane that leads nowhere. -/
def LaneRecord.fault? (links : List String) (a : AssignmentRecord α)
    (r : LaneRecord α) : Option ScenarioFault :=
  (r.toLanes.findSome?
      (unknown? (a.lanes.map (·.id)) .lane (LaneFile.laneName a r))).or
    (r.toLinks.findSome? (unknown? links .link (LaneFile.laneName a r)))

/-- The first fault of some lanes of a link, of which one at most leads to
other lanes; there may have been one before. -/
def AssignmentRecord.lanesFault? (links : List String)
    (a : AssignmentRecord α) : Bool → List (LaneRecord α) →
      Option ScenarioFault
  | _, [] => none
  | hasTrunk, r :: rest =>
    (r.fault? links a).or
      (if r.toLanes.isEmpty then a.lanesFault? links hasTrunk rest
      else if hasTrunk then some (.laneTree a.link)
      else a.lanesFault? links true rest)

/-- The first fault of the lanes of several links, no two of which have the
same name or that of a link before. -/
def LaneFile.assignmentsFault? (links : List String) :
    List String → List (AssignmentRecord α) → Option ScenarioFault
  | _, [] => none
  | before, a :: rest =>
    (if a.link ∈ before then some (.lanesTwice a.link) else none).or
      ((a.lanesFault? links false a.lanes).or
        (assignmentsFault? links (before ++ [a.link]) rest))

/-- The first fault of a lane file, for a network with some links. -/
def LaneFile.fault? (links : List String) (f : LaneFile α) :
    Option ScenarioFault :=
  assignmentsFault? links [] f.assignments

/-! ## Capacities by name -/

/-- The lanes that lead to the end of the link. -/
def AssignmentRecord.endLanes (a : AssignmentRecord α) :
    List (LaneRecord α) :=
  a.lanes.filter (·.toLanes.isEmpty)

/-- The lanes at the end of the link of a name, if there are lanes for it. -/
def LaneFile.endLanes? (f : LaneFile α) (link : String) :
    Option (List (LaneRecord α)) :=
  (f.assignments.find? (·.link == link)).map (·.endLanes)

/-- The number of lanes of the road that a lane stands for. -/
def LaneRecord.representedLanes (r : LaneRecord α) : α :=
  r.represented.getD defaultRepresentedLanes

/-- The scale of all flows that a configuration asks for. -/
def Config.flowScale (c : Config α) : α :=
  match c.modules.lookup "simulation" with
  | some (.simulation scaling) => scaling.flow
  | _ => 1.0

/-- The scale of all storage that a configuration asks for. -/
def Config.storageScale (c : Config α) : α :=
  match c.modules.lookup "simulation" with
  | some (.simulation scaling) => scaling.storage
  | _ => 1.0

omit [Quantity α] in
/-- Whether a configuration lets lanes be used. -/
def Config.takesLanes (c : Config α) : Bool :=
  match c.modules.lookup "lanes" with
  | some (.lanes rules) => rules.use
  | _ => true

omit [Quantity α] in
/-- Whether a configuration has lanes checked in the strict mode. -/
def Config.isStrict (c : Config α) : Bool :=
  match c.modules.lookup "lanes" with
  | some (.lanes rules) => rules.validation = .strict
  | _ => false

/-- The vehicles that stand on some lanes of some length. -/
def NetworkFile.storage (f : NetworkFile α) (config : Config α)
    (length lanes : α) : α :=
  length * lanes * config.storageScale / f.cellSize

/-- The vehicles per second that a link lets pass. -/
def LinkRecord.flow (r : LinkRecord α) (f : NetworkFile α)
    (config : Config α) : α :=
  r.capacity * config.flowScale / f.capacityPeriod

/-- A lane at the end of a link has the share of its flow that it represents of
its lanes. -/
def LaneRecord.capacities (l : LaneRecord α) (r : LinkRecord α)
    (f : NetworkFile α) (config : Config α) : NamedLane α :=
  { lane := l.id
    segment :=
      { length := l.start
        lanes := l.representedLanes
        storage := f.storage config l.start l.representedLanes
        flow := r.flow f config / r.lanes * l.representedLanes } }

/-- The segment of a link before its lanes, of some length. -/
def LinkRecord.trunkSegment (r : LinkRecord α) (f : NetworkFile α)
    (config : Config α) (length : α) : Segment α :=
  { length
    lanes := r.lanes
    storage := f.storage config length r.lanes
    flow := r.flow f config }

/-- The capacities of a link without lanes. -/
def LinkRecord.undivided (r : LinkRecord α) (f : NetworkFile α)
    (config : Config α) : NamedCapacity α :=
  let trunk := r.trunkSegment f config r.length
  { link := r.id, flow := r.flow f config, space := trunk.storage, trunk
    lanes := [] }

/-- The capacities of a link with some lanes at its end. -/
def LinkRecord.divided (r : LinkRecord α) (f : NetworkFile α)
    (config : Config α) (lanes : List (LaneRecord α)) : NamedCapacity α :=
  let maxStart := lanes.foldl (fun m l => Quantity.max m l.start) 0.0
  let trunk := r.trunkSegment f config (r.length - maxStart)
  let lanes := lanes.map (·.capacities r f config)
  { link := r.id
    flow := r.flow f config
    space := trunk.storage + Quantity.sum (lanes.map (·.segment.storage))
    trunk
    lanes }

def LinkRecord.capacities (r : LinkRecord α) (f : NetworkFile α)
    (config : Config α) (lanes : Option (List (LaneRecord α))) :
    NamedCapacity α :=
  lanes.elim (r.undivided f config) (r.divided f config)

/-- What is to be found about the lanes of a link. -/
def LinkRecord.findings (r : LinkRecord α) (lanes : List (LaneRecord α)) :
    List (NamedFinding α) :=
  let declared := Quantity.sum (lanes.map (·.representedLanes))
  (if Quantity.le r.lanes 0.0 && !lanes.isEmpty then
    [.noLinkLanes r.id r.lanes] else []) ++
  ((lanes.filter fun l => Quantity.lt r.length l.start).map fun l =>
    .laneExceedsLink r.id l.id l.start r.length) ++
  (if !lanes.isEmpty && Quantity.lt representedLanesTolerance
      (Quantity.abs (declared - r.lanes)) then
    [.representedLanesMismatch r.id declared r.lanes] else [])

/-- What is to be found about some lanes at the end of the link of a name. -/
def NetworkFile.findingsOf (f : NetworkFile α) (link : String)
    (lanes : List (LaneRecord α)) : List (NamedFinding α) :=
  match f.links.find? (·.id == link) with
  | some r => r.findings lanes
  | none => [.unknownLink link]

/-- What stands against computing capacities: in the strict mode all that is
to be found about the lanes, if they are used. -/
def NetworkFile.objections (f : NetworkFile α) (lanes : Option (LaneFile α))
    (config : Config α) : List (NamedFinding α) :=
  match lanes with
  | some l =>
    if config.takesLanes && config.isStrict then
      l.assignments.flatMap fun a => f.findingsOf a.link a.endLanes
    else []
  | none => []

omit [Quantity α] in
/-- The lanes at the end of the link of a name, if there is a lane file and
lanes are used. -/
def endLanesFor? (lanes : Option (LaneFile α)) (config : Config α)
    (link : String) : Option (List (LaneRecord α)) :=
  if config.takesLanes then lanes.bind (·.endLanes? link) else none

/-- The capacities of the links of a network file in the order of the file,
with the lanes of a lane file if there is one and lanes are used. -/
def NetworkFile.compute (f : NetworkFile α) (lanes : Option (LaneFile α))
    (config : Config α) : NamedOutcome α :=
  match f.objections lanes config with
  | [] => .ok (f.links.map fun r =>
      r.capacities f config (endLanesFor? lanes config r.id))
  | found => .error (.lanes found)

/-- The same, or the first fault of the files. -/
def capacitiesByName (network : NetworkFile α) (lanes : Option (LaneFile α))
    (config : Config α) : NamedOutcome α :=
  match network.fault?.or (lanes.bind (·.fault? (network.links.map (·.id)))) with
  | some fault => .error (.contents fault)
  | none => network.compute lanes config

end LaneFlow
