import LaneFlow.Capacity.Allocation
import LaneFlow.Capacity.Validation
import LaneFlow.Log

/-!
# Tables of capacities

A table holds the capacities of every link of a network, in the order of the
links. Lanes count only if the configuration uses them. Lanes that do not fit
their links stop the computation only in the strict mode; otherwise they are at
most reported.

## Main results

* `CapacityTable.compute_eq_ok`: without an objection the table is the
  allocation, link by link.
-/

namespace LaneFlow

/-- The capacities of the links of a network, in the order of the links. -/
structure CapacityTable (α : Type) where
  entries : List (LinkCapacity α)
deriving Repr, DecidableEq

namespace CapacityTable

variable {α : Type} [Quantity α]

omit [Quantity α] in
/-- The number of links. -/
def size (t : CapacityTable α) : Nat := t.entries.length

omit [Quantity α] in
/-- The capacities of a link. -/
def get? (t : CapacityTable α) (link : Id .link) : Option (LinkCapacity α) :=
  t.entries.find? (·.link.same link)

/-- The storage capacity of all links together. -/
def totalStorage (t : CapacityTable α) : α :=
  Quantity.sum (t.entries.map (·.space))

omit [Quantity α] in
/-- The lanes that count under a configuration. -/
def lanesInUse (lanes : Option (LaneRegistry α)) (config : Config α) :
    Option (LaneRegistry α) :=
  lanes.filter fun _ => config.laneUse.use

/-- The findings that stop the computation; none outside the strict mode. -/
def objections (network : Network α) (lanes : Option (LaneRegistry α))
    (config : Config α) : List (Finding α) :=
  match lanesInUse lanes config, config.laneUse.validation with
  | some r, .strict => r.findings network
  | _, _ => []

/-- The findings that are reported before the computation; none outside the
warning mode. -/
def warnings (network : Network α) (lanes : Option (LaneRegistry α))
    (config : Config α) : List (Finding α) :=
  match lanesInUse lanes config, config.laneUse.validation with
  | some r, .warn => r.findings network
  | _, _ => []

/-- The capacities of every link, whatever its lanes look like. -/
def allocate (network : Network α) (lanes : Option (LaneRegistry α))
    (config : Config α) : CapacityTable α :=
  let factors := Factors.ofScaling config.simulation network.cellSize
  ⟨network.links.map fun link =>
    link.allocate ((lanesInUse lanes config).bind (·.get? link.id)) factors⟩

/-- The capacities of every link, or the findings that stand against computing
them. -/
def compute (network : Network α) (lanes : Option (LaneRegistry α))
    (config : Config α) : Except (List (Finding α)) (CapacityTable α) :=
  match objections network lanes config with
  | [] => .ok (allocate network lanes config)
  | found => .error found

theorem compute_eq_ok {network : Network α} {lanes : Option (LaneRegistry α)}
    {config : Config α} (h : objections network lanes config = []) :
    compute network lanes config = .ok (allocate network lanes config) := by
  simp [compute, h]

/-! ## What is reported -/

/-- What is said if findings stand against computing capacities. -/
def objectionMessage (found : List (Finding Float)) : String :=
  s!"found {found.length} inconsistent lane definitions: " ++
    String.intercalate "; " (found.map Finding.message)

/-- The line about one link of a table. -/
def entryLine (c : LinkCapacity Float) : LogLine :=
  ⟨.debug, "Link " ++ c.link.external ++
    ": flow capacity " ++ Decimal.text c.flow ++
    " veh/s, storage capacity " ++ Decimal.text c.space ++ " veh on " ++
    Decimal.digitText (c.lanes.length + 1) ++ " segments"⟩

/-- The line about a finished table. -/
def sizeLine (t : CapacityTable Float) : LogLine :=
  let split := t.entries.countP (·.hasLanes)
  ⟨.info, s!"Computed capacities of {t.size} links. " ++
    s!"{split} of them have lanes."⟩

/-- Computes the capacities of every link and reports on it. -/
def report (network : Network Float) (lanes : Option (LaneRegistry Float))
    (config : Config Float) :
    Logged (List (Finding Float)) (CapacityTable Float) := do
  Logged.reportAll
    ((warnings network lanes config).map fun f => ⟨.warn, f.message⟩)
  let table ← Logged.ofExcept (compute network lanes config)
  Logged.reportAll (table.entries.map entryLine ++ [sizeLine table])
  return table

end CapacityTable

end LaneFlow
