import Mathlib
import LaneFlow.Proofs.Capacity.ClosedForm

/-!
# Capacities and their scales

A configuration scales all flows and all storages.  The two scales are kept
apart: with exact arithmetic another scale of the flow multiplies every flow and
changes no storage, and the other way round.  Lengths, lanes and ids stay as
they are.

Flow and storage are kept apart on the road, too.  How long a link is, where its
lanes start and how large a cell is do not matter to any flow; how much a link
lets through in which time does not matter to any storage.  This does not ask
for exact arithmetic.

## Main results

* `Link.allocate_scaled` — another scale for the capacities of a link.
* `CapacityTable.compute_scaled` — another scale for a table.
* `LinkCapacity.flows_allocate_congr`, `LinkCapacity.storages_allocate_congr` —
  what flows and storages depend on.
* `CapacityTable.capacities_scale` — all of this.
-/

namespace LaneFlow

/-! ## Capacities at another scale -/

section Scaled

variable (a b : Rat)

/-- Other scales, for the flow and for the storage. -/
def Scaling.scaled (s : Scaling Rat) : Scaling Rat := ⟨a * s.flow, b * s.storage⟩

/-- Factors with other scales and the same cell size. -/
def Factors.scaled (f : Factors Rat) : Factors Rat :=
  { f with flow := a * f.flow, storage := b * f.storage }

/-- A segment of the same length and lanes with other capacities. -/
def Segment.scaled (s : Segment Rat) : Segment Rat :=
  { s with storage := b * s.storage, flow := a * s.flow }

/-- The same lane with other capacities. -/
def LaneCapacity.scaled (c : LaneCapacity Rat) : LaneCapacity Rat :=
  { c with segment := c.segment.scaled a b }

/-- The same link and lanes with other capacities. -/
def LinkCapacity.scaled (c : LinkCapacity Rat) : LinkCapacity Rat :=
  { c with
    flow := a * c.flow
    space := b * c.space
    trunk := c.trunk.scaled a b
    lanes := c.lanes.map (·.scaled a b) }

/-- A table of the same links with other capacities. -/
def CapacityTable.scaled (t : CapacityTable Rat) : CapacityTable Rat :=
  ⟨t.entries.map (·.scaled a b)⟩

end Scaled

namespace Factors

variable (a b : Rat) (f : Factors Rat)

theorem flowCapacity_scaled (capacity period : Rat) :
    (f.scaled a b).flowCapacity capacity period =
      a * f.flowCapacity capacity period := by
  simp only [flowCapacity, scaled]
  ring

theorem storageCapacity_scaled (length lanes : Rat) :
    (f.scaled a b).storageCapacity length lanes =
      b * f.storageCapacity length lanes := by
  simp only [storageCapacity, scaled]
  ring

theorem ofScaling_scaled (s : Scaling Rat) (cellSize : Rat) :
    ofScaling (s.scaled a b) cellSize = (ofScaling s cellSize).scaled a b := rfl

end Factors

theorem Lane.allocate_scaled (lane : Lane Rat) (flow lanes a b : Rat)
    (f : Factors Rat) :
    lane.allocate (a * flow) lanes (f.scaled a b) =
      (lane.allocate flow lanes f).scaled a b := by
  simp only [Lane.allocate, LaneCapacity.scaled, Segment.scaled,
    Factors.storageCapacity_scaled, mul_div_assoc, mul_assoc]

theorem Link.trunkSegment_scaled (link : Link Rat) (length a b : Rat)
    (f : Factors Rat) :
    link.trunkSegment length (f.scaled a b) =
      (link.trunkSegment length f).scaled a b := by
  simp only [Link.trunkSegment, Segment.scaled, Factors.storageCapacity_scaled,
    Factors.flowCapacity_scaled]

namespace LinkCapacity

variable (a b : Rat) (c : LinkCapacity Rat)

theorem sum_storage_scaled (lanes : List (LaneCapacity Rat)) :
    Quantity.sum ((lanes.map (·.scaled a b)).map (·.segment.storage)) =
      b * Quantity.sum (lanes.map (·.segment.storage)) := by
  rw [Quantity.sum_rat, Quantity.sum_rat, ← List.sum_map_mul_left, List.map_map]
  rfl

theorem laneFlow_scaled : (c.scaled a b).laneFlow = a * c.laneFlow := by
  rw [laneFlow, laneFlow, Quantity.sum_rat, Quantity.sum_rat,
    ← List.sum_map_mul_left, scaled, List.map_map]
  rfl

end LinkCapacity

/-- Other scales multiply every flow and every storage of a link. -/
theorem Link.allocate_scaled (link : Link Rat) (lanes : Option (LaneAssignment Rat))
    (f : Factors Rat) (a b : Rat) :
    link.allocate lanes (f.scaled a b) = (link.allocate lanes f).scaled a b := by
  cases lanes with
  | none =>
      simp only [Link.allocate, LinkCapacity.scaled, Link.trunkSegment_scaled,
        Factors.flowCapacity_scaled]
      rfl
  | some r =>
      have hlanes : ∀ flow : Rat,
          r.lanes.map (·.allocate (a * flow) link.lanes (f.scaled a b)) =
            (r.lanes.map (·.allocate flow link.lanes f)).map (·.scaled a b) := by
        intro flow
        rw [List.map_map]
        exact List.map_congr_left fun lane _ => lane.allocate_scaled flow _ a b f
      simp only [Link.allocate, LinkCapacity.scaled, Link.trunkSegment_scaled,
        Factors.flowCapacity_scaled, hlanes, LinkCapacity.sum_storage_scaled,
        mul_add]
      rfl

/-! ## Tables at another scale -/

@[simp] theorem Config.laneUse_putSimulation {α : Type} (c : Config α)
    (s : Scaling α) : (c.putSimulation s).laneUse = c.laneUse := by
  rw [Config.laneUse, Config.laneUse, Config.putSimulation,
    Config.find?_put_other c _ (by decide)]

namespace CapacityTable

variable (a b : Rat)

theorem totalStorage_scaled (t : CapacityTable Rat) :
    (t.scaled a b).totalStorage = b * t.totalStorage := by
  rw [totalStorage, totalStorage, Quantity.sum_rat, Quantity.sum_rat,
    ← List.sum_map_mul_left, scaled, List.map_map]
  rfl

theorem allocate_scaled (n : Network Rat) (lanes : Option (LaneRegistry Rat))
    (config : Config Rat) :
    allocate n lanes (config.putSimulation (config.simulation.scaled a b)) =
      (allocate n lanes config).scaled a b := by
  have huse : ∀ link, lanesFor lanes
      (config.putSimulation (config.simulation.scaled a b)) link =
        lanesFor lanes config link := by
    intro link
    rw [lanesFor, lanesFor, Config.laneUse_putSimulation]
  rw [CapacityTable.mk.injEq, scaled, entries_allocate, entries_allocate,
    List.map_map]
  refine List.map_congr_left fun link _ => ?_
  rw [huse, Config.simulation_putSimulation, Factors.ofScaling_scaled]
  exact link.allocate_scaled _ _ a b

/-- Other scales multiply every flow and every storage of a table, and the same
findings stand against it. -/
theorem compute_scaled (n : Network Rat) (lanes : Option (LaneRegistry Rat))
    (config : Config Rat) :
    compute n lanes (config.putSimulation (config.simulation.scaled a b)) =
      (compute n lanes config).map (·.scaled a b) := by
  have hobjections : objections n lanes
      (config.putSimulation (config.simulation.scaled a b)) =
        objections n lanes config := by
    simp only [objections, lanesInUse, Config.laneUse_putSimulation]
  rw [compute, compute, hobjections, allocate_scaled]
  split <;> rfl

end CapacityTable

/-! ## What flows and storages depend on -/

section Separation

variable {α : Type}

/-- Two links that let through as much in as much time, with as many lanes. -/
structure Link.SameThroughput (link other : Link α) : Prop where
  capacity : link.capacity = other.capacity
  capacityPeriod : link.capacityPeriod = other.capacityPeriod
  lanes : link.lanes = other.lanes

/-- Two links of the same length with as many lanes. -/
structure Link.SameGround (link other : Link α) : Prop where
  length : link.length = other.length
  lanes : link.lanes = other.lanes

/-- The flows of a link: its own, that of the trunk, those of the lanes. -/
def LinkCapacity.flows (c : LinkCapacity α) : List α :=
  c.flow :: c.trunk.flow :: c.lanes.map (·.segment.flow)

/-- The storages of a link: its own, that of the trunk, those of the lanes. -/
def LinkCapacity.storages (c : LinkCapacity α) : List α :=
  c.space :: c.trunk.storage :: c.lanes.map (·.segment.storage)

variable [Quantity α]

/-- Two lists of lanes that stand for as many lanes of the road, one by one. -/
def LaneAssignment.SameWidths (r r' : LaneAssignment α) : Prop :=
  r.lanes.map (·.representedLanes) = r'.lanes.map (·.representedLanes)

/-- Two lists of lanes that start at the same points and stand for as many lanes
of the road, one by one. -/
def LaneAssignment.SameGround (r r' : LaneAssignment α) : Prop :=
  r.lanes.map (fun l => (l.start, l.representedLanes)) =
    r'.lanes.map (fun l => (l.start, l.representedLanes))

theorem LaneAssignment.SameGround.maxStart_eq {r r' : LaneAssignment α}
    (h : r.SameGround r') : r.maxStart = r'.maxStart := by
  have hstarts : ∀ r : LaneAssignment α, r.maxStart =
      (r.lanes.map fun l => (l.start, l.representedLanes)).foldl
        (fun m l => Quantity.max m l.1) 0.0 := by
    intro r
    rw [List.foldl_map]
    rfl
  rw [hstarts, hstarts, h]

namespace LinkCapacity

variable {link other : Link α} {lanes lanes' : Option (LaneAssignment α)}
  {f g : Factors α}

/-- The flow of all lanes together is that of the lanes alone. -/
theorem laneFlow_eq_of_flows_eq {c c' : LinkCapacity α}
    (h : c.flows = c'.flows) : c.laneFlow = c'.laneFlow :=
  congrArg Quantity.sum (congrArg (List.drop 2) h)

/-- The flows of a link depend on what it lets through and on what its lanes
stand for. -/
theorem flows_allocate_congr (hlink : link.SameThroughput other)
    (hlanes : Option.Rel LaneAssignment.SameWidths lanes lanes')
    (hscale : f.flow = g.flow) :
    (link.allocate lanes f).flows = (other.allocate lanes' g).flows := by
  have hflow : f.flowCapacity link.capacity link.capacityPeriod =
      g.flowCapacity other.capacity other.capacityPeriod := by
    rw [Factors.flowCapacity, Factors.flowCapacity, hlink.capacity,
      hlink.capacityPeriod, hscale]
  cases hlanes with
  | none => simp only [flows, Link.allocate, Link.trunkSegment, hflow, List.map_nil]
  | some hwidths =>
      rename_i r r'
      have hshares : ∀ (r : LaneAssignment α) (flow : α) (f : Factors α),
          (r.lanes.map (·.allocate flow other.lanes f)).map (·.segment.flow) =
            (r.lanes.map (·.representedLanes)).map (flow / other.lanes * ·) := by
        intro r flow f
        rw [List.map_map, List.map_map]
        rfl
      have hwidths : r.lanes.map (·.representedLanes) =
        r'.lanes.map (·.representedLanes) := hwidths
      simp only [flows, Link.allocate, Link.trunkSegment, hflow, hlink.lanes,
        hshares, hwidths]

/-- The storages of a link depend on its length, its lanes and where they start,
and on what they stand for. -/
theorem storages_allocate_congr (hlink : link.SameGround other)
    (hlanes : Option.Rel LaneAssignment.SameGround lanes lanes')
    (hscale : f.storage = g.storage) (hcell : f.cellSize = g.cellSize) :
    (link.allocate lanes f).storages = (other.allocate lanes' g).storages := by
  have hstorage : ∀ length width : α,
      f.storageCapacity length width = g.storageCapacity length width := by
    intro length width
    rw [Factors.storageCapacity, Factors.storageCapacity, hscale, hcell]
  cases hlanes with
  | none =>
      simp only [storages, Link.allocate, Link.trunkSegment, hstorage,
        hlink.length, hlink.lanes, List.map_nil]
  | some hground =>
      rename_i r r'
      have hparts : ∀ (r : LaneAssignment α) (flow width : α) (f : Factors α),
          (r.lanes.map (·.allocate flow width f)).map (·.segment.storage) =
            (r.lanes.map fun l => (l.start, l.representedLanes)).map
              fun l => f.storageCapacity l.1 l.2 := by
        intro r flow width f
        rw [List.map_map, List.map_map]
        rfl
      have hsame : r.lanes.map (fun l => (l.start, l.representedLanes)) =
        r'.lanes.map (fun l => (l.start, l.representedLanes)) := hground
      simp only [storages, Link.allocate, Link.trunkSegment, hparts, hstorage,
        hground.maxStart_eq, hlink.length, hlink.lanes, hsame]

end LinkCapacity

end Separation

namespace CapacityTable

/-- **Capacities scale linearly, and flow and storage apart.**  Multiply the
scale of the flow by `a` and that of the storage by `b`.  Then every flow of a
link and of its lanes, also that of all lanes together, is multiplied by `a`,
every storage by `b`, and all else stays.  A table, if there is one, is scaled
in the same way, and with it the storage of all its links.  For fixed scales no
flow depends on the length of the link, on where lanes start or on the cell
size, and no storage on the capacity of the link or its period. -/
theorem capacities_scale (a b : Rat) :
    (∀ (link : Link Rat) lanes f,
      link.allocate lanes (f.scaled a b) = (link.allocate lanes f).scaled a b ∧
      (link.allocate lanes (f.scaled a b)).laneFlow =
        a * (link.allocate lanes f).laneFlow) ∧
    (∀ n lanes config,
      compute n lanes (config.putSimulation (config.simulation.scaled a b)) =
        (compute n lanes config).map (·.scaled a b)) ∧
    (∀ t : CapacityTable Rat, (t.scaled a b).totalStorage = b * t.totalStorage) ∧
    (∀ (link other : Link Rat) lanes lanes' f g, link.SameThroughput other →
      Option.Rel LaneAssignment.SameWidths lanes lanes' → f.flow = g.flow →
      (link.allocate lanes f).flows = (other.allocate lanes' g).flows ∧
      (link.allocate lanes f).laneFlow = (other.allocate lanes' g).laneFlow) ∧
    ∀ (link other : Link Rat) lanes lanes' f g, link.SameGround other →
      Option.Rel LaneAssignment.SameGround lanes lanes' →
      f.storage = g.storage → f.cellSize = g.cellSize →
      (link.allocate lanes f).storages = (other.allocate lanes' g).storages := by
  refine ⟨fun link lanes f => ⟨link.allocate_scaled lanes f a b, ?_⟩,
    compute_scaled a b, totalStorage_scaled a b,
    fun link other lanes lanes' f g hlink hlanes hscale => ?_,
    fun link other lanes lanes' f g hlink hlanes hscale hcell =>
      LinkCapacity.storages_allocate_congr hlink hlanes hscale hcell⟩
  · rw [link.allocate_scaled, LinkCapacity.laneFlow_scaled]
  · have hflows := LinkCapacity.flows_allocate_congr hlink hlanes hscale
    exact ⟨hflows, LinkCapacity.laneFlow_eq_of_flows_eq hflows⟩

/-- Lanes that are as wide as the overlong ones and start elsewhere. -/
def shortLanes : LaneAssignment Rat where
  link := ringRoad.id
  lanes :=
    [{ id := ⟨0, "narrow"⟩, start := 20, represented := some (1 / 2) },
      { id := ⟨1, "wide"⟩, start := -5, represented := some (3 / 2) }]

/-- The ring road at another length. -/
def longRing : Link Rat := { ringRoad with length := 700 }

/-- The ring road with another capacity. -/
def narrowRing : Link Rat := { ringRoad with capacity := 5, capacityPeriod := 7 }

/-- The split ring road at half the flow and three times the storage, at another
length with other starts, and with another capacity. -/
theorem capacities_scale_ring :
    (ringRoad.allocate (some Link.overlongLanes) ⟨1 / 2, 3, 10⟩).flows =
      [1 / 2, 1 / 2, 1 / 8, 3 / 8] ∧
    (ringRoad.allocate (some Link.overlongLanes) ⟨1 / 2, 3, 10⟩).storages =
      [60, -18, 39 / 2, 117 / 2] ∧
    ringRoad.SameThroughput longRing ∧
    Option.Rel LaneAssignment.SameWidths (some Link.overlongLanes)
      (some shortLanes) ∧
    (ringRoad.allocate (some Link.overlongLanes) ⟨1, 1, 10⟩).flows =
      (longRing.allocate (some shortLanes) ⟨1, 5, 2⟩).flows ∧
    ringRoad.SameGround narrowRing ∧
    (ringRoad.allocate (some Link.overlongLanes) ⟨1, 1, 10⟩).storages =
      (narrowRing.allocate (some Link.overlongLanes) ⟨4, 1, 10⟩).storages := by
  obtain ⟨hscale, -, -, hflows, hstorages⟩ := capacities_scale (1 / 2) 3
  have hfactors : (⟨1 / 2, 3, 10⟩ : Factors Rat) =
      Factors.scaled (1 / 2) 3 ⟨1, 1, 10⟩ := by
    norm_num [Factors.scaled]
  have hscaled := (hscale ringRoad (some Link.overlongLanes) ⟨1, 1, 10⟩).1
  have hthroughput : ringRoad.SameThroughput longRing := ⟨rfl, rfl, rfl⟩
  have hground : ringRoad.SameGround narrowRing := ⟨rfl, rfl⟩
  have hwidths : Option.Rel LaneAssignment.SameWidths (some Link.overlongLanes)
      (some shortLanes) :=
    .some (rfl : Link.overlongLanes.lanes.map (·.representedLanes) = _)
  rw [hfactors, hscaled]
  refine ⟨by decide +kernel, by decide +kernel, hthroughput, hwidths,
    (hflows _ _ _ _ _ _ hthroughput hwidths rfl).1, hground,
    hstorages _ _ _ _ _ _ hground (.some rfl) rfl rfl⟩

end CapacityTable

end LaneFlow
