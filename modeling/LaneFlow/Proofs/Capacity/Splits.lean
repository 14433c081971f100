import Mathlib
import LaneFlow.Proofs.Capacity.Findings
import LaneFlow.Proofs.Capacity.Tabulation
import LaneFlow.Proofs.Queue.Sizes

/-!
# Splits that pass the strict mode

Capacities are computed for any lanes, and for some they make no sense: a trunk
of negative length, more flow on the lanes than on the link, more storage than
there is room.  The strict mode looks at the lanes one by one and at the sum of
what they stand for, and computes nothing if it finds something.

Nothing is found about the lanes of a link exactly if they fit it
(`LaneAssignment.Fits`), and then its capacities are sound up to the tolerance
of the check: the flow of the lanes is the flow of the link, and the split adds
no storage to it (`Link.SplitsSoundly`).  All numbers are exact here.

## Main results

* `LaneAssignment.findings_eq_nil_iff` — nothing is found about lanes that fit.
* `LaneAssignment.maxStart_le_iff` — how far back a split reaches.
* `LaneAssignment.Fits.splitsSoundly` — lanes that fit split their link soundly.
* `CapacityTable.splitsSoundly_of_strict` — so do all lanes of a table that was
  computed in the strict mode.
-/

namespace LaneFlow

theorem Quantity.max_rat (a b : Rat) : Quantity.max a b = Max.max a b := by
  rw [Quantity.rat_max, max_def_lt]

theorem Quantity.abs_rat (a : Rat) : Quantity.abs a = |a| := by
  rw [Quantity.rat_abs]
  split
  · rename_i ha
    exact (abs_of_neg ha).symm
  · rename_i ha
    exact (abs_of_nonneg (not_lt.1 ha)).symm

namespace LaneAssignment

variable {a : LaneAssignment Rat} {link : Link Rat}

/-! ## Lanes that fit -/

/-- Lanes fit their link: it has lanes of its own, none of those at its end is
longer than it, and together they stand for as many lanes as it has. -/
structure Fits (a : LaneAssignment Rat) (link : Link Rat) : Prop where
  lanes_pos : 0 < link.lanes
  start_le : ∀ l ∈ a.lanes, l.start ≤ link.length
  count_close : |a.representedLanes - link.lanes| ≤ 1e-9

/-- Nothing is found about lanes that fit, and something about all others. -/
theorem findings_eq_nil_iff (hlanes : a.lanes ≠ []) :
    a.findings link = [] ↔ a.Fits link := by
  have hwidth : a.widthFindings link = [] ↔ 0 < link.lanes := by
    simp [widthFindings, hlanes, Quantity.rat_le, Quantity.zero_rat]
  have hlengths : a.lengthFindings link = [] ↔
      ∀ l ∈ a.lanes, l.start ≤ link.length := by
    simp [lengthFindings, Quantity.rat_lt]
  have hcount : a.countFindings link = [] ↔
      |a.representedLanes - link.lanes| ≤ 1e-9 := by
    simp [countFindings, hlanes, Quantity.rat_lt, Quantity.abs_rat,
      representedLanesTolerance]
  rw [findings, List.append_eq_nil_iff, List.append_eq_nil_iff, hwidth, hlengths,
    hcount]
  constructor
  · rintro ⟨⟨hpos, hstart⟩, hclose⟩
    exact ⟨hpos, hstart, hclose⟩
  · rintro ⟨hpos, hstart, hclose⟩
    exact ⟨⟨hpos, hstart⟩, hclose⟩

/-! ## How far back a split reaches -/

/-- A split reaches back no farther than to some point if the point is on the
link and no lane starts behind it. -/
theorem maxStart_le_iff {b : Rat} :
    a.maxStart ≤ b ↔ 0 ≤ b ∧ ∀ l ∈ a.lanes, l.start ≤ b := by
  have hfrom : ∀ (ls : List (Lane Rat)) (m : Rat),
      ls.foldl (fun m l => Quantity.max m l.start) m ≤ b ↔
        m ≤ b ∧ ∀ l ∈ ls, l.start ≤ b := by
    intro ls
    induction ls with
    | nil => simp
    | cons l ls ih =>
        intro m
        rw [List.foldl_cons, ih, Quantity.max_rat, max_le_iff, and_assoc,
          List.forall_mem_cons]
  rw [maxStart, hfrom, Quantity.zero_rat]

theorem maxStart_nonneg (a : LaneAssignment Rat) : 0 ≤ a.maxStart :=
  (maxStart_le_iff.1 le_rfl).1

theorem start_le_maxStart {l : Lane Rat} (hl : l ∈ a.lanes) :
    l.start ≤ a.maxStart := (maxStart_le_iff.1 le_rfl).2 l hl

end LaneAssignment

/-! ## Sound splits -/

/-- A link is split soundly: it has lanes, what remains before the split is no
less than nothing, and up to a tolerance the lanes have the flow of the link and
bring no more storage than they take. -/
structure Link.SplitsSoundly (link : Link Rat) (a : LaneAssignment Rat)
    (f : Factors Rat) (c : LinkCapacity Rat) : Prop where
  lanes_pos : 0 < link.lanes
  trunk_length_nonneg : 0 ≤ c.trunk.length
  trunk_storage_nonneg : 0 ≤ c.trunk.storage
  flow_close : |c.laneFlow - c.flow| ≤ c.flow * 1e-9 / link.lanes
  space_le : (∀ l ∈ a.lanes, 0 ≤ l.representedLanes) →
    c.space - (link.allocate none f).space ≤
      a.maxStart * 1e-9 * f.storage / f.cellSize

/-- The measures of a network are such as roads have. -/
structure Network.Measured (n : Network Rat) : Prop where
  length_nonneg : ∀ l ∈ n.links, 0 ≤ l.length
  capacity_nonneg : ∀ l ∈ n.links, 0 ≤ l.capacity
  period_pos : ∀ l ∈ n.links, 0 < l.capacityPeriod
  cellSize_pos : 0 < n.cellSize

namespace Link

variable (link : Link Rat) (a : LaneAssignment Rat) (f : Factors Rat)

/-- The lanes have the share of the flow that they stand for. -/
theorem laneFlow_allocate :
    (link.allocate (some a) f).laneFlow =
      (link.allocate (some a) f).flow / link.lanes * a.representedLanes := by
  have hflows : (link.allocate (some a) f).lanes.map (·.segment.flow) =
      a.lanes.map fun l =>
        (link.allocate (some a) f).flow / link.lanes * l.representedLanes := by
    rw [allocate, List.map_map]
    rfl
  rw [LinkCapacity.laneFlow, hflows, Quantity.sum_rat, List.sum_map_mul_left,
    LaneAssignment.representedLanes, Quantity.sum_rat]

/-- Storage is lane metres, scaled. -/
theorem space_allocate :
    (link.allocate (some a) f).space =
      ((link.length - a.maxStart) * link.lanes +
        (a.lanes.map fun l => l.start * l.representedLanes).sum) *
          (f.storage / f.cellSize) := by
  have hstorage : ∀ x y : Rat,
      f.storageCapacity x y = x * y * (f.storage / f.cellSize) :=
    fun x y => mul_div_assoc (x * y) f.storage f.cellSize
  have hlanes : (link.allocate (some a) f).lanes.map (·.segment.storage) =
      a.lanes.map fun l =>
        l.start * l.representedLanes * (f.storage / f.cellSize) := by
    simp only [← hstorage]
    rw [allocate, List.map_map]
    rfl
  have hspace : (link.allocate (some a) f).space =
      f.storageCapacity (link.length - a.maxStart) link.lanes +
        Quantity.sum ((link.allocate (some a) f).lanes.map (·.segment.storage)) :=
    rfl
  rw [hspace, hlanes, Quantity.sum_rat, List.sum_map_mul_right, hstorage, add_mul]

theorem space_allocate_none :
    (link.allocate none f).space =
      link.length * link.lanes * (f.storage / f.cellSize) :=
  mul_div_assoc (link.length * link.lanes) f.storage f.cellSize

end Link

namespace LaneAssignment

variable {a : LaneAssignment Rat} {link : Link Rat} {f : Factors Rat}

/-- Lanes take up no more lane metres than they would if all of them reached
back as far as the farthest. -/
theorem laneMetres_le (h : ∀ l ∈ a.lanes, 0 ≤ l.representedLanes) :
    (a.lanes.map fun l => l.start * l.representedLanes).sum ≤
      a.maxStart * a.representedLanes := by
  rw [representedLanes, Quantity.sum_rat, ← List.sum_map_mul_left]
  refine List.sum_le_sum fun l hl => ?_
  exact mul_le_mul_of_nonneg_right (start_le_maxStart hl) (h l hl)

theorem Fits.maxStart_le (h : a.Fits link) (hlength : 0 ≤ link.length) :
    a.maxStart ≤ link.length := maxStart_le_iff.2 ⟨hlength, h.start_le⟩

/-- Lanes that fit have the flow of their link. -/
theorem Fits.flow_close (h : a.Fits link)
    (hflow : 0 ≤ (link.allocate (some a) f).flow) :
    |(link.allocate (some a) f).laneFlow - (link.allocate (some a) f).flow| ≤
      (link.allocate (some a) f).flow * 1e-9 / link.lanes := by
  rw [link.laneFlow_allocate a f]
  generalize (link.allocate (some a) f).flow = flow at hflow ⊢
  have hshare : 0 ≤ flow / link.lanes := div_nonneg hflow h.lanes_pos.le
  calc
    |flow / link.lanes * a.representedLanes - flow|
        = |flow / link.lanes * (a.representedLanes - link.lanes)| := by
      rw [mul_sub, div_mul_cancel₀ flow h.lanes_pos.ne']
    _ = flow / link.lanes * |a.representedLanes - link.lanes| := by
      rw [abs_mul, abs_of_nonneg hshare]
    _ ≤ flow / link.lanes * 1e-9 := mul_le_mul_of_nonneg_left h.count_close hshare
    _ = flow * 1e-9 / link.lanes := by rw [div_mul_eq_mul_div]

/-- Lanes that fit bring no more storage than they take, if none of them stands
for less than no lane. -/
theorem Fits.space_le (h : a.Fits link) (hscale : 0 ≤ f.storage / f.cellSize)
    (hlanes : ∀ l ∈ a.lanes, 0 ≤ l.representedLanes) :
    (link.allocate (some a) f).space - (link.allocate none f).space ≤
      a.maxStart * 1e-9 * f.storage / f.cellSize := by
  have hcount : a.representedLanes - link.lanes ≤ 1e-9 :=
    (le_abs_self _).trans h.count_close
  have hmetres := laneMetres_le hlanes
  rw [link.space_allocate a f, link.space_allocate_none f, ← sub_mul,
    mul_div_assoc]
  refine mul_le_mul_of_nonneg_right ?_ hscale
  calc
    (link.length - a.maxStart) * link.lanes +
        (a.lanes.map fun l => l.start * l.representedLanes).sum -
          link.length * link.lanes
      ≤ (link.length - a.maxStart) * link.lanes +
          a.maxStart * a.representedLanes - link.length * link.lanes := by
        linarith
    _ = a.maxStart * (a.representedLanes - link.lanes) := by ring
    _ ≤ a.maxStart * 1e-9 := mul_le_mul_of_nonneg_left hcount a.maxStart_nonneg

/-- Lanes that fit split their link soundly. -/
theorem Fits.splitsSoundly (h : a.Fits link) (hlength : 0 ≤ link.length)
    (hflow : 0 ≤ f.flowCapacity link.capacity link.capacityPeriod)
    (hstorage : 0 ≤ f.storage) (hcell : 0 < f.cellSize) :
    link.SplitsSoundly a f (link.allocate (some a) f) where
  lanes_pos := h.lanes_pos
  trunk_length_nonneg := sub_nonneg.2 (h.maxStart_le hlength)
  trunk_storage_nonneg := by
    have hmetres := mul_nonneg (sub_nonneg.2 (h.maxStart_le hlength)) h.lanes_pos.le
    exact div_nonneg (mul_nonneg hmetres hstorage) hcell.le
  flow_close := h.flow_close (by rwa [Link.allocate_flow])
  space_le := h.space_le (div_nonneg hstorage hcell.le)

end LaneAssignment

/-! ## Tables of the strict mode -/

namespace CapacityTable

variable {n : Network Rat} {r : LaneRegistry Rat} {a : LaneAssignment Rat}
  {link : Link Rat}

/-- If nothing is found about a registry, the lanes of each link of the network
fit it. -/
theorem fits_of_findings_eq_nil (hkeyed : n.Keyed) (hfound : r.findings n = [])
    (hlink : link ∈ n.links) (ha : r.get? link.id = some a)
    (hlanes : a.lanes ≠ []) : a.Fits link := by
  rw [LaneRegistry.get?] at ha
  have hmem : a ∈ r.assignments := List.mem_of_find?_eq_some ha
  have hsame : a.link.same link.id = true := by simpa using List.find?_some ha
  have hof : n.link? a.link = some link :=
    hkeyed.link?_eq_some_iff.2 ⟨hlink, by rwa [Id.same_comm]⟩
  have hnone := LaneRegistry.findings_eq_nil_iff.1 hfound a hmem
  rw [LaneRegistry.findingsOf, hof] at hnone
  exact (LaneAssignment.findings_eq_nil_iff hlanes).1 hnone

/-- In the strict mode nothing is found about the lanes of a table. -/
theorem findings_eq_nil_of_strict {config : Config Rat} {t : CapacityTable Rat}
    (huse : config.laneUse.use = true)
    (hstrict : config.laneUse.validation = .strict)
    (ht : compute n (some r) config = .ok t) : r.findings n = [] := by
  obtain ⟨hobjections, -⟩ := compute_eq_ok_iff.1 ht
  have hused : lanesInUse (some r) config = some r :=
    Option.filter_some_pos huse
  rwa [objections, hused, hstrict] at hobjections

/-- Only a link with lanes at its end is split. -/
theorem lanes_ne_nil_of_hasLanes {f : Factors Rat}
    (h : (link.allocate (some a) f).hasLanes = true) : a.lanes ≠ [] := by
  intro hnil
  simp [Link.allocate, LinkCapacity.hasLanes, hnil] at h

/-- **The strict mode lets only sound splits pass.**  Let a network of roads be
built by any requests, and let its capacities be computed with lanes that are
used and checked in the strict mode, by scales that are not negative.  If there
is a table, it has each link of the network, and each link that it splits is
split soundly by its lanes. -/
theorem splitsSoundly_of_strict (requests : List (NetworkRequest Rat))
    (lanes : Option (LaneRegistry Rat)) (config : Config Rat)
    (t : CapacityTable Rat) (hroads : (Network.built requests).Measured)
    (huse : config.laneUse.use = true)
    (hstrict : config.laneUse.validation = .strict)
    (hflow : 0 ≤ config.simulation.flow)
    (hstorage : 0 ≤ config.simulation.storage)
    (ht : compute (.built requests) lanes config = .ok t) :
    ∀ link ∈ (Network.built requests).links, ∃ c, t.get? link.id = some c ∧
      (c.hasLanes = true → ∃ a, lanes.bind (·.get? link.id) = some a ∧
        link.SplitsSoundly a
          (.ofScaling config.simulation (Network.built requests).cellSize) c) := by
  intro link hlink
  have hkeyed : (Network.built requests).Keyed :=
    Network.keyed_run Network.keyed_empty requests
  have hfound : (Network.built requests).link? link.id = some link :=
    hkeyed.link?_eq_some_iff.2 ⟨hlink, link.id.same_self⟩
  obtain ⟨-, rfl⟩ := compute_eq_ok_iff.1 ht
  have hfor : lanesFor lanes config link.id = lanes.bind (·.get? link.id) :=
    if_pos huse
  refine ⟨_, by rw [get?_allocate, hfound, Option.map_some, hfor], fun hsplit => ?_⟩
  cases hlanes : lanes.bind (·.get? link.id) with
  | none => simp [hlanes, Link.allocate, LinkCapacity.hasLanes] at hsplit
  | some a =>
      obtain ⟨r, rfl, ha⟩ := Option.bind_eq_some_iff.1 hlanes
      rw [hlanes] at hsplit
      have hfits : a.Fits link := fits_of_findings_eq_nil hkeyed
        (findings_eq_nil_of_strict huse hstrict ht) hlink ha
        (lanes_ne_nil_of_hasLanes hsplit)
      have hlinkFlow := div_nonneg
        (mul_nonneg (hroads.capacity_nonneg link hlink) hflow)
        (hroads.period_pos link hlink).le
      exact ⟨a, rfl, hfits.splitsSoundly (hroads.length_nonneg link hlink)
        hlinkFlow hstorage hroads.cellSize_pos⟩

/-- The road of the ring. -/
def ringRoad : Link Rat :=
  ⟨⟨0, "ring"⟩, ⟨0, "a"⟩, ⟨0, "a"⟩, 100, 3600, 10, 2, 3600⟩

/-- It splits into a lane all the way and a shorter one, which stands for a
billionth more than a lane. -/
def ringLanes : LaneRegistry Rat :=
  ⟨[{ link := ringRoad.id
      lanes :=
        [{ id := ⟨0, "long"⟩, start := 100 },
          { id := ⟨1, "short"⟩, start := 40, represented := some (1 + 1e-9) }] }]⟩

/-- The strict mode lets the lanes of the ring pass, and they are sound: nothing
remains of the road before the split, and the lanes have a little more flow than
the road. -/
theorem splitsSoundly_of_strict_ring :
    (Network.built ring).Measured ∧ ringRoad ∈ (Network.built ring).links ∧
    strictly.laneUse.use = true ∧ strictly.laneUse.validation = .strict ∧
    0 ≤ strictly.simulation.flow ∧ 0 ≤ strictly.simulation.storage ∧
    ∃ t c a, compute (.built ring) (some ringLanes) strictly = .ok t ∧
      t.get? ringRoad.id = some c ∧ c.hasLanes = true ∧ c.trunk.length = 0 ∧
      c.laneFlow - c.flow = 1 / 2 * 1e-9 ∧
      ringRoad.SplitsSoundly a
        (.ofScaling strictly.simulation (Network.built ring).cellSize) c := by
  have hroads : (Network.built ring).Measured :=
    ⟨by decide +kernel, by decide +kernel, by decide +kernel, by decide +kernel⟩
  have hroad : ringRoad ∈ (Network.built ring).links := by decide +kernel
  have huse : strictly.laneUse.use = true := by decide
  have hstrict : strictly.laneUse.validation = .strict := by decide
  have hflow : 0 ≤ strictly.simulation.flow := by decide +kernel
  have hstorage : 0 ≤ strictly.simulation.storage := by decide +kernel
  have ht : compute (.built ring) (some ringLanes) strictly =
      .ok (allocate (.built ring) (some ringLanes) strictly) :=
    compute_eq_ok (by decide +kernel)
  obtain ⟨c, hc, hsound⟩ := splitsSoundly_of_strict ring (some ringLanes)
    strictly _ hroads huse hstrict hflow hstorage ht ringRoad hroad
  have hentry : ((allocate (.built ring) (some ringLanes) strictly).get?
      ringRoad.id).map (fun c => (c.hasLanes, c.trunk.length, c.laneFlow - c.flow)) =
        some (true, 0, 1 / 2 * 1e-9) := by decide +kernel
  rw [hc, Option.map_some, Option.some.injEq, Prod.mk.injEq, Prod.mk.injEq]
    at hentry
  obtain ⟨hsplit, hlength, hexcess⟩ := hentry
  obtain ⟨a, -, ha⟩ := hsound hsplit
  exact ⟨hroads, hroad, huse, hstrict, hflow, hstorage, _, c, a, ht, hc, hsplit,
    hlength, hexcess, ha⟩

end CapacityTable

end LaneFlow
