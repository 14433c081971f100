import Mathlib
import LaneFlow.Proofs.Capacity.Splits

/-!
# What a split amounts to

The capacities of a split link are allocated segment by segment.  Taken
together they have a short form: the storage is that of the lane metres of the
link, without those that it loses before the split and with those of the lanes;
the flow is that of the link, and the lanes share it by what they stand for.

Lanes may start anywhere here, also behind the link or beyond its end.
What is lost is told by the largest of zero and all starts, so that a lane that
starts beyond the end of the link, at a negative distance, loses nothing.

A split at one point into lanes that stand for all lanes of the link changes
neither storage nor flow, and a split into no lanes is none.  All numbers are
exact here.

## Main results

* `LaneAssignment.isGreatest_maxStart` — where a split begins.
* `Link.space_eq_of_full_width`, `Link.laneFlow_eq_of_full_width` — a split that
  keeps the width of the link.
* `Link.allocate_of_lanes_nil` — a split into no lanes.
* `Link.split_in_closed_form` — storage and flow of any split.
-/

namespace LaneFlow

namespace LaneAssignment

variable {a : LaneAssignment Rat}

/-- A split begins at the end of the link or where some lane starts. -/
theorem maxStart_eq_zero_or (a : LaneAssignment Rat) :
    a.maxStart = 0 ∨ ∃ l ∈ a.lanes, l.start = a.maxStart := by
  have hfrom : ∀ (ls : List (Lane Rat)) (m : Rat),
      ls.foldl (fun m l => Quantity.max m l.start) m = m ∨
        ∃ l ∈ ls, l.start = ls.foldl (fun m l => Quantity.max m l.start) m := by
    intro ls
    induction ls with
    | nil => exact fun _ => .inl rfl
    | cons l ls ih =>
        intro m
        rw [List.foldl_cons]
        rcases ih (Quantity.max m l.start) with heq | ⟨k, hk, heq⟩
        · rw [heq, Quantity.max_rat]
          rcases max_choice m l.start with hm | hl
          · exact .inl hm
          · exact .inr ⟨l, List.mem_cons_self .., hl.symm⟩
        · exact .inr ⟨k, List.mem_cons_of_mem _ hk, heq⟩
  have h := hfrom a.lanes 0.0
  rw [Quantity.zero_rat] at h
  rw [maxStart, Quantity.zero_rat]
  exact h

/-- A split begins at the largest of zero and all starts of its lanes. -/
theorem isGreatest_maxStart (a : LaneAssignment Rat) :
    IsGreatest {x | x = 0 ∨ ∃ l ∈ a.lanes, l.start = x} a.maxStart := by
  refine ⟨a.maxStart_eq_zero_or, ?_⟩
  rintro x (rfl | ⟨l, hl, rfl⟩)
  · exact a.maxStart_nonneg
  · exact start_le_maxStart hl

/-- Lanes that all start at one point split the link there. -/
theorem maxStart_eq {start : Rat} (hnonneg : 0 ≤ start)
    (hlanes : a.lanes ≠ []) (hstart : ∀ l ∈ a.lanes, l.start = start) :
    a.maxStart = start := by
  obtain ⟨l, hl⟩ := List.exists_mem_of_ne_nil _ hlanes
  refine le_antisymm ?_ (hstart l hl ▸ start_le_maxStart hl)
  exact maxStart_le_iff.2 ⟨hnonneg, fun k hk => (hstart k hk).le⟩

theorem representedLanes_eq_sum (a : LaneAssignment Rat) :
    a.representedLanes = (a.lanes.map (·.representedLanes)).sum :=
  Quantity.sum_rat _

end LaneAssignment

namespace Link

variable (link : Link Rat) (a : LaneAssignment Rat) (f : Factors Rat)

/-- The storage of a split link is that of its segments. -/
theorem space_eq_segments :
    (link.allocate (some a) f).space =
      (link.allocate (some a) f).trunk.storage +
        ((link.allocate (some a) f).lanes.map (·.segment.storage)).sum := by
  rw [← Quantity.sum_rat]
  rfl

variable {link a}

/-- A split at one point that keeps the width of the link keeps its storage. -/
theorem space_eq_of_full_width {start : Rat} (hnonneg : 0 ≤ start)
    (hstart : ∀ l ∈ a.lanes, l.start = start)
    (hwidth : a.representedLanes = link.lanes) :
    (link.allocate (some a) f).space = (link.allocate none f).space := by
  have hmetres : (a.lanes.map fun l => l.start * l.representedLanes).sum =
      start * link.lanes := by
    rw [← hwidth, a.representedLanes_eq_sum, ← List.sum_map_mul_left]
    congr 1
    exact List.map_congr_left fun l hl => by rw [hstart l hl]
  rw [space_allocate, space_allocate_none, hmetres]
  by_cases hlanes : a.lanes = []
  · have hnone : link.lanes = 0 := by
      rw [← hwidth, a.representedLanes_eq_sum, hlanes, List.map_nil,
        List.sum_nil]
    rw [hnone]
    ring
  · rw [LaneAssignment.maxStart_eq hnonneg hlanes hstart]
    ring

/-- A split that keeps the width of the link keeps its flow. -/
theorem laneFlow_eq_of_full_width (hlanes : link.lanes ≠ 0)
    (hwidth : a.representedLanes = link.lanes) :
    (link.allocate (some a) f).laneFlow = (link.allocate none f).flow := by
  rw [laneFlow_allocate, hwidth, div_mul_cancel₀ _ hlanes, allocate_flow,
    allocate_flow]

/-- A split into no lanes is none. -/
theorem allocate_of_lanes_nil (h : a.lanes = []) :
    link.allocate (some a) f = link.allocate none f := by
  have hstart : a.maxStart = 0 := by
    rw [LaneAssignment.maxStart, h, List.foldl_nil, Quantity.zero_rat]
  simp only [allocate, hstart, h, sub_zero, List.map_nil, Quantity.sum_nil,
    Quantity.rat_sumStart, add_zero]

variable (link a)

/-- **What a split amounts to.**  Let a link have lanes, and split it into any
lanes at its end.  The split begins at the largest of zero and all starts.  The
storage of the link is that of its lane metres, without those behind this point
and with those of the lanes at the end; it is the storage of its trunk and of
its lanes together.  Flow and flow of the trunk are those of the unsplit link,
and the lanes have the share of it that they stand for.  So a split at one point
that keeps the width of the link keeps its storage and its flow, and a split
into no lanes keeps everything. -/
theorem split_in_closed_form (hlanes : link.lanes ≠ 0) :
    let split := link.allocate (some a) f
    let whole := link.allocate none f
    IsGreatest {x | x = 0 ∨ ∃ l ∈ a.lanes, l.start = x} a.maxStart ∧
    split.space = f.storage / f.cellSize *
      (link.length * link.lanes - a.maxStart * link.lanes +
        (a.lanes.map fun l => l.start * l.representedLanes).sum) ∧
    split.space =
      split.trunk.storage + (split.lanes.map (·.segment.storage)).sum ∧
    split.flow = whole.flow ∧ split.trunk.flow = whole.flow ∧
    split.laneFlow =
      split.flow * (a.lanes.map (·.representedLanes)).sum / link.lanes ∧
    (∀ start : Rat, 0 ≤ start → (∀ l ∈ a.lanes, l.start = start) →
      (a.lanes.map (·.representedLanes)).sum = link.lanes →
      split.space = whole.space ∧ split.laneFlow = whole.flow) ∧
    (a.lanes = [] → split = whole) := by
  refine ⟨a.isGreatest_maxStart, ?_, link.space_eq_segments a f,
    ?_, rfl, ?_, fun start hnonneg hstart hwidth => ?_,
    fun h => allocate_of_lanes_nil f h⟩
  · rw [space_allocate]
    ring
  · rw [allocate_flow, allocate_flow]
  · rw [laneFlow_allocate, a.representedLanes_eq_sum, div_mul_eq_mul_div]
  · rw [← a.representedLanes_eq_sum] at hwidth
    exact ⟨space_eq_of_full_width f hnonneg hstart hwidth,
      laneFlow_eq_of_full_width f hlanes hwidth⟩

/-- Two lanes that start 130 m from the end of the ring road, which is 100 m
long; one of them stands for a lane and a half. -/
def overlongLanes : LaneAssignment Rat where
  link := CapacityTable.ringRoad.id
  lanes :=
    [{ id := ⟨0, "narrow"⟩, start := 130, represented := some (1 / 2) },
      { id := ⟨1, "wide"⟩, start := 130, represented := some (3 / 2) }]

/-- The trunk of the overlong split is shorter than nothing, and yet the road
keeps its storage and its flow. -/
theorem split_in_closed_form_overlong :
    CapacityTable.ringRoad.lanes ≠ 0 ∧
    (CapacityTable.ringRoad.allocate (some overlongLanes) ⟨1, 1, 10⟩).trunk.length =
      -30 ∧
    (CapacityTable.ringRoad.allocate (some overlongLanes) ⟨1, 1, 10⟩).space = 20 ∧
    (CapacityTable.ringRoad.allocate (some overlongLanes) ⟨1, 1, 10⟩).laneFlow =
      1 := by
  have hlanes : CapacityTable.ringRoad.lanes ≠ 0 := by decide +kernel
  obtain ⟨-, -, -, -, -, -, hkept, -⟩ :=
    split_in_closed_form CapacityTable.ringRoad overlongLanes ⟨1, 1, 10⟩ hlanes
  obtain ⟨hspace, hflow⟩ := hkept 130 (by decide +kernel) (by decide +kernel)
    (by decide +kernel)
  refine ⟨hlanes, by decide +kernel, hspace.trans ?_, hflow.trans ?_⟩
  · decide +kernel
  · decide +kernel

end Link

end LaneFlow
