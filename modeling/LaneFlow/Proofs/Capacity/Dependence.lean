import Mathlib.Data.List.Forall2
import Mathlib.Data.Option.Basic
import LaneFlow.Proofs.Capacity.Tabulation

/-!
# What capacities depend on

Much of what is known about a link or a lane is advisory: the nodes and the
speed of a link, the capacity that a lane declares, where the lane leads, the
declaration of the trunk.  No capacity depends on it.  Nor does it matter in
which order lanes were added and what lanes other links have.

Two runs are compared.  `SameRoad` and `SameShares` say in what two links and
two lists of lanes have to agree; whatever else they hold may differ.  Then the
links are allocated the same, and so are the networks.

## Main results

* `Link.SameRoad.allocate_eq` — the same for links that agree and their lanes.
* `CapacityTable.allocate_eq_of_sameRoads` — the same for networks.
* `CapacityTable.advisory_data_ignored` — unless findings may stop one of the
  computations, both give the same table.
-/

namespace LaneFlow

variable {α : Type}

/-! ## Lanes and links that look the same -/

/-- Two links with the same id, length, capacity per period and lanes. -/
structure Link.SameRoad (link other : Link α) : Prop where
  id : link.id = other.id
  length : link.length = other.length
  capacity : link.capacity = other.capacity
  lanes : link.lanes = other.lanes
  capacityPeriod : link.capacityPeriod = other.capacityPeriod

/-- Two networks with the same cell size and, in their order, the same links. -/
structure Network.SameRoads (n m : Network α) : Prop where
  cellSize : n.cellSize = m.cellSize
  links : List.Forall₂ Link.SameRoad n.links m.links

variable [Quantity α]

/-- Two lanes with the same id and start, which stand for as many lanes of the
road. -/
structure Lane.SameShare (lane other : Lane α) : Prop where
  id : lane.id = other.id
  start : lane.start = other.start
  represented : lane.representedLanes = other.representedLanes

/-- Two assignments with, in their order, the same lanes. -/
def LaneAssignment.SameShares (a b : LaneAssignment α) : Prop :=
  List.Forall₂ Lane.SameShare a.lanes b.lanes

/-! ## What is allocated to them -/

theorem Lane.SameShare.allocate_eq {lane other : Lane α}
    (h : lane.SameShare other) (flow lanes : α) (f : Factors α) :
    lane.allocate flow lanes f = other.allocate flow lanes f := by
  simp only [Lane.allocate, h.id, h.start, h.represented]

namespace LaneAssignment.SameShares

variable {a b : LaneAssignment α}

theorem maxStart_eq (h : a.SameShares b) : a.maxStart = b.maxStart := by
  have hfrom : ∀ (ls ks : List (Lane α)), List.Forall₂ Lane.SameShare ls ks →
      ∀ x : α, ls.foldl (fun m l => Quantity.max m l.start) x =
        ks.foldl (fun m l => Quantity.max m l.start) x := by
    intro ls ks hsame
    induction hsame with
    | nil => exact fun _ => rfl
    | cons hlane _ ih =>
        intro x
        rw [List.foldl_cons, List.foldl_cons, hlane.start]
        exact ih _
  exact hfrom _ _ h _

theorem map_allocate_eq (h : a.SameShares b) (flow lanes : α) (f : Factors α) :
    a.lanes.map (·.allocate flow lanes f) =
      b.lanes.map (·.allocate flow lanes f) := by
  rw [← List.forall₂_eq_eq_eq, List.forall₂_map_left_iff,
    List.forall₂_map_right_iff]
  exact h.imp fun _ _ hlane => hlane.allocate_eq flow lanes f

end LaneAssignment.SameShares

/-- Links that agree, with lanes that agree, are allocated the same. -/
theorem Link.SameRoad.allocate_eq {link other : Link α}
    (h : link.SameRoad other) {a b : Option (LaneAssignment α)}
    (hab : Option.Rel LaneAssignment.SameShares a b) (f : Factors α) :
    link.allocate a f = other.allocate b f := by
  have htrunk : ∀ length : α,
      link.trunkSegment length f = other.trunkSegment length f := by
    intro length
    simp only [Link.trunkSegment, h.capacity, h.lanes, h.capacityPeriod]
  cases hab with
  | none =>
      simp only [Link.allocate, h.id, h.length, h.capacity, h.capacityPeriod,
        htrunk]
  | some hlanes =>
      simp only [Link.allocate, h.id, h.length, h.capacity, h.capacityPeriod,
        h.lanes, htrunk, hlanes.maxStart_eq, hlanes.map_allocate_eq]

namespace CapacityTable

variable {n m : Network α} {lanes other : Option (LaneRegistry α)}
  {config : Config α}

/-- Lanes that agree link by link do so where they count. -/
theorem rel_lanesFor {link : Id .link}
    (h : Option.Rel LaneAssignment.SameShares (lanes.bind (·.get? link))
      (other.bind (·.get? link))) :
    Option.Rel LaneAssignment.SameShares (lanesFor lanes config link)
      (lanesFor other config link) := by
  unfold lanesFor
  split
  · exact h
  · exact .none

/-- Networks that agree, with lanes that agree on their links, are allocated
the same. -/
theorem allocate_eq_of_sameRoads (h : n.SameRoads m)
    (hlanes : ∀ link ∈ n.links, Option.Rel LaneAssignment.SameShares
      (lanes.bind (·.get? link.id)) (other.bind (·.get? link.id))) :
    allocate n lanes config = allocate m other config := by
  rw [CapacityTable.mk.injEq, entries_allocate, entries_allocate, ← h.cellSize,
    ← List.forall₂_eq_eq_eq, List.forall₂_map_left_iff,
    List.forall₂_map_right_iff]
  have hboth := (List.forall₂_and_left _ _).2 ⟨hlanes, h.links⟩
  refine hboth.imp fun link road hlink => ?_
  obtain ⟨hrel, hroad⟩ := hlink
  rw [← hroad.id]
  exact hroad.allocate_eq (rel_lanesFor hrel) _

/-- **Advisory data never influences capacities.**  Let two networks agree in
their cell size and, link by link, in ids, lengths, capacities, periods and
lanes, and let their links have the same lanes, as far as ids, starts and
represented lanes go.  Unless lanes are checked in the strict mode, both get the
same table. -/
theorem advisory_data_ignored (hroads : n.SameRoads m)
    (hlanes : ∀ link ∈ n.links, Option.Rel LaneAssignment.SameShares
      (lanes.bind (·.get? link.id)) (other.bind (·.get? link.id)))
    (hmode : config.laneUse.validation ≠ .strict) :
    ∃ t, compute n lanes config = .ok t ∧ compute m other config = .ok t := by
  have hfree : ∀ (k : Network α) (r : Option (LaneRegistry α)),
      compute k r config = .ok (allocate k r config) := by
    intro k r
    refine compute_of_not_blocked ?_
    rintro ⟨_, _, _, _, hstrict, _⟩
    exact hmode hstrict
  refine ⟨allocate n lanes config, hfree n lanes, ?_⟩
  rw [hfree m other, allocate_eq_of_sameRoads hroads hlanes]

/-! ## A ring road, told twice -/

/-- The ring road with two ends and another speed. -/
def retoldRing : List (NetworkRequest Rat) :=
  [.addNode { id := ⟨1, "b"⟩, x := 5, y := 0 },
    .addNode { id := ⟨2, "c"⟩, x := 0, y := 5 },
    .createLink ⟨0, "ring"⟩ ⟨1, "b"⟩ ⟨2, "c"⟩ 100 3600 1 2]

/-- Two lanes of the ring road. -/
def plainRingLanes : LaneAssignment Rat where
  link := ⟨0, "ring"⟩
  lanes := [{ id := ⟨1, "left"⟩, start := 40 }, { id := ⟨2, "right"⟩, start := 20 }]

/-- The same lanes with a good deal more said about them. -/
def retoldRingLanes : LaneAssignment Rat where
  link := ⟨0, "ring"⟩
  trunk := some { id := ⟨0, "trunk"⟩, start := 100 }
  lanes :=
    [{ id := ⟨1, "left"⟩, start := 40, represented := some 1,
        toLinks := [⟨0, "ring"⟩] },
      { id := ⟨2, "right"⟩, start := 20, capacity := some 5 }]

/-- With lanes of a link that is not there, added first, and all that is said
besides, the table of the ring road stays the same. -/
theorem advisory_data_ignored_ring :
    (Network.built ring).SameRoads (Network.built retoldRing) ∧
    ∃ t, compute (Network.built ring) (some ⟨[plainRingLanes]⟩) {} = .ok t ∧
      compute (Network.built retoldRing)
        (some ⟨[{ link := ⟨1, "yz"⟩ }, retoldRingLanes]⟩) {} = .ok t := by
  have hroads : (Network.built ring).SameRoads (Network.built retoldRing) :=
    ⟨rfl, .cons ⟨rfl, rfl, rfl, rfl, rfl⟩ .nil⟩
  have hshares : plainRingLanes.SameShares retoldRingLanes :=
    .cons ⟨rfl, rfl, by decide +kernel⟩ (.cons ⟨rfl, rfl, rfl⟩ .nil)
  refine ⟨hroads, advisory_data_ignored hroads ?_ (by decide)⟩
  intro link hlink
  have hid : link.id = ⟨0, "ring"⟩ := by
    revert link
    decide +kernel
  rw [hid]
  exact .some hshares

end CapacityTable

end LaneFlow
