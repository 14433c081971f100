import LaneFlow.Capacity.Table
import LaneFlow.Proofs.Road.Wiring

/-!
# A table is the allocation, link by link

The table of a network has one entry for each link, in the order of the links,
and the entry is what the link is allocated with the lanes that count.

Whether lanes fit their links decides only whether there is a table, and in the
strict mode alone.  What is in it is the same in all modes.

## Main results

* `compute_eq_error_iff` — why there is no table.
* `entries_allocate`, `get?_allocate` — what is in a table.
* `outcome_report` — what is reported on the way changes nothing.
* `report_congr` — what of a configuration matters.
-/

namespace LaneFlow.CapacityTable

variable {α : Type} [Quantity α]

/-- Some findings stand against a table: lanes are given and used, they are
checked in the strict mode, and this is all that is found about them. -/
def Blocked (n : Network α) (lanes : Option (LaneRegistry α))
    (config : Config α) (found : List (Finding α)) : Prop :=
  ∃ r, lanes = some r ∧ config.laneUse.use = true ∧
    config.laneUse.validation = .strict ∧ r.findings n = found ∧ found ≠ []

/-- The lanes of a link that count under a configuration. -/
def lanesFor (lanes : Option (LaneRegistry α)) (config : Config α)
    (link : Id .link) : Option (LaneAssignment α) :=
  if config.laneUse.use then lanes.bind (·.get? link) else none

variable {n : Network α} {lanes : Option (LaneRegistry α)} {config : Config α}

/-! ## Whether there is a table -/

/-- The findings that stand against a table are its objections, if there are
any. -/
theorem blocked_iff {found : List (Finding α)} :
    Blocked n lanes config found ↔
      objections n lanes config = found ∧ found ≠ [] := by
  unfold Blocked objections lanesInUse
  cases lanes with
  | none => simp
  | some r =>
      cases config.laneUse.use with
      | false => simp
      | true =>
          cases config.laneUse.validation with
          | ignore => simp
          | warn => simp
          | strict => simp [Option.filter_some]

/-- There is no table if and only if findings stand against it. -/
theorem compute_eq_error_iff {found : List (Finding α)} :
    compute n lanes config = .error found ↔ Blocked n lanes config found := by
  rw [blocked_iff, compute]
  cases hobj : objections n lanes config with
  | nil =>
      simp only [reduceCtorEq, false_iff]
      exact fun h => h.2 h.1.symm
  | cons x xs =>
      constructor
      · rintro ⟨⟩
        exact ⟨rfl, List.cons_ne_nil _ _⟩
      · rintro ⟨rfl, -⟩
        rfl

theorem compute_eq_ok_iff {t : CapacityTable α} :
    compute n lanes config = .ok t ↔
      objections n lanes config = [] ∧ allocate n lanes config = t := by
  rw [compute]
  cases objections n lanes config with
  | nil => simp
  | cons x xs => simp

/-- Unless findings stand against it there is a table, and it is the
allocation. -/
theorem compute_of_not_blocked
    (h : ¬ ∃ found, Blocked n lanes config found) :
    compute n lanes config = .ok (allocate n lanes config) := by
  refine compute_eq_ok (by_contra fun hobj => h ?_)
  exact ⟨objections n lanes config, blocked_iff.2 ⟨rfl, hobj⟩⟩

/-! ## What is in it -/

omit [Quantity α] in
theorem lanesInUse_bind (link : Id .link) :
    (lanesInUse lanes config).bind
    (·.get? link) = lanesFor lanes config link := by
  unfold lanesInUse lanesFor
  cases lanes <;> cases config.laneUse.use <;> rfl

theorem entries_allocate : (allocate n lanes config).entries =
    n.links.map fun link => link.allocate (lanesFor lanes config link.id)
      (.ofScaling config.simulation n.cellSize) := by
  simp only [allocate, lanesInUse_bind]

/-- The entry under an id is that of the link with the id. -/
theorem get?_allocate (id : Id .link) :
    (allocate n lanes config).get? id = (n.link? id).map fun link =>
      link.allocate (lanesFor lanes config link.id)
        (.ofScaling config.simulation n.cellSize) := by
  rw [get?, entries_allocate, List.find?_map]
  simp only [Function.comp_def, Link.allocate_link]
  rfl

/-- A ring road at one node. -/
def ring : List (NetworkRequest Rat) :=
  [.addNode { id := ⟨0, "a"⟩, x := 0, y := 0 },
    .createLink ⟨0, "ring"⟩ ⟨0, "a"⟩ ⟨0, "a"⟩ 100 3600 10 2]

/-- Lanes are checked in the strict mode. -/
def strictly : Config Rat := Config.putLaneUse {} { validation := .strict }

example :
    ((allocate (.built ring) none strictly).get? ⟨0, "ring"⟩).map (·.flow) =
      some 1 := by
  decide +kernel

/-- Two configurations that use the same lanes and the same scales allocate the
same. -/
theorem allocate_congr {other : Config α}
    (huse : other.laneUse.use = config.laneUse.use)
    (hscales : other.simulation = config.simulation) :
    allocate n lanes other = allocate n lanes config := by
  simp only [allocate, lanesInUse, huse, hscales]

/-! ## What is reported -/

/-- The outcome of a computation with its reports is that of the computation. -/
theorem outcome_report (network : Network Float)
    (lanes : Option (LaneRegistry Float)) (config : Config Float) :
    (report network lanes config).outcome = compute network lanes config := by
  unfold report
  cases compute network lanes config <;> rfl

/-- Only the use of lanes and the scales matter to a computation with its
reports. -/
theorem report_congr {config other : Config Float}
    (huse : other.laneUse = config.laneUse)
    (hscales : other.simulation = config.simulation) (network : Network Float)
    (lanes : Option (LaneRegistry Float)) :
    report network lanes other = report network lanes config := by
  simp only [report, warnings, compute, objections, allocate, lanesInUse, huse,
    hscales]

end LaneFlow.CapacityTable
