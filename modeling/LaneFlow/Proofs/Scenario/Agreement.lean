import LaneFlow.Proofs.Scenario.IndexedLoading

/-!
# Capacities do not depend on ids

A network and a registry that hold what their files say (`NetworkFile.Loaded`,
`LaneFile.Held`) give the capacities and the findings that the files give by
name.  Only the order of findings is a matter of ids: lanes are checked in the
order of the numbers of their links, and these depend on what the store has
given before.

## Main results

* `named_allocate` — the capacities of a link, by name.
* `LaneFile.Held.map_findings` — the findings about the lanes of a network, by
  name and up to their order.
* `sameOutcome_capacitiesByName` — two files and a configuration have the
  outcome that `capacitiesByName` says, for every store of distinct texts.
* `capacities_by_name` — the same after any creations, so that no two pasts
  make a difference.
-/

namespace LaneFlow

open NetworkFile (linkRecord)
open LaneFile (endRecord)

variable {α : Type} [Quantity α]

/-! ## Configurations -/

theorem Config.simulation_eq (c : Config α) :
    c.simulation = ⟨c.flowScale, c.storageScale⟩ := by
  unfold Config.simulation Config.flowScale Config.storageScale Config.find?
  cases c.modules.lookup "simulation" with
  | none => rfl
  | some m => cases m <;> rfl

omit [Quantity α] in
theorem Config.takesLanes_eq (c : Config α) :
    c.takesLanes = c.laneUse.use := by
  unfold Config.takesLanes Config.laneUse Config.find?
  cases c.modules.lookup "lanes" with
  | none => rfl
  | some m => cases m <;> rfl

omit [Quantity α] in
theorem Config.isStrict_eq (c : Config α) :
    c.isStrict = decide (c.laneUse.validation = .strict) := by
  unfold Config.isStrict Config.laneUse Config.find?
  cases c.modules.lookup "lanes" with
  | none => rfl
  | some m => cases m <;> rfl

/-! ## One link -/

section OneLink

variable {link : Link α} {f : NetworkFile α}

/-- The flow of a link is told from its record. -/
theorem flow_linkRecord (hperiod : link.capacityPeriod = f.capacityPeriod)
    (config : Config α) :
    (Factors.ofScaling config.simulation f.cellSize).flowCapacity link.capacity
      link.capacityPeriod = (linkRecord link).flow f config := by
  rw [config.simulation_eq, hperiod]
  rfl

/-- So is the segment before its lanes. -/
theorem trunkSegment_linkRecord
    (hperiod : link.capacityPeriod = f.capacityPeriod) (config : Config α)
    (length : α) :
    link.trunkSegment length (.ofScaling config.simulation f.cellSize) =
      (linkRecord link).trunkSegment f config length := by
  rw [Link.trunkSegment, flow_linkRecord hperiod, config.simulation_eq]
  rfl

/-- A lane has its share of the flow of the link. -/
theorem named_allocateLane (lane : Lane α) (config : Config α) :
    (lane.allocate ((linkRecord link).flow f config) link.lanes
        (.ofScaling config.simulation f.cellSize)).named =
      lane.record.capacities (linkRecord link) f config := by
  rw [config.simulation_eq]
  rfl

/-- The capacities of a link are told from the records of the link and of the
lanes at its end. -/
theorem named_allocate (hperiod : link.capacityPeriod = f.capacityPeriod)
    (lanes : Option (LaneAssignment α)) (config : Config α) :
    (link.allocate lanes (.ofScaling config.simulation f.cellSize)).named =
      (linkRecord link).capacities f config
        (lanes.map fun a => (endRecord a).lanes) := by
  cases lanes with
  | none =>
      simp only [Link.allocate, flow_linkRecord hperiod,
        trunkSegment_linkRecord hperiod]
      rfl
  | some a =>
      have hstart : a.maxStart =
          (endRecord a).lanes.foldl
          (fun m l => Quantity.max m l.start) 0.0 := by
        rw [endRecord, List.foldl_map]
        rfl
      have hlanes : (a.lanes.map (·.allocate ((linkRecord link).flow f config)
          link.lanes (.ofScaling config.simulation f.cellSize))).map (·.named) =
            (endRecord a).lanes.map
              (·.capacities (linkRecord link) f config) := by
        rw [endRecord, List.map_map, List.map_map]
        exact List.map_congr_left fun lane _ => named_allocateLane lane config
      have hstorage : ∀ cs : List (LaneCapacity α),
          cs.map (·.segment.storage) =
            (cs.map (·.named)).map (·.segment.storage) := by
        intro cs
        rw [List.map_map]
        rfl
      simp only [Link.allocate, LinkCapacity.named, flow_linkRecord hperiod,
        trunkSegment_linkRecord hperiod, hstart, hlanes, hstorage]
      rfl

end OneLink

/-- So are the findings about them. -/
theorem named_findings (a : LaneAssignment α) (link : Link α) :
    (a.findings link).map (·.named) =
      (linkRecord link).findings (endRecord a).lanes := by
  have hempty : (endRecord a).lanes.isEmpty = a.lanes.isEmpty := by
    simp [endRecord]
  have hdeclared : a.representedLanes =
      Quantity.sum ((endRecord a).lanes.map (·.representedLanes)) := by
    rw [endRecord, List.map_map]
    rfl
  have hwidth : (a.widthFindings link).map (·.named) =
      if Quantity.le link.lanes 0.0 && !(endRecord a).lanes.isEmpty then
        [.noLinkLanes link.id.external link.lanes] else [] := by
    rw [LaneAssignment.widthFindings, hempty]
    split <;> rfl
  have hlengths : (a.lengthFindings link).map (·.named) =
      ((endRecord a).lanes.filter fun l => Quantity.lt link.length l.start).map
        fun l =>
          .laneExceedsLink link.id.external l.id l.start link.length := by
    rw [endRecord, List.filter_map, List.map_map, LaneAssignment.lengthFindings,
      List.map_map]
    rfl
  have hcount : (a.countFindings link).map (·.named) =
      if !(endRecord a).lanes.isEmpty &&
          Quantity.lt representedLanesTolerance
            (Quantity.abs (a.representedLanes - link.lanes)) then
        [.representedLanesMismatch link.id.external a.representedLanes
          link.lanes]
      else [] := by
    simp only [LaneAssignment.countFindings, hempty]
    split <;> rfl
  rw [LaneAssignment.findings, List.map_append, List.map_append, hwidth,
    hlengths, hcount, hdeclared]
  rfl

/-! ## All links -/

variable {f : NetworkFile α} {n : Network α} {s : IdStore}
  {registry : LaneRegistry α} {as : List (AssignmentRecord α)}

/-- What is found about the lanes of a link of some id is told from the records,
too. -/
theorem NetworkFile.Loaded.named_findingsOf (hn : f.Loaded n s)
    {a : LaneAssignment α} (ha : s.Knows a.link) :
    (LaneRegistry.findingsOf n a).map (·.named) =
      f.findingsOf (endRecord a).link (endRecord a).lanes := by
  have hlink : f.links.find? (·.id == (endRecord a).link) =
      (n.link? a.link).map linkRecord := (hn.map_link? ha).symm
  rw [LaneRegistry.findingsOf, NetworkFile.findingsOf, hlink]
  cases n.link? a.link with
  | none => rfl
  | some link => exact named_findings a link

/-- The findings about the lanes of a network are those about the lanes of the
file, in some order. -/
theorem LaneFile.Held.map_findings (h : LaneFile.Held registry as s)
    (hn : f.Loaded n s) :
    ((registry.findings n).map (·.named)).Perm
      (as.flatMap fun a => f.findingsOf a.link a.endLanes) := by
  have hends : registry.assignments.map endRecord =
      as.map fun a => ⟨a.link, a.endLanes⟩ := by
    have hsorted := congrArg (List.map fun l => (⟨l.link, l.lanes⟩ :
      AssignmentRecord α)) h.sorted
    rwa [List.map_map, List.map_map] at hsorted
  have horder : registry.inOrder.Perm registry.assignments :=
    List.mergeSort_perm _ _
  have hnamed : (registry.assignments.flatMap (LaneRegistry.findingsOf n)).map
      (·.named) = as.flatMap fun a => f.findingsOf a.link a.endLanes := by
    calc
      (registry.assignments.flatMap (LaneRegistry.findingsOf n)).map (·.named)
          = registry.assignments.flatMap fun a =>
              f.findingsOf (endRecord a).link (endRecord a).lanes := by
          rw [List.map_flatMap]
          exact List.flatMap_congr fun a ha =>
            hn.named_findingsOf (h.known a ha).link
      _ = (registry.assignments.map endRecord).flatMap fun a =>
            f.findingsOf a.link a.lanes := by
          rw [List.flatMap_map]
      _ = as.flatMap fun a => f.findingsOf a.link a.endLanes := by
          rw [hends, List.flatMap_map]
  rw [← hnamed]
  exact (horder.flatMap_right _).map _

section Compute

variable {lanes : Option (LaneFile α)} {read : Option (LaneRegistry α)}
  (hn : f.Loaded n s)
  (h : Option.Rel (fun r l => LaneFile.Held r l.assignments s) read lanes)
  (config : Config α)

include hn h

/-- What stands against computing capacities is told from the files. -/
theorem map_objections :
    ((CapacityTable.objections n read config).map (·.named)).Perm
      (f.objections lanes config) := by
  unfold CapacityTable.objections NetworkFile.objections
    CapacityTable.lanesInUse
  rw [config.takesLanes_eq, config.isStrict_eq]
  cases h with
  | none => exact .nil
  | some h =>
      cases config.laneUse.use with
      | false => exact .nil
      | true =>
          cases config.laneUse.validation with
          | ignore => exact .nil
          | warn => exact .nil
          | strict => exact h.map_findings hn

/-- So are the capacities of all links. -/
theorem map_allocate :
    (CapacityTable.allocate n read config).entries.map (·.named) =
      f.links.map fun r =>
        r.capacities f config (endLanesFor? lanes config r.id) := by
  rw [CapacityTable.entries_allocate, ← hn.links, List.map_map, List.map_map]
  refine List.map_congr_left fun link hlink => ?_
  have hlanes : (CapacityTable.lanesFor read config link.id).map
      (fun a => (endRecord a).lanes) =
      endLanesFor? lanes config link.id.external := by
    unfold CapacityTable.lanesFor endLanesFor?
    rw [config.takesLanes_eq]
    cases h with
    | none => cases config.laneUse.use <;> rfl
    | some h =>
        cases config.laneUse.use with
        | false => rfl
        | true => exact h.endLanes?_eq hn.distinct (hn.linksKnown link hlink)
  rw [Function.comp_apply, hn.cellSize, named_allocate (hn.periods link hlink),
    hlanes]
  rfl

/-- And so is what comes of computing them. -/
theorem sameOutcome_compute {m : IndexedNetwork α} (hm : m.Right)
    (hplain : m.plain = n) :
    SameOutcome
      (outcome ((IndexedTable.compute m read config).mapError
        (Halt.refusal .lanes)))
      (f.compute lanes config) := by
  have hperm := map_objections hn h config
  rw [IndexedTable.compute_eq hm, hplain, CapacityTable.compute,
    NetworkFile.compute]
  cases hfound : CapacityTable.objections n read config with
  | nil =>
      rw [hfound] at hperm
      rw [← hperm.nil_eq]
      refine .of_eq (congrArg Except.ok ?_)
      rw [IndexedTable.ofTable, Indexed.pushAll_items]
      exact map_allocate hn h config
  | cons x xs =>
      rw [hfound] at hperm
      cases hsaid : f.objections lanes config with
      | nil =>
          rw [hsaid] at hperm
          exact absurd hperm.length_eq (by simp)
      | cons y ys =>
          rw [hsaid] at hperm
          exact .found hperm

end Compute

/-! ## Two files and a configuration -/

omit [Quantity α] in
theorem mapError_eq_ok_iff {ε ε' β : Type} {x : Except ε β} {f : ε → ε'}
    {b : β} : x.mapError f = .ok b ↔ x = .ok b := by
  cases x <;> simp [Except.mapError]

section Files

variable {i : IndexedStore} (network : NetworkFile α)
  (lanes : Option (LaneFile α)) (config : Config α)

/-- Two files and a configuration have the outcome that is said by name, for
every store whose texts are distinct. -/
theorem sameOutcome_capacitiesByName (hi : IndexedLoading.Holds i s)
    (hnodes : (network.nodes.map (·.id)).Nodup)
    (hlinks : (network.links.map (·.id)).Nodup) :
    SameOutcome (outcome (capacitiesOf network lanes config i))
      (capacitiesByName network lanes config) := by
  have hnetwork :=
    NetworkFile.settles_toNetwork network hi.distinct hnodes hlinks
  have hread := IndexedLoading.follows_toNetwork hi network
  unfold capacitiesOf capacitiesByName
  cases hfault : network.fault? with
  | some fault =>
      rw [hfault] at hnetwork
      rw [hnetwork] at hread
      rw [hread.of_error]
      exact .refl _
  | none =>
      rw [hfault] at hnetwork
      obtain ⟨⟨_, t⟩, hok, hn⟩ := hnetwork
      rw [hok] at hread
      obtain ⟨⟨m, j⟩, hm, hright, rfl, hj⟩ := hread.of_ok
      have hlanes := LaneFile.settles_toLanes? lanes hn.knownLinks
      have hreadLanes := IndexedLoading.follows_toLanes? hright hj lanes
      rw [hn.linkNames_eq] at hlanes
      rw [hm, Option.none_or]
      cases hlaneFault : lanes.bind (·.fault? (network.links.map (·.id))) with
      | some fault =>
          rw [hlaneFault] at hlanes
          rw [hlanes] at hreadLanes
          simp only [Except.mapError, bind, Except.bind, hreadLanes.of_error]
          exact .refl _
      | none =>
          rw [hlaneFault] at hlanes
          obtain ⟨⟨_, u⟩, hokLanes, hheld, hgrows⟩ := hlanes
          rw [hokLanes] at hreadLanes
          obtain ⟨⟨registry, k⟩, hregistry, rfl, -⟩ := hreadLanes.of_ok
          simp only [Except.mapError, bind, Except.bind, hregistry]
          exact sameOutcome_compute (hn.mono hgrows) hheld config hright rfl

/-- Each entry of a table that comes of files is found under its id. -/
theorem get?_capacitiesOf (hi : IndexedLoading.Holds i s)
    {table : IndexedTable α}
    (htable : capacitiesOf network lanes config i = .ok table)
    {c : LinkCapacity α} (hc : c ∈ table.results.items) :
    table.get? c.link = some (some c) := by
  obtain ⟨⟨n, j⟩, hn, hrest⟩ := exists_of_bind_eq_ok htable
  obtain ⟨⟨registry, k⟩, -, hcompute⟩ := exists_of_bind_eq_ok hrest
  have hread := IndexedLoading.follows_toNetwork hi network
  rw [mapError_eq_ok_iff.1 hn] at hread
  obtain ⟨q, -, hloads⟩ := hread.exists_of_ok
  have hright : n.Right := hloads.right
  obtain ⟨t, ht, rfl⟩ := (IndexedTable.compute_eq_ok_iff hright).1
    (mapError_eq_ok_iff.1 hcompute)
  obtain ⟨-, rfl⟩ := CapacityTable.compute_eq_ok_iff.1 ht
  exact (IndexedTable.right_ofTable hright).get?_eq_some_iff.2
    ⟨hc, c.link.same_self⟩

end Files

/-- Whatever ids have been given before, two files and a configuration have the
outcome that is said by name, and each result is found under the id of its link;
so for any two pasts they have the same outcome. -/
theorem capacities_by_name (network : NetworkFile α)
    (lanes : Option (LaneFile α)) (config : Config α)
    (hnodes : (network.nodes.map (·.id)).Nodup)
    (hlinks : (network.links.map (·.id)).Nodup)
    (earlier : List (IdKind × String)) :
    SameOutcome (outcome (capacitiesOf network lanes config (.after earlier)))
        (capacitiesByName network lanes config) ∧
      (∀ table, capacitiesOf network lanes config (.after earlier) = .ok table →
        ∀ c ∈ table.results.items, table.get? c.link = some (some c)) ∧
      ∀ other : List (IdKind × String),
        SameOutcome
          (outcome (capacitiesOf network lanes config (.after earlier)))
          (outcome (capacitiesOf network lanes config (.after other))) := by
  have hagree := fun created : List (IdKind × String) =>
    sameOutcome_capacitiesByName network lanes config
      (IndexedLoading.holds_after created) hnodes hlinks
  refine ⟨hagree earlier, fun table htable c hc => ?_, fun other =>
    (hagree earlier).trans (hagree other).symm⟩
  exact get?_capacitiesOf network lanes config
    (IndexedLoading.holds_after earlier) htable hc

/-! ## A road that splits -/

/-- A road of two lanes to a crossing, and one that goes on from there. -/
def crossing : NetworkFile Rat :=
  { capacityPeriod := 3600
    cellSize := 10
    nodes := [⟨"a", 0, 0⟩, ⟨"b", 100, 0⟩, ⟨"c", 150, 0⟩]
    links :=
      [⟨"ab", "a", "b", 100, 3600, 10, 2⟩, ⟨"bc", "b", "c", 50, 1800, 10, 1⟩] }

/-- Before the crossing the road splits into two lanes, and there are lanes for
a road that is not there. -/
def crossingLanes : LaneFile Rat :=
  { assignments :=
      [{ link := "yz" },
        { link := "ab"
          lanes :=
            [{ id := "ab.ol", start := 100, toLanes := ["1", "2"] },
              { id := "1", start := 40, toLinks := ["bc"] },
              { id := "2", start := 30, toLinks := ["bc"] }] }] }

/-- Half of the flow and three tenths of the storage. -/
def crossingConfig : Config Rat := Config.putSimulation {} ⟨1 / 2, 3 / 10⟩

/-- Some of the names have been given to other things before, and the road that
is not there has an id. -/
theorem capacities_by_name_crossing :
    (crossing.nodes.map (·.id)).Nodup ∧ (crossing.links.map (·.id)).Nodup ∧
      outcome (capacitiesOf crossing (some crossingLanes) crossingConfig
          (.after [(.vehicle, "ab"), (.link, "bc"), (.link, "yz"),
            (.node, "ab"), (.lane, "2")])) =
        .ok
          [{ link := "ab", flow := 1 / 2, space := 57 / 10
             trunk := ⟨60, 2, 18 / 5, 1 / 2⟩
             lanes :=
               [⟨"1", ⟨40, 1, 6 / 5, 1 / 4⟩⟩, ⟨"2", ⟨30, 1, 9 / 10, 1 / 4⟩⟩] },
            { link := "bc", flow := 1 / 4, space := 3 / 2
              trunk := ⟨50, 1, 3 / 2, 1 / 4⟩, lanes := [] }] := by
  have hnodes : (crossing.nodes.map (·.id)).Nodup := by decide
  have hlinks : (crossing.links.map (·.id)).Nodup := by decide
  refine ⟨hnodes, hlinks, ?_⟩
  have hsame := (capacities_by_name crossing (some crossingLanes)
    crossingConfig hnodes hlinks [(.vehicle, "ab"), (.link, "bc"),
      (.link, "yz"), (.node, "ab"), (.lane, "2")]).1
  exact hsame.eq_ok (by decide +kernel)

end LaneFlow
