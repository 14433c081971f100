import LaneFlow.Proofs.Scenario.NetworkLoading

/-!
# Lanes hold what their file says

The lanes of a link in a file are told apart: one that leads to other lanes is
the trunk, and all others lead to the end of the link
(`AssignmentRecord.sorted`). Read back by their texts, the lanes of a registry
are the lanes of the file in this form, link by link in the order of the file,
and all their ids have been given by the store (`LaneFile.Held`).  Whether the
registry has lanes for a link is therefore a matter of the names that were read,
and so is whether a lane leads to a link of the network.

What is read of one lane may give new ids to other lanes of its link, which is
why the store grows on the way.

## Main results

* `settles_addLanes` — the lanes of a link are read up to the first that leads
  nowhere or is a second trunk.
* `Held.map_get?` — lanes are found under the name of their link.
* `settles_toLanes` — the lanes of a file, or why there are none.
-/

namespace LaneFlow

variable {α : Type} {s t : IdStore}

/-! ## Records of lanes -/

/-- The lanes of a link in a file, told apart. -/
structure SortedLanes (α : Type) where
  link : String
  trunk : Option (LaneRecord α) := none
  lanes : List (LaneRecord α) := []
deriving Repr, DecidableEq

/-- A lane in a file that leads to other lanes. -/
def LaneRecord.leadsToLanes (r : LaneRecord α) : Bool := !r.toLanes.isEmpty

/-- The lanes with some more, of which the first that leads to other lanes is
the trunk if there is none before. -/
def SortedLanes.add (sorted : SortedLanes α) (rs : List (LaneRecord α)) :
    SortedLanes α :=
  { sorted with
    trunk := sorted.trunk.or (rs.find? (·.leadsToLanes))
    lanes := sorted.lanes ++ rs.filter (·.toLanes.isEmpty) }

/-- The lanes of a record, told apart. -/
def AssignmentRecord.sorted (a : AssignmentRecord α) : SortedLanes α :=
  { link := a.link
    trunk := a.lanes.find? (·.leadsToLanes)
    lanes := a.endLanes }

theorem SortedLanes.add_add (sorted : SortedLanes α)
    (rs rs' : List (LaneRecord α)) :
    (sorted.add rs).add rs' = sorted.add (rs ++ rs') := by
  simp [add, Option.or_assoc]

theorem SortedLanes.add_nil (sorted : SortedLanes α) :
    sorted.add [] = sorted := by
  simp [add]

theorem AssignmentRecord.sorted_eq_add (a : AssignmentRecord α) :
    a.sorted = ({ link := a.link } : SortedLanes α).add a.lanes := by
  simp [sorted, SortedLanes.add, endLanes]

/-- All ids of a lane have been given by a store. -/
structure Lane.Known (l : Lane α) (s : IdStore) : Prop where
  id : s.Knows l.id
  toLanes : ∀ id ∈ l.toLanes, s.Knows id
  toLinks : ∀ id ∈ l.toLinks, s.Knows id

/-- All ids of the lanes of a link have been given by a store. -/
structure LaneAssignment.Known (a : LaneAssignment α) (s : IdStore) : Prop where
  link : s.Knows a.link
  trunk : ∀ l ∈ a.trunk, l.Known s
  lanes : ∀ l ∈ a.lanes, l.Known s

theorem Lane.Known.mono {l : Lane α} (h : l.Known s) (hgrows : s.Grows t) :
    l.Known t :=
  ⟨h.id.mono hgrows, fun id hid => (h.toLanes id hid).mono hgrows,
    fun id hid => (h.toLinks id hid).mono hgrows⟩

theorem LaneAssignment.Known.mono {a : LaneAssignment α} (h : a.Known s)
    (hgrows : s.Grows t) : a.Known t :=
  ⟨h.link.mono hgrows, fun l hl => (h.trunk l hl).mono hgrows,
    fun l hl => (h.lanes l hl).mono hgrows⟩

/-- The record of a lane. -/
def Lane.record (l : Lane α) : LaneRecord α :=
  ⟨l.id.external, l.start, l.represented, l.capacity,
    l.toLanes.map (·.external), l.toLinks.map (·.external)⟩

/-- The records of the lanes of a link. -/
def LaneAssignment.sorted (a : LaneAssignment α) : SortedLanes α :=
  { link := a.link.external
    trunk := a.trunk.map (·.record)
    lanes := a.lanes.map (·.record) }

theorem Lane.toLanes_record (l : Lane α) :
    l.record.toLanes.isEmpty = l.toLanes.isEmpty := by
  simp [record]

namespace LaneFile

/-- The record of the lanes at the end of a link. -/
def endRecord (a : LaneAssignment α) : AssignmentRecord α :=
  ⟨a.link.external, a.lanes.map (·.record)⟩

variable {n : Network α}

/-! ## One lane -/

section OneLane

variable (a : AssignmentRecord α) (r : LaneRecord α)

theorem lanesOf_cons (s : IdStore) (name : String) (names : List String) :
    lanesOf a r s (name :: names) =
      if name ∈ a.lanes.map (·.id) then
        (lanesOf a r (s.create .lane name).2 names).map fun p =>
          ((s.create .lane name).1 :: p.1, p.2)
      else .error (.unknownReference .lane name (laneName a r)) := by
  have hany : a.lanes.any (·.id == name) = true ↔
      name ∈ a.lanes.map (·.id) := by simp
  simp only [lanesOf, hany]
  cases lanesOf a r (s.create .lane name).2 names <;> rfl

/-- The lanes that a lane leads to are lanes of the same link. -/
theorem settles_lanesOf (hs : s.Distinct) (names : List String) :
    Settles (lanesOf a r s names)
      (names.findSome? (unknown? (a.lanes.map (·.id)) .lane (laneName a r)))
      fun p => p.1.map (·.external) = names ∧ (∀ id ∈ p.1, p.2.Knows id) ∧
        s.Grows p.2 := by
  induction names generalizing s with
  | nil => exact .ok ⟨rfl, by simp, .refl s⟩
  | cons name names ih =>
      rw [findSome?_cons_or, lanesOf_cons, unknown?]
      by_cases hname : name ∈ a.lanes.map (·.id)
      · rw [if_pos hname, if_pos hname, Option.none_or]
        refine (ih (IdStore.distinct_create hs .lane name)).map ?_
        rintro p ⟨hnames, hknown, hgrows⟩
        refine ⟨?_, List.forall_mem_cons.2 ⟨?_, hknown⟩, ?_⟩
        · rw [List.map_cons, hnames, IdStore.create_external]
        · exact (IdStore.knows_create hs .lane name).mono hgrows
        · exact (IdStore.grows_create s .lane name).trans hgrows
      · rw [if_neg hname, if_neg hname]
        exact .error _

/-- The links that a lane leads to are links of the network. -/
theorem settles_linksOf (h : n.LinksKnown s) (names : List String) :
    Settles (linksOf n a r s names)
      (names.findSome? (unknown? n.linkNames .link (laneName a r)))
      fun ids => ids.map (·.external) = names ∧ ∀ id ∈ ids, s.Knows id := by
  have hp := fun (id : Id .link) (hid : s.Knows id) => h.isSome_link?_iff hid
  induction names with
  | nil => exact .ok ⟨rfl, by simp⟩
  | cons name names ih =>
      rw [findSome?_cons_or, linksOf, unknown?]
      by_cases hname : name ∈ n.linkNames
      · obtain ⟨id, hfind, hid, rfl, -⟩ := IdStore.exists_filter_find?
          h.distinct (fun _ => h.exists_link) hp hname
        rw [hfind, if_pos hname, Option.none_or]
        refine ih.map fun ids hids => ⟨?_, ?_⟩
        · rw [List.map_cons, hids.1]
        · exact List.forall_mem_cons.2 ⟨hid, hids.2⟩
      · rw [IdStore.filter_find?_eq_none h.distinct hp hname, if_neg hname]
        exact .error _

/-- A lane is what its record says, if all that it leads to exists. -/
theorem settles_toLane (h : n.LinksKnown s) :
    Settles (toLane n a r s) (r.fault? n.linkNames a)
      fun p => p.1.record = r ∧ p.1.Known p.2 ∧ s.Grows p.2 := by
  refine (settles_lanesOf a r h.distinct r.toLanes).bind ?_
  rintro ⟨toLanes, t⟩ ⟨htoLanes, hlanesKnown, hgrows⟩
  refine (settles_linksOf a r (h.mono hgrows) r.toLinks).bind_ok ?_
  intro toLinks ⟨htoLinks, hlinksKnown⟩
  have hlater := IdStore.grows_create t .lane r.id
  have hid := IdStore.knows_create (hgrows.distinct h.distinct) .lane r.id
  have hrecord : Lane.record ⟨(t.create .lane r.id).1, r.start, r.represented,
      r.capacity, toLanes, toLinks⟩ = r := by
    simp only [Lane.record, IdStore.create_external, htoLanes, htoLinks]
  refine .ok ⟨hrecord, ⟨hid, ?_, ?_⟩, hgrows.trans hlater⟩
  · exact fun id hmem => (hlanesKnown id hmem).mono hlater
  · exact fun id hmem => (hlinksKnown id hmem).mono hlater

end OneLane

/-! ## The lanes of a link -/

/-- The fault of a lane that would be a second trunk. -/
def trunkFault? (link : String) (hasTrunk leadsToLanes : Bool) :
    Option ScenarioFault :=
  if hasTrunk && leadsToLanes then some (.laneTree link) else none

theorem lanesFault?_cons (links : List String) (a : AssignmentRecord α)
    (hasTrunk : Bool) (r : LaneRecord α) (rs : List (LaneRecord α)) :
    a.lanesFault? links hasTrunk (r :: rs) =
      (r.fault? links a).or ((trunkFault? a.link hasTrunk r.leadsToLanes).or
        (a.lanesFault? links (hasTrunk || r.leadsToLanes) rs)) := by
  rw [AssignmentRecord.lanesFault?, trunkFault?, LaneRecord.leadsToLanes]
  cases hasTrunk <;> cases r.toLanes.isEmpty <;> rfl

/-- A lane that leads to other lanes is the trunk, if there is none yet; others
are lanes at the end of the link. -/
theorem settles_place (link : String) (result : LaneAssignment α)
    (lane : Lane α) :
    Settles (place link result lane)
      (trunkFault? link result.trunk.isSome lane.record.leadsToLanes)
      fun placed => placed.sorted = result.sorted.add [lane.record] ∧
        (result.Known s → lane.Known s → placed.Known s) := by
  cases hends : lane.toLanes.isEmpty with
  | true =>
      have hplaced : place link result lane = .ok (result.addLane lane) := by
        simp [place, hends]
      rw [hplaced, LaneRecord.leadsToLanes, Lane.toLanes_record, hends,
        trunkFault?, Bool.not_true, Bool.and_false]
      refine .ok ⟨?_, fun hresult hlane => ⟨hresult.link, hresult.trunk, ?_⟩⟩
      · simp [LaneAssignment.addLane, LaneAssignment.sorted, SortedLanes.add,
          LaneRecord.leadsToLanes, Lane.toLanes_record, hends]
      · exact List.forall_mem_append.2 ⟨hresult.lanes, by simpa using hlane⟩
  | false =>
      cases htrunk : result.trunk with
      | some trunk =>
          have hrefused : place link result lane = .error (.laneTree link) := by
            simp [place, hends, htrunk]
          rw [hrefused, LaneRecord.leadsToLanes, Lane.toLanes_record, hends]
          exact .error _
      | none =>
          have hplaced : place link result lane = .ok (result.setTrunk lane) := by
            simp [place, hends, htrunk]
          rw [hplaced]
          refine .ok ⟨?_, fun hresult hlane => ⟨hresult.link, ?_, hresult.lanes⟩⟩
          · simp [LaneAssignment.setTrunk, LaneAssignment.sorted,
              SortedLanes.add, LaneRecord.leadsToLanes, Lane.toLanes_record,
              hends, htrunk]
          · simpa [LaneAssignment.setTrunk] using hlane

/-- The lanes of a link are read up to the first that leads nowhere or is a
second trunk. -/
theorem settles_addLanes (h : n.LinksKnown s) (a : AssignmentRecord α)
    {result : LaneAssignment α} (hresult : result.Known s)
    (rs : List (LaneRecord α)) :
    Settles (addLanes n a result s rs)
      (a.lanesFault? n.linkNames result.sorted.trunk.isSome rs)
      fun p => p.1.sorted = result.sorted.add rs ∧ p.1.Known p.2 ∧
        s.Grows p.2 := by
  induction rs generalizing s result with
  | nil => exact .ok ⟨result.sorted.add_nil.symm, hresult, .refl s⟩
  | cons r rs ih =>
      rw [lanesFault?_cons]
      refine (settles_toLane a r h).bind ?_
      rintro ⟨lane, t⟩ ⟨rfl, hlane, hgrows⟩
      have hplace := settles_place (s := t) a.link result lane
      have htrunk : result.sorted.trunk.isSome = result.trunk.isSome :=
        Option.isSome_map
      rw [htrunk]
      refine hplace.bind ?_
      rintro placed ⟨hplaced, hknown⟩
      have hisSome : placed.sorted.trunk.isSome =
          (result.trunk.isSome || lane.record.leadsToLanes) := by
        rw [hplaced, ← htrunk, SortedLanes.add, Option.isSome_or]
        cases hlead : lane.record.leadsToLanes <;> simp [hlead]
      rw [← hisSome]
      refine (ih (h.mono hgrows) (hknown (hresult.mono hgrows) hlane)).mono ?_
      rintro ⟨result', u⟩ ⟨hsorted, hknown', hgrows'⟩
      refine ⟨?_, hknown', hgrows.trans hgrows'⟩
      rw [hsorted, hplaced, SortedLanes.add_add, List.singleton_append]

/-! ## The lanes of a file -/

/-- A registry holds the lanes of some records, with ids that a store knows. -/
structure Held (registry : LaneRegistry α) (as : List (AssignmentRecord α))
    (s : IdStore) : Prop where
  known : ∀ a ∈ registry.assignments, a.Known s
  sorted : registry.assignments.map (·.sorted) = as.map (·.sorted)

variable {registry : LaneRegistry α} {as : List (AssignmentRecord α)}

theorem held_empty (s : IdStore) : Held (α := α) {} [] s :=
  ⟨by simp, rfl⟩

theorem Held.mono (h : Held registry as s) (hgrows : s.Grows t) :
    Held registry as t :=
  ⟨fun a ha => (h.known a ha).mono hgrows, h.sorted⟩

/-- The lanes of a link are found under its name. -/
theorem Held.map_get? (h : Held registry as s) (hs : s.Distinct)
    {id : Id .link} (hid : s.Knows id) :
    (registry.get? id).map (·.sorted) =
      (as.find? (·.link == id.external)).map (·.sorted) := by
  have hfind := congrArg (List.find? (·.link == id.external)) h.sorted
  rw [List.find?_map, List.find?_map] at hfind
  rw [LaneRegistry.get?,
    IdStore.find?_same hs (fun a ha => (h.known a ha).link) hid]
  exact hfind

/-- The lanes at the end of a link are those of the file. -/
theorem Held.endLanes?_eq {l : LaneFile α} (h : Held registry l.assignments s)
    (hs : s.Distinct) {id : Id .link} (hid : s.Knows id) :
    (registry.get? id).map (fun a => (endRecord a).lanes) =
      l.endLanes? id.external := by
  have hget := congrArg (Option.map (·.lanes)) (h.map_get? hs hid)
  rw [Option.map_map, Option.map_map] at hget
  exact hget

theorem Held.isSome_get?_iff (h : Held registry as s) (hs : s.Distinct)
    {id : Id .link} (hid : s.Knows id) :
    (registry.get? id).isSome = true ↔ id.external ∈ as.map (·.link) := by
  have hnames := congrArg (List.map (·.link)) h.sorted
  rw [List.map_map, List.map_map] at hnames
  exact (IdStore.isSome_find?_same_iff hs
    (fun a ha => (h.known a ha).link) hid).trans
    (iff_of_eq (congrArg (id.external ∈ ·) hnames))

/-- The lanes of one more link are held. -/
theorem Held.append (h : Held registry as s) {a : AssignmentRecord α}
    {result : LaneAssignment α} (hknown : result.Known s)
    (hsorted : result.sorted = a.sorted) :
    Held ⟨registry.assignments ++ [result]⟩ (as ++ [a]) s where
  known := List.forall_mem_append.2 ⟨h.known, by simpa using hknown⟩
  sorted := by
    rw [List.map_append, List.map_append, h.sorted, List.map_singleton,
      List.map_singleton, hsorted]

/-- The lanes of a link that has none yet are added. -/
theorem Held.add (h : Held registry as s) (hs : s.Distinct)
    {a : AssignmentRecord α} {result : LaneAssignment α}
    (hknown : result.Known s) (hsorted : result.sorted = a.sorted)
    (hnew : a.link ∉ as.map (·.link)) :
    ∃ registry', registry.add result = .ok registry' ∧
      Held registry' (as ++ [a]) s := by
  have hname : result.link.external = a.link :=
    congrArg SortedLanes.link hsorted
  have hnone : registry.get? result.link = none := by
    rwa [← Option.not_isSome_iff_eq_none, h.isSome_get?_iff hs hknown.link,
      hname]
  exact ⟨_, LaneRegistry.add_of_new hnone, h.append hknown hsorted⟩

/-- The lanes of several links are read up to the first fault. -/
theorem settles_addAssignments (hn : n.LinksKnown s)
    (h : Held registry as s) (rest : List (AssignmentRecord α)) :
    Settles (addAssignments n registry s rest)
      (assignmentsFault? n.linkNames (as.map (·.link)) rest)
      fun p => Held p.1 (as ++ rest) p.2 ∧ s.Grows p.2 := by
  induction rest generalizing registry as s with
  | nil => exact .ok ⟨by simpa using h, .refl s⟩
  | cons a rest ih =>
      have hcreate := IdStore.grows_create s .link a.link
      have hlater := h.mono hcreate
      have hlinks := hn.mono hcreate
      have hknown := IdStore.knows_create hn.distinct .link a.link
      have hnew := hlater.isSome_get?_iff hlinks.distinct hknown
      rw [IdStore.create_external] at hnew
      rw [addAssignments, assignmentsFault?]
      simp only [hnew]
      by_cases hbefore : a.link ∈ as.map (·.link)
      · rw [if_pos hbefore, if_pos hbefore]
        exact .error _
      · rw [if_neg hbefore, if_neg hbefore, Option.none_or]
        have hstart : ({ link := (s.create .link a.link).1 } :
            LaneAssignment α).Known (s.create .link a.link).2 :=
          ⟨hknown, nofun, by simp⟩
        refine (settles_addLanes hlinks a hstart a.lanes).bind ?_
        rintro ⟨result, t⟩ ⟨hsorted, hresult, hgrows⟩
        have hrecord : result.sorted = a.sorted := by
          rw [hsorted, a.sorted_eq_add, LaneAssignment.sorted,
            IdStore.create_external]
          rfl
        obtain ⟨registry', hadd, hheld⟩ := (hlater.mono hgrows).add
          (hgrows.distinct hlinks.distinct) hresult hrecord hbefore
        simp only [hadd]
        have hrest := ih (hlinks.mono hgrows) hheld
        rw [List.map_append, List.map_singleton, List.append_assoc,
          List.singleton_append] at hrest
        exact hrest.mono fun p hp => ⟨hp.1, hcreate.trans (hgrows.trans hp.2)⟩

/-- The lanes of a file are held for a network, unless there is a fault. -/
theorem settles_toLanes (f : LaneFile α) (hn : n.LinksKnown s) :
    Settles (f.toLanes n s) (f.fault? n.linkNames)
      fun p => Held p.1 f.assignments p.2 ∧ s.Grows p.2 :=
  settles_addAssignments hn (held_empty s) f.assignments

/-- The lanes of a lane file, if there is one. -/
def toLanes? (lanes : Option (LaneFile α)) (n : Network α) (s : IdStore) :
    Except ScenarioFault (Option (LaneRegistry α) × IdStore) :=
  match lanes with
  | none => .ok (none, s)
  | some f => (f.toLanes n s).map fun r => (some r.1, r.2)

/-- The same for a file that need not be there. -/
theorem settles_toLanes? (lanes : Option (LaneFile α)) (hn : n.LinksKnown s) :
    Settles (toLanes? lanes n s) (lanes.bind (·.fault? n.linkNames))
      fun p => Option.Rel (fun r f => Held r f.assignments p.2) p.1 lanes ∧
        s.Grows p.2 := by
  cases lanes with
  | none => exact .ok ⟨.none, .refl s⟩
  | some f => exact (settles_toLanes f hn).map fun p hp => ⟨.some hp.1, hp.2⟩

end LaneFile

end LaneFlow
