import LaneFlow.Proofs.Scenario.LaneLoading

/-!
# Which lane files are read

A lane file is read exactly if each link has lanes once at most, all lanes and
links that a lane leads to exist, and of the lanes of a link one at most leads
to other lanes (`LaneFile.Supported`).  The network may be any whose links go by
ids that the store has given.

All that is against a file is a list in the order of the file
(`LaneFile.faults`).  A place is at fault because of what stands in it and,
where something may be there only once, because of what stands before it.  The
file is refused for the first entry of the list.

## Main results

* `head?_faults` — a file is refused for the first of its faults.
* `faults_eq_nil_iff` — a file without faults has a supported shape.
* `toLanes_reads` — which files are read for a network, what is read, and what
  is told of the others.
-/

namespace LaneFlow

/-! ## What stands before -/

section Earlier

variable {β : Type}

/-- Some things, each with those before it; some may be before all. -/
def withEarlier (before : List β) : List β → List (List β × β)
  | [] => []
  | x :: xs => (before, x) :: withEarlier (before ++ [x]) xs

/-- What is true of each thing and of all before it with it is true of each and
of any two in their order. -/
theorem forall_withEarlier_iff {P : β → Prop} {R : β → β → Prop}
    {before xs : List β} :
    (∀ p ∈ withEarlier before xs, P p.2 ∧ ∀ y ∈ p.1, R y p.2) ↔
      (∀ x ∈ xs, P x) ∧ (∀ y ∈ before, ∀ x ∈ xs, R y x) ∧ xs.Pairwise R := by
  induction xs generalizing before with
  | nil => simp [withEarlier]
  | cons x xs ih =>
      rw [withEarlier, List.forall_mem_cons, ih, List.forall_mem_append,
        List.forall_mem_singleton, List.forall_mem_cons, List.pairwise_cons]
      constructor
      · rintro ⟨⟨hx, hbefore⟩, hxs, ⟨hacross, hfirst⟩, hpairs⟩
        exact ⟨⟨hx, hxs⟩, fun y hy => List.forall_mem_cons.2
          ⟨hbefore y hy, hacross y hy⟩, hfirst, hpairs⟩
      · rintro ⟨⟨hx, hxs⟩, hacross, hfirst, hpairs⟩
        exact ⟨⟨hx, fun y hy => hacross y hy x List.mem_cons_self⟩, hxs,
          ⟨fun y hy z hz => hacross y hy z (List.mem_cons_of_mem x hz), hfirst⟩,
          hpairs⟩

theorem countP_le_one_iff {p : β → Bool} {xs : List β} :
    xs.countP p ≤ 1 ↔ xs.Pairwise fun x y => ¬ (p x = true ∧ p y = true) := by
  induction xs with
  | nil => simp
  | cons x xs ih =>
      rw [List.countP_cons, List.pairwise_cons]
      cases hx : p x with
      | false => simpa using ih
      | true =>
          have hnone : xs.countP p + 1 ≤ 1 ↔ ∀ y ∈ xs, ¬ p y := by
            rw [← List.countP_eq_zero]
            omega
          simp only [if_true, hnone, true_and, iff_self_and]
          intro hall
          exact ih.1 (by rw [List.countP_eq_zero.2 hall]; omega)

end Earlier

variable {α : Type}

/-! ## All faults of a file -/

/-- The faults of a lane of a link, some lanes of which stand before it. -/
def LaneRecord.faults (links : List String) (a : AssignmentRecord α)
    (earlier : List (LaneRecord α)) (r : LaneRecord α) : List ScenarioFault :=
  r.toLanes.filterMap
      (unknown? (a.lanes.map (·.id)) .lane (LaneFile.laneName a r)) ++
    r.toLinks.filterMap (unknown? links .link (LaneFile.laneName a r)) ++
    if earlier.any (·.leadsToLanes) && r.leadsToLanes then
      [.laneTree a.link] else []

/-- The faults of the lanes of a link, if those of some links stand before. -/
def AssignmentRecord.faults (links : List String)
    (before : List (AssignmentRecord α)) (a : AssignmentRecord α) :
    List ScenarioFault :=
  (if a.link ∈ before.map (·.link) then [.lanesTwice a.link] else []) ++
    (withEarlier [] a.lanes).flatMap fun p => p.2.faults links a p.1

/-- All faults of a lane file in its order, for a network with some links. -/
def LaneFile.faults (links : List String) (f : LaneFile α) :
    List ScenarioFault :=
  (withEarlier [] f.assignments).flatMap fun p => p.2.faults links p.1

variable {links : List String}

theorem LaneRecord.head?_faults (a : AssignmentRecord α)
    (earlier : List (LaneRecord α)) (r : LaneRecord α) :
    (r.faults links a earlier).head? = (r.fault? links a).or
      (LaneFile.trunkFault? a.link (earlier.any (·.leadsToLanes))
        r.leadsToLanes) := by
  rw [faults, List.head?_append, List.head?_append, List.head?_filterMap,
    List.head?_filterMap, fault?, LaneFile.trunkFault?]
  split <;> rfl

theorem AssignmentRecord.head?_flatMap_faults (a : AssignmentRecord α)
    (earlier rs : List (LaneRecord α)) :
    ((withEarlier earlier rs).flatMap fun p => p.2.faults links a p.1).head? =
      a.lanesFault? links (earlier.any (·.leadsToLanes)) rs := by
  induction rs generalizing earlier with
  | nil => rfl
  | cons r rs ih =>
      rw [withEarlier, List.flatMap_cons, List.head?_append,
        LaneRecord.head?_faults, ih, LaneFile.lanesFault?_cons, Option.or_assoc]
      simp

namespace LaneFile

theorem head?_flatMap_faults (before as : List (AssignmentRecord α)) :
    ((withEarlier before as).flatMap fun p => p.2.faults links p.1).head? =
      assignmentsFault? links (before.map (·.link)) as := by
  induction as generalizing before with
  | nil => rfl
  | cons a as ih =>
      rw [withEarlier, List.flatMap_cons, List.head?_append, ih,
        AssignmentRecord.faults, List.head?_append,
        AssignmentRecord.head?_flatMap_faults, assignmentsFault?,
        Option.or_assoc, List.map_append]
      split <;> rfl

/-- A file is refused for the first of its faults. -/
theorem head?_faults (f : LaneFile α) :
    (f.faults links).head? = f.fault? links :=
  head?_flatMap_faults [] f.assignments

end LaneFile

/-! ## Supported shapes -/

/-- What a lane of a link leads to exists: other lanes among those of the link,
links among those of the network. -/
structure LaneRecord.Resolved (links : List String) (a : AssignmentRecord α)
    (r : LaneRecord α) : Prop where
  toLanes : ∀ lane ∈ r.toLanes, lane ∈ a.lanes.map (·.id)
  toLinks : ∀ link ∈ r.toLinks, link ∈ links

/-- Lanes of a link that can be read: what they lead to exists, and one of them
at most leads to other lanes. -/
structure AssignmentRecord.Supported (links : List String)
    (a : AssignmentRecord α) : Prop where
  resolved : ∀ r ∈ a.lanes, r.Resolved links a
  trunks_le_one : a.lanes.countP (·.leadsToLanes) ≤ 1

/-- A lane file that can be read: no link has lanes twice, and the lanes of each
link can be read. -/
structure LaneFile.Supported (links : List String) (f : LaneFile α) :
    Prop where
  distinct : (f.assignments.map (·.link)).Nodup
  assignments : ∀ a ∈ f.assignments, a.Supported links

theorem LaneRecord.faults_eq_nil_iff {a : AssignmentRecord α}
    {earlier : List (LaneRecord α)} {r : LaneRecord α} :
    r.faults links a earlier = [] ↔ r.Resolved links a ∧
      ∀ e ∈ earlier, ¬ (e.leadsToLanes = true ∧ r.leadsToLanes = true) := by
  simp only [faults, List.append_eq_nil_iff, List.filterMap_eq_nil_iff,
    unknown?_eq_none_iff]
  refine and_congr ⟨fun h => ⟨h.1, h.2⟩, fun h => ⟨h.toLanes, h.toLinks⟩⟩ ?_
  cases r.leadsToLanes <;> simp

theorem AssignmentRecord.faults_eq_nil_iff {before : List (AssignmentRecord α)}
    {a : AssignmentRecord α} :
    a.faults links before = [] ↔
      a.Supported links ∧ ∀ b ∈ before, b.link ≠ a.link := by
  have hlanes : ((withEarlier [] a.lanes).flatMap fun p =>
      p.2.faults links a p.1) = [] ↔ a.Supported links := by
    rw [List.flatMap_eq_nil_iff]
    refine (forall₂_congr fun p _ => LaneRecord.faults_eq_nil_iff).trans ?_
    rw [forall_withEarlier_iff (P := LaneRecord.Resolved links a)
      (R := fun e r : LaneRecord α =>
        ¬ (e.leadsToLanes = true ∧ r.leadsToLanes = true)),
      ← countP_le_one_iff]
    constructor
    · rintro ⟨hresolved, -, htrunks⟩
      exact ⟨hresolved, htrunks⟩
    · rintro ⟨hresolved, htrunks⟩
      exact ⟨hresolved, by simp, htrunks⟩
  rw [faults, List.append_eq_nil_iff, hlanes, and_comm]
  refine and_congr_right fun _ => ?_
  by_cases hbefore : a.link ∈ before.map (·.link)
  · rw [if_pos hbefore]
    simpa using hbefore
  · rw [if_neg hbefore]
    simpa using hbefore

namespace LaneFile

/-- A file without faults has a supported shape. -/
theorem faults_eq_nil_iff {f : LaneFile α} :
    f.faults links = [] ↔ f.Supported links := by
  rw [faults, List.flatMap_eq_nil_iff]
  refine (forall₂_congr fun p _ =>
    AssignmentRecord.faults_eq_nil_iff).trans ?_
  rw [forall_withEarlier_iff (P := AssignmentRecord.Supported links)
    (R := fun b a => b.link ≠ a.link)]
  constructor
  · rintro ⟨hassignments, -, hdistinct⟩
    exact ⟨List.pairwise_map.2 hdistinct, hassignments⟩
  · rintro ⟨hdistinct, hassignments⟩
    exact ⟨hassignments, by simp, List.pairwise_map.1 hdistinct⟩

theorem fault?_eq_none_iff {f : LaneFile α} :
    f.fault? links = none ↔ f.Supported links := by
  rw [← head?_faults, List.head?_eq_none_iff, faults_eq_nil_iff]

/-! ## Reading for a network -/

/-- It is not a fault of a lane that something is not taken in. -/
theorem refused_notMem_faults (f : LaneFile α) (fault : BuildFault) :
    ScenarioFault.refused fault ∉ f.faults links := by
  intro h
  obtain ⟨p, -, h⟩ := List.mem_flatMap.1 h
  rcases List.mem_append.1 h with htwice | hlanes
  · split at htwice <;> simp at htwice
  · obtain ⟨q, -, hlane⟩ := List.mem_flatMap.1 hlanes
    rw [LaneRecord.faults, List.mem_append, List.mem_append] at hlane
    rcases hlane with (hlane | hlink) | htree
    · simp [unknown?_eq_some_iff] at hlane
    · simp [unknown?_eq_some_iff] at hlink
    · split at htree <;> simp at htree

/-- **Which lane files are read, and what comes of them.**  Let the links of a
network go by ids that have been created.  Then a lane file is read for the
network if and only if its shape is supported.  The registry holds the lanes of
each link as the file tells them apart, and finds them under the name of the
link.  Otherwise the first fault in the order of the file is told; the registry
itself refuses nothing that is read. -/
theorem toLanes_reads (f : LaneFile α) (n : Network α)
    (earlier : List (IdKind × String))
    (hn : ∀ l ∈ n.links, (IdStore.after earlier).Knows l.id) :
    ((∃ p, f.toLanes n (.after earlier) = .ok p) ↔
      f.Supported n.linkNames) ∧
    (∀ registry s, f.toLanes n (.after earlier) = .ok (registry, s) →
      registry.assignments.map (·.sorted) = f.assignments.map (·.sorted) ∧
      (∀ a ∈ registry.assignments, a.Known s) ∧
      ∀ id, s.Knows id → (registry.get? id).map (·.sorted) =
        (f.assignments.find? (·.link == id.external)).map (·.sorted)) ∧
    (∀ fault, f.toLanes n (.after earlier) = .error fault ↔
      (f.faults n.linkNames).head? = some fault) ∧
    (∀ fault, f.toLanes n (.after earlier) ≠ .error (.refused fault)) := by
  have hstore := IdStore.distinct_after earlier
  have hread := settles_toLanes f ⟨hstore, hn⟩
  have herror : ∀ fault, f.toLanes n (.after earlier) = .error fault ↔
      (f.faults n.linkNames).head? = some fault := fun fault => by
    rw [hread.error_iff, head?_faults]
  refine ⟨?_, fun registry s h => ?_, herror, fun fault h => ?_⟩
  · rw [hread.ok_iff, fault?_eq_none_iff]
  · obtain ⟨hheld, hgrows⟩ := hread.of_ok h
    exact ⟨hheld.sorted, hheld.known, fun id hid =>
      hheld.map_get? (hgrows.distinct hstore) hid⟩
  · exact refused_notMem_faults f fault
      (List.mem_of_head? ((herror _).1 h))

/-- Ids of two roads and of one that is in no network. -/
def roadIds : List (IdKind × String) := [(.link, "xy"), (.link, "ab"), (.link, "bc")]

/-- A road to a crossing, and one that goes on from there. -/
def roads : Network Rat := .built
  [.addNode { id := ⟨0, "a"⟩, x := 0, y := 0 },
    .addNode { id := ⟨1, "b"⟩, x := 100, y := 0 },
    .createLink ⟨1, "ab"⟩ ⟨0, "a"⟩ ⟨1, "b"⟩ 100 3600 10 2,
    .createLink ⟨2, "bc"⟩ ⟨1, "b"⟩ ⟨0, "a"⟩ 100 3600 10 1]

/-- The road to the crossing splits, in a file that has also lanes for a road
that is in no network. -/
def splitFile : LaneFile Rat :=
  { assignments :=
      [{ link := "xy" },
        { link := "ab"
          lanes :=
            [{ id := "left", start := 40, toLinks := ["bc"] },
              { id := "in", start := 100, toLanes := ["left", "right"] },
              { id := "right", start := 30, represented := some 1 }] }] }

/-- Two lanes lead to each other, and one of them to a road that is in no
network. -/
def tangledFile : LaneFile Rat :=
  { assignments :=
      [{ link := "ab"
         lanes :=
          [{ id := "left", start := 40, toLanes := ["right"] },
            { id := "right", start := 30, toLanes := ["left"]
              toLinks := ["xy"] }] },
        { link := "ab" }] }

/-- One of the files is read.  The other has three faults, of which the road
that is in no network comes first. -/
theorem toLanes_reads_tangled :
    (∀ l ∈ roads.links, (IdStore.after roadIds).Knows l.id) ∧
    (∃ registry s, splitFile.toLanes roads (.after roadIds) = .ok (registry, s) ∧
      registry.assignments.map (·.sorted) =
        [{ link := "xy" },
          { link := "ab"
            trunk := some
              { id := "in", start := 100, toLanes := ["left", "right"] }
            lanes :=
              [{ id := "left", start := 40, toLinks := ["bc"] },
                { id := "right", start := 30, represented := some 1 }] }]) ∧
    tangledFile.faults roads.linkNames =
      [.unknownReference .link "xy" "lane right on link ab", .laneTree "ab",
        .lanesTwice "ab"] ∧
    tangledFile.toLanes roads (.after roadIds) =
      .error (.unknownReference .link "xy" "lane right on link ab") := by
  have hknown : ∀ l ∈ roads.links, (IdStore.after roadIds).Knows l.id := by
    decide +kernel
  have hfaults : tangledFile.faults roads.linkNames =
      [.unknownReference .link "xy" "lane right on link ab", .laneTree "ab",
        .lanesTwice "ab"] := by decide +kernel
  obtain ⟨hok, hsorted, -⟩ := toLanes_reads splitFile roads roadIds hknown
  obtain ⟨⟨registry, s⟩, hread⟩ := hok.2 (faults_eq_nil_iff.1 (by decide +kernel))
  refine ⟨hknown, ⟨registry, s, hread, ?_⟩, hfaults, ?_⟩
  · rw [(hsorted registry s hread).1]
    decide +kernel
  · rw [(toLanes_reads tangledFile roads roadIds hknown).2.2.1, hfaults]
    rfl

end LaneFile

end LaneFlow
