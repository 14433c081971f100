import LaneFlow.Proofs.Scenario.NetworkLoading

/-!
# Networks from files and back

A file whose nodes have distinct names, and whose links do, becomes a network
exactly if both ends of each link are nodes of the same file.  If not, the first
link that has an end missing is told, and its start goes before its end.  What
the store knows from elsewhere makes no difference to this.

The network is all that the file says: exported it is the file again, without
its name.  Beyond that each link refers to the capacity period of the file, and
each node lists the links that end and that start at it, in the order of the
file.

## Main results

* `LinkRecord.fault?_eq_some_iff` — which end of a link is told.
* `Loaded.conveys` — a network that holds what a file says is all it says.
* `toNetwork_conveys` — what comes of a file, after any creations of ids.
-/

namespace LaneFlow

variable {α : Type}

/-! ## Which reference is told -/

/-- Both ends of a link are among some nodes. -/
def LinkRecord.EndsIn (r : LinkRecord α) (nodes : List String) : Prop :=
  r.source ∈ nodes ∧ r.target ∈ nodes

instance (r : LinkRecord α) (nodes : List String) : Decidable (r.EndsIn nodes) :=
  inferInstanceAs (Decidable (_ ∧ _))

/-- A link is refused because its start is not among some nodes or, if it is,
because its end is not. -/
def LinkRecord.Dangles (r : LinkRecord α) (nodes : List String)
    (fault : ScenarioFault) : Prop :=
  (r.source ∉ nodes ∧
      fault = .unknownReference .node r.source s!"link {r.id}") ∨
    (r.source ∈ nodes ∧ r.target ∉ nodes ∧
      fault = .unknownReference .node r.target s!"link {r.id}")

theorem LinkRecord.fault?_eq_none_iff {r : LinkRecord α} {nodes : List String} :
    r.fault? nodes = none ↔ r.EndsIn nodes := by
  rw [fault?, Option.or_eq_none_iff, unknown?_eq_none_iff, unknown?_eq_none_iff,
    EndsIn]

/-- Of the two ends of a link the start is told first. -/
theorem LinkRecord.fault?_eq_some_iff {r : LinkRecord α} {nodes : List String}
    {fault : ScenarioFault} :
    r.fault? nodes = some fault ↔ r.Dangles nodes fault := by
  rw [fault?, Option.or_eq_some_iff, unknown?_eq_some_iff, unknown?_eq_none_iff,
    unknown?_eq_some_iff, Dangles]

namespace NetworkFile

/-- The names of the nodes of a file. -/
def nodeNames (f : NetworkFile α) : List String := f.nodes.map (·.id)

/-- The first link of a file with an end missing is refused. -/
def FirstDangles (f : NetworkFile α) (fault : ScenarioFault) : Prop :=
  ∃ before r after, f.links = before ++ r :: after ∧
    (∀ q ∈ before, q.EndsIn f.nodeNames) ∧ r.Dangles f.nodeNames fault

theorem fault?_eq_none_iff {f : NetworkFile α} :
    f.fault? = none ↔ ∀ r ∈ f.links, r.EndsIn f.nodeNames := by
  simp only [fault?, List.findSome?_eq_none_iff, LinkRecord.fault?_eq_none_iff,
    nodeNames]

theorem fault?_eq_some_iff {f : NetworkFile α} {fault : ScenarioFault} :
    f.fault? = some fault ↔ f.FirstDangles fault := by
  simp only [fault?, List.findSome?_eq_some_iff, LinkRecord.fault?_eq_none_iff,
    LinkRecord.fault?_eq_some_iff, FirstDangles, nodeNames]
  constructor
  · rintro ⟨before, r, after, hlinks, hr, hbefore⟩
    exact ⟨before, r, after, hlinks, hbefore, hr⟩
  · rintro ⟨before, r, after, hlinks, hbefore, hr⟩
    exact ⟨before, r, after, hlinks, hr, hbefore⟩

/-! ## What a network says -/

/-- A network is all that a file says, but for its name. -/
structure Conveys (f : NetworkFile α) (n : Network α) : Prop where
  ofNetwork_eq : ofNetwork n = { f with name := none }
  periods : ∀ l ∈ n.links, l.capacityPeriod = f.capacityPeriod
  /-- A node lists the links that end at it, in the order of the file. -/
  inLinks_eq : ∀ x ∈ n.nodes, x.inLinks =
    (n.links.filter (·.target.external == x.id.external)).map (·.id)
  outLinks_eq : ∀ x ∈ n.nodes, x.outLinks =
    (n.links.filter (·.source.external == x.id.external)).map (·.id)

variable {f : NetworkFile α} {n : Network α} {s : IdStore}

/-- A network that holds what a file says is all that the file says. -/
theorem Loaded.conveys (h : f.Loaded n s) : f.Conveys n where
  ofNetwork_eq := by
    rw [ofNetwork, h.capacityPeriod, h.cellSize, h.nodes, h.links]
  periods := h.periods
  inLinks_eq x hx := by
    rw [h.wired.inLinks x hx, Link.endingAt]
    refine congrArg _ (List.filter_congr fun l hl => ?_)
    exact IdStore.same_eq_beq h.distinct (h.endsKnown l hl).2
      (h.nodesKnown x.id (List.mem_map_of_mem hx))
  outLinks_eq x hx := by
    rw [h.wired.outLinks x hx, Link.startingAt]
    refine congrArg _ (List.filter_congr fun l hl => ?_)
    exact IdStore.same_eq_beq h.distinct (h.endsKnown l hl).1
      (h.nodesKnown x.id (List.mem_map_of_mem hx))

/-- **A network is what its file says.**  Let the nodes of a file have distinct
names and its links, too, and let any ids have been created before.  Then the
network refuses nothing that is read.  The file becomes a network if and only if
both ends of each link are nodes of the file; otherwise the first link without
an end is told.  Exported, the network is the file again. -/
theorem toNetwork_conveys (f : NetworkFile α)
    (hnodes : (f.nodes.map (·.id)).Nodup)
    (hlinks : (f.links.map (·.id)).Nodup)
    (earlier : List (IdKind × String)) :
    (∀ fault, f.toNetwork (.after earlier) ≠ .error (.refused fault)) ∧
    ((∃ p, f.toNetwork (.after earlier) = .ok p) ↔
      ∀ r ∈ f.links, r.EndsIn f.nodeNames) ∧
    (∀ fault, f.toNetwork (.after earlier) = .error fault ↔
      f.FirstDangles fault) ∧
    (∀ n s, f.toNetwork (.after earlier) = .ok (n, s) → f.Conveys n) := by
  have hread := settles_toNetwork f (IdStore.distinct_after earlier) hnodes hlinks
  refine ⟨fun fault h => ?_, ?_, fun fault => ?_, fun n s h => ?_⟩
  · obtain ⟨_, r, _, -, -, hr⟩ :=
      fault?_eq_some_iff.1 ((hread.error_iff _).1 h)
    rcases hr with ⟨-, hfault⟩ | ⟨-, -, hfault⟩ <;> cases hfault
  · rw [hread.ok_iff, fault?_eq_none_iff]
  · rw [hread.error_iff, fault?_eq_some_iff]
  · exact (hread.of_ok h).conveys

/-- Two roads between two nodes. -/
def thereAndBack : NetworkFile Rat :=
  { name := some "there and back"
    capacityPeriod := 60
    cellSize := 10
    nodes := [⟨"a", 0, 0⟩, ⟨"b", 100, 0⟩]
    links :=
      [⟨"ab", "a", "b", 100, 60, 10, 1⟩, ⟨"ba", "b", "a", 100, 30, 10, 1⟩] }

/-- The same and one road more, to a node that is not there. -/
def onward : NetworkFile Rat :=
  { thereAndBack with
    links := thereAndBack.links ++ [⟨"bc", "b", "c", 50, 60, 10, 1⟩] }

/-- The node that is not there has an id, and so has one of the roads. -/
theorem toNetwork_conveys_onward :
    (thereAndBack.nodes.map (·.id)).Nodup ∧
    (onward.links.map (·.id)).Nodup ∧
    (∃ n s, thereAndBack.toNetwork (.after [(.node, "c"), (.link, "ba")]) =
      .ok (n, s) ∧ ofNetwork n = { thereAndBack with name := none }) ∧
    onward.toNetwork (.after [(.node, "c"), (.link, "ba")]) =
      .error (.unknownReference .node "c" "link bc") := by
  have hnodes : (thereAndBack.nodes.map (·.id)).Nodup := by decide
  have hlinks : (onward.links.map (·.id)).Nodup := by decide
  obtain ⟨-, hok, -, hconveys⟩ := toNetwork_conveys thereAndBack hnodes
    (by decide) [(.node, "c"), (.link, "ba")]
  obtain ⟨⟨n, s⟩, hread⟩ := hok.2 (by decide)
  refine ⟨hnodes, hlinks, ⟨n, s, hread, (hconveys n s hread).ofNetwork_eq⟩, ?_⟩
  refine ((toNetwork_conveys onward hnodes hlinks _).2.2.1 _).2 ?_
  exact ⟨_, _, [], rfl, by decide, .inr ⟨by decide, by decide, rfl⟩⟩

end NetworkFile

end LaneFlow
