import LaneFlow.Proofs.Capacity.Tabulation
import LaneFlow.Proofs.Scenario.NetworkExport

/-!
# Networks that come back

A network that was built by requests can be exported, and what was exported can
be read again, whatever has been asked for: all ids that a network has are ids
of the store, links end at nodes of the network, and no name comes twice
(`Network.Portable`).

A file has one capacity period for all links, which is that of the network.  A
link may have been added with a period of its own, and the period of the network
may have changed since.  So what comes back is the network with links that have
its period (`Network.readBack`).  The flow capacities are those of the period,
and nothing else depends on it: neither what is found about lanes nor the
storage of any segment.

A node that comes back lists the links that end and start at it.  This is what
it listed before unless it was added with links, or a link was begun at it that
has no end.

## Main results

* `portable_run` — any requests lead to a network that can be exported.
* `Portable.toNetwork_ofNetwork` — what comes back.
* `CapacityTable.agrees_readBack` — what stands against capacities does not
  depend on periods, nor does the room on segments.
* `built_comes_back` — both together, for any network that was built by
  requests.
-/

namespace LaneFlow

variable {α : Type} {s t : IdStore}

/-! ## Known ids -/

/-- The ids of a link and of its ends have been given by a store. -/
structure Link.Known (l : Link α) (s : IdStore) : Prop where
  id : s.Knows l.id
  source : s.Knows l.source
  target : s.Knows l.target

theorem Link.Known.mono {l : Link α} (h : l.Known s) (hgrows : s.Grows t) :
    l.Known t :=
  ⟨h.id.mono hgrows, h.source.mono hgrows, h.target.mono hgrows⟩

/-- The ids that a request names have been given by a store. -/
def NetworkRequest.Known (s : IdStore) : NetworkRequest α → Prop
  | .addNode node => s.Knows node.id
  | .addLink link => s.Knows link.id ∧ s.Knows link.source ∧ s.Knows link.target
  | .createLink id source target _ _ _ _ =>
    s.Knows id ∧ s.Knows source ∧ s.Knows target
  | .setPeriod _ | .setCellSize _ => True

instance (s : IdStore) (r : NetworkRequest α) : Decidable (r.Known s) :=
  match r with
  | .addNode _ => inferInstanceAs (Decidable (s.Knows _))
  | .addLink _ | .createLink .. => inferInstanceAs (Decidable (_ ∧ _ ∧ _))
  | .setPeriod _ | .setCellSize _ => inferInstanceAs (Decidable True)

namespace Network

variable {n : Network α}

theorem known_of_wanted {r : NetworkRequest α} {link : Link α}
    (hr : r.Known s) (hlink : n.wanted? r = some link) : link.Known s := by
  cases r with
  | addLink =>
      cases hlink
      exact ⟨hr.1, hr.2.1, hr.2.2⟩
  | createLink =>
      cases hlink
      exact ⟨hr.1, hr.2.1, hr.2.2⟩
  | addNode | setPeriod | setCellSize => cases hlink

/-- What it takes to export a network: its ids are distinct and known, and its
links start and end at its nodes. -/
structure Portable (n : Network α) (s : IdStore) : Prop where
  distinct : s.Distinct
  keyed : n.Keyed
  nodes : ∀ id ∈ n.nodes.map (·.id), s.Knows id
  links : ∀ l ∈ n.links, l.Known s
  ends : ∀ l ∈ n.links,
    (n.node? l.source).isSome = true ∧ (n.node? l.target).isSome = true

/-! ## Any requests -/

theorem portable_empty [Quantity α] (hs : s.Distinct) :
    (empty : Network α).Portable s :=
  ⟨hs, keyed_empty, by simp [empty], by simp [empty], by simp [empty]⟩

theorem Portable.addNode (h : n.Portable s) {node : Node α}
    (hnode : s.Knows node.id) : (n.addNode node).1.Portable s := by
  have hkeyed := h.keyed.addNode node
  unfold Network.addNode at hkeyed ⊢
  split at hkeyed
  · rename_i hold
    rwa [if_pos hold]
  · rename_i hold
    rw [if_neg hold]
    refine ⟨h.distinct, hkeyed, ?_, h.links, fun l hl =>
      ⟨isSome_node?_append node (h.ends l hl).1,
        isSome_node?_append node (h.ends l hl).2⟩⟩
    rw [List.map_append]
    exact List.forall_mem_append.2 ⟨h.nodes, by simpa using hnode⟩

theorem Adding.portable {link : Link α} {out : Network α × Option NetworkFault}
    (hadd : Adding n link out) (h : n.Portable s) (hlink : link.Known s) :
    out.1.Portable s := by
  have hkeyed := hadd.keyed h.keyed
  cases hadd with
  | known => exact h
  | noStart => exact h
  | noEnd =>
      refine ⟨h.distinct, hkeyed, ?_, h.links, fun l hl => ?_⟩
      · rw [map_started n link fun _ => rfl]
        exact h.nodes
      · simp only [isSome_node?_started]
        exact h.ends l hl
  | done _ hsource htarget =>
      refine ⟨h.distinct, hkeyed, ?_, ?_, ?_⟩
      · rw [map_linked n link (fun _ => rfl) fun _ => rfl]
        exact h.nodes
      · exact List.forall_mem_append.2 ⟨h.links, by simpa using hlink⟩
      · simp only [isSome_node?_linked]
        exact List.forall_mem_append.2 ⟨h.ends, by simpa using ⟨hsource, htarget⟩⟩

/-- A request with known ids leaves the network as it can be exported. -/
theorem Portable.answer (h : n.Portable s) {r : NetworkRequest α}
    (hr : r.Known s) : (n.answer r).1.Portable s := by
  cases hwanted : n.wanted? r with
  | some link =>
      rw [answer_of_wanted hwanted]
      exact (adding n link).portable h (known_of_wanted hr hwanted)
  | none =>
      cases r with
      | addNode node => exact h.addNode hr
      | addLink | createLink => cases hwanted
      | setPeriod | setCellSize =>
          exact ⟨h.distinct, ⟨h.keyed.nodes, h.keyed.links⟩, h.nodes, h.links,
            h.ends⟩

/-- Any requests lead to a network that can be exported. -/
theorem portable_run (h : n.Portable s) {requests : List (NetworkRequest α)}
    (hknown : ∀ r ∈ requests, r.Known s) : (n.run requests).Portable s := by
  induction requests generalizing n with
  | nil => exact h
  | cons r rs ih =>
      obtain ⟨hr, hrs⟩ := List.forall_mem_cons.1 hknown
      exact ih (h.answer hr) hrs

end Network

/-! ## What comes back -/

/-- The link with another capacity period. -/
def Link.withPeriod (l : Link α) (period : α) : Link α :=
  { l with capacityPeriod := period }

/-- The node with those of some links listed that end and start at it. -/
def Node.listing (x : Node α) (ls : List (Link α)) : Node α :=
  { x with
    inLinks := Link.endingAt ls x.id
    outLinks := Link.startingAt ls x.id }

/-- The network with links that have its capacity period and with nodes that
list its links. -/
def Network.readBack (n : Network α) : Network α :=
  { n with
    nodes := n.nodes.map (·.listing n.links)
    links := n.links.map (·.withPeriod n.capacityPeriod) }

namespace NetworkFile

variable {n : Network α}

/-- The id that a store gives a text that it holds. -/
def idOf (s : IdStore) (kind : IdKind) (x : String) : Id kind :=
  ⟨(s.texts kind).idxOf x, x⟩

theorem idOf_external (hs : s.Distinct) {kind : IdKind} {id : Id kind}
    (hid : s.Knows id) : idOf s kind id.external = id :=
  IdStore.Knows.ext hs (IdStore.knows_idxOf hid.external_mem) hid rfl

/-- The link of a record under the ids of a store. -/
def linkOf (s : IdStore) (period : α) (r : LinkRecord α) : Link α :=
  ⟨idOf s .link r.id, idOf s .node r.source, idOf s .node r.target, r.length,
    r.capacity, r.freespeed, r.lanes, period⟩

/-- The node of a record with some links listed. -/
def nodeOf (s : IdStore) (ls : List (Link α)) (r : NodeRecord α) : Node α :=
  let id := idOf s .node r.id
  ⟨id, r.x, r.y, Link.endingAt ls id, Link.startingAt ls id⟩

theorem linkOf_linkRecord (hs : s.Distinct) {l : Link α} (hl : l.Known s)
    (period : α) :
    linkOf s period (linkRecord l) = l.withPeriod period := by
  simp only [linkOf, linkRecord, Link.withPeriod, idOf_external hs hl.id,
    idOf_external hs hl.source, idOf_external hs hl.target]

theorem nodeOf_nodeRecord (hs : s.Distinct) {x : Node α} (hx : s.Knows x.id)
    (ls : List (Link α)) : nodeOf s ls (nodeRecord x) = x.listing ls := by
  simp only [nodeOf, nodeRecord, Node.listing, idOf_external hs hx]

/-- The links of a network that was read are told from its file and from the ids
of the store. -/
theorem Loaded.links_eq {f : NetworkFile α} (h : f.Loaded n s) :
    n.links = f.links.map (linkOf s f.capacityPeriod) := by
  rw [← h.links, List.map_map]
  refine (List.map_id _).symm.trans (List.map_congr_left fun l hl => ?_)
  have hknown : l.Known s :=
    ⟨h.linksKnown l hl, (h.endsKnown l hl).1, (h.endsKnown l hl).2⟩
  rw [Function.comp_apply, linkOf_linkRecord h.distinct hknown, ← h.periods l hl]
  rfl

/-- So are its nodes. -/
theorem Loaded.nodes_eq {f : NetworkFile α} (h : f.Loaded n s) :
    n.nodes = f.nodes.map (nodeOf s n.links) := by
  rw [← h.nodes, List.map_map]
  refine (List.map_id _).symm.trans (List.map_congr_left fun x hx => ?_)
  have hid := h.nodesKnown x.id (List.mem_map_of_mem hx)
  rw [Function.comp_apply, nodeOf_nodeRecord h.distinct hid, Node.listing,
    ← h.wired.inLinks x hx, ← h.wired.outLinks x hx]
  rfl

end NetworkFile

namespace Network

open NetworkFile

variable {n : Network α}

/-- The links of a network that comes back end and start at the same nodes. -/
theorem listing_readBack (n : Network α) (x : Node α) :
    x.listing n.readBack.links = x.listing n.links := by
  have hin : Link.endingAt n.readBack.links x.id = Link.endingAt n.links x.id := by
    rw [Link.endingAt, readBack, List.filter_map, List.map_map]
    rfl
  have hout : Link.startingAt n.readBack.links x.id =
      Link.startingAt n.links x.id := by
    rw [Link.startingAt, readBack, List.filter_map, List.map_map]
    rfl
  rw [Node.listing, hin, hout, Node.listing]

namespace Portable

variable (h : n.Portable s)

include h

theorem nodup_nodeNames : ((ofNetwork n).nodes.map (·.id)).Nodup := by
  have hknown : ∀ x ∈ n.nodes, s.Knows x.id := by simpa using h.nodes
  rw [ofNetwork_nodes]
  exact (IdStore.nodup_internal_iff h.distinct hknown).1 h.keyed.nodes

theorem nodup_linkNames : ((ofNetwork n).links.map (·.id)).Nodup := by
  rw [ofNetwork_links]
  exact (IdStore.nodup_internal_iff h.distinct fun l hl => (h.links l hl).id).1
    h.keyed.links

/-- The ends of all links are nodes of the file. -/
theorem fault?_ofNetwork : (ofNetwork n).fault? = none := by
  have hknown : ∀ x ∈ n.nodes, s.Knows x.id := by simpa using h.nodes
  have hname : ∀ id : Id .node, s.Knows id → (n.node? id).isSome = true →
      id.external ∈ (ofNetwork n).nodeNames := by
    intro id hid hnode
    rw [nodeNames, ofNetwork_nodes]
    exact (IdStore.isSome_find?_same_iff h.distinct hknown hid).1 hnode
  refine fault?_eq_none_iff.2 fun r hr => ?_
  obtain ⟨l, hl, rfl⟩ := List.mem_map.1 hr
  exact ⟨hname _ (h.links l hl).source (h.ends l hl).1,
    hname _ (h.links l hl).target (h.ends l hl).2⟩

/-- A network comes back with links that have its capacity period and with nodes
that list its links. -/
theorem toNetwork_ofNetwork :
    ∃ t, (ofNetwork n).toNetwork s = .ok (n.readBack, t) := by
  have hread := settles_toNetwork (ofNetwork n) h.distinct h.nodup_nodeNames
    h.nodup_linkNames
  obtain ⟨⟨m, t⟩, hm⟩ := hread.ok_iff.2 h.fault?_ofNetwork
  have hloaded := hread.of_ok hm
  have hgrows := grows_toNetwork hm
  have hlinks : m.links = n.readBack.links := by
    rw [hloaded.links_eq, ofNetwork, List.map_map]
    exact List.map_congr_left fun l hl =>
      linkOf_linkRecord hloaded.distinct ((h.links l hl).mono hgrows) _
  have hnodes : m.nodes = n.readBack.nodes := by
    rw [hloaded.nodes_eq, hlinks, ofNetwork, List.map_map]
    refine List.map_congr_left fun x hx => ?_
    have hid := (h.nodes x.id (List.mem_map_of_mem hx)).mono hgrows
    rw [Function.comp_apply, nodeOf_nodeRecord hloaded.distinct hid,
      listing_readBack]
  have hback : m = n.readBack :=
    calc
      m = ⟨m.nodes, m.links, m.capacityPeriod, m.cellSize⟩ := rfl
      _ = n.readBack := by
        rw [hnodes, hlinks, hloaded.capacityPeriod, hloaded.cellSize]
        rfl
  exact ⟨t, hback ▸ hm⟩

end Portable

/-! ## The same nodes -/

/-- None of some requests is refused. -/
def Accepted : Network α → List (NetworkRequest α) → Prop
  | _, [] => True
  | n, r :: rs => (n.answer r).2 = none ∧ Accepted (n.answer r).1 rs

theorem Accepted.endsFound {requests : List (NetworkRequest α)}
    (h : n.Accepted requests) : n.EndsFound requests := by
  induction requests generalizing n with
  | nil => trivial
  | cons r rs ih =>
      refine ⟨?_, ih h.2⟩
      rintro ⟨link, -, -, hfault⟩
      exact absurd (h.1.symm.trans hfault) (Option.some_ne_none _).symm

/-- If no node has been added with links and no link was refused for its end,
the nodes list the links of the network. -/
theorem nodes_readBack_built [Quantity α] {requests : List (NetworkRequest α)}
    (hfresh : ∀ r ∈ requests, r.Fresh) (hends : empty.EndsFound requests) :
    (built requests).readBack.nodes = (built requests).nodes := by
  have hwired : (built requests).Wired ([] ++ empty.begun requests) :=
    wired_run (wired_of_empty rfl rfl) hfresh
  have hlinks : (built requests).links = [] ++ empty.begun requests :=
    links_run hends
  rw [← hlinks] at hwired
  refine (List.map_congr_left fun x hx => ?_).trans (List.map_id _)
  rw [Node.listing, ← hwired.inLinks x hx, ← hwired.outLinks x hx]
  rfl

end Network

/-! ## The same room -/

/-- What a segment has room for. -/
structure Room (α : Type) where
  length : α
  lanes : α
  storage : α
deriving Repr, DecidableEq

/-- What a link and its segments have room for. -/
structure LinkRoom (α : Type) where
  link : Id .link
  space : α
  trunk : Room α
  lanes : List (Id .lane × Room α)
deriving Repr, DecidableEq

def Segment.room (segment : Segment α) : Room α :=
  ⟨segment.length, segment.lanes, segment.storage⟩

/-- The capacities of a link without the flows. -/
def LinkCapacity.room (c : LinkCapacity α) : LinkRoom α :=
  ⟨c.link, c.space, c.trunk.room, c.lanes.map fun l => (l.lane, l.segment.room)⟩

variable [Quantity α]

/-- The room on a link does not depend on the period of its capacity. -/
theorem Link.room_allocate (link : Link α) (period : α)
    (lanes : Option (LaneAssignment α)) (f : Factors α) :
    ((link.withPeriod period).allocate lanes f).room =
      (link.allocate lanes f).room := by
  cases lanes with
  | none => rfl
  | some a =>
      have hlanes : ∀ flow : α, (a.lanes.map (·.allocate flow link.lanes f)).map
          (fun l => (l.lane, l.segment.room)) =
          a.lanes.map fun l => (l.id, ⟨l.start, l.representedLanes,
            f.storageCapacity l.start l.representedLanes⟩) := by
        intro flow
        rw [List.map_map]
        rfl
      have hstorage : ∀ flow : α, (a.lanes.map (·.allocate flow link.lanes f)).map
          (·.segment.storage) =
          a.lanes.map fun l => f.storageCapacity l.start l.representedLanes := by
        intro flow
        rw [List.map_map]
        rfl
      simp only [Link.allocate, LinkCapacity.room, Link.withPeriod, hlanes, hstorage]
      rfl

/-- What is found about lanes does not depend on periods. -/
theorem LaneRegistry.findings_readBack (r : LaneRegistry α) (n : Network α) :
    r.findings n.readBack = r.findings n := by
  refine List.flatMap_congr fun a _ => ?_
  have hlink : n.readBack.link? a.link =
      (n.link? a.link).map (·.withPeriod n.capacityPeriod) := by
    rw [Network.link?, Network.readBack, List.find?_map]
    rfl
  rw [findingsOf, findingsOf, hlink]
  cases n.link? a.link with
  | none => rfl
  | some link => rfl

namespace CapacityTable

variable (n : Network α) (lanes : Option (LaneRegistry α)) (config : Config α)

theorem objections_readBack :
    objections n.readBack lanes config = objections n lanes config := by
  simp only [objections, LaneRegistry.findings_readBack]

/-- The entry of a link whose capacity refers to the period of the network. -/
def entryOf (link : Link α) : LinkCapacity α :=
  (link.withPeriod n.capacityPeriod).allocate (lanesFor lanes config link.id)
    (.ofScaling config.simulation n.cellSize)

theorem entries_readBack : (allocate n.readBack lanes config).entries =
    n.links.map (entryOf n lanes config) := by
  rw [entries_allocate, Network.readBack, List.map_map]
  rfl

variable {n lanes config}

theorem entryOf_eq {link : Link α} (h : link.capacityPeriod = n.capacityPeriod) :
    entryOf n lanes config link = link.allocate (lanesFor lanes config link.id)
      (.ofScaling config.simulation n.cellSize) := by
  rw [entryOf, ← h]
  rfl

theorem map_room_entryOf : (n.links.map (entryOf n lanes config)).map (·.room) =
    (allocate n lanes config).entries.map (·.room) := by
  rw [entries_allocate, List.map_map, List.map_map]
  exact List.map_congr_left fun link _ => link.room_allocate ..

/-- What capacities a network has beside another, of which it has all but the
periods of its links. -/
structure Agrees (m n : Network α) (lanes : Option (LaneRegistry α))
    (config : Config α) : Prop where
  error_iff : ∀ found, compute m lanes config = .error found ↔
    compute n lanes config = .error found
  ok : ∀ t, compute n lanes config = .ok t → ∃ t',
    compute m lanes config = .ok t' ∧
    t'.entries = n.links.map (entryOf n lanes config) ∧
    t'.entries.map (·.room) = t.entries.map (·.room) ∧
    ∀ (i : Nat) (link : Link α), n.links[i]? = some link →
      link.capacityPeriod = n.capacityPeriod → t'.entries[i]? = t.entries[i]?
  compute_eq : (∀ link ∈ n.links, link.capacityPeriod = n.capacityPeriod) →
    compute m lanes config = compute n lanes config

/-- What comes back has the same capacities but for flows, and the same flows
where the periods were those of the network. -/
theorem agrees_readBack (n : Network α) (lanes : Option (LaneRegistry α))
    (config : Config α) : Agrees n.readBack n lanes config where
  error_iff found := by
    simp only [compute_eq_error_iff, Blocked, LaneRegistry.findings_readBack]
  ok t ht := by
    obtain ⟨hobjections, rfl⟩ := compute_eq_ok_iff.1 ht
    rw [← objections_readBack] at hobjections
    refine ⟨_, compute_eq_ok hobjections, entries_readBack n lanes config, ?_, ?_⟩
    · rw [entries_readBack, map_room_entryOf]
    · intro i link hlink hperiod
      rw [entries_readBack, entries_allocate, List.getElem?_map, List.getElem?_map,
        hlink, Option.map_some, Option.map_some, entryOf_eq hperiod]
  compute_eq hperiods := by
    have hentries : (allocate n.readBack lanes config).entries =
        (allocate n lanes config).entries := by
      rw [entries_readBack, entries_allocate]
      exact List.map_congr_left fun link hlink => entryOf_eq (hperiods link hlink)
    have hallocate : allocate n.readBack lanes config = allocate n lanes config :=
      congrArg CapacityTable.mk hentries
    rw [compute, compute, objections_readBack, hallocate]

end CapacityTable

/-! ## From the outside -/

namespace Network

/-- What a network is that comes back for another. -/
structure Returns (n m : Network α) : Prop where
  nodes_eq : m.nodes = n.nodes.map (·.listing n.links)
  links_eq : m.links = n.links.map (·.withPeriod n.capacityPeriod)
  capacityPeriod_eq : m.capacityPeriod = n.capacityPeriod
  cellSize_eq : m.cellSize = n.cellSize

/-- **A network that was exported comes back with its own capacity period on all
links.**  Let a network be built by any requests whose ids have been created.
Then what is exported can be read again, and gives the same nodes, and the same
links but for their periods.  The nodes list what they listed before, if none of
the requests was refused and no node was added with links.  Whether there is a
table of capacities is the same, and if there is one it has the same room on all
segments and the flows of the network's period; so where a link had that period
all its capacities are the same, and if all links had it the tables are. -/
theorem built_comes_back (requests : List (NetworkRequest α))
    (earlier : List (IdKind × String))
    (hknown : ∀ r ∈ requests, r.Known (.after earlier)) :
    let n := built requests
    ∃ m s, (NetworkFile.ofNetwork n).toNetwork (.after earlier) = .ok (m, s) ∧
      n.Returns m ∧
      ((∀ r ∈ requests, r.Fresh) → empty.Accepted requests →
        m.nodes = n.nodes) ∧
      ∀ lanes config, CapacityTable.Agrees m n lanes config := by
  intro n
  have hportable : n.Portable (.after earlier) :=
    portable_run (portable_empty (IdStore.distinct_after earlier)) hknown
  obtain ⟨s, hread⟩ := hportable.toNetwork_ofNetwork
  exact ⟨n.readBack, s, hread, ⟨rfl, rfl, rfl, rfl⟩,
    fun hfresh haccepted => nodes_readBack_built hfresh haccepted.endsFound,
    fun lanes config => CapacityTable.agrees_readBack n lanes config⟩

/-- A road whose capacity is counted by the minute, in a network that counts by
the hour, and one that is counted as the network does. -/
def minutes : List (NetworkRequest Rat) :=
  [.addNode { id := ⟨0, "a"⟩, x := 0, y := 0 },
    .addNode { id := ⟨1, "b"⟩, x := 100, y := 0 },
    .addLink ⟨⟨0, "ab"⟩, ⟨0, "a"⟩, ⟨1, "b"⟩, 100, 60, 10, 1, 60⟩,
    .createLink ⟨1, "ba"⟩ ⟨1, "b"⟩ ⟨0, "a"⟩ 100 3600 10 1]

/-- The names that the requests use. -/
def minuteIds : List (IdKind × String) :=
  [(.node, "a"), (.link, "ab"), (.node, "b"), (.link, "ba")]

theorem minutes_accepted : (empty : Network Rat).Accepted minutes :=
  ⟨by decide +kernel, by decide +kernel, by decide +kernel, by decide +kernel, trivial⟩

/-- The network comes back with the same nodes.  The capacity of one road is
counted by the hour now and that of the other as before; both have room for the
same vehicles. -/
theorem built_comes_back_minutes :
    (∀ r ∈ minutes, r.Known (.after minuteIds)) ∧
    ∃ m s t, (NetworkFile.ofNetwork (built minutes)).toNetwork
        (.after minuteIds) = .ok (m, s) ∧
      m.nodes = (built minutes).nodes ∧
      m.links.map (·.capacityPeriod) = [3600, 3600] ∧
      CapacityTable.compute m none {} = .ok t ∧
      t.entries.map (·.flow) = [1 / 60, 1] ∧
      t.entries.map (·.room.space) = [100 / 7.5, 100 / 7.5] := by
  have hknown : ∀ r ∈ minutes, r.Known (.after minuteIds) := by decide +kernel
  obtain ⟨m, s, hread, hreturns, hnodes, hagrees⟩ :=
    built_comes_back minutes minuteIds hknown
  obtain ⟨t, ht, hentries, -⟩ := (hagrees none {}).ok _
    (CapacityTable.compute_eq_ok rfl)
  refine ⟨hknown, m, s, t, hread, hnodes (by decide) minutes_accepted, ?_, ht,
    ?_, ?_⟩
  · rw [hreturns.links_eq]
    decide +kernel
  · rw [hentries]
    decide +kernel
  · rw [hentries]
    decide +kernel

/-- A node that lists a link when it is added. -/
def listed : List (NetworkRequest Rat) :=
  [.addNode { id := ⟨0, "a"⟩, x := 0, y := 0, outLinks := [⟨0, "ab"⟩] }]

/-- The road that was counted by the minute does not come back as it was, and
its flow is another.  Neither does a node that was added with a link. -/
theorem minutes_come_back_changed :
    ((∀ r ∈ minutes, r.Known (.after minuteIds)) ∧ (∀ r ∈ minutes, r.Fresh) ∧
      (empty : Network Rat).Accepted minutes ∧
      ∀ m s, (NetworkFile.ofNetwork (built minutes)).toNetwork
          (.after minuteIds) = .ok (m, s) →
        m.links ≠ (built minutes).links ∧
        CapacityTable.compute m none {} ≠
          CapacityTable.compute (built minutes) none {}) ∧
    (∀ r ∈ listed, r.Known (.after minuteIds)) ∧
    (empty : Network Rat).Accepted listed ∧
    ∀ m s, (NetworkFile.ofNetwork (built listed)).toNetwork
        (.after minuteIds) = .ok (m, s) → m.nodes ≠ (built listed).nodes := by
  have hknown : ∀ r ∈ minutes, r.Known (.after minuteIds) := by decide +kernel
  have hlisted : ∀ r ∈ listed, r.Known (.after minuteIds) := by decide +kernel
  have hread : ∀ requests : List (NetworkRequest Rat),
      (∀ r ∈ requests, r.Known (.after minuteIds)) → ∀ m s,
      (NetworkFile.ofNetwork (built requests)).toNetwork (.after minuteIds) =
        .ok (m, s) → m = (built requests).readBack := by
    intro requests hrequests m s hm
    have hportable : (built requests).Portable (.after minuteIds) :=
      portable_run (portable_empty (IdStore.distinct_after minuteIds)) hrequests
    obtain ⟨t, ht⟩ := hportable.toNetwork_ofNetwork
    exact (Prod.mk.inj (Except.ok.inj (hm.symm.trans ht))).1
  refine ⟨⟨hknown, by decide, minutes_accepted, fun m s hm => ?_⟩, hlisted,
    ⟨by decide +kernel, trivial⟩, fun m s hm => ?_⟩
  · obtain rfl := hread minutes hknown m s hm
    refine ⟨by decide +kernel, fun hsame => ?_⟩
    rw [CapacityTable.compute_eq_ok rfl, CapacityTable.compute_eq_ok rfl] at hsame
    exact absurd (Except.ok.inj hsame) (by decide +kernel)
  · obtain rfl := hread listed hlisted m s hm
    decide +kernel

end Network

end LaneFlow
