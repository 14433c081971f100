import LaneFlow.Proofs.Indexed
import LaneFlow.Proofs.Road.Wiring

/-!
# Networks with indexes

A network that only has its nodes and links must search them for each id.  An
`IndexedNetwork` has the places of both, and what it is asked for it does in
steps, any of which may stop it: it looks whether the id of a link has a place,
changes the node at the place of the start, then the one at the place of the
end, and writes down the place of the link last.  When it is stopped it is left
as it is at that moment (`NetworkChange`).

The places stay right all the same (`IndexedNetwork.Right`), and what the
network is asked for comes out as it does without indexes (`Right.answer`).  In
particular no place ever leads out of a list, and a link that was added is
found.

## Main results

* `Right.changeNode`, `Right.addLink` — what one step does.
* `Right.answer`, `Right.run` — what comes of a request, and of any requests.
* `built_consistent` — the nodes and links of a network that was built by any
  requests, and how they are found.
-/

namespace LaneFlow

/-- What stops a computation on lists with places. -/
inductive Halt (φ : Type) where
  | refused (fault : φ)
  /-- A place leads out of its list. -/
  | astray
deriving Repr, DecidableEq

/-- Nodes and links with their places, and what holds for all of them. -/
structure IndexedNetwork (α : Type) where
  nodes : Indexed (Node α) := {}
  links : Indexed (Link α) := {}
  capacityPeriod : α
  cellSize : α

/-- The network as a step leaves it, and what has stopped the step if anything
has. -/
abbrev NetworkChange (α : Type) :=
  IndexedNetwork α × Option (Halt NetworkFault)

/-- One step after the other, unless the first is stopped. -/
def NetworkChange.andThen {α : Type} (x : NetworkChange α)
    (step : IndexedNetwork α → NetworkChange α) : NetworkChange α :=
  match x with
  | (n, none) => step n
  | (n, some stop) => (n, some stop)

namespace IndexedNetwork

variable {α : Type}

/-- A network without nodes and links. -/
def empty [Quantity α] : IndexedNetwork α :=
  { capacityPeriod := defaultCapacityPeriod, cellSize := defaultCellSize }

/-- The node with an id, if the id has a place. -/
def node? (n : IndexedNetwork α) (id : Id .node) : Option (Option (Node α)) :=
  n.nodes.get? id

/-- The link with an id, if the id has a place. -/
def link? (n : IndexedNetwork α) (id : Id .link) : Option (Option (Link α)) :=
  n.links.get? id

/-- Adds a node, unless its id has a place. -/
def addNode (n : IndexedNetwork α) (node : Node α) : NetworkChange α :=
  match n.nodes.places node.id.internal with
  | some _ => (n, some (.refused (.nodeExists node.id)))
  | none => ({ n with nodes := n.nodes.push node.id node }, none)

/-- Changes the node at the place of an id, which must have one. -/
def changeNode (n : IndexedNetwork α) (id : Id .node) (f : Node α → Node α) :
    NetworkChange α :=
  match n.nodes.places id.internal with
  | none => (n, some (.refused (.nodeMissing id)))
  | some i =>
    match n.nodes.items[i]? with
    | none => (n, some .astray)
    | some x =>
      ({ n with nodes := { n.nodes with items := n.nodes.items.set i (f x) } },
        none)

/-- Adds a link, unless its id has a place, after it has been entered at its two
ends. -/
def addLink (n : IndexedNetwork α) (link : Link α) : NetworkChange α :=
  match n.links.places link.id.internal with
  | some _ => (n, some (.refused (.linkExists link.id)))
  | none =>
    ((n.changeNode link.source (·.withOut link.id)).andThen
      (·.changeNode link.target (·.withIn link.id))).andThen
        fun n => ({ n with links := n.links.push link.id link }, none)

/-- Looks up the link of an id, which must have a place. -/
def seekLink (n : IndexedNetwork α) (id : Id .link) : NetworkChange α :=
  match n.link? id with
  | none => (n, some (.refused (.linkMissing id)))
  | some none => (n, some .astray)
  | some (some _) => (n, none)

/-- Adds a link whose capacity refers to the period of the network, and looks it
up. -/
def createLink (n : IndexedNetwork α) (id : Id .link) (source target : Id .node)
    (length capacity freespeed lanes : α) : NetworkChange α :=
  (n.addLink ⟨id, source, target, length, capacity, freespeed, lanes,
    n.capacityPeriod⟩).andThen (·.seekLink id)

/-- What comes of a request. -/
def answer (n : IndexedNetwork α) : NetworkRequest α → NetworkChange α
  | .addNode node => n.addNode node
  | .addLink link => n.addLink link
  | .createLink id source target length capacity freespeed lanes =>
    n.createLink id source target length capacity freespeed lanes
  | .setPeriod period => ({ n with capacityPeriod := period }, none)
  | .setCellSize size => ({ n with cellSize := size }, none)

/-- The network after some requests, whether they were stopped or not. -/
def run (n : IndexedNetwork α) (requests : List (NetworkRequest α)) :
    IndexedNetwork α :=
  requests.foldl (fun n r => (n.answer r).1) n

/-- The network that some requests build out of nothing. -/
def built [Quantity α] (requests : List (NetworkRequest α)) :
    IndexedNetwork α :=
  empty.run requests

/-- The link that a request wants to add, if any. -/
def wanted? (n : IndexedNetwork α) : NetworkRequest α → Option (Link α)
  | .addLink link => some link
  | .createLink id source target length capacity freespeed lanes =>
    some ⟨id, source, target, length, capacity, freespeed, lanes,
      n.capacityPeriod⟩
  | _ => none

/-- The link that a request begins: it is new and its start is there. -/
def begins? (n : IndexedNetwork α) (r : NetworkRequest α) : Option (Link α) :=
  (n.wanted? r).filter fun link =>
    (n.link? link.id).isNone && (n.node? link.source).isSome

/-- The links that some requests begin, in the order of the requests. -/
def begun (n : IndexedNetwork α) : List (NetworkRequest α) → List (Link α)
  | [] => []
  | r :: rs => (n.begins? r).toList ++ (n.answer r).1.begun rs

/-- A request is stopped because a link has no end, after its start has been
found. -/
def Strands (n : IndexedNetwork α) (r : NetworkRequest α) : Prop :=
  ∃ link, n.wanted? r = some link ∧ (n.node? link.source).isSome ∧
    (n.answer r).2 = some (.refused (.nodeMissing link.target))

/-- None of some requests is stopped because a link has no end. -/
def EndsFound : IndexedNetwork α → List (NetworkRequest α) → Prop
  | _, [] => True
  | n, r :: rs => ¬ n.Strands r ∧ EndsFound (n.answer r).1 rs

/-! ## Without indexes -/

/-- What the network has besides places. -/
def plain (n : IndexedNetwork α) : Network α :=
  ⟨n.nodes.items, n.links.items, n.capacityPeriod, n.cellSize⟩

/-- The places of nodes and links are right. -/
structure Right (n : IndexedNetwork α) : Prop where
  nodes : n.nodes.Right Node.id
  links : n.links.Right Link.id

/-- A step leaves a network with right places, and neither this network nor what
has stopped the step depends on places. -/
structure Leaves (x : NetworkChange α) (out : Network α × Option NetworkFault) :
    Prop where
  right : x.1.Right
  plain_eq : x.1.plain = out.1
  stop_eq : x.2 = out.2.map .refused

theorem right_empty [Quantity α] : (empty : IndexedNetwork α).Right :=
  ⟨Indexed.right_empty _, Indexed.right_empty _⟩

variable {n : IndexedNetwork α}

theorem Right.keyed (h : n.Right) : n.plain.Keyed :=
  ⟨h.nodes.nodup, h.links.nodup⟩

theorem Right.node?_eq (h : n.Right) (id : Id .node) :
    n.node? id = (n.plain.node? id).map some :=
  h.nodes.get?_eq id

theorem Right.link?_eq (h : n.Right) (id : Id .link) :
    n.link? id = (n.plain.link? id).map some :=
  h.links.get?_eq id

/-- A step that does nothing leaves the network. -/
theorem Right.leaves (h : n.Right) (fault : Option NetworkFault) :
    Leaves (n, fault.map .refused) (n.plain, fault) :=
  ⟨h, rfl, rfl⟩

/-! ## One request -/

theorem Right.addNode (h : n.Right) (node : Node α) :
    Leaves (n.addNode node) (n.plain.addNode node) := by
  cases hplace : n.nodes.places node.id.internal with
  | some i =>
      obtain ⟨x, -, -, hfind⟩ := h.nodes.find?_of_place hplace
      have hnode : n.plain.node? node.id = some x := hfind
      have hlist : n.plain.addNode node =
          (n.plain, some (.nodeExists node.id)) := by
        simp [Network.addNode, hnode]
      rw [IndexedNetwork.addNode, hplace, hlist]
      exact h.leaves (some (.nodeExists node.id))
  | none =>
      have hnode : n.plain.node? node.id = none :=
        h.nodes.find?_of_no_place hplace
      rw [IndexedNetwork.addNode, hplace, Network.addNode_of_new hnode]
      exact ⟨⟨h.nodes.push hplace, h.links⟩, rfl, rfl⟩

/-- A node that is there is changed. -/
theorem Right.changeNode (h : n.Right) {id : Id .node} {f : Node α → Node α}
    (hf : ∀ x, (f x).id = x.id) (hnode : (n.plain.node? id).isSome) :
    Leaves (n.changeNode id f) (n.plain.mapNode id f, none) := by
  cases hplace : n.nodes.places id.internal with
  | none =>
      have hnone : n.plain.node? id = none := h.nodes.find?_of_no_place hplace
      simp [hnone] at hnode
  | some i =>
      obtain ⟨x, hx, -, -⟩ := h.nodes.find?_of_place hplace
      have hset := h.nodes.set_eq_map hplace hx f
      rw [IndexedNetwork.changeNode, hplace]
      simp only [hx, hset]
      refine ⟨⟨h.nodes.of_map_eq ?_, h.links⟩, rfl, rfl⟩
      exact Network.map_mapNode n.plain id hf

/-- A node that is not there is missed. -/
theorem Right.changeNode_of_none (h : n.Right) {id : Id .node}
    (f : Node α → Node α) (hnode : n.plain.node? id = none) :
    n.changeNode id f = (n, some (.refused (.nodeMissing id))) := by
  cases hplace : n.nodes.places id.internal with
  | none => rw [IndexedNetwork.changeNode, hplace]
  | some i =>
      obtain ⟨x, -, -, hfind⟩ := h.nodes.find?_of_place hplace
      have hsome : n.plain.node? id = some x := hfind
      exact nomatch hnode.symm.trans hsome

/-- Of two steps the second follows if the first is done. -/
theorem Leaves.andThen {x : NetworkChange α} {m : Network α}
    {out : Network α × Option NetworkFault} (hx : Leaves x (m, none))
    {step : IndexedNetwork α → NetworkChange α}
    (hstep : ∀ n : IndexedNetwork α, n.Right → n.plain = m →
      Leaves (step n) out) : Leaves (x.andThen step) out := by
  obtain ⟨k, stop⟩ := x
  obtain rfl : stop = none := hx.stop_eq
  exact hstep k hx.right hx.plain_eq

/-- Nothing follows a step that is stopped. -/
theorem Leaves.andThen_of_some {x : NetworkChange α} {m : Network α}
    {fault : NetworkFault} (hx : Leaves x (m, some fault))
    (step : IndexedNetwork α → NetworkChange α) :
    Leaves (x.andThen step) (m, some fault) := by
  obtain ⟨k, stop⟩ := x
  obtain rfl : stop = some (.refused fault) := hx.stop_eq
  exact hx

/-- A new link is put in its place last. -/
theorem Leaves.push {x : NetworkChange α} {m : Network α}
    (hx : Leaves x (m, none)) {link : Link α} (hlink : m.link? link.id = none) :
    Leaves
      (x.andThen fun n => ({ n with links := n.links.push link.id link }, none))
      ({ m with links := m.links ++ [link] }, none) := by
  refine hx.andThen fun k hk hplain => ?_
  subst hplain
  have hnew := hk.links.places_eq_none_iff.2 hlink
  exact ⟨⟨hk.nodes, hk.links.push hnew⟩, rfl, rfl⟩

/-- A link is entered at its two ends before it is put in its place. -/
theorem Right.addLink (h : n.Right) (link : Link α) :
    Leaves (n.addLink link) (n.plain.addLink link) := by
  have hadding := Network.adding n.plain link
  generalize n.plain.addLink link = out at hadding
  cases hplace : n.links.places link.id.internal with
  | some i =>
      obtain ⟨l, -, -, hfind⟩ := h.links.find?_of_place hplace
      have hlink : n.plain.link? link.id = some l := hfind
      rw [IndexedNetwork.addLink, hplace]
      cases hadding with
      | known => exact h.leaves (some (.linkExists link.id))
      | noStart hnone => exact nomatch hnone.symm.trans hlink
      | noEnd hnone => exact nomatch hnone.symm.trans hlink
      | done hnone => exact nomatch hnone.symm.trans hlink
  | none =>
      have hlink : n.plain.link? link.id = none :=
        h.links.find?_of_no_place hplace
      have hstarted := Network.isSome_node?_started n.plain link link.target
      rw [IndexedNetwork.addLink, hplace]
      cases hadding with
      | known hknown => simp [hlink] at hknown
      | noStart _ hsource =>
          rw [h.changeNode_of_none _ hsource]
          exact h.leaves (some (.nodeMissing link.source))
      | noEnd _ hsource htarget =>
          have hstart : Leaves (n.changeNode link.source (·.withOut link.id))
              (n.plain.started link, none) :=
            h.changeNode (fun _ => rfl) hsource
          refine Leaves.andThen_of_some (hstart.andThen fun m hm hplain => ?_) _
          have hmissing : m.plain.node? link.target = none := by
            rw [hplain, ← Option.not_isSome_iff_eq_none, hstarted, htarget]
            simp
          rw [hm.changeNode_of_none _ hmissing]
          exact ⟨hm, hplain, rfl⟩
      | done _ hsource htarget =>
          have hstart : Leaves (n.changeNode link.source (·.withOut link.id))
              (n.plain.started link, none) :=
            h.changeNode (fun _ => rfl) hsource
          refine Leaves.push (hstart.andThen fun m hm hplain => ?_) hlink
          have hfound : (m.plain.node? link.target).isSome :=
            hplain ▸ hstarted.trans htarget
          exact hplain ▸ hm.changeNode (fun _ => rfl) hfound

/-- A link that is there is found. -/
theorem Right.seekLink (h : n.Right) {id : Id .link}
    (hlink : (n.plain.link? id).isSome) :
    Leaves (n.seekLink id) (n.plain, none) := by
  obtain ⟨l, hl⟩ := Option.isSome_iff_exists.1 hlink
  rw [IndexedNetwork.seekLink, h.link?_eq, hl]
  exact h.leaves none

/-- A link that has been added is found then. -/
theorem Right.addLink_seekLink (h : n.Right) (link : Link α) :
    Leaves ((n.addLink link).andThen (·.seekLink link.id))
      (n.plain.addLink link) := by
  have hadd := h.addLink link
  have hadding := Network.adding n.plain link
  generalize n.plain.addLink link = out at hadd hadding ⊢
  cases hadding with
  | known => exact hadd.andThen_of_some _
  | noStart => exact hadd.andThen_of_some _
  | noEnd => exact hadd.andThen_of_some _
  | done =>
      refine hadd.andThen fun m hm hplain => hplain ▸ hm.seekLink ?_
      have hmem : link ∈ m.plain.links :=
        hplain ▸ List.mem_append_right _ List.mem_cons_self
      exact List.find?_isSome.2 ⟨link, hmem, link.id.same_self⟩

/-- A request is answered as it is without places. -/
theorem Right.answer (h : n.Right) (r : NetworkRequest α) :
    Leaves (n.answer r) (n.plain.answer r) := by
  cases r with
  | addNode node => exact h.addNode node
  | addLink link => exact h.addLink link
  | createLink id source target length capacity freespeed lanes =>
      exact h.addLink_seekLink ⟨id, source, target, length, capacity, freespeed,
        lanes, n.capacityPeriod⟩
  | setPeriod period => exact ⟨⟨h.nodes, h.links⟩, rfl, rfl⟩
  | setCellSize size => exact ⟨⟨h.nodes, h.links⟩, rfl, rfl⟩

/-! ## Any requests -/

theorem Right.run (h : n.Right) (requests : List (NetworkRequest α)) :
    (n.run requests).Right ∧ (n.run requests).plain = n.plain.run requests := by
  induction requests generalizing n with
  | nil => exact ⟨h, rfl⟩
  | cons r rs ih =>
      obtain ⟨hright, hplain⟩ := ih (h.answer r).right
      rw [(h.answer r).plain_eq] at hplain
      exact ⟨hright, hplain⟩

theorem right_built [Quantity α] (requests : List (NetworkRequest α)) :
    (built requests).Right :=
  (right_empty.run requests).1

/-- Any requests build what they build without places. -/
theorem plain_built [Quantity α] (requests : List (NetworkRequest α)) :
    (built requests).plain = .built requests :=
  (right_empty.run requests).2

theorem wanted?_eq (r : NetworkRequest α) :
    n.wanted? r = n.plain.wanted? r := by
  cases r <;> rfl

/-- The same links are begun. -/
theorem Right.begins?_eq (h : n.Right) (r : NetworkRequest α) :
    n.begins? r = n.plain.begins? r := by
  simp only [begins?, Network.begins?, wanted?_eq, h.link?_eq, h.node?_eq,
    Option.isNone_map, Option.isSome_map]

theorem Right.begun_eq (h : n.Right) (requests : List (NetworkRequest α)) :
    n.begun requests = n.plain.begun requests := by
  induction requests generalizing n with
  | nil => rfl
  | cons r rs ih =>
      rw [begun, Network.begun, h.begins?_eq, ih (h.answer r).right,
        (h.answer r).plain_eq]

/-- The same requests are stopped because a link has no end. -/
theorem Right.strands_iff (h : n.Right) (r : NetworkRequest α) :
    n.Strands r ↔ n.plain.Strands r := by
  have hstop : ∀ fault, (n.answer r).2 = some (.refused fault) ↔
      (n.plain.answer r).2 = some fault := by
    intro fault
    rw [(h.answer r).stop_eq]
    cases (n.plain.answer r).2 <;> simp
  simp only [Strands, Network.Strands, wanted?_eq, h.node?_eq,
    Option.isSome_map, hstop]

theorem Right.endsFound_iff (h : n.Right) (requests : List (NetworkRequest α)) :
    n.EndsFound requests ↔ n.plain.EndsFound requests := by
  induction requests generalizing n with
  | nil => exact Iff.rfl
  | cons r rs ih =>
      rw [EndsFound, Network.EndsFound, h.strands_iff, ih (h.answer r).right,
        (h.answer r).plain_eq]

/-! ## From the outside -/

/-- How the nodes and links of a network belong together, and how they are
found. -/
structure Consistent (n : IndexedNetwork α) : Prop where
  nodes_distinct : (n.nodes.items.map (·.id.internal)).Nodup
  links_distinct : (n.links.items.map (·.id.internal)).Nodup
  node?_eq_some_iff : ∀ id x, n.node? id = some (some x) ↔
    x ∈ n.nodes.items ∧ x.id.same id = true
  node?_eq_none_iff : ∀ id,
    n.node? id = none ↔ ∀ x ∈ n.nodes.items, ¬ x.id.same id
  link?_eq_some_iff : ∀ id link, n.link? id = some (some link) ↔
    link ∈ n.links.items ∧ link.id.same id = true
  link?_eq_none_iff : ∀ id,
    n.link? id = none ↔ ∀ link ∈ n.links.items, ¬ link.id.same id
  /-- No place leads out of its list. -/
  not_astray : (∀ id, n.node? id ≠ some none) ∧ (∀ id, n.link? id ≠ some none) ∧
    ∀ r, (n.answer r).2 ≠ some .astray
  source_mem : ∀ link ∈ n.links.items,
    ∃ x ∈ n.nodes.items, x.id.same link.source = true
  target_mem : ∀ link ∈ n.links.items,
    ∃ x ∈ n.nodes.items, x.id.same link.target = true
  inLinks_eq : ∀ x ∈ n.nodes.items,
    x.inLinks = Link.endingAt n.links.items x.id
  outLinks_sublist : ∀ x ∈ n.nodes.items,
    (Link.startingAt n.links.items x.id).Sublist x.outLinks

/-- With right places a lookup finds what has the id. -/
theorem Right.consistent (h : n.Right) {ls : List (Link α)}
    (hwired : n.plain.Wired ls) : n.Consistent where
  nodes_distinct := h.nodes.nodup
  links_distinct := h.links.nodup
  node?_eq_some_iff _ _ := h.nodes.get?_eq_some_iff
  node?_eq_none_iff _ := h.nodes.get?_eq_none_iff
  link?_eq_some_iff _ _ := h.links.get?_eq_some_iff
  link?_eq_none_iff _ := h.links.get?_eq_none_iff
  not_astray := ⟨h.nodes.get?_ne_astray, h.links.get?_ne_astray,
    fun r => by simp [(h.answer r).stop_eq]⟩
  source_mem link hlink :=
    List.find?_isSome.1 (hwired.starts link (hwired.links.subset hlink))
  target_mem link hlink := List.find?_isSome.1 (hwired.ends link hlink)
  inLinks_eq := hwired.inLinks
  outLinks_sublist x hx := by
    rw [hwired.outLinks x hx]
    exact (hwired.links.filter _).map _

/-- **A network stays consistent, whatever is asked of it.**  Let a network be
built by any requests, some of which may be stopped on the way, so long as the
nodes that are to be added list no links.  Then its nodes and links have
distinct ids and are found by them, links start and end at nodes of the network,
and a node lists the links that end at it, in their order.  It also lists all
links that have been begun at it, and these are just the links that start at it
if none was stopped because it has no end.  The places of nodes and links are
right in any case: no lookup is led astray, and no further request is. -/
theorem built_consistent [Quantity α] (requests : List (NetworkRequest α))
    (hfresh : ∀ r ∈ requests, r.Fresh) :
    (built requests).Consistent ∧
    (∀ x ∈ (built requests).nodes.items,
      x.outLinks = Link.startingAt (empty.begun requests) x.id) ∧
    (empty.EndsFound requests → ∀ x ∈ (built requests).nodes.items,
      x.outLinks = Link.startingAt (built requests).links.items x.id) := by
  have hwired : (Network.empty.run requests).Wired
      ([] ++ Network.empty.begun requests) :=
    Network.wired_run (Network.wired_of_empty rfl rfl) hfresh
  have hplain : (built requests).plain = Network.empty.run requests :=
    plain_built requests
  have hbegun : empty.begun requests = Network.empty.begun requests :=
    right_empty.begun_eq requests
  rw [← hplain, List.nil_append, ← hbegun] at hwired
  refine ⟨(right_built requests).consistent hwired, hwired.outLinks,
    fun hends x hx => ?_⟩
  have hlinks :
      (built requests).plain.links = [] ++ Network.empty.begun requests := by
    rw [hplain]
    exact Network.links_run ((right_empty.endsFound_iff requests).1 hends)
  rw [List.nil_append, ← hbegun] at hlinks
  exact (hwired.outLinks x hx).trans (by rw [← hlinks]; rfl)

/-- A link is asked for before its end is there, and once more when it is. -/
def hasty : List (NetworkRequest Rat) :=
  [.addNode { id := ⟨0, "a"⟩, x := 0, y := 0 },
    .createLink ⟨0, "ab"⟩ ⟨0, "a"⟩ ⟨1, "b"⟩ 100 3600 10 2,
    .addNode { id := ⟨1, "b"⟩, x := 100, y := 0 },
    .setPeriod 60,
    .createLink ⟨0, "ab"⟩ ⟨0, "a"⟩ ⟨1, "b"⟩ 100 60 10 2,
    .createLink ⟨0, "ab"⟩ ⟨1, "b"⟩ ⟨0, "a"⟩ 100 60 10 2]

/-- The node at its start lists the link twice, and the other one lists it once.
It is found under its id, and nothing is under the next. -/
theorem built_consistent_hasty :
    (∀ r ∈ hasty, r.Fresh) ∧ (built hasty).Consistent ∧
      (built hasty).nodes.items.map (·.outLinks) =
        [[⟨0, "ab"⟩, ⟨0, "ab"⟩], []] ∧
      (built hasty).nodes.items.map (·.inLinks) = [[], [⟨0, "ab"⟩]] ∧
      (∃ link, (built hasty).link? ⟨0, "ab"⟩ = some (some link) ∧
        link.source = ⟨0, "a"⟩ ∧ link.capacityPeriod = 60) ∧
      (built hasty).link? ⟨1, "ba"⟩ = none := by
  have hfresh : ∀ r ∈ hasty, r.Fresh := by decide
  have hconsistent := (built_consistent hasty hfresh).1
  refine ⟨hfresh, hconsistent, by decide +kernel, by decide +kernel, ?_,
    (hconsistent.link?_eq_none_iff _).2 (by decide +kernel)⟩
  refine ⟨⟨⟨0, "ab"⟩, ⟨0, "a"⟩, ⟨1, "b"⟩, 100, 60, 10, 2, 60⟩, ?_, rfl, rfl⟩
  exact (hconsistent.link?_eq_some_iff _ _).2 (by decide +kernel)

end IndexedNetwork

end LaneFlow
