import LaneFlow.Road.Network
import LaneFlow.Proofs.Ids

/-!
# Networks over any requests

A network is built by requests, any of which it may refuse, and a refusal may
come too late: a link whose start is there and whose end is not has been entered
at its start by then.  It is not taken back, so a node may list links that
start at it and are not part of the network, and it lists one twice if the
request is repeated after its end has been added.

What a node lists is therefore told from the links that the requests have
*begun*, which are those whose start was found, in the order of the requests.
The links of the network are among them, and all else is as it should be
(`Network.Wired`).

## Main results

* `Network.adding` — all that can come of adding a link.
* `Network.keyed_run` — no two nodes have the same id, nor have two links.
* `Network.wired_run` — what the nodes list after any requests.
* `Network.links_run` — the links that are there if none was missing an end.
-/

namespace LaneFlow

/-- A request to change a network. -/
inductive NetworkRequest (α : Type) where
  | addNode (node : Node α)
  | addLink (link : Link α)
  | createLink (id : Id .link) (source target : Id .node)
      (length capacity freespeed lanes : α)
  | setPeriod (period : α)
  | setCellSize (size : α)
deriving Repr, DecidableEq

/-- A node that is to be added lists no links. -/
def NetworkRequest.Fresh {α : Type} : NetworkRequest α → Prop
  | .addNode node => node.inLinks = [] ∧ node.outLinks = []
  | _ => True

instance {α : Type} (r : NetworkRequest α) : Decidable r.Fresh :=
  match r with
  | .addNode _ => inferInstanceAs (Decidable (_ ∧ _))
  | .addLink _ | .createLink .. | .setPeriod _ | .setCellSize _ =>
    inferInstanceAs (Decidable True)

/-- The links among some that start at a node. -/
def Link.startingAt {α : Type} (ls : List (Link α)) (node : Id .node) :
    List (Id .link) :=
  (ls.filter (·.source.same node)).map (·.id)

/-- The links among some that end at a node. -/
def Link.endingAt {α : Type} (ls : List (Link α)) (node : Id .node) :
    List (Id .link) :=
  (ls.filter (·.target.same node)).map (·.id)

namespace Network

variable {α : Type}

/-- The link that a request wants to add, if any. -/
def wanted? (n : Network α) : NetworkRequest α → Option (Link α)
  | .addLink link => some link
  | .createLink id source target length capacity freespeed lanes =>
    some ⟨id, source, target, length, capacity, freespeed, lanes,
      n.capacityPeriod⟩
  | _ => none

/-- What comes of a request: the network that remains, and why the request is
refused if it is. -/
def answer (n : Network α) : NetworkRequest α → Network α × Option NetworkFault
  | .addNode node => n.addNode node
  | .addLink link => n.addLink link
  | .createLink id source target length capacity freespeed lanes =>
    n.createLink id source target length capacity freespeed lanes
  | .setPeriod period => ({ n with capacityPeriod := period }, none)
  | .setCellSize size => ({ n with cellSize := size }, none)

/-- The network after some requests, whether they were refused or not. -/
def run (n : Network α) (requests : List (NetworkRequest α)) : Network α :=
  requests.foldl (fun n r => (n.answer r).1) n

/-- The network that some requests build out of nothing. -/
def built [Quantity α] (requests : List (NetworkRequest α)) : Network α :=
  empty.run requests

/-- The link that a request begins: it is new and its start is there. -/
def begins? (n : Network α) (r : NetworkRequest α) : Option (Link α) :=
  (n.wanted? r).filter fun link =>
    (n.link? link.id).isNone && (n.node? link.source).isSome

/-- The links that some requests begin, in the order of the requests. -/
def begun (n : Network α) : List (NetworkRequest α) → List (Link α)
  | [] => []
  | r :: rs => (n.begins? r).toList ++ (n.answer r).1.begun rs

/-- A request is refused because a link has no end, after its start has been
found. -/
def Strands (n : Network α) (r : NetworkRequest α) : Prop :=
  ∃ link, n.wanted? r = some link ∧ (n.node? link.source).isSome ∧
    (n.answer r).2 = some (.nodeMissing link.target)

/-- None of some requests is refused because a link has no end. -/
def EndsFound : Network α → List (NetworkRequest α) → Prop
  | _, [] => True
  | n, r :: rs => ¬ n.Strands r ∧ EndsFound (n.answer r).1 rs

@[simp] theorem run_nil (n : Network α) : n.run [] = n := rfl

@[simp] theorem run_cons (n : Network α) (r : NetworkRequest α)
    (rs : List (NetworkRequest α)) :
    n.run (r :: rs) = (n.answer r).1.run rs := rfl

/-! ## Adding a link -/

/-- The network with a link entered at its start. -/
def started (n : Network α) (link : Link α) : Network α :=
  n.mapNode link.source (·.withOut link.id)

/-- The network with a link entered at both ends and added. -/
def linked (n : Network α) (link : Link α) : Network α :=
  { (n.started link).mapNode link.target (·.withIn link.id) with
    links := n.links ++ [link] }

/-- What can come of adding a link. -/
inductive Adding (n : Network α) (link : Link α) :
    Network α × Option NetworkFault → Prop
  | known (hlink : (n.link? link.id).isSome) :
      Adding n link (n, some (.linkExists link.id))
  | noStart (hlink : n.link? link.id = none)
      (hsource : n.node? link.source = none) :
      Adding n link (n, some (.nodeMissing link.source))
  | noEnd (hlink : n.link? link.id = none)
      (hsource : (n.node? link.source).isSome)
      (htarget : n.node? link.target = none) :
      Adding n link (n.started link, some (.nodeMissing link.target))
  | done (hlink : n.link? link.id = none)
      (hsource : (n.node? link.source).isSome)
      (htarget : (n.node? link.target).isSome) :
      Adding n link (n.linked link, none)

/-- All that can come of adding a link. -/
theorem adding (n : Network α) (link : Link α) :
    Adding n link (n.addLink link) := by
  cases hlink : n.link? link.id with
  | some l =>
      have hadd : n.addLink link = (n, some (.linkExists link.id)) := by
        simp [addLink, hlink]
      exact hadd ▸ .known (by simp [hlink])
  | none =>
      cases hsource : n.node? link.source with
      | none =>
          have hadd : n.addLink link = (n, some (.nodeMissing link.source)) := by
            simp [addLink, hlink, hsource]
          exact hadd ▸ .noStart hlink hsource
      | some x =>
          have hstart : (n.node? link.source).isSome := by simp [hsource]
          cases htarget : n.node? link.target with
          | none =>
              exact addLink_of_missing_end hlink hstart htarget ▸
                .noEnd hlink hstart htarget
          | some y =>
              have hend : (n.node? link.target).isSome := by simp [htarget]
              exact addLink_of_ends hlink hstart hend ▸ .done hlink hstart hend

/-- A request that wants to add a link is answered as its link is. -/
theorem answer_of_wanted {n : Network α} {r : NetworkRequest α} {link : Link α}
    (h : n.wanted? r = some link) : n.answer r = n.addLink link := by
  cases r <;> cases h <;> rfl

/-! ## Distinct ids -/

/-- No two nodes have the same id, nor have two links. -/
structure Keyed (n : Network α) : Prop where
  nodes : (n.nodes.map (·.id.internal)).Nodup
  links : (n.links.map (·.id.internal)).Nodup

section Unchanged

variable {β : Type} {g : Node α → β}

/-- What a change of nodes leaves alone is left alone. -/
theorem map_mapNode (n : Network α) (id : Id .node) {f : Node α → Node α}
    (hf : ∀ x, g (f x) = g x) : (n.mapNode id f).nodes.map g = n.nodes.map g := by
  simp only [mapNode, List.map_map]
  refine List.map_congr_left fun x _ => ?_
  simp only [Function.comp_apply]
  split
  · exact hf x
  · rfl

theorem map_started (n : Network α) (link : Link α)
    (hout : ∀ x : Node α, g (x.withOut link.id) = g x) :
    (n.started link).nodes.map g = n.nodes.map g :=
  map_mapNode n link.source hout

theorem map_linked (n : Network α) (link : Link α)
    (hout : ∀ x : Node α, g (x.withOut link.id) = g x)
    (hin : ∀ x : Node α, g (x.withIn link.id) = g x) :
    (n.linked link).nodes.map g = n.nodes.map g :=
  (map_mapNode (n.started link) link.target hin).trans (map_started n link hout)

end Unchanged

theorem keyed_empty [Quantity α] : (empty : Network α).Keyed :=
  ⟨List.nodup_nil, List.nodup_nil⟩

variable {n : Network α}

theorem Keyed.addNode (h : n.Keyed) (node : Node α) :
    (n.addNode node).1.Keyed := by
  cases hnode : n.node? node.id with
  | some x =>
      have hadd : (n.addNode node).1 = n := by simp [Network.addNode, hnode]
      rwa [hadd]
  | none =>
      rw [addNode_of_new hnode]
      exact ⟨Id.nodup_concat h.nodes hnode, h.links⟩

theorem Adding.keyed {link : Link α} {out : Network α × Option NetworkFault}
    (hadd : Adding n link out) (h : n.Keyed) : out.1.Keyed := by
  cases hadd with
  | known => exact h
  | noStart => exact h
  | noEnd =>
      refine ⟨?_, h.links⟩
      rw [map_started n link fun _ => rfl]
      exact h.nodes
  | done hlink =>
      refine ⟨?_, Id.nodup_concat h.links hlink⟩
      rw [map_linked n link (fun _ => rfl) fun _ => rfl]
      exact h.nodes

/-- No request makes two ids the same. -/
theorem Keyed.answer (h : n.Keyed) (r : NetworkRequest α) :
    (n.answer r).1.Keyed := by
  cases r with
  | addNode node => exact h.addNode node
  | addLink link => exact (adding n link).keyed h
  | createLink => exact (adding n _).keyed h
  | setPeriod period => exact ⟨h.nodes, h.links⟩
  | setCellSize size => exact ⟨h.nodes, h.links⟩

/-- No two nodes have the same id after any requests, nor have two links. -/
theorem keyed_run (h : n.Keyed) (requests : List (NetworkRequest α)) :
    (n.run requests).Keyed := by
  induction requests generalizing n with
  | nil => exact h
  | cons r rs ih => exact ih (h.answer r)

/-- A link is found by its id exactly if it has it. -/
theorem Keyed.link?_eq_some_iff (h : n.Keyed) {id : Id .link} {link : Link α} :
    n.link? id = some link ↔ link ∈ n.links ∧ link.id.same id = true :=
  Id.find?_same_eq_some_iff h.links

/-! ## What the nodes list -/

theorem startingAt_concat (ls : List (Link α)) (link : Link α)
    (node : Id .node) :
    Link.startingAt (ls ++ [link]) node = Link.startingAt ls node ++
      if link.source.same node then [link.id] else [] := by
  simp only [Link.startingAt, List.filter_append, List.map_append,
    List.filter_singleton]
  cases link.source.same node <;> rfl

theorem endingAt_concat (ls : List (Link α)) (link : Link α)
    (node : Id .node) :
    Link.endingAt (ls ++ [link]) node = Link.endingAt ls node ++
      if link.target.same node then [link.id] else [] := by
  simp only [Link.endingAt, List.filter_append, List.map_append,
    List.filter_singleton]
  cases link.target.same node <;> rfl

/-- The nodes of a network list the links that have been begun. -/
structure Wired (n : Network α) (begun : List (Link α)) : Prop where
  /-- A link is part of the network only if it has been begun. -/
  links : n.links.Sublist begun
  starts : ∀ link ∈ begun, (n.node? link.source).isSome
  ends : ∀ link ∈ n.links, (n.node? link.target).isSome
  inLinks : ∀ x ∈ n.nodes, x.inLinks = Link.endingAt n.links x.id
  outLinks : ∀ x ∈ n.nodes, x.outLinks = Link.startingAt begun x.id

variable {ls : List (Link α)}

theorem wired_of_empty (hnodes : n.nodes = []) (hlinks : n.links = []) :
    n.Wired [] := by
  constructor <;> simp [hnodes, hlinks]

theorem node?_of_same {a b : Id .node} (h : a.same b = true) :
    n.node? a = n.node? b := by
  simp only [node?, Id.same, Id.same_iff.1 h]

/-- A node that is found is found when there is one more. -/
theorem isSome_node?_append (node : Node α) {id : Id .node}
    (hid : (n.node? id).isSome) :
    (({ n with nodes := n.nodes ++ [node] } : Network α).node? id).isSome := by
  rw [node?, List.find?_append, Option.isSome_or]
  exact Bool.or_eq_true_iff.2 (.inl hid)

/-- A new node has nothing to list. -/
theorem Wired.append_node (h : n.Wired ls) {node : Node α}
    (hnew : n.node? node.id = none) (hin : node.inLinks = [])
    (hout : node.outLinks = []) :
    ({ n with nodes := n.nodes ++ [node] } : Network α).Wired ls := by
  have hother : ∀ id : Id .node, (n.node? id).isSome → ¬ id.same node.id := by
    intro id hid hsame
    simp [node?_of_same hsame, hnew] at hid
  refine
    { links := h.links
      starts := fun link hlink => isSome_node?_append node (h.starts link hlink)
      ends := fun link hlink => isSome_node?_append node (h.ends link hlink)
      inLinks := List.forall_mem_append.2 ⟨h.inLinks, ?_⟩
      outLinks := List.forall_mem_append.2 ⟨h.outLinks, ?_⟩ }
  · intro x hx
    obtain rfl := List.mem_singleton.1 hx
    have hnone : n.links.filter (·.target.same x.id) = [] :=
      List.filter_eq_nil_iff.2 fun link hlink => hother _ (h.ends link hlink)
    rw [hin, Link.endingAt, hnone, List.map_nil]
  · intro x hx
    obtain rfl := List.mem_singleton.1 hx
    have hnone : ls.filter (·.source.same x.id) = [] :=
      List.filter_eq_nil_iff.2 fun link hlink => hother _ (h.starts link hlink)
    rw [hout, Link.startingAt, hnone, List.map_nil]

theorem isSome_node?_mapNode (n : Network α) (a : Id .node)
    (f : Node α → Node α) (hf : ∀ x, (f x).id = x.id) (id : Id .node) :
    ((n.mapNode a f).node? id).isSome = (n.node? id).isSome := by
  rw [← Option.not_isNone, ← Option.not_isNone, node?_mapNode_isNone n a id f hf]

theorem isSome_node?_started (n : Network α) (link : Link α) (id : Id .node) :
    ((n.started link).node? id).isSome = (n.node? id).isSome :=
  isSome_node?_mapNode n link.source (·.withOut link.id) (fun _ => rfl) id

theorem isSome_node?_linked (n : Network α) (link : Link α) (id : Id .node) :
    ((n.linked link).node? id).isSome = (n.node? id).isSome :=
  (isSome_node?_mapNode (n.started link) link.target (·.withIn link.id)
    (fun _ => rfl) id).trans (isSome_node?_started n link id)

theorem forall_mem_mapNode {id : Id .node} {f : Node α → Node α}
    {P : Node α → Prop} (h : ∀ x ∈ n.nodes, P (if x.id.same id then f x else x)) :
    ∀ x ∈ (n.mapNode id f).nodes, P x := by
  intro x hx
  obtain ⟨y, hy, rfl⟩ := List.mem_map.1 hx
  exact h y hy

/-- A link that is begun is entered at its start. -/
theorem Wired.started (h : n.Wired ls) {link : Link α}
    (hsource : (n.node? link.source).isSome) :
    (n.started link).Wired (ls ++ [link]) where
  links := h.links.trans (List.sublist_append_left ..)
  starts := by
    simp only [isSome_node?_started]
    exact List.forall_mem_append.2 ⟨h.starts, by simpa using hsource⟩
  ends := by
    simp only [isSome_node?_started]
    exact h.ends
  inLinks := forall_mem_mapNode fun x hx => by
    split
    · exact h.inLinks x hx
    · exact h.inLinks x hx
  outLinks := forall_mem_mapNode fun x hx => by
    rw [startingAt_concat]
    split <;> rename_i hsame <;> rw [Id.same_comm] at hsame
    · simp [Node.withOut, h.outLinks x hx, hsame]
    · simp [h.outLinks x hx, hsame]

/-- A link that is added is entered at its end, too. -/
theorem Wired.linked (h : n.Wired ls) {link : Link α}
    (hsource : (n.node? link.source).isSome)
    (htarget : (n.node? link.target).isSome) :
    (n.linked link).Wired (ls ++ [link]) where
  links := h.links.append_right [link]
  starts := by
    simp only [isSome_node?_linked]
    exact List.forall_mem_append.2 ⟨h.starts, by simpa using hsource⟩
  ends := by
    simp only [isSome_node?_linked]
    exact List.forall_mem_append.2 ⟨h.ends, by simpa using htarget⟩
  inLinks := forall_mem_mapNode fun x hx => by
    have hlist : x.inLinks = Link.endingAt n.links x.id :=
      (h.started hsource).inLinks x hx
    change _ = Link.endingAt (n.links ++ [link]) _
    rw [endingAt_concat]
    split <;> rename_i hsame <;> rw [Id.same_comm] at hsame
    · simp [Node.withIn, hlist, hsame]
    · simp [hlist, hsame]
  outLinks := forall_mem_mapNode fun x hx => by
    split
    · exact (h.started hsource).outLinks x hx
    · exact (h.started hsource).outLinks x hx

/-! ## Any requests -/

section Begins

variable {link : Link α} {r : NetworkRequest α}

theorem begins?_of_known (hr : n.wanted? r = some link)
    (hlink : (n.link? link.id).isSome) : n.begins? r = none := by
  obtain ⟨l, hl⟩ := Option.isSome_iff_exists.1 hlink
  simp [begins?, hr, hl]

theorem begins?_of_noStart (hr : n.wanted? r = some link)
    (hsource : n.node? link.source = none) : n.begins? r = none := by
  simp [begins?, hr, hsource]

theorem begins?_of_start (hr : n.wanted? r = some link)
    (hlink : n.link? link.id = none) (hsource : (n.node? link.source).isSome) :
    n.begins? r = some link := by
  simp [begins?, hr, hlink, hsource]

end Begins

/-- Of a link that is wanted the nodes list what has been begun. -/
theorem Adding.wired {link : Link α} {out : Network α × Option NetworkFault}
    (hadd : Adding n link out) (h : n.Wired ls) {r : NetworkRequest α}
    (hr : n.wanted? r = some link) :
    out.1.Wired (ls ++ (n.begins? r).toList) := by
  cases hadd with
  | known hlink => simpa [begins?_of_known hr hlink] using h
  | noStart hlink hsource => simpa [begins?_of_noStart hr hsource] using h
  | noEnd hlink hsource =>
      rw [begins?_of_start hr hlink hsource]
      exact h.started hsource
  | done hlink hsource htarget =>
      rw [begins?_of_start hr hlink hsource]
      exact h.linked hsource htarget

/-- What the nodes list after one request. -/
theorem Wired.answer (h : n.Wired ls) {r : NetworkRequest α} (hr : r.Fresh) :
    (n.answer r).1.Wired (ls ++ (n.begins? r).toList) := by
  cases r with
  | addNode node =>
      have hnone : n.begins? (.addNode node) = none := rfl
      rw [hnone, Option.toList_none, List.append_nil]
      cases hnode : n.node? node.id with
      | some x =>
          have hadd : n.answer (.addNode node) = (n, some (.nodeExists node.id)) := by
            simp [Network.answer, addNode, hnode]
          rwa [hadd]
      | none =>
          obtain ⟨hin, hout⟩ := hr
          rw [Network.answer, addNode_of_new hnode]
          exact h.append_node hnode hin hout
  | addLink link => exact (adding n link).wired h rfl
  | createLink => exact (adding n _).wired h rfl
  | setPeriod period =>
      have hnone : n.begins? (.setPeriod period) = none := rfl
      rw [hnone, Option.toList_none, List.append_nil]
      exact ⟨h.links, h.starts, h.ends, h.inLinks, h.outLinks⟩
  | setCellSize size =>
      have hnone : n.begins? (.setCellSize size) = none := rfl
      rw [hnone, Option.toList_none, List.append_nil]
      exact ⟨h.links, h.starts, h.ends, h.inLinks, h.outLinks⟩

/-- What the nodes list after any requests. -/
theorem wired_run (h : n.Wired ls) {requests : List (NetworkRequest α)}
    (hfresh : ∀ r ∈ requests, r.Fresh) :
    (n.run requests).Wired (ls ++ n.begun requests) := by
  induction requests generalizing n ls with
  | nil => simpa [begun] using h
  | cons r rs ih =>
      obtain ⟨hr, hrs⟩ := List.forall_mem_cons.1 hfresh
      have hrest := ih (h.answer hr) hrs
      rwa [List.append_assoc] at hrest

theorem Adding.links_eq {link : Link α} {out : Network α × Option NetworkFault}
    (hadd : Adding n link out) {r : NetworkRequest α}
    (hr : n.wanted? r = some link)
    (hends : (n.node? link.source).isSome →
      out.2 ≠ some (.nodeMissing link.target)) :
    out.1.links = n.links ++ (n.begins? r).toList := by
  cases hadd with
  | known hlink => simp [begins?_of_known hr hlink]
  | noStart hlink hsource => simp [begins?_of_noStart hr hsource]
  | noEnd hlink hsource => exact absurd rfl (hends hsource)
  | done hlink hsource =>
      rw [begins?_of_start hr hlink hsource]
      rfl

/-- A request adds the link that it begins, unless the link has no end. -/
theorem links_answer {r : NetworkRequest α} (hends : ¬ n.Strands r) :
    (n.answer r).1.links = n.links ++ (n.begins? r).toList := by
  cases hr : n.wanted? r with
  | some link =>
      rw [answer_of_wanted hr]
      refine (adding n link).links_eq hr fun hsource hfault => hends ?_
      exact ⟨link, hr, hsource, answer_of_wanted hr ▸ hfault⟩
  | none =>
      rw [begins?, hr, Option.filter_none, Option.toList_none, List.append_nil]
      cases r with
      | addNode node =>
          rw [answer, addNode]
          split <;> rfl
      | addLink | createLink => cases hr
      | setPeriod | setCellSize => rfl

/-- If no request is refused because a link has no end, the links that have been
begun are those of the network. -/
theorem links_run {requests : List (NetworkRequest α)}
    (h : n.EndsFound requests) :
    (n.run requests).links = n.links ++ n.begun requests := by
  induction requests generalizing n with
  | nil => simp [begun]
  | cons r rs ih =>
      rw [run_cons, ih h.2, links_answer h.1, begun, List.append_assoc]

end Network

end LaneFlow
