import LaneFlow.Proofs.Road.Wiring
import LaneFlow.Proofs.Scenario.ByName

/-!
# A network holds what its file says

While a network file is read, the network holds what has been read so far:
the same names, in the same order, with the same numbers, and only ids that
the store has given (`NetworkFile.Loaded`).  Each node and each link adds its
record to this, and since no link is begun that is not added, the nodes list the
links of the network and no others.  A reference to a node is followed exactly
if the node has been read; that the store knows the name from elsewhere makes no
difference.

That the names of nodes and of links are distinct is needed for the network to
take them.

## Main results

* `Settles.bind` — of two steps the first fault counts.
* `Settles.ok_iff`, `Settles.error_iff` — how a computation ends is told from
  its fault.
* `Loaded.settles_addLink` — what one link adds, or why it is refused.
* `settles_toNetwork` — the network of a file, or why there is none.
-/

namespace LaneFlow

/-- A computation ends with a given fault; if none is given it succeeds with
a result that has some property. -/
def Settles {β : Type} (x : Except ScenarioFault β)
    (fault : Option ScenarioFault) (P : β → Prop) : Prop :=
  match fault with
  | some e => x = .error e
  | none => ∃ b, x = .ok b ∧ P b

/-- A result that is changed is a second step without a fault. -/
theorem map_eq_bind_ok {ε β γ : Type} (x : Except ε β) (g : β → γ) :
    x.map g = x >>= fun b => .ok (g b) := by
  cases x <;> rfl

namespace Settles

variable {β γ : Type} {x : Except ScenarioFault β}
  {k : β → Except ScenarioFault γ} {e f : Option ScenarioFault}
  {P : β → Prop} {Q : γ → Prop}

theorem ok {b : β} (h : P b) : Settles (.ok b) none P := ⟨b, rfl, h⟩

theorem error (e : ScenarioFault) : Settles (.error e) (some e) P := rfl

/-- If the first step has a fault, so do both; otherwise the second decides. -/
theorem bind (hx : Settles x e P) (hk : ∀ b, P b → Settles (k b) f Q) :
    Settles (x >>= k) (e.or f) Q := by
  cases e with
  | some e =>
      have hfault : x = .error e := hx
      rw [hfault]
      exact .error e
  | none =>
      obtain ⟨b, rfl, hb⟩ := hx
      exact hk b hb

/-- A second step without a fault changes nothing about the first. -/
theorem bind_ok (hx : Settles x e P)
    (hk : ∀ b, P b → Settles (k b) none Q) : Settles (x >>= k) e Q := by
  simpa using hx.bind hk

theorem map (hx : Settles x e P) {g : β → γ} (hg : ∀ b, P b → Q (g b)) :
    Settles (x.map g) e Q := by
  rw [map_eq_bind_ok]
  exact hx.bind_ok fun b hb => .ok (hg b hb)

theorem mono (hx : Settles x e P) {P' : β → Prop} (h : ∀ b, P b → P' b) :
    Settles x e P' := by
  cases e with
  | some e => exact hx
  | none =>
      obtain ⟨b, rfl, hb⟩ := hx
      exact ⟨b, rfl, h b hb⟩

theorem ok_iff (hx : Settles x e P) : (∃ b, x = .ok b) ↔ e = none := by
  cases e with
  | some e =>
      have hfault : x = .error e := hx
      simp [hfault]
  | none =>
      obtain ⟨b, rfl, -⟩ := hx
      simp

theorem error_iff (hx : Settles x e P) (fault : ScenarioFault) :
    x = .error fault ↔ e = some fault := by
  cases e with
  | some e =>
      have hfault : x = .error e := hx
      simp [hfault]
  | none =>
      obtain ⟨b, rfl, -⟩ := hx
      simp

/-- What is true of any result is true of the one there is. -/
theorem of_ok (hx : Settles x e P) {b : β} (hb : x = .ok b) : P b := by
  obtain rfl := hx.ok_iff.1 ⟨b, hb⟩
  obtain ⟨c, hc, hP⟩ := hx
  rw [hb] at hc
  exact Except.ok.inj hc ▸ hP

end Settles

/-- If two steps give a result, so does the first. -/
theorem exists_of_bind_eq_ok {ε β γ : Type} {x : Except ε β}
    {k : β → Except ε γ} {c : γ} (h : x >>= k = .ok c) :
    ∃ b, x = .ok b ∧ k b = .ok c := by
  cases x with
  | error => cases h
  | ok b => exact ⟨b, rfl, h⟩

theorem findSome?_cons_or {β γ : Type} (p : β → Option γ) (b : β)
    (bs : List β) : (b :: bs).findSome? p = (p b).or (bs.findSome? p) := by
  rw [List.findSome?_cons]
  cases p b <;> rfl

theorem unknown?_eq_none_iff {names : List String} {kind : Referent}
    {referencedBy name : String} :
    unknown? names kind referencedBy name = none ↔ name ∈ names := by
  simp [unknown?]

theorem unknown?_eq_some_iff {names : List String} {kind : Referent}
    {referencedBy name : String} {fault : ScenarioFault} :
    unknown? names kind referencedBy name = some fault ↔
      name ∉ names ∧ fault = .unknownReference kind name referencedBy := by
  simp [unknown?, eq_comm]

/-- Of distinct keys the next is none of those before it. -/
theorem key_not_mem_of_nodup {β : Type} {key : β → String} {xs ys : List β}
    {y : β} (h : ((xs ++ y :: ys).map key).Nodup) : key y ∉ xs.map key := by
  rw [List.map_append, List.nodup_append] at h
  exact fun hmem => h.2.2 _ hmem _ (List.mem_map_of_mem List.mem_cons_self) rfl

/-! ## Links under known ids -/

namespace Network

variable {α : Type} {n : Network α} {s t : IdStore}

/-- The links of a network go by ids that a store has given. -/
structure LinksKnown (n : Network α) (s : IdStore) : Prop where
  distinct : s.Distinct
  known : ∀ l ∈ n.links, s.Knows l.id

/-- The names of the links of a network. -/
def linkNames (n : Network α) : List String := n.links.map (·.id.external)

theorem LinksKnown.mono (h : n.LinksKnown s) (hgrows : s.Grows t) :
    n.LinksKnown t :=
  ⟨hgrows.distinct h.distinct, fun l hl => (h.known l hl).mono hgrows⟩

/-- A link is found by its name. -/
theorem LinksKnown.isSome_link?_iff (h : n.LinksKnown s) {id : Id .link}
    (hid : s.Knows id) :
    (n.link? id).isSome = true ↔ id.external ∈ n.linkNames :=
  IdStore.isSome_find?_same_iff h.distinct h.known hid

theorem LinksKnown.exists_link (h : n.LinksKnown s) {name : String}
    (hname : name ∈ n.linkNames) :
    ∃ id : Id .link, s.Knows id ∧ id.external = name := by
  obtain ⟨l, hl, rfl⟩ := List.mem_map.1 hname
  exact ⟨l.id, h.known l hl, rfl⟩

end Network

namespace NetworkFile

variable {α : Type}

/-- A network holds what a file says, with ids that a store knows. -/
structure Loaded (f : NetworkFile α) (n : Network α) (s : IdStore) : Prop where
  distinct : s.Distinct
  nodesKnown : ∀ id ∈ n.nodes.map (·.id), s.Knows id
  nodes : n.nodes.map nodeRecord = f.nodes
  linksKnown : ∀ l ∈ n.links, s.Knows l.id
  endsKnown : ∀ l ∈ n.links, s.Knows l.source ∧ s.Knows l.target
  links : n.links.map linkRecord = f.links
  periods : ∀ l ∈ n.links, l.capacityPeriod = f.capacityPeriod
  capacityPeriod : n.capacityPeriod = f.capacityPeriod
  cellSize : n.cellSize = f.cellSize
  wired : n.Wired n.links

variable {f : NetworkFile α} {n : Network α} {s : IdStore}

/-- It goes on to hold it when the store grows. -/
theorem Loaded.mono (h : f.Loaded n s) {t : IdStore} (hgrows : s.Grows t) :
    f.Loaded n t :=
  { h with
    distinct := hgrows.distinct h.distinct
    nodesKnown := fun id hid => (h.nodesKnown id hid).mono hgrows
    linksKnown := fun l hl => (h.linksKnown l hl).mono hgrows
    endsKnown := fun l hl =>
      ⟨(h.endsKnown l hl).1.mono hgrows, (h.endsKnown l hl).2.mono hgrows⟩ }

theorem Loaded.create (h : f.Loaded n s) (kind : IdKind) (x : String) :
    f.Loaded n (s.create kind x).2 :=
  h.mono (IdStore.grows_create s kind x)

/-! ## Looking up -/

theorem Loaded.map_nodes (h : f.Loaded n s) :
    n.nodes.map (fun x => x.id.external) = f.nodes.map (·.id) := by
  rw [← h.nodes, List.map_map]
  rfl

/-- A node is found by its name. -/
theorem Loaded.isSome_node?_iff (h : f.Loaded n s) {id : Id .node}
    (hid : s.Knows id) :
    (n.node? id).isSome = true ↔ id.external ∈ f.nodes.map (·.id) := by
  rw [← h.map_nodes]
  exact IdStore.isSome_find?_same_iff h.distinct
    (fun x hx => h.nodesKnown x.id (List.mem_map_of_mem hx)) hid

/-- A link is found by its name. -/
theorem Loaded.map_link? (h : f.Loaded n s) {id : Id .link}
    (hid : s.Knows id) :
    (n.link? id).map linkRecord = f.links.find? (·.id == id.external) := by
  rw [← h.links, List.find?_map, Network.link?,
    IdStore.find?_same h.distinct h.linksKnown hid]
  rfl

theorem Loaded.knownLinks (h : f.Loaded n s) : n.LinksKnown s :=
  ⟨h.distinct, h.linksKnown⟩

theorem Loaded.linkNames_eq (h : f.Loaded n s) :
    n.linkNames = f.links.map (·.id) := by
  rw [← h.links, List.map_map]
  rfl

theorem Loaded.exists_node (h : f.Loaded n s) {name : String}
    (hname : name ∈ f.nodes.map (·.id)) :
    ∃ id : Id .node, s.Knows id ∧ id.external = name := by
  rw [← h.map_nodes] at hname
  obtain ⟨x, hx, rfl⟩ := List.mem_map.1 hname
  exact ⟨x.id, h.nodesKnown x.id (List.mem_map_of_mem hx), rfl⟩

/-- The end of a link is one of the nodes that have been read. -/
theorem Loaded.settles_endOf (h : f.Loaded n s) (link node : String) :
    Settles (endOf n s link node)
      (unknown? (f.nodes.map (·.id)) .node s!"link {link}" node)
      fun id => s.Knows id ∧ (n.node? id).isSome = true ∧
        id.external = node := by
  have hp := fun (id : Id .node) (hid : s.Knows id) => h.isSome_node?_iff hid
  unfold endOf unknown?
  by_cases hnode : node ∈ f.nodes.map (·.id)
  · obtain ⟨id, hfind, hid, rfl, hsome⟩ :=
      IdStore.exists_filter_find? h.distinct (fun _ => h.exists_node) hp hnode
    rw [hfind, if_pos hnode]
    exact .ok ⟨hid, hsome, rfl⟩
  · rw [IdStore.filter_find?_eq_none h.distinct hp hnode, if_neg hnode]
    exact .error _

/-! ## Adding nodes -/

theorem loaded_empty (f : NetworkFile α) (hs : s.Distinct) :
    ({ f with nodes := [], links := [] } : NetworkFile α).Loaded
      ⟨[], [], f.capacityPeriod, f.cellSize⟩ s where
  distinct := hs
  nodesKnown := by simp
  nodes := rfl
  linksKnown := by simp
  endsKnown := by simp
  links := rfl
  periods := by simp
  capacityPeriod := rfl
  cellSize := rfl
  wired := Network.wired_of_empty rfl rfl

/-- A node with a new name is added. -/
theorem Loaded.addNode (h : f.Loaded n s) {r : NodeRecord α}
    (hnew : r.id ∉ f.nodes.map (·.id)) :
    ∃ n', n.addNode { id := (s.create .node r.id).1, x := r.x, y := r.y } =
        (n', none) ∧
      ({ f with nodes := f.nodes ++ [r] } : NetworkFile α).Loaded n'
        (s.create .node r.id).2 := by
  have hlater := h.create .node r.id
  have hid := IdStore.knows_create h.distinct .node r.id
  have hnone : n.node? (s.create .node r.id).1 = none := by
    rw [← Option.not_isSome_iff_eq_none, hlater.isSome_node?_iff hid,
      IdStore.create_external]
    exact hnew
  refine ⟨_, Network.addNode_of_new hnone, ?_⟩
  refine
    { hlater with
      nodesKnown := fun id hmem => ?_
      nodes := ?_
      wired := hlater.wired.append_node hnone rfl rfl }
  · rw [List.map_append, List.mem_append] at hmem
    rcases hmem with hmem | hmem
    · exact hlater.nodesKnown id hmem
    · obtain rfl := List.mem_singleton.1 hmem
      exact hid
  · have hrecord : nodeRecord (⟨(s.create .node r.id).1, r.x, r.y, [], []⟩ :
        Node α) = r := by
      simp [nodeRecord]
    rw [List.map_append, List.map_singleton, h.nodes, hrecord]

theorem Loaded.addNodes (h : f.Loaded n s) (rs : List (NodeRecord α))
    (hnodup : ((f.nodes ++ rs).map (·.id)).Nodup) :
    ∃ n' s', NetworkFile.addNodes n s rs = .ok (n', s') ∧
      ({ f with nodes := f.nodes ++ rs } : NetworkFile α).Loaded n' s' := by
  induction rs generalizing f n s with
  | nil => exact ⟨n, s, rfl, by simpa using h⟩
  | cons r rs ih =>
      obtain ⟨n', hadd, hloaded⟩ := h.addNode (key_not_mem_of_nodup hnodup)
      obtain ⟨n'', s'', hrest, hdone⟩ := ih hloaded (by simpa using hnodup)
      refine ⟨n'', s'', ?_, by simpa using hdone⟩
      simpa [NetworkFile.addNodes, hadd] using hrest

/-! ## Adding links -/

/-- One link more is held if it is entered at both ends. -/
theorem Loaded.linked (h : f.Loaded n s) {link : Link α} {r : LinkRecord α}
    (hrecord : linkRecord link = r) (hid : s.Knows link.id)
    (hsource : s.Knows link.source ∧ (n.node? link.source).isSome)
    (htarget : s.Knows link.target ∧ (n.node? link.target).isSome)
    (hperiod : link.capacityPeriod = f.capacityPeriod) :
    ({ f with links := f.links ++ [r] } : NetworkFile α).Loaded
      (n.linked link) s where
  distinct := h.distinct
  nodesKnown := by
    rw [Network.map_linked n link (fun _ => rfl) fun _ => rfl]
    exact h.nodesKnown
  nodes := by
    rw [Network.map_linked n link (fun _ => rfl) fun _ => rfl]
    exact h.nodes
  linksKnown := List.forall_mem_append.2 ⟨h.linksKnown, by simpa using hid⟩
  endsKnown := List.forall_mem_append.2
    ⟨h.endsKnown, by simpa using ⟨hsource.1, htarget.1⟩⟩
  links := by
    rw [Network.linked, List.map_append, h.links, List.map_singleton, hrecord]
  periods := List.forall_mem_append.2 ⟨h.periods, by simpa using hperiod⟩
  capacityPeriod := h.capacityPeriod
  cellSize := h.cellSize
  wired := h.wired.linked hsource.2 htarget.2

/-- A link with a new name is added, if its ends have been read. -/
theorem Loaded.settles_addLink (h : f.Loaded n s) {r : LinkRecord α}
    (hnew : r.id ∉ f.links.map (·.id)) :
    Settles (addLink f.capacityPeriod n s r) (r.fault? (f.nodes.map (·.id)))
      fun p => ({ f with links := f.links ++ [r] } : NetworkFile α).Loaded
        p.1 p.2 := by
  have hlater := h.create .link r.id
  have hid := IdStore.knows_create h.distinct .link r.id
  refine (h.settles_endOf r.id r.source).bind ?_
  rintro source ⟨hsourceKnown, hsource, hsourceName⟩
  refine (h.settles_endOf r.id r.target).bind_ok ?_
  rintro target ⟨htargetKnown, htarget, htargetName⟩
  let link : Link α := ⟨(s.create .link r.id).1, source, target, r.length,
    r.capacity, r.freespeed, r.lanes, f.capacityPeriod⟩
  have hnone : n.link? link.id = none := by
    rw [← Option.not_isSome_iff_eq_none, hlater.knownLinks.isSome_link?_iff hid,
      hlater.linkNames_eq, IdStore.create_external]
    exact hnew
  have hadd : n.addLink link = (n.linked link, none) :=
    Network.addLink_of_ends hnone hsource htarget
  have hrecord : linkRecord link = r := by
    simp [link, linkRecord, hsourceName, htargetName]
  have hgrows := IdStore.grows_create s .link r.id
  simp only [link] at hadd
  simp only [hadd]
  exact .ok (hlater.linked hrecord hid ⟨hsourceKnown.mono hgrows, hsource⟩
    ⟨htargetKnown.mono hgrows, htarget⟩ rfl)

theorem addLinks_cons (period : α) (n : Network α) (s : IdStore)
    (r : LinkRecord α) (rs : List (LinkRecord α)) :
    addLinks period n s (r :: rs) =
      addLink period n s r >>= fun p => addLinks period p.1 p.2 rs := by
  rw [addLinks]
  cases addLink period n s r <;> rfl

/-- Links with new names are added up to the first whose ends are unknown. -/
theorem Loaded.settles_addLinks (h : f.Loaded n s) (rs : List (LinkRecord α))
    (hnodup : ((f.links ++ rs).map (·.id)).Nodup) :
    Settles (addLinks f.capacityPeriod n s rs)
      (rs.findSome? (·.fault? (f.nodes.map (·.id))))
      fun p => ({ f with links := f.links ++ rs } : NetworkFile α).Loaded
        p.1 p.2 := by
  induction rs generalizing f n s with
  | nil => exact .ok (by simpa using h)
  | cons r rs ih =>
      have hnew := key_not_mem_of_nodup hnodup
      rw [addLinks_cons, findSome?_cons_or]
      refine (h.settles_addLink hnew).bind fun p hp => ?_
      refine (ih hp (by simpa using hnodup)).mono fun q hq => ?_
      simpa using hq

/-! ## What has been added -/

/-- What a link has gone through when it has been added. -/
theorem addLink_eq_ok {period : α} {n n' : Network α} {s s' : IdStore}
    {r : LinkRecord α} (hread : addLink period n s r = .ok (n', s')) :
    ∃ source target, n.addLink ⟨(s.create .link r.id).1, source, target, r.length,
        r.capacity, r.freespeed, r.lanes, period⟩ = (n', none) ∧
      (s.create .link r.id).2 = s' := by
  obtain ⟨source, -, hread⟩ := exists_of_bind_eq_ok hread
  obtain ⟨target, -, hread⟩ := exists_of_bind_eq_ok hread
  refine ⟨source, target, ?_⟩
  dsimp only at hread
  split at hread
  · rename_i hadd
    cases hread
    exact ⟨hadd, rfl⟩
  · cases hread

theorem grows_addNodes {n n' : Network α} {s s' : IdStore}
    {rs : List (NodeRecord α)} (hread : addNodes n s rs = .ok (n', s')) :
    s.Grows s' := by
  induction rs generalizing n s with
  | nil =>
      cases hread
      exact .refl _
  | cons r rs ih =>
      rw [addNodes] at hread
      dsimp only at hread
      split at hread
      · exact (IdStore.grows_create s .node r.id).trans (ih hread)
      · cases hread

theorem grows_addLinks {period : α} {n n' : Network α} {s s' : IdStore}
    {rs : List (LinkRecord α)} (hread : addLinks period n s rs = .ok (n', s')) :
    s.Grows s' := by
  induction rs generalizing n s with
  | nil =>
      cases hread
      exact .refl _
  | cons r rs ih =>
      rw [addLinks_cons] at hread
      obtain ⟨⟨n₁, s₁⟩, hlink, hread⟩ := exists_of_bind_eq_ok hread
      obtain ⟨_, _, -, rfl⟩ := addLink_eq_ok hlink
      exact (IdStore.grows_create s .link r.id).trans (ih hread)

/-- Ids that were given before a network is read stay what they are. -/
theorem grows_toNetwork {f : NetworkFile α} {n : Network α} {s s' : IdStore}
    (hread : f.toNetwork s = .ok (n, s')) : s.Grows s' := by
  rw [toNetwork] at hread
  split at hread
  · rename_i n₁ s₁ hnodes
    exact (grows_addNodes hnodes).trans (grows_addLinks hread)
  · cases hread

/-! ## All of a file -/

/-- The network of a file with distinct names holds what the file says, unless
a link is without an end. -/
theorem settles_toNetwork (f : NetworkFile α) (hs : s.Distinct)
    (hnodes : (f.nodes.map (·.id)).Nodup)
    (hlinks : (f.links.map (·.id)).Nodup) :
    Settles (f.toNetwork s) f.fault? fun p => f.Loaded p.1 p.2 := by
  obtain ⟨n, s', hread, hloaded⟩ :=
    (loaded_empty f hs).addNodes f.nodes (by simpa using hnodes)
  simp only [toNetwork, hread]
  exact hloaded.settles_addLinks f.links (by simpa using hlinks)

end NetworkFile

end LaneFlow
