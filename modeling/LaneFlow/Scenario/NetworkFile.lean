import LaneFlow.Scenario.Fault

/-!
# Networks in files

A network file names its nodes and links by texts. It is turned into a network
by giving each text an id, and a network is turned back into a file by reading
the texts off the ids.

A reference to a node is good only if the node is in the network that is being
built; that its text is known from elsewhere does not count.

## Main results

* `NetworkFile.ofNetwork_links`, `NetworkFile.ofNetwork_nodes`: an export keeps
  number and order.
-/

namespace LaneFlow

/-- A node in a file. -/
structure NodeRecord (α : Type) where
  id : String
  x : α
  y : α
deriving Repr, DecidableEq, BEq

/-- A link in a file. -/
structure LinkRecord (α : Type) where
  id : String
  source : String
  target : String
  length : α
  capacity : α
  freespeed : α
  lanes : α
deriving Repr, DecidableEq, BEq

/-- The contents of a network file. -/
structure NetworkFile (α : Type) where
  name : Option String := none
  capacityPeriod : α
  cellSize : α
  nodes : List (NodeRecord α) := []
  links : List (LinkRecord α) := []
deriving Repr, DecidableEq, BEq

namespace NetworkFile

variable {α : Type}

/-- The contents of an empty file. -/
def empty [Quantity α] : NetworkFile α :=
  { capacityPeriod := defaultCapacityPeriod, cellSize := defaultCellSize }

/-- Adds the nodes of a file to a network. -/
def addNodes (n : Network α) (s : IdStore) :
    List (NodeRecord α) → Except ScenarioFault (Network α × IdStore)
  | [] => .ok (n, s)
  | r :: rest =>
    let (id, s) := s.create .node r.id
    match n.addNode { id, x := r.x, y := r.y } with
    | (n, none) => addNodes n s rest
    | (_, some fault) => .error (.refused (.network fault))

/-- The id of a node that a link refers to, which must be in the network. -/
def endOf (n : Network α) (s : IdStore) (link node : String) :
    Except ScenarioFault (Id .node) :=
  match (s.find? .node node).filter fun id => (n.node? id).isSome with
  | some id => .ok id
  | none => .error (.unknownReference .node node s!"link {link}")

/-- Adds one link of a file to a network. -/
def addLink (period : α) (n : Network α) (s : IdStore) (r : LinkRecord α) :
    Except ScenarioFault (Network α × IdStore) := do
  let source ← endOf n s r.id r.source
  let target ← endOf n s r.id r.target
  let (id, s) := s.create .link r.id
  match n.addLink
      ⟨id, source, target, r.length, r.capacity, r.freespeed, r.lanes,
        period⟩ with
  | (n, none) => .ok (n, s)
  | (_, some fault) => .error (.refused (.network fault))

/-- Adds the links of a file to a network. -/
def addLinks (period : α) (n : Network α) (s : IdStore) :
    List (LinkRecord α) → Except ScenarioFault (Network α × IdStore)
  | [] => .ok (n, s)
  | r :: rest =>
    match addLink period n s r with
    | .ok (n, s) => addLinks period n s rest
    | .error fault => .error fault

/-- The network of a file, with ids for all its texts. -/
def toNetwork (f : NetworkFile α) (s : IdStore) :
    Except ScenarioFault (Network α × IdStore) :=
  match addNodes ⟨[], [], f.capacityPeriod, f.cellSize⟩ s f.nodes with
  | .ok (n, s) => addLinks f.capacityPeriod n s f.links
  | .error fault => .error fault

/-- The record of a node. -/
def nodeRecord (n : Node α) : NodeRecord α := ⟨n.id.external, n.x, n.y⟩

/-- The record of a link, without its capacity period. -/
def linkRecord (l : Link α) : LinkRecord α :=
  ⟨l.id.external, l.source.external, l.target.external, l.length, l.capacity,
    l.freespeed, l.lanes⟩

/-- A network as the contents of a file, without a name. -/
def ofNetwork (n : Network α) : NetworkFile α :=
  { name := none
    capacityPeriod := n.capacityPeriod
    cellSize := n.cellSize
    nodes := n.nodes.map nodeRecord
    links := n.links.map linkRecord }

theorem ofNetwork_nodes (n : Network α) :
    (ofNetwork n).nodes.map (·.id) = n.nodes.map (·.id.external) := by
  simp [ofNetwork, nodeRecord, Function.comp_def]

theorem ofNetwork_links (n : Network α) :
    (ofNetwork n).links.map (·.id) = n.links.map (·.id.external) := by
  simp [ofNetwork, linkRecord, Function.comp_def]

end NetworkFile

end LaneFlow
