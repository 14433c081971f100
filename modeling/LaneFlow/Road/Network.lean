import LaneFlow.Ident
import LaneFlow.Quantity

/-!
# Road networks

A network is a list of nodes and a list of links between them, both in the order
in which they were added. Every node also lists the links that end and that
start at it.

Adding a node or a link can fail. The network that remains is then part of the
answer, since a link whose end is unknown has been entered at its start before
the failure shows.

## Main results

* `Network.addNode_of_new`, `Network.addLink_of_ends`: what a successful
  addition does.
* `Network.addLink_of_missing_end`: what is left behind by a link without an
  end.
-/

namespace LaneFlow

/-- The period in seconds that the capacity of a link refers to if nothing else
is said. -/
def defaultCapacityPeriod {α : Type} [Quantity α] : α := 3600.0

/-- The metres of one lane that a standing vehicle takes up if nothing else is
said. -/
def defaultCellSize {α : Type} [Quantity α] : α := 7.5

/-- A place where links start and end, with the links that do. -/
structure Node (α : Type) where
  id : Id .node
  x : α
  y : α
  inLinks : List (Id .link) := []
  outLinks : List (Id .link) := []
deriving Repr, DecidableEq

/-- A road from one node to another. -/
structure Link (α : Type) where
  id : Id .link
  source : Id .node
  target : Id .node
  length : α
  /-- Vehicles that pass per capacity period. -/
  capacity : α
  freespeed : α
  /-- The number of lanes, which need not be whole. -/
  lanes : α
  /-- The seconds that `capacity` refers to. -/
  capacityPeriod : α
deriving Repr, DecidableEq

/-- Nodes and links in the order in which they were added, and what holds for
all of them. -/
structure Network (α : Type) where
  nodes : List (Node α)
  links : List (Link α)
  capacityPeriod : α
  cellSize : α
deriving Repr, DecidableEq

/-- Why a network refuses a request. -/
inductive NetworkFault where
  | nodeExists (id : Id .node)
  | nodeMissing (id : Id .node)
  | linkExists (id : Id .link)
  | linkMissing (id : Id .link)
deriving Repr, DecidableEq

/-- What is said about a refused request. -/
def NetworkFault.message : NetworkFault → String
  | .nodeExists id => s!"Node id {id.external} already exists in the network."
  | .nodeMissing id => s!"Node {id.external} is not part of the network."
  | .linkExists id => s!"Link id {id.external} already exists in the network."
  | .linkMissing id => s!"Link {id.external} is not part of the network."

namespace Node

variable {α : Type}

/-- The node with one more link that starts at it. -/
def withOut (n : Node α) (link : Id .link) : Node α :=
  { n with outLinks := n.outLinks ++ [link] }

/-- The node with one more link that ends at it. -/
def withIn (n : Node α) (link : Id .link) : Node α :=
  { n with inLinks := n.inLinks ++ [link] }

@[simp] theorem withOut_id (n : Node α) (link : Id .link) :
    (n.withOut link).id = n.id := rfl

@[simp] theorem withIn_id (n : Node α) (link : Id .link) :
    (n.withIn link).id = n.id := rfl

end Node

/-- A link of unit capacity, speed and width, as long as its ends are apart. -/
def Link.between (id : Id .link) (source target : Node Float) : Link Float :=
  let dx := source.x - target.x
  let dy := source.y - target.y
  { id, source := source.id, target := target.id
    length := (dx * dx + dy * dy).sqrt
    capacity := 1.0, freespeed := 1.0, lanes := 1.0
    capacityPeriod := defaultCapacityPeriod }

namespace Network

variable {α : Type}

/-- A network without nodes and links. -/
def empty [Quantity α] : Network α :=
  ⟨[], [], defaultCapacityPeriod, defaultCellSize⟩

/-- The node with an id, if there is one. -/
def node? (n : Network α) (id : Id .node) : Option (Node α) :=
  n.nodes.find? (·.id.same id)

/-- The link with an id, if there is one. -/
def link? (n : Network α) (id : Id .link) : Option (Link α) :=
  n.links.find? (·.id.same id)

/-- The node with an id that must be part of the network. -/
def node (n : Network α) (id : Id .node) : Except NetworkFault (Node α) :=
  match n.node? id with
  | some x => .ok x
  | none => .error (.nodeMissing id)

/-- The link with an id that must be part of the network. -/
def link (n : Network α) (id : Id .link) : Except NetworkFault (Link α) :=
  match n.link? id with
  | some x => .ok x
  | none => .error (.linkMissing id)

/-- The network with every node of an id replaced by its image. -/
def mapNode (n : Network α) (id : Id .node) (f : Node α → Node α) : Network α :=
  { n with nodes := n.nodes.map fun x => if x.id.same id then f x else x }

/-- Adds a node, unless one with its id is there. -/
def addNode (n : Network α) (node : Node α) : Network α × Option NetworkFault :=
  if (n.node? node.id).isSome then (n, some (.nodeExists node.id))
  else ({ n with nodes := n.nodes ++ [node] }, none)

/--
Adds a link, unless one with its id is there, and enters it at its two ends. The
start is looked up and changed before the end is looked up.
-/
def addLink (n : Network α) (link : Link α) : Network α × Option NetworkFault :=
  if (n.link? link.id).isSome then (n, some (.linkExists link.id))
  else if (n.node? link.source).isNone then (n, some (.nodeMissing link.source))
  else
    let started := n.mapNode link.source (·.withOut link.id)
    if (started.node? link.target).isNone then
      (started, some (.nodeMissing link.target))
    else
      let ended := started.mapNode link.target (·.withIn link.id)
      ({ ended with links := ended.links ++ [link] }, none)

/-- Adds a link whose capacity refers to the period of the network. -/
def createLink (n : Network α) (id : Id .link) (source target : Id .node)
    (length capacity freespeed lanes : α) : Network α × Option NetworkFault :=
  n.addLink
    ⟨id, source, target, length, capacity, freespeed, lanes, n.capacityPeriod⟩

/-! ## What an addition does -/

theorem addNode_of_new {n : Network α} {node : Node α}
    (h : n.node? node.id = none) :
    n.addNode node = ({ n with nodes := n.nodes ++ [node] }, none) := by
  simp [addNode, h]

@[simp] theorem mapNode_links (n : Network α) (id : Id .node)
    (f : Node α → Node α) : (n.mapNode id f).links = n.links := rfl

/-- Changing nodes without changing their ids keeps what can be found. -/
theorem node?_mapNode_isNone (n : Network α) (id key : Id .node)
    (f : Node α → Node α) (hf : ∀ x, (f x).id = x.id) :
    ((n.mapNode id f).node? key).isNone = (n.node? key).isNone := by
  have h : ∀ xs : List (Node α),
      ((xs.map fun x => if x.id.same id then f x else x).find?
        (·.id.same key)).isNone = (xs.find? (·.id.same key)).isNone := by
    intro xs
    induction xs with
    | nil => rfl
    | cons x xs ih =>
        have hid : (if x.id.same id then f x else x).id = x.id := by
          split <;> simp [hf]
        rw [List.map_cons, List.find?_cons, List.find?_cons, hid]
        split <;> simp_all
  exact h n.nodes

theorem addLink_of_ends {n : Network α} {link : Link α}
    (hlink : n.link? link.id = none) (hsource : (n.node? link.source).isSome)
    (htarget : (n.node? link.target).isSome) :
    n.addLink link =
      ({ (n.mapNode link.source (·.withOut link.id)).mapNode link.target
          (·.withIn link.id) with
        links := n.links ++ [link] }, none) := by
  have h := node?_mapNode_isNone n link.source link.target
    (·.withOut link.id) (fun _ => rfl)
  simp only [Option.isSome_iff_ne_none] at hsource htarget
  simp [addLink, hlink, hsource, h, htarget]

/-- A link with a start and no end is entered at its start and nowhere else. -/
theorem addLink_of_missing_end {n : Network α} {link : Link α}
    (hlink : n.link? link.id = none) (hsource : (n.node? link.source).isSome)
    (htarget : n.node? link.target = none) :
    n.addLink link =
      (n.mapNode link.source (·.withOut link.id),
        some (.nodeMissing link.target)) := by
  have h := node?_mapNode_isNone n link.source link.target
    (·.withOut link.id) (fun _ => rfl)
  simp only [Option.isSome_iff_ne_none] at hsource
  simp [addLink, hlink, hsource, h, htarget]

end Network

end LaneFlow
