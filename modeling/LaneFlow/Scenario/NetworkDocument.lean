import LaneFlow.Document.Form
import LaneFlow.Document.Value
import LaneFlow.Scenario.NetworkFile

/-!
# Networks as documents

How a network file is read from a document and written as one. The name, the
capacity period, the cell size and the two lists may be left out; every
attribute of a node and of a link is required.

## Main results

* `NodeRecord.read_write`: a node with finite coordinates is read back.
-/

namespace LaneFlow

open LaneFlow.Document

variable {σ α : Type} [Leaf σ α] [Quantity α]

namespace NodeRecord

/-- The fields of a node. -/
def form : Form σ (NodeRecord α) where
  fields :=
    [.of "id" true Tree.text fun x r => { r with id := x },
     .of "x" true Tree.number fun x r => { r with x },
     .of "y" true Tree.number fun y r => { r with y }]
  blank := ⟨"", 0.0, 0.0⟩

/-- A node as a document. -/
def write (r : NodeRecord α) : Document.Tree (Value α) :=
  .ofFields [("id", .ofText r.id), ("x", .ofNumber r.x), ("y", .ofNumber r.y)]

/-- A node with finite coordinates is read back. -/
theorem read_write {r : NodeRecord α} (hx : Quantity.isFinite r.x)
    (hy : Quantity.isFinite r.y) : form.read r.write = .ok r := by
  simp [form, Form.read, write, Tree.ofFields, Form.fill, Form.field?, Field.of,
    Except.map, Tree.number_ofNumber hx, Tree.number_ofNumber hy, Except.bind,
    Form.close]

end NodeRecord

namespace LinkRecord

/-- The fields of a link. -/
def form : Form σ (LinkRecord α) where
  fields :=
    [.of "id" true Tree.text fun x r => { r with id := x },
     .of "from" true Tree.text fun x r => { r with source := x },
     .of "to" true Tree.text fun x r => { r with target := x },
     .of "length" true Tree.number fun x r => { r with length := x },
     .of "capacity" true Tree.number fun x r => { r with capacity := x },
     .of "freespeed" true Tree.number fun x r => { r with freespeed := x },
     .of "permlanes" true Tree.number fun x r => { r with lanes := x }]
  blank := ⟨"", "", "", 0.0, 0.0, 0.0, 0.0⟩

/-- A link as a document. -/
def write (r : LinkRecord α) : Document.Tree (Value α) :=
  .ofFields
    [("id", .ofText r.id), ("from", .ofText r.source), ("to", .ofText r.target),
     ("length", .ofNumber r.length), ("capacity", .ofNumber r.capacity),
     ("freespeed", .ofNumber r.freespeed), ("permlanes", .ofNumber r.lanes)]

end LinkRecord

namespace NetworkFile

/-- The fields of a network file. -/
def form : Form σ (NetworkFile α) where
  fields :=
    [.of "name" false (Tree.optional Tree.text) fun x f => { f with name := x },
     .of "capacity_period" false Tree.number
       fun x f => { f with capacityPeriod := x },
     .of "effective_cell_size" false Tree.number
       fun x f => { f with cellSize := x },
     .of "nodes" false (Tree.listOf NodeRecord.form.read)
       fun x f => { f with nodes := x },
     .of "links" false (Tree.listOf LinkRecord.form.read)
       fun x f => { f with links := x }]
  blank := .empty

/-- A network file as a document. -/
def write (f : NetworkFile α) : Document.Tree (Value α) :=
  .ofFields
    [("name", .ofText? f.name), ("capacity_period", .ofNumber f.capacityPeriod),
     ("effective_cell_size", .ofNumber f.cellSize),
     ("nodes", .list (f.nodes.map (·.write))),
     ("links", .list (f.links.map (·.write)))]

end NetworkFile

end LaneFlow
