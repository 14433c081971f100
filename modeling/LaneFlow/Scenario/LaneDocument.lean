import LaneFlow.Document.Form
import LaneFlow.Document.Value
import LaneFlow.Scenario.LaneFile

/-!
# Lanes as documents

How a lane file is read from a document and written as one. What a lane does not
declare, and a list that is empty, is left out of the document.

## Main results

* `LaneRecord.read_write_bare`: a lane that declares nothing is read back.
-/

namespace LaneFlow

open LaneFlow.Document

variable {σ α : Type} [Leaf σ α] [Quantity α]

/-- A field that is left out if there is nothing to write. -/
def optionalField (name : String) :
    Option α → List (String × Document.Tree (Value α))
  | none => []
  | some x => [(name, .ofNumber x)]

omit [Quantity α] in
/-- A list of texts that is left out if it is empty. -/
def textsField (name : String) (xs : List String) :
    List (String × Document.Tree (Value α)) :=
  if xs.isEmpty then [] else [(name, .list (xs.map .ofText))]

namespace LaneRecord

/-- The fields of a lane. -/
def form : Form σ (LaneRecord α) where
  fields :=
    [.of "id" true Tree.text fun x r => { r with id := x },
     .of "starts_at_meter_from_link_end" true Tree.number
       fun x r => { r with start := x },
     .of "number_of_represented_lanes" false (Tree.optional Tree.number)
       fun x r => { r with represented := x },
     .of "capacity_vehicles_per_hour" false (Tree.optional Tree.number)
       fun x r => { r with capacity := x },
     .of "to_lane_ids" false (Tree.listOf Tree.text)
       fun x r => { r with toLanes := x },
     .of "to_link_ids" false (Tree.listOf Tree.text)
       fun x r => { r with toLinks := x }]
  blank := { id := "", start := 0.0 }

/-- A lane as a document. -/
def write (r : LaneRecord α) : Document.Tree (Value α) :=
  .ofFields
    ([("id", .ofText r.id),
        ("starts_at_meter_from_link_end", .ofNumber r.start)] ++
      optionalField "number_of_represented_lanes" r.represented ++
      optionalField "capacity_vehicles_per_hour" r.capacity ++
      textsField "to_lane_ids" r.toLanes ++ textsField "to_link_ids" r.toLinks)

/-- A lane that declares nothing is read back. -/
theorem read_write_bare (id : String) {start : α}
    (h : Quantity.isFinite start) :
    form.read (write { id, start }) = .ok { id, start } := by
  simp [form, Form.read, write, optionalField, textsField, Tree.ofFields,
    Form.fill, Form.field?, Field.of, Except.map, Tree.number_ofNumber h,
    Except.bind, Form.close]

end LaneRecord

namespace AssignmentRecord

/-- The fields of the lanes of a link. -/
def form : Form σ (AssignmentRecord α) where
  fields :=
    [.of "link_id" true Tree.text fun x r => { r with link := x },
     .of "lanes" false (Tree.listOf LaneRecord.form.read)
       fun x r => { r with lanes := x }]
  blank := { link := "" }

/-- The lanes of a link as a document. -/
def write (r : AssignmentRecord α) : Document.Tree (Value α) :=
  .ofFields
    [("link_id", .ofText r.link), ("lanes", .list (r.lanes.map (·.write)))]

end AssignmentRecord

namespace LaneFile

/-- The fields of a lane file. -/
def form : Form σ (LaneFile α) where
  fields :=
    [.of "lanes_to_link_assignments" false
       (Tree.listOf AssignmentRecord.form.read)
       fun x f => { f with assignments := x }]
  blank := {}

/-- A lane file as a document. -/
def write (f : LaneFile α) : Document.Tree (Value α) :=
  .ofFields [("lanes_to_link_assignments", .list (f.assignments.map (·.write)))]

end LaneFile

end LaneFlow
