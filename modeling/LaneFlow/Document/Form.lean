import LaneFlow.Document.Tree

/-!
# Reading records

A `Form` lists the fields of a record. Reading starts from the record in which
every field has its default and enters the fields of the document one after the
other. So a field that the document does not have keeps its default, unless it
is required.

Fields that the form does not know are skipped. A field may not come twice. In
formats that allow it, a record may also be a list of its fields' values in the
order of the form.

## Main results

* `Form.fill_nil`, `Form.fill_known`: entering the fields of a document one by
  one.
-/

namespace LaneFlow.Document

/-- A field of a record, and how its value is entered. -/
structure Field (σ ρ : Type) where
  name : String
  required : Bool
  enter : Tree σ → ρ → Reading ρ

/-- The fields of a record, and the record in which each has its default. -/
structure Form (σ ρ : Type) where
  fields : List (Field σ ρ)
  blank : ρ

/-- A field whose value is read and then put into the record. -/
def Field.of {σ ρ β : Type} (name : String) (required : Bool)
    (read : Tree σ → Reading β) (put : β → ρ → ρ) : Field σ ρ :=
  { name, required, enter := fun t r => (read t).map (put · r) }

namespace Form

variable {σ ρ α : Type} [Leaf σ α]

omit [Leaf σ α] in
/-- The field of a name. -/
def field? (f : Form σ ρ) (name : String) : Option (Field σ ρ) :=
  f.fields.find? (·.name = name)

/-- Enters the entries of a document, with the names of the fields that have
been entered. -/
def fill (f : Form σ ρ) (seen : List String) (r : ρ) :
    List (Tree σ × Tree σ) → Reading (List String × ρ)
  | [] => .ok (seen, r)
  | (key, value) :: rest =>
    match key.key? with
    | none => .error [.unknown]
    | some name =>
      match f.field? name with
      | none =>
        if value.isIntact then f.fill seen r rest else .error [.field name]
      | some field =>
        if seen.contains name then .error []
        else match within (.field name) (field.enter value r) with
          | .ok r => f.fill (name :: seen) r rest
          | .error l => .error l

omit [Leaf σ α] in
/-- Enters the values of a list into fields, the first of which has some place
in the list. -/
def fillInOrder (seen : List String) (r : ρ) (index : Nat) :
    List (Field σ ρ) → List (Tree σ) → Reading (List String × ρ)
  | _, [] => .ok (seen, r)
  | [], _ :: _ => .error []
  | field :: fields, value :: rest =>
    match within (.item index) (field.enter value r) with
    | .ok r => fillInOrder (field.name :: seen) r (index + 1) fields rest
    | .error l => .error l

omit [Leaf σ α] in
/-- The record, if all required fields have been entered. -/
def close (f : Form σ ρ) (filled : List String × ρ) : Reading ρ :=
  if f.fields.all fun field =>
      !field.required || filled.1.contains field.name then
    .ok filled.2
  else .error []

/-- A document that is a record. -/
def read (f : Form σ ρ) : Tree σ → Reading ρ
  | .record entries => (f.fill [] f.blank entries).bind f.close
  | .list items =>
    if Leaf.recordsInOrder σ then
      (fillInOrder [] f.blank 0 f.fields items).bind f.close
    else .error []
  | .scalar value =>
    if Leaf.isVoid value then f.close ([], f.blank) else .error []

@[simp] theorem fill_nil (f : Form σ ρ) (seen : List String) (r : ρ) :
    f.fill seen r [] = .ok (seen, r) := rfl

theorem fill_known {f : Form σ ρ} {seen : List String} {r s : ρ}
    {key value : Tree σ}
    {name : String} {field : Field σ ρ} (hkey : key.key? = some name)
    (hfield : f.field? name = some field) (hnew : seen.contains name = false)
    (hvalue : field.enter value r = .ok s) (rest : List (Tree σ × Tree σ)) :
    f.fill seen r ((key, value) :: rest) = f.fill (name :: seen) s rest := by
  simp only [fill, hkey, hfield, hnew, hvalue, within_ok]
  rfl

end Form

end LaneFlow.Document
