import LaneFlow.Document.Tree
import LaneFlow.Quantity

/-!
# Values

The single values of a document that this library writes: texts, numbers, and
nothing. A number that cannot be written in digits is written as nothing.

## Main results

* `Value.number_ofNumber`: a finite number that is written is read back.
-/

namespace LaneFlow.Document

/-- A single value of a document. -/
inductive Value (α : Type) where
  | null
  | flag (b : Bool)
  | number (x : α)
  | text (s : String)
deriving Repr, DecidableEq

namespace Value

variable {α : Type}

instance : Leaf (Value α) α where
  text?
    | .text s => some s
    | _ => none
  number?
    | .number x => some x
    | _ => none
  flag?
    | .flag b => some b
    | _ => none
  choice?
    | .text s => some s
    | _ => none
  isUnset
    | .null => true
    | _ => false
  isVoid _ := false
  isIntact _ := true
  recordsInOrder := true
  choicesAsRecords := true

/-- The value that a number is written as. -/
def ofNumber [Quantity α] (x : α) : Value α :=
  if Quantity.isFinite x then .number x else .null

theorem number_ofNumber [Quantity α] {x : α} (h : Quantity.isFinite x) :
    Leaf.number? (ofNumber x) = some x := by
  simp [ofNumber, h, Leaf.number?]

end Value

namespace Tree

variable {α : Type}

/-- A text as a document. -/
def ofText (s : String) : Tree (Value α) := .scalar (.text s)

/-- A number as a document. -/
def ofNumber [Quantity α] (x : α) : Tree (Value α) := .scalar (.ofNumber x)

/-- A text or nothing as a document. -/
def ofText? : Option String → Tree (Value α)
  | none => .scalar .null
  | some s => ofText s

/-- Named parts as a document. -/
def ofFields (fields : List (String × Tree (Value α))) : Tree (Value α) :=
  .record (fields.map fun f => (ofText f.1, f.2))

@[simp] theorem text_ofText (s : String) :
    (ofText s : Tree (Value α)).text = .ok s := rfl

@[simp] theorem key?_ofText (s : String) :
    (ofText s : Tree (Value α)).key? = some s := rfl

@[simp] theorem optional_ofText? (s : Option String) :
    Tree.optional Tree.text (ofText? s : Tree (Value α)) = .ok s := by
  cases s <;> rfl

@[simp] theorem flag_scalar (b : Bool) :
    (.scalar (.flag b) : Tree (Value α)).flag = .ok b := rfl

theorem choice_ofText {β : Type} {ofName? : String → Option β} {name : String}
    {x : β} (h : ofName? name = some x) :
    Tree.choice ofName? (ofText name : Tree (Value α)) = .ok x := by
  simp [choice, choiceName?, ofText, Leaf.choice?, h]

theorem number_ofNumber [Quantity α] {x : α} (h : Quantity.isFinite x) :
    (ofNumber x).number = .ok x := by
  simp [ofNumber, number, leaf, Value.number_ofNumber h]

end Tree

end LaneFlow.Document
