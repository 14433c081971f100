/-!
# Documents

A document is a tree of lists and records over single values. What a single
value can be is a matter of the format that the document is written in; `Leaf`
says how the values of a format are read.

A text may break off or break the rules of its format. The tree then holds what
could be read, and a value that is not *intact* stands where the trouble began.
So trouble in a part of a document that nobody looks at is not trouble yet.

Reading stops at the first place, in the order of the text, that does not fit.
That place is what a failed reading tells.

## Main results

* `Location.text?_eq_none_iff`: a place has a text if the way to it can be told.
-/

namespace LaneFlow.Document

/-- A document over single values of some type. -/
inductive Tree (σ : Type) where
  | scalar (value : σ)
  | list (items : List (Tree σ))
  | record (entries : List (Tree σ × Tree σ))
deriving Repr

/-- How the single values of a format are read. -/
class Leaf (σ : Type) (α : outParam Type) where
  text? : σ → Option String
  number? : σ → Option α
  flag? : σ → Option Bool
  /-- The choice that a value makes among named ones. -/
  choice? : σ → Option String
  /-- The value says that there is none. -/
  isUnset : σ → Bool
  /-- The value stands for an empty list or record. -/
  isVoid : σ → Bool
  /-- The rules of the format hold up to the end of the value. -/
  isIntact : σ → Bool
  /-- A record may be written as the list of its fields' values. -/
  recordsInOrder : Bool
  /-- A choice may be written as a record of its name and nothing. -/
  choicesAsRecords : Bool

/-- A step from a document to a part of it. -/
inductive Step where
  | field (name : String)
  | item (index : Nat)
  /-- To a part whose name cannot be told. -/
  | unknown
deriving Repr, DecidableEq

/-- A place in a document: the steps that lead to it from the root. -/
abbrev Location := List Step

/-- A value that was read, or the place where reading stopped. -/
abbrev Reading (β : Type) := Except Location β

namespace Location

/-- The text of the steps after the first one. -/
def tailText : Location → String
  | [] => ""
  | .field name :: rest => "." ++ name ++ tailText rest
  | .item index :: rest =>
    "[" ++ String.ofList (Nat.toDigits 10 index) ++ "]" ++ tailText rest
  | .unknown :: rest => ".?" ++ tailText rest

/-- The text of a place, if the way to it can be told. -/
def text? (l : Location) : Option String :=
  if l.contains .unknown then none
  else match l with
    | [] => some "."
    | .field name :: rest => some (name ++ tailText rest)
    | steps => some (tailText steps)

theorem text?_eq_none_iff {l : Location} : text? l = none ↔ .unknown ∈ l := by
  unfold text?
  split
  · simp_all
  · split <;> simp_all

example :
    text? [.field "links", .item 0, .field "id"] = some "links[0].id" := by
  decide

end Location

/-- A reading inside a part of a document. -/
def within {β : Type} (step : Step) (r : Reading β) : Reading β :=
  r.mapError (step :: ·)

@[simp] theorem within_ok {β : Type} (step : Step) (x : β) :
    within step (.ok x) = .ok x := rfl

@[simp] theorem within_error {β : Type} (step : Step) (l : Location) :
    within step (.error l : Reading β) = .error (step :: l) := rfl

namespace Tree

variable {σ α β : Type} [Leaf σ α]

mutual

/-- Whether the rules of the format hold up to the end of a document. -/
def isIntact : Tree σ → Bool
  | .scalar value => Leaf.isIntact value
  | .list items => areIntact items
  | .record entries => areEntriesIntact entries

/-- Whether the rules of the format hold in all of some documents. -/
def areIntact : List (Tree σ) → Bool
  | [] => true
  | item :: rest => item.isIntact && areIntact rest

/-- Whether the rules of the format hold in all of some entries. -/
def areEntriesIntact : List (Tree σ × Tree σ) → Bool
  | [] => true
  | (key, value) :: rest =>
    key.isIntact && value.isIntact && areEntriesIntact rest

end

/-- What a single value is read as; nothing else fits. -/
def leaf (read? : σ → Option β) : Tree σ → Reading β
  | .scalar value => match read? value with
    | some x => .ok x
    | none => .error []
  | _ => .error []

/-- A document that is a text. -/
def text (t : Tree σ) : Reading String := t.leaf Leaf.text?

/-- A document that is a number. -/
def number (t : Tree σ) : Reading α := t.leaf Leaf.number?

/-- A document that is true or false. -/
def flag (t : Tree σ) : Reading Bool := t.leaf Leaf.flag?

/-- The text of a key. -/
def key? : Tree σ → Option String
  | .scalar value => Leaf.text? value
  | _ => none

/-- The name in a document that makes a choice. -/
def choiceName? : Tree σ → Option String
  | .scalar value => Leaf.choice? value
  | .record [(key, .scalar value)] =>
    if Leaf.choicesAsRecords σ && Leaf.isUnset value then key.key? else none
  | _ => none

/-- A document that names one of several choices. -/
def choice (ofName? : String → Option β) (t : Tree σ) : Reading β :=
  match t.choiceName?.bind ofName? with
  | some x => .ok x
  | none => .error []

/-- A document that may say that there is nothing. -/
def optional (read : Tree σ → Reading β) : Tree σ → Reading (Option β)
  | .scalar value =>
    if Leaf.isUnset value then .ok none else (read (.scalar value)).map some
  | t => (read t).map some

/-- Documents in a row, the first of which is at some place in a list. -/
def readItems (read : Tree σ → Reading β) (index : Nat) :
    List (Tree σ) → Reading (List β)
  | [] => .ok []
  | item :: rest => do
    let x ← within (.item index) (read item)
    let xs ← readItems read (index + 1) rest
    return x :: xs

/-- A document that is a list. -/
def listOf (read : Tree σ → Reading β) : Tree σ → Reading (List β)
  | .list items => readItems read 0 items
  | .scalar value => if Leaf.isVoid value then .ok [] else .error []
  | .record _ => .error []

/-- The entries of a document that is a record. -/
def entries : Tree σ → Reading (List (Tree σ × Tree σ))
  | .record entries => .ok entries
  | .scalar value => if Leaf.isVoid value then .ok [] else .error []
  | .list _ => .error []

end Tree

end LaneFlow.Document
