/-!
# Identifiers

Nodes, links, lanes and vehicles are named by texts. A text is turned into an
`Id` once and compared by number from then on. Each kind of id has numbers of
its own, counted from zero in the order in which the texts of that kind were
first met.

`IdStore` remembers the texts. Its view is `IdStore.texts`: for each kind the
list of texts, a text's place in the list being its number.

## Main results

* `IdStore.texts_create_self`, `IdStore.texts_create_other`: a creation appends
  at most one text, and only to the list of its kind.
* `IdStore.create_external`, `IdStore.create_internal`: the id of a text carries
  that text and its place in the list.
-/

namespace LaneFlow

/-- What an id names. Free texts and units are kinds of their own, for tools. -/
inductive IdKind where
  | unit
  | text
  | link
  | node
  | lane
  | vehicle
deriving DecidableEq, Repr

/-- The number under which a kind is known outside, which never changes. -/
def IdKind.code : IdKind → Nat
  | .unit => 0
  | .text => 1
  | .link => 3
  | .node => 4
  | .lane => 5
  | .vehicle => 6

theorem IdKind.code_inj {a b : IdKind} : a.code = b.code ↔ a = b := by
  cases a <;> cases b <;> decide

/-- The id of a thing of one kind: its number and the text it stands for. -/
structure Id (kind : IdKind) where
  internal : Nat
  external : String
deriving Repr, DecidableEq

namespace Id

variable {kind : IdKind}

/-- Two ids are the same if their numbers are. -/
def same (a b : Id kind) : Bool := a.internal == b.internal

@[simp] theorem same_self (a : Id kind) : a.same a = true := by simp [same]

theorem same_iff {a b : Id kind} :
    a.same b = true ↔ a.internal = b.internal := by
  simp [same]

theorem same_comm (a b : Id kind) : a.same b = b.same a := Bool.beq_comm

/-- Ids are ordered by their numbers. -/
def compare (a b : Id kind) : Ordering := Ord.compare a.internal b.internal

/-- Whether an id is among the given ones. -/
def isIn (a : Id kind) (ids : List (Id kind)) : Bool := ids.any (a.same ·)

end Id

/-- What goes wrong when an id is asked for that was never created. -/
inductive IdFault where
  | noneOfKind (kind : IdKind)
  | unknownNumber (internal : Nat)
  | unknownText (external : String)
deriving DecidableEq, Repr

/-- The texts of all ids, by kind, in the order in which they were first met. -/
structure IdStore where
  units : List String := []
  plainTexts : List String := []
  links : List String := []
  nodes : List String := []
  lanes : List String := []
  vehicles : List String := []
deriving DecidableEq, Repr

namespace IdStore

/-- The texts of one kind; a text's place in the list is its number. -/
def texts (s : IdStore) : IdKind → List String
  | .unit => s.units
  | .text => s.plainTexts
  | .link => s.links
  | .node => s.nodes
  | .lane => s.lanes
  | .vehicle => s.vehicles

/-- The store with other texts for one kind. -/
def setTexts (s : IdStore) (kind : IdKind) (xs : List String) : IdStore :=
  match kind with
  | .unit => { s with units := xs }
  | .text => { s with plainTexts := xs }
  | .link => { s with links := xs }
  | .node => { s with nodes := xs }
  | .lane => { s with lanes := xs }
  | .vehicle => { s with vehicles := xs }

@[simp] theorem texts_setTexts_self (s : IdStore) (kind : IdKind)
    (xs : List String) : (s.setTexts kind xs).texts kind = xs := by
  cases kind <;> rfl

@[simp] theorem texts_setTexts_other (s : IdStore) {kind other : IdKind}
    (xs : List String)
    (h : other ≠ kind) : (s.setTexts kind xs).texts other = s.texts other := by
  cases kind <;> cases other <;> simp_all [setTexts, texts]

/-- The number of a text, if it has been met. -/
def number? (s : IdStore) (kind : IdKind) (external : String) : Option Nat :=
  (s.texts kind).idxOf? external

/-- The id of a text: the one it already has, or the next free number. -/
def create (s : IdStore) (kind : IdKind) (external : String) :
    Id kind × IdStore :=
  match s.number? kind external with
  | some n => (⟨n, external⟩, s)
  | none =>
    (⟨(s.texts kind).length, external⟩,
      s.setTexts kind (s.texts kind ++ [external]))

/-- The id of a text, if it has been met. -/
def find? (s : IdStore) (kind : IdKind) (external : String) :
    Option (Id kind) :=
  (s.number? kind external).map (⟨·, external⟩)

/-- The id of a text that must have been met. -/
def byText (s : IdStore) (kind : IdKind) (external : String) :
    Except IdFault (Id kind) :=
  match s.find? kind external with
  | some id => .ok id
  | none => .error (.unknownText external)

/-- The id with a number that must have been given. -/
def byNumber (s : IdStore) (kind : IdKind) (internal : Nat) :
    Except IdFault (Id kind) :=
  if (s.texts kind).isEmpty then .error (.noneOfKind kind)
  else match (s.texts kind)[internal]? with
    | some external => .ok ⟨internal, external⟩
    | none => .error (.unknownNumber internal)

/-- The ids of several texts, created from left to right. -/
def createAll (s : IdStore) (kind : IdKind) :
    List String → List (Id kind) × IdStore
  | [] => ([], s)
  | external :: rest =>
    let (id, s) := s.create kind external
    let (ids, s) := s.createAll kind rest
    (id :: ids, s)

/-! ## What a creation does to the view -/

@[simp] theorem create_external (s : IdStore) (kind : IdKind) (x : String) :
    (s.create kind x).1.external = x := by
  unfold create
  split <;> rfl

theorem create_internal (s : IdStore) (kind : IdKind) (x : String) :
    (s.create kind x).1.internal =
      (s.number? kind x).getD (s.texts kind).length := by
  unfold create
  split <;> simp_all

theorem texts_create_self (s : IdStore) (kind : IdKind) (x : String) :
    (s.create kind x).2.texts kind =
      if (s.number? kind x).isSome then s.texts kind
      else s.texts kind ++ [x] := by
  unfold create
  split <;> simp_all

theorem texts_create_other (s : IdStore) {kind other : IdKind} (x : String)
    (h : other ≠ kind) : (s.create kind x).2.texts other = s.texts other := by
  unfold create
  split
  · rfl
  · exact texts_setTexts_other s _ h

end IdStore

/-- What is said about an id that was never created. -/
def IdFault.message : IdFault → String
  | .noneOfKind kind =>
    s!"No ids for type {kind.code}. Use Id::create::<T>(...) to create ids"
  | .unknownNumber n => s!"No id found for internal {n}"
  | .unknownText x => s!"Could not find id for external id: {x}"

end LaneFlow
