import LaneFlow.Queue.LaneQueue

/-!
# The queues of a link

Vehicles enter a link on its trunk. If the link is split, they move on into one
of the lanes at its end and leave the link from there; otherwise they leave from
the trunk.

A vehicle moves into a lane that leads to its next link, or into any lane if
there is none. Of several such lanes it takes the one with the least storage in
use. The vehicles of the trunk keep their order: if the first one cannot move,
none can.

A step of a simulation is a list of `LinkQueue.Op`, and `LinkQueue.run` carries
it out.

## Main results

* `LinkQueue.candidates_ne_nil`: there is always a lane to choose from.
* `LinkQueue.move_of_unsplit`: on a link without lanes nothing moves.
* `LinkQueue.mem_offers_iff`: an exit offers the vehicle that is due there.
* `LinkQueue.run_append`: a run is carried out from left to right.
-/

namespace LaneFlow

/-- One of the queues of a link. -/
inductive Place where
  | trunk
  | lane (index : Nat)
deriving Repr, DecidableEq

/-- The queues of a link. -/
structure LinkQueue (α : Type) where
  id : Id .link
  trunk : LaneQueue α
  lanes : List (LaneQueue α)
deriving Repr, DecidableEq

/-- Capacities that belong to another link. -/
structure ForeignCapacities where
  capacitiesOf : Id .link
  link : Id .link
deriving Repr, DecidableEq

/-- What is said about capacities that belong to another link. -/
def ForeignCapacities.message (f : ForeignCapacities) : String :=
  "assertion \x60left == right\x60 failed: Capacities of link " ++
    s!"{f.capacitiesOf.external} can't be used for link {f.link.external}"

namespace LinkQueue

variable {α : Type} [Quantity α]

/-- The links that a lane of an assignment leads to, looked up by the id of the
lane. -/
def linksOf (a : Option (LaneAssignment α)) (lane : Id .lane) :
    List (Id .link) :=
  match a.bind fun a => a.lanes.find? (·.id.same lane) with
  | some l => l.toLinks
  | none => []

/-- The empty queues of a link with some capacities; the id of the trunk is
given. -/
def ofCapacities (link : Link α) (c : LinkCapacity α)
    (a : Option (LaneAssignment α)) (trunkId : Id .lane) : LinkQueue α :=
  { id := link.id
    trunk := .ofSegment trunkId c.trunk link.freespeed []
    lanes := c.lanes.map fun l =>
      .ofSegment l.lane l.segment link.freespeed (linksOf a l.lane) }

/-- The empty queues of a link. The capacities must be those of the link. -/
def create (s : IdStore) (link : Link α) (c : LinkCapacity α)
    (a : Option (LaneAssignment α)) :
    Except ForeignCapacities (LinkQueue α × IdStore) :=
  if link.id.same c.link then
    let (trunkId, s) := (a.getD { link := link.id }).trunkId s
    .ok (ofCapacities link c a trunkId, s)
  else .error ⟨c.link, link.id⟩

omit [Quantity α] in
/-- The queue at a place. -/
def at? (q : LinkQueue α) : Place → Option (LaneQueue α)
  | .trunk => some q.trunk
  | .lane i => q.lanes[i]?

omit [Quantity α] in
/-- The queues with another one at a place. -/
def setAt (q : LinkQueue α) (p : Place) (l : LaneQueue α) : LinkQueue α :=
  match p with
  | .trunk => { q with trunk := l }
  | .lane i => { q with lanes := q.lanes.set i l }

omit [Quantity α] in
/-- The number of vehicles on the link. -/
def count (q : LinkQueue α) : Nat :=
  q.lanes.foldl (fun n l => n + l.count) q.trunk.count

/-- Whether a vehicle may enter the link, which is a matter of the trunk
only. -/
def hasRoom (q : LinkQueue α) : Bool := q.trunk.hasRoom

/-- The room of the link. -/
def space (q : LinkQueue α) : α :=
  q.trunk.storage.max + Quantity.sum (q.lanes.map (·.storage.max))

/-- The storage in use on the link. -/
def inUse (q : LinkQueue α) : α :=
  q.trunk.inUse + Quantity.sum (q.lanes.map (·.inUse))

/-- Lets a vehicle in. -/
def push (q : LinkQueue α) (v : Vehicle α) (now : Nat) : LinkQueue α :=
  { q with trunk := q.trunk.push v now }

/-- Lets the first vehicle of one of the queues out. -/
def pop (q : LinkQueue α) (p : Place) : Option (Vehicle α) × LinkQueue α :=
  match (q.at? p).bind (·.pop?) with
  | some (v, l) => (some v, q.setAt p l)
  | none => (none, q)

/-- Fills up the flow budgets of all queues. -/
def refill (q : LinkQueue α) (now : Nat) : LinkQueue α :=
  { q with trunk := q.trunk.refill now, lanes := q.lanes.map (·.refill now) }

/-- Ends the step for the storage of all queues. -/
def settle (q : LinkQueue α) : LinkQueue α :=
  { q with trunk := q.trunk.settle, lanes := q.lanes.map (·.settle) }

/-! ## Choosing a lane -/

/-- The places of the lanes that lead to the next link of a vehicle. -/
def serving (lanes : List (LaneQueue α)) (v : Vehicle α) : List Nat :=
  match v.next with
  | some link =>
    (List.range lanes.length).filter fun i => lanes[i]?.any (·.leadsTo link)
  | none => []

/-- The places of the lanes that a vehicle may take. -/
def candidates (lanes : List (LaneQueue α)) (v : Vehicle α) : List Nat :=
  if (serving lanes v).isEmpty then List.range lanes.length else serving lanes v

/-- Of two places the one whose lane has less storage in use, or the first if
they have the same. -/
def lessUsed (lanes : List (LaneQueue α)) (i j : Nat) : Nat :=
  match lanes[i]?, lanes[j]? with
  | some a, some b => if Quantity.before b.inUse a.inUse then j else i
  | _, _ => i

/-- The place of the lane that a vehicle moves into. -/
def choose (lanes : List (LaneQueue α)) (v : Vehicle α) : Nat :=
  match candidates lanes v with
  | [] => 0
  | i :: rest => rest.foldl (lessUsed lanes) i

omit [Quantity α] in
theorem candidates_ne_nil {lanes : List (LaneQueue α)} (v : Vehicle α)
    (h : lanes ≠ []) : candidates lanes v ≠ [] := by
  unfold candidates
  split
  · simpa using h
  · simp_all

/-! ## Moving vehicles to the end of the link -/

/-- The queues of a link after some moves, each of a vehicle into the lane at
some place. -/
structure Shift (α : Type) where
  trunk : LaneQueue α
  lanes : List (LaneQueue α)
  moves : List (Vehicle α × Nat) := []

/--
Moves the given vehicles, which are those of the trunk, from the first as far as
they can move.
-/
def shift (now : Nat) :
    List (Waiting α) → LaneQueue α → List (LaneQueue α) → Shift α
  | [], trunk, lanes => { trunk, lanes }
  | _ :: rest, trunk, lanes =>
    match trunk.due? now with
    | none => { trunk, lanes }
    | some v =>
      match lanes[choose lanes v]?, trunk.pop? with
      | some target, some (v, remaining) =>
        if target.hasRoom then
          let more := shift now rest remaining
            (lanes.set (choose lanes v) (target.push v now))
          { more with moves := (v, choose lanes v) :: more.moves }
        else { trunk, lanes }
      | _, _ => { trunk, lanes }

/-- What can be moved now; nothing if the link is not split. -/
def shifted (q : LinkQueue α) (now : Nat) : Shift α :=
  if q.lanes.isEmpty then { trunk := q.trunk, lanes := q.lanes }
  else shift now q.trunk.waiting q.trunk q.lanes

/-- The vehicles that have reached the end of the trunk and can move, and where
they go. -/
def moves (q : LinkQueue α) (now : Nat) : List (Vehicle α × Nat) :=
  (q.shifted now).moves

/-- Moves the vehicles that have reached the end of the trunk. -/
def move (q : LinkQueue α) (now : Nat) : LinkQueue α :=
  { q with trunk := (q.shifted now).trunk, lanes := (q.shifted now).lanes }

theorem move_of_unsplit {q : LinkQueue α} (h : q.lanes = []) (now : Nat) :
    q.move now = q := by
  have hempty : q.lanes.isEmpty := by simp [h]
  rw [move, shifted, if_pos hempty]

/-! ## Leaving the link -/

/-- The places from which vehicles leave the link. -/
def exits (q : LinkQueue α) : List Place :=
  if q.lanes.isEmpty then [.trunk] else (List.range q.lanes.length).map .lane

/-- The vehicles that may leave the link now, at most one from each place. -/
def offers (q : LinkQueue α) (now : Nat) : List (Place × Vehicle α) :=
  q.exits.filterMap fun p => ((q.at? p).bind (·.due? now)).map (p, ·)

omit [Quantity α] in
theorem mem_exits_iff {q : LinkQueue α} {p : Place} :
    p ∈ q.exits ↔
      (q.lanes = [] ∧ p = .trunk) ∨ ∃ i < q.lanes.length, p = .lane i := by
  unfold exits
  cases q.lanes with
  | nil => simp
  | cons l ls => simp [eq_comm]

theorem mem_offers_iff {q : LinkQueue α} {now : Nat} {p : Place}
    {v : Vehicle α} : (p, v) ∈ q.offers now ↔
      p ∈ q.exits ∧ ∃ l, q.at? p = some l ∧ l.due? now = some v := by
  simp only [offers, List.mem_filterMap, Option.map_eq_some_iff,
    Option.bind_eq_some_iff, Prod.mk.injEq]
  constructor
  · rintro ⟨_, hp, v, ⟨l, hl, hdue⟩, rfl, rfl⟩
    exact ⟨hp, l, hl, hdue⟩
  · rintro ⟨hp, l, hl, hdue⟩
    exact ⟨p, hp, v, ⟨l, hl, hdue⟩, rfl, rfl⟩

/-! ## Runs -/

/-- What can be done with the queues of a link. -/
inductive Op (α : Type) where
  | push (v : Vehicle α) (now : Nat)
  | pop (p : Place)
  | refill (now : Nat)
  | settle
  | move (now : Nat)
deriving Repr, DecidableEq

/-- The queues after one operation. -/
def step (q : LinkQueue α) : Op α → LinkQueue α
  | .push v now => q.push v now
  | .pop p => (q.pop p).2
  | .refill now => q.refill now
  | .settle => q.settle
  | .move now => q.move now

/-- The queues after several operations. -/
def run (q : LinkQueue α) (ops : List (Op α)) : LinkQueue α := ops.foldl step q

@[simp] theorem run_nil (q : LinkQueue α) : q.run [] = q := rfl

@[simp] theorem run_cons (q : LinkQueue α) (op : Op α) (ops : List (Op α)) :
    q.run (op :: ops) = (q.step op).run ops := rfl

theorem run_append (q : LinkQueue α) (ops more : List (Op α)) :
    q.run (ops ++ more) = (q.run ops).run more := List.foldl_append

end LinkQueue

end LaneFlow
