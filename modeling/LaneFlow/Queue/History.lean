import LaneFlow.Queue.LinkQueue

/-!
# The history of a link

While operations are carried out, vehicles enter the link, move from its trunk
into one of its lanes, and leave. These events are the history of a run. It
tells for each queue which vehicles have been brought to it and which have been
taken from it, in order.

## Main results

* `LinkQueue.history_append`: the history of a longer run goes on where that of
  its start ends.
* `History.broughtTo_append`, `History.takenFrom_append`: so do the vehicles
  brought and taken.
-/

namespace LaneFlow

/-- Something that happens on a link. -/
inductive Event (α : Type) where
  | entered (v : Vehicle α)
  | moved (v : Vehicle α) (lane : Nat)
  | left (v : Vehicle α) (place : Place)
  | settled
deriving Repr, DecidableEq

/-- Events in the order in which they happened. -/
abbrev History (α : Type) := List (Event α)

namespace Event

variable {α : Type}

/-- The vehicle that an event brings to a queue. -/
def broughtTo (p : Place) : Event α → Option (Vehicle α)
  | .entered v => if p = .trunk then some v else none
  | .moved v lane => if p = .lane lane then some v else none
  | _ => none

/-- The vehicle that an event takes from a queue. -/
def takenFrom (p : Place) : Event α → Option (Vehicle α)
  | .moved v _ => if p = .trunk then some v else none
  | .left v place => if p = place then some v else none
  | _ => none

/-- Whether an event ends a step for the storage. -/
def isSettled : Event α → Bool
  | .settled => true
  | _ => false

end Event

namespace History

variable {α : Type}

/-- The vehicles that have been brought to a queue. -/
def broughtTo (p : Place) (h : History α) : List (Vehicle α) :=
  h.filterMap (·.broughtTo p)

/-- The vehicles that have been taken from a queue. -/
def takenFrom (p : Place) (h : History α) : List (Vehicle α) :=
  h.filterMap (·.takenFrom p)

/-- What has happened since the storage was settled last. -/
def sinceSettled (h : History α) : History α :=
  (h.reverse.takeWhile fun e => !e.isSettled).reverse

theorem broughtTo_append (p : Place) (h k : History α) :
    broughtTo p (h ++ k) = broughtTo p h ++ broughtTo p k :=
  List.filterMap_append

theorem takenFrom_append (p : Place) (h k : History α) :
    takenFrom p (h ++ k) = takenFrom p h ++ takenFrom p k :=
  List.filterMap_append

end History

namespace LinkQueue

variable {α : Type} [Quantity α]

/-- What happens in one operation. -/
def events (q : LinkQueue α) : Op α → History α
  | .push v _ => [.entered v]
  | .pop p => ((q.pop p).1.map fun v => .left v p).toList
  | .refill _ => []
  | .settle => [.settled]
  | .move now => (q.moves now).map fun m => .moved m.1 m.2

/-- What happens in several operations. -/
def history (q : LinkQueue α) : List (Op α) → History α
  | [] => []
  | op :: ops => q.events op ++ (q.step op).history ops

theorem history_append (q : LinkQueue α) (ops more : List (Op α)) :
    q.history (ops ++ more) = q.history ops ++ (q.run ops).history more := by
  induction ops generalizing q with
  | nil => rfl
  | cons op ops ih => simp [history, ih, List.append_assoc]

end LinkQueue

end LaneFlow
