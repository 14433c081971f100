import LaneFlow.Ident

/-!
# Vehicles

A vehicle knows its size, its speed and its route. Lanes ask it for the link it
is on and for the one it goes to next; the route is advanced by whoever moves
the vehicle from link to link.

## Main results

* `Vehicle.current_advance`: after an advance the vehicle is where it was going.
-/

namespace LaneFlow

/-- A vehicle on its route. -/
structure Vehicle (α : Type) where
  id : Id .vehicle
  /-- The size in passenger cars. -/
  size : α
  maxSpeed : α
  route : List (Id .link)
  /-- The place in the route. -/
  position : Nat := 0
deriving Repr, DecidableEq

namespace Vehicle

variable {α : Type}

/-- The link that the vehicle is on. -/
def current (v : Vehicle α) : Option (Id .link) := v.route[v.position]?

/-- The link that the vehicle goes to next. -/
def next (v : Vehicle α) : Option (Id .link) := v.route[v.position + 1]?

/-- The vehicle one link further on its route. -/
def advance (v : Vehicle α) : Vehicle α := { v with position := v.position + 1 }

@[simp] theorem current_advance (v : Vehicle α) :
    v.advance.current = v.next := rfl

/-- Whether two vehicles agree in every field; a size that is not a number
agrees with none. -/
def agrees [BEq α] (v w : Vehicle α) : Bool :=
  v.id.same w.id && v.size == w.size && v.maxSpeed == w.maxSpeed &&
    v.route.length == w.route.length &&
      (v.route.zip w.route).all (fun p => p.1.same p.2) &&
    v.position == w.position

end Vehicle

end LaneFlow
