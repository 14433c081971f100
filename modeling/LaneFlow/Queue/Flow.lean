import LaneFlow.Capacity.Allocation

/-!
# Flow budgets

A segment lets through as many vehicles per second as its flow capacity allows.
Its budget is filled up as time advances and spent by the vehicles that leave.
What is not spent within a second is lost, since the budget never grows beyond
the capacity of one second. The last vehicle of a second may overdraw the
budget, and the debt is paid off in the seconds that follow.

## Main results

* `FlowBudget.refill_of_not_lt`: a time that has been seen changes nothing.
-/

namespace LaneFlow

/-- What is left of the flow capacity of a segment. -/
structure FlowBudget (α : Type) where
  /-- The last second in which the budget was filled up. -/
  time : Nat
  /-- What is left; negative while a debt is paid off. -/
  left : α
  /-- What is added per second, and the most that can be left. -/
  capacity : α
deriving Repr, DecidableEq

namespace FlowBudget

variable {α : Type} [Quantity α]

/-- Above this a budget still lets a vehicle through. -/
def threshold : α := 1e-10

omit [Quantity α] in
/-- The full budget of one second. -/
def full (capacity : α) : FlowBudget α := ⟨0, capacity, capacity⟩

omit [Quantity α] in
/-- The budget of a segment. -/
def ofSegment (s : Segment α) : FlowBudget α := full s.flow

/-- Adds what the seconds since the last refill bring, up to the capacity of one
second. -/
def refill (b : FlowBudget α) (now : Nat) : FlowBudget α :=
  if b.time < now then
    { b with
      left := Quantity.min
        (Quantity.ofCount (now - b.time) * b.capacity + b.left) b.capacity
      time := now }
  else b

/-- Whether another vehicle may pass. -/
def isOpen (b : FlowBudget α) : Bool := Quantity.lt threshold b.left

/-- Spends the size of a vehicle, even if less is left. -/
def spend (b : FlowBudget α) (size : α) : FlowBudget α :=
  { b with left := b.left - size }

theorem refill_of_not_lt {b : FlowBudget α} {now : Nat} (h : ¬ b.time < now) :
    b.refill now = b := by
  simp [refill, h]

@[simp] theorem refill_capacity (b : FlowBudget α) (now : Nat) :
    (b.refill now).capacity = b.capacity := by
  unfold refill
  split <;> rfl

@[simp] theorem spend_capacity (b : FlowBudget α) (size : α) :
    (b.spend size).capacity = b.capacity := rfl

end FlowBudget

end LaneFlow
