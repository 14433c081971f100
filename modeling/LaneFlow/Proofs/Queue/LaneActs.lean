import LaneFlow.Queue.LaneQueue

/-!
# What can be done with one queue

Whatever is done with a link, each of its queues sees four acts only: a
vehicle enters at the back, the first one leaves, the flow budget is filled
up, the storage is settled.  A fact about one queue is proved here for a
single act and then, by induction, for any list of acts.  How the operations
on a link come down to acts on its queues is said in
`LaneFlow.Proofs.Queue.Diary`.

## Main results

* `vehicles_perform` — what was in the queue and what entered is, in this
  order, what left and what is in the queue now.
* `sameSegment_perform` — no act changes the segment of the queue.
-/

namespace LaneFlow.LaneQueue

variable {α : Type}

/-- What can be done with one queue. -/
inductive Act (α : Type) where
  | enter (v : Vehicle α) (now : Nat)
  | leave
  | refill (now : Nat)
  | settle
deriving Repr, DecidableEq

/-- The vehicle that an act brings. -/
def Act.entering? : Act α → Option (Vehicle α)
  | .enter v _ => some v
  | _ => none

/-- The vehicles that several acts bring. -/
def entering (acts : List (Act α)) : List (Vehicle α) :=
  acts.filterMap Act.entering?

theorem entering_cons (a : Act α) (acts : List (Act α)) :
    entering (a :: acts) = a.entering?.toList ++ entering acts := by
  cases h : a.entering? <;> simp [entering, h]

/-- The vehicle that an act takes away, always the first of the queue. -/
def leaving? (q : LaneQueue α) : Act α → Option (Vehicle α)
  | .leave => q.vehicles.head?
  | _ => none

/-- Two queues on the same segment, whatever stands in them. -/
structure SameSegment (q r : LaneQueue α) : Prop where
  id : q.id = r.id
  length : q.length = r.length
  freespeed : q.freespeed = r.freespeed
  toLinks : q.toLinks = r.toLinks
  capacity : q.flow.capacity = r.flow.capacity
  room : q.storage.max = r.storage.max

theorem SameSegment.refl (q : LaneQueue α) : SameSegment q q :=
  ⟨rfl, rfl, rfl, rfl, rfl, rfl⟩

theorem SameSegment.trans {q r s : LaneQueue α} (h : SameSegment q r)
    (h' : SameSegment r s) : SameSegment q s :=
  ⟨h.id.trans h'.id, h.length.trans h'.length,
    h.freespeed.trans h'.freespeed, h.toLinks.trans h'.toLinks,
    h.capacity.trans h'.capacity, h.room.trans h'.room⟩

variable [Quantity α]

/-! ## The first vehicle leaves -/

/-- The queue without its first vehicle; an empty one stays as it is. -/
def leave (q : LaneQueue α) : LaneQueue α :=
  match q.pop? with
  | some (_, rest) => rest
  | none => q

theorem pop?_of_waiting {q : LaneQueue α} {w : Waiting α}
    {rest : List (Waiting α)} (h : q.waiting = w :: rest) :
    q.pop? = some (w.vehicle, q.leave) := by
  simp [leave, pop?, h]

theorem leave_of_empty {q : LaneQueue α} (h : q.waiting = []) :
    q.leave = q := by
  simp [leave, pop?, h]

theorem leave_of_waiting {q : LaneQueue α} {w : Waiting α}
    {rest : List (Waiting α)} (h : q.waiting = w :: rest) :
    q.leave =
      { q with
        waiting := rest
        flow := q.flow.spend w.vehicle.size
        storage := q.storage.release w.vehicle.size } := by
  simp [leave, pop?, h]

@[simp] theorem waiting_leave (q : LaneQueue α) :
    q.leave.waiting = q.waiting.tail := by
  cases h : q.waiting with
  | nil => simp [leave_of_empty h, h]
  | cons w rest => simp [leave_of_waiting h]

@[simp] theorem vehicles_leave (q : LaneQueue α) :
    q.leave.vehicles = q.vehicles.tail := by
  simp [vehicles, List.map_tail]

@[simp] theorem vehicles_refill (q : LaneQueue α) (now : Nat) :
    (q.refill now).vehicles = q.vehicles := rfl

@[simp] theorem vehicles_settle (q : LaneQueue α) :
    q.settle.vehicles = q.vehicles := rfl

@[simp] theorem hasRoom_leave (q : LaneQueue α) :
    q.leave.hasRoom = q.hasRoom := by
  cases h : q.waiting with
  | nil => rw [leave_of_empty h]
  | cons w rest => exact hasRoom_of_pop? (pop?_of_waiting h)

@[simp] theorem inUse_leave (q : LaneQueue α) : q.leave.inUse = q.inUse := by
  cases h : q.waiting with
  | nil => rw [leave_of_empty h]
  | cons w rest => rw [leave_of_waiting h]; rfl

theorem sameSegment_leave (q : LaneQueue α) : SameSegment q q.leave := by
  cases h : q.waiting with
  | nil => rw [leave_of_empty h]; exact .refl q
  | cons w rest => rw [leave_of_waiting h]; exact ⟨rfl, rfl, rfl, rfl, rfl, rfl⟩

theorem due?_eq_some_iff {q : LaneQueue α} {now : Nat} {v : Vehicle α} :
    q.due? now = some v ↔
      q.flow.isOpen ∧
        ∃ w rest, q.waiting = w :: rest ∧ w.exit ≤ now ∧ w.vehicle = v := by
  cases h : q.waiting with
  | nil => simp [due?, h]
  | cons w rest =>
      by_cases hexit : w.exit ≤ now <;>
        simp [due?, h, Option.filter_some, hexit]

/-- On a queue that is not empty it does not matter whether the first vehicle
leaves before or after another one enters. -/
theorem leave_push {q : LaneQueue α} (h : q.waiting ≠ []) (v : Vehicle α)
    (now : Nat) : (q.push v now).leave = q.leave.push v now := by
  obtain ⟨w, rest, hw⟩ := List.exists_cons_of_ne_nil h
  have hpush : (q.push v now).waiting =
      w :: (rest ++ [⟨v, q.exitTime v now⟩]) := by
    simp [push, hw]
  rw [leave_of_waiting hpush, leave_of_waiting hw]
  rfl

/-! ## Acts -/

/-- The queue after an act. -/
def act (q : LaneQueue α) : Act α → LaneQueue α
  | .enter v now => q.push v now
  | .leave => q.leave
  | .refill now => q.refill now
  | .settle => q.settle

/-- The queue after several acts. -/
def perform (q : LaneQueue α) (acts : List (Act α)) : LaneQueue α :=
  acts.foldl act q

@[simp] theorem perform_nil (q : LaneQueue α) : q.perform [] = q := rfl

@[simp] theorem perform_cons (q : LaneQueue α) (a : Act α)
    (acts : List (Act α)) : q.perform (a :: acts) = (q.act a).perform acts := rfl

theorem perform_append (q : LaneQueue α) (acts more : List (Act α)) :
    q.perform (acts ++ more) = (q.perform acts).perform more :=
  List.foldl_append

/-- The vehicles that leave in several acts. -/
def leaving (q : LaneQueue α) : List (Act α) → List (Vehicle α)
  | [] => []
  | a :: acts => (q.leaving? a).toList ++ (q.act a).leaving acts

theorem leaving_append (q : LaneQueue α) (acts more : List (Act α)) :
    q.leaving (acts ++ more) =
      q.leaving acts ++ (q.perform acts).leaving more := by
  induction acts generalizing q with
  | nil => rfl
  | cons a acts ih => simp [leaving, ih, List.append_assoc]

/-- Where nothing is said to leave, nothing leaves. -/
theorem leaving_eq_nil (q : LaneQueue α) {acts : List (Act α)}
    (h : .leave ∉ acts) : q.leaving acts = [] := by
  induction acts generalizing q with
  | nil => rfl
  | cons a acts ih =>
      rw [List.mem_cons, not_or] at h
      have hhead : q.leaving? a = none := by
        cases a with
        | leave => exact absurd rfl h.1
        | _ => rfl
      simp [leaving, hhead, ih _ h.2]

theorem vehicles_act (q : LaneQueue α) (a : Act α) :
    q.vehicles ++ a.entering?.toList =
      (q.leaving? a).toList ++ (q.act a).vehicles := by
  cases a with
  | enter v now => simp [Act.entering?, leaving?, act]
  | leave =>
      cases h : q.vehicles <;>
        simp [Act.entering?, leaving?, act, h]
  | refill now => simp [Act.entering?, leaving?, act]
  | settle => simp [Act.entering?, leaving?, act]

/-- What stands in the queue after an act was there or has entered. -/
theorem vehicles_act_subset (q : LaneQueue α) (a : Act α)
    (acts : List (Act α)) : (q.act a).vehicles ++ entering acts ⊆
      q.vehicles ++ entering (a :: acts) := by
  intro v hv
  rw [entering_cons, ← List.append_assoc, vehicles_act, List.append_assoc]
  exact List.mem_append_right _ hv

/-- **First in, first out.**  The vehicles that leave and those that remain
are, one after the other, those that were there and those that entered. -/
theorem vehicles_perform (q : LaneQueue α) (acts : List (Act α)) :
    q.vehicles ++ entering acts =
      q.leaving acts ++ (q.perform acts).vehicles := by
  induction acts generalizing q with
  | nil => simp [entering, leaving]
  | cons a acts ih =>
      rw [entering_cons, ← List.append_assoc, vehicles_act, List.append_assoc, ih,
        ← List.append_assoc]
      rfl

theorem sameSegment_act (q : LaneQueue α) (a : Act α) :
    SameSegment q (q.act a) := by
  cases a with
  | enter v now => exact ⟨rfl, rfl, rfl, rfl, rfl, rfl⟩
  | leave => exact sameSegment_leave q
  | refill now =>
      exact ⟨rfl, rfl, rfl, rfl, (FlowBudget.refill_capacity ..).symm, rfl⟩
  | settle => exact ⟨rfl, rfl, rfl, rfl, rfl, rfl⟩

theorem sameSegment_perform (q : LaneQueue α) (acts : List (Act α)) :
    SameSegment q (q.perform acts) := by
  induction acts generalizing q with
  | nil => exact .refl q
  | cons a acts ih => exact (sameSegment_act q a).trans (ih (q.act a))

end LaneFlow.LaneQueue
