import Mathlib
import LaneFlow.Proofs.Queue.Conservation
import LaneFlow.Proofs.Queue.Sizes

/-!
# How much a queue lets through

A vehicle may leave while anything is left of the flow budget, and may overdraw
it.  The bound on what leaves in a stretch of a run is an amortised one: what
leaves and what is left at the end are covered by what was left at the start
and what the refills brought.  Nothing else is needed but bounds on what can
be left, and these are kept by every act: no more than one second brings
(`Solvent.unbanked`), and no debt above the size of one vehicle
(`Solvent.owed`).

Times may be repeated or go back.  A refill for a time that has been seen
brings nothing, so only the time the budget has reached counts.

## Main results

* `LaneQueue.leaving_add_left_le` — the amortised inequality, for any acts.
* `LaneQueue.solvent_perform` — the bounds on what can be left.
* `throughput_le` — what leaves a queue in any stretch of a run.
-/

namespace LaneFlow

/-! ## One refill -/

namespace FlowBudget

variable (b : FlowBudget Rat) (now : Nat)

theorem refill_of_lt (h : b.time < now) :
    b.refill now =
      { b with
        time := now
        left := min (b.left + b.capacity * ((now : Rat) - b.time))
          b.capacity } := by
  have hbrought : ((now - b.time : Nat) : Rat) * b.capacity + b.left =
      b.left + b.capacity * ((now : Rat) - b.time) := by
    rw [Nat.cast_sub h.le]
    ring
  have hmin : Quantity.min (((now - b.time : Nat) : Rat) * b.capacity + b.left)
      b.capacity =
        min (b.left + b.capacity * ((now : Rat) - b.time)) b.capacity := by
    rw [Quantity.rat_min, hbrought]
    split
    · rename_i hcut
      exact (min_eq_right hcut.le).symm
    · rename_i hfits
      exact (min_eq_left (not_lt.1 hfits)).symm
  unfold refill
  rw [if_pos h, ← hmin]
  rfl

theorem time_le_refill : b.time ≤ (b.refill now).time := by
  by_cases h : b.time < now
  · rw [refill_of_lt b now h]
    exact h.le
  · rw [refill_of_not_lt h]

/-- A refill brings no more than the flow of the time that has gone by. -/
theorem left_refill_le :
    (b.refill now).left ≤
      b.left + b.capacity * (((b.refill now).time : Rat) - b.time) := by
  by_cases h : b.time < now
  · rw [refill_of_lt b now h]
    exact min_le_left _ _
  · rw [refill_of_not_lt h]
    simp

variable {b}

/-- What a second does not use is lost. -/
theorem left_refill_le_capacity (h : b.left ≤ b.capacity) :
    (b.refill now).left ≤ b.capacity := by
  by_cases hlt : b.time < now
  · rw [refill_of_lt b now hlt]
    exact min_le_right _ _
  · rwa [refill_of_not_lt hlt]

/-- A refill takes nothing away. -/
theorem left_le_left_refill (hcapacity : 0 ≤ b.capacity)
    (h : b.left ≤ b.capacity) : b.left ≤ (b.refill now).left := by
  by_cases hlt : b.time < now
  · have hpassed : (0 : Rat) ≤ (now : Rat) - b.time :=
      sub_nonneg.2 (Nat.cast_le.2 hlt.le)
    have hbrought := mul_nonneg hcapacity hpassed
    rw [refill_of_lt b now hlt]
    exact le_min (le_add_of_nonneg_right hbrought) h
  · rw [refill_of_not_lt hlt]

theorem isOpen_iff : b.isOpen = true ↔ (1e-10 : Rat) < b.left :=
  decide_eq_true_iff

theorem left_pos_of_isOpen (h : b.isOpen) : 0 < b.left := by
  have hthreshold : (0 : Rat) < 1e-10 := by norm_num
  exact hthreshold.trans (isOpen_iff.1 h)

end FlowBudget

/-! ## One queue -/

namespace LaneQueue

variable {q : LaneQueue Rat} {size : Rat}

/-- What a queue spends in an act is the size of the vehicle that leaves; what
it gains comes with the time. -/
theorem leaving?_add_left_le (q : LaneQueue Rat) (a : Act Rat) :
    totalSize (q.leaving? a).toList + (q.act a).flow.left ≤
      q.flow.left +
        q.flow.capacity * (((q.act a).flow.time : Rat) - q.flow.time) := by
  cases a with
  | leave =>
      cases hw : q.waiting with
      | nil => simp [leaving?, act, leave_of_empty hw, vehicles, hw]
      | cons w rest =>
          have hleft : q.leave.flow.left = q.flow.left - w.vehicle.size := by
            rw [leave_of_waiting hw]
            rfl
          have htime : q.leave.flow.time = q.flow.time := by
            rw [leave_of_waiting hw]
            rfl
          simp [leaving?, act, hleft, htime, vehicles, hw]
  | refill now =>
      have h := q.flow.left_refill_le now
      simpa [leaving?, act, refill] using h
  | enter v now => simp [leaving?, act, push]
  | settle => simp [leaving?, act, settle]

theorem time_le_act (q : LaneQueue Rat) (a : Act Rat) :
    q.flow.time ≤ (q.act a).flow.time := by
  cases a with
  | leave =>
      cases hw : q.waiting with
      | nil => simp [act, leave_of_empty hw]
      | cons w rest =>
          rw [act, leave_of_waiting hw]
          exact le_refl _
  | refill now => exact q.flow.time_le_refill now
  | enter v now => exact le_refl _
  | settle => exact le_refl _

theorem time_le_perform (q : LaneQueue Rat) (acts : List (Act Rat)) :
    q.flow.time ≤ (q.perform acts).flow.time := by
  induction acts generalizing q with
  | nil => exact le_refl _
  | cons a acts ih => exact (q.time_le_act a).trans (ih (q.act a))

/-- **What leaves is paid for.**  What leaves in several acts and what is left
of the budget then are covered by what was left before and what the time has
brought. -/
theorem leaving_add_left_le (q : LaneQueue Rat) (acts : List (Act Rat)) :
    totalSize (q.leaving acts) + (q.perform acts).flow.left ≤
      q.flow.left + q.flow.capacity *
        (((q.perform acts).flow.time : Rat) - q.flow.time) := by
  induction acts generalizing q with
  | nil => simp [leaving]
  | cons a acts ih =>
      have hfirst := q.leaving?_add_left_le a
      have hrest := ih (q.act a)
      rw [← (sameSegment_act q a).capacity] at hrest
      rw [leaving, totalSize_append, perform_cons]
      linarith

/-- Vehicles leave only while the budget is open. -/
def LeavesOpen : LaneQueue Rat → List (Act Rat) → Prop
  | _, [] => True
  | q, a :: acts =>
    (a = .leave → q.flow.isOpen = true) ∧ LeavesOpen (q.act a) acts

theorem leavesOpen_append {q : LaneQueue Rat} {acts more : List (Act Rat)}
    (h : q.LeavesOpen acts) (hmore : (q.perform acts).LeavesOpen more) :
    q.LeavesOpen (acts ++ more) := by
  induction acts generalizing q with
  | nil => exact hmore
  | cons a acts ih => exact ⟨h.1, ih h.2 hmore⟩

theorem leavesOpen_of_notMem (q : LaneQueue Rat) {acts : List (Act Rat)}
    (h : .leave ∉ acts) : q.LeavesOpen acts := by
  induction acts generalizing q with
  | nil => trivial
  | cons a acts ih =>
      rw [List.mem_cons, not_or] at h
      exact ⟨fun ha => absurd ha.symm h.1, ih _ h.2⟩

/-- What can be left of a budget if no vehicle is larger than `size`. -/
structure Solvent (size : Rat) (q : LaneQueue Rat) : Prop where
  /-- No more than one second brings. -/
  unbanked : q.flow.left ≤ q.flow.capacity
  /-- No debt that is larger than a vehicle. -/
  owed : -size ≤ q.flow.left

theorem solvent_leave (h : Solvent size q) (hopen : q.flow.isOpen = true)
    (hbounds : ∀ v ∈ q.vehicles, 0 ≤ v.size ∧ v.size ≤ size) :
    Solvent size q.leave := by
  cases hw : q.waiting with
  | nil =>
      rw [leave_of_empty hw]
      exact h
  | cons w rest =>
      have hpos := FlowBudget.left_pos_of_isOpen hopen
      have hfirst : 0 ≤ w.vehicle.size ∧ w.vehicle.size ≤ size :=
        hbounds _ (by simp [vehicles, hw])
      have hmost := h.unbanked
      rw [leave_of_waiting hw]
      constructor
      · show q.flow.left - w.vehicle.size ≤ q.flow.capacity
        linarith
      · show -size ≤ q.flow.left - w.vehicle.size
        linarith

theorem solvent_act (h : Solvent size q) (hcapacity : 0 ≤ q.flow.capacity)
    {a : Act Rat} (hopen : a = .leave → q.flow.isOpen = true)
    (hbounds : ∀ v ∈ q.vehicles, 0 ≤ v.size ∧ v.size ≤ size) :
    Solvent size (q.act a) := by
  cases a with
  | enter v now => exact ⟨h.unbanked, h.owed⟩
  | leave => exact solvent_leave h (hopen rfl) hbounds
  | refill now =>
      have hmore := FlowBudget.left_le_left_refill now hcapacity h.unbanked
      constructor
      · rw [← (sameSegment_act q (.refill now)).capacity]
        exact FlowBudget.left_refill_le_capacity now h.unbanked
      · exact h.owed.trans hmore
  | settle => exact ⟨h.unbanked, h.owed⟩

/-- Acts keep what is left between its bounds. -/
theorem solvent_perform (h : Solvent size q) (hcapacity : 0 ≤ q.flow.capacity)
    {acts : List (Act Rat)} (hopen : q.LeavesOpen acts)
    (hbounds : ∀ v ∈ q.vehicles ++ entering acts,
      0 ≤ v.size ∧ v.size ≤ size) :
    Solvent size (q.perform acts) := by
  induction acts generalizing q with
  | nil => exact h
  | cons a acts ih =>
      refine ih (solvent_act h hcapacity hopen.1 fun v hv =>
        hbounds v (List.mem_append_left _ hv)) ?_ hopen.2 fun v hv =>
          hbounds v (vehicles_act_subset q a acts hv)
      rwa [← (sameSegment_act q a).capacity]

end LaneQueue

/-! ## A run -/

namespace LinkQueue

open LaneQueue (LeavesOpen Solvent entering)

/-- Whenever operations let out the first vehicle at a place, it may leave
there at some time. -/
def PopsDue {α : Type} [Quantity α] (p : Place) :
    LinkQueue α → List (Op α) → Prop
  | _, [] => True
  | q, op :: ops =>
    (op = .pop p → ∃ now, ((q.at? p).bind (·.due? now)).isSome) ∧
      PopsDue p (q.step op) ops

/-- Vehicles that move leave the trunk while its budget is open. -/
theorem Shifting.leavesOpen {now : Nat} {trunk : LaneQueue Rat}
    {lanes : List (LaneQueue Rat)} {s : Shift Rat}
    (h : Shifting now trunk lanes s) :
    trunk.LeavesOpen (s.moves.filterMap (moveAct now .trunk)) := by
  induction h with
  | stop h => trivial
  | move h hs ih =>
      exact ⟨fun _ => (LaneQueue.due?_eq_some_iff.1 h.due).1, ih⟩

theorem leavesOpen_acts {q : LinkQueue Rat} {p : Place} {l : LaneQueue Rat}
    (hl : q.at? p = some l) {op : Op Rat}
    (hdue : op = .pop p → ∃ now, ((q.at? p).bind (·.due? now)).isSome) :
    l.LeavesOpen (q.acts p op) := by
  cases op with
  | pop place =>
      by_cases hp : p = place
      · subst hp
        obtain ⟨now, hnow⟩ := hdue rfl
        rw [hl, Option.bind_some] at hnow
        obtain ⟨v, hv⟩ := Option.isSome_iff_exists.1 hnow
        have hopen := (LaneQueue.due?_eq_some_iff.1 hv).1
        simpa [acts, LeavesOpen] using hopen
      · simp [acts, hp, LeavesOpen]
  | move now =>
      cases p with
      | trunk =>
          obtain rfl : q.trunk = l := Option.some.inj hl
          exact (shifting_shifted q now).leavesOpen
      | lane i => exact l.leavesOpen_of_notMem (leave_notMem_acts_move q i now)
  | push v now => exact l.leavesOpen_of_notMem (by cases p <;> simp [acts])
  | refill now => exact l.leavesOpen_of_notMem (by simp [acts])
  | settle => exact l.leavesOpen_of_notMem (by simp [acts])

theorem leavesOpen_diary {q : LinkQueue Rat} {p : Place} {l : LaneQueue Rat}
    (hl : q.at? p = some l) {ops : List (Op Rat)} (h : q.PopsDue p ops) :
    l.LeavesOpen (q.diary p ops) := by
  induction ops generalizing q l with
  | nil => trivial
  | cons op ops ih =>
      have hstep : (q.step op).at? p = some (l.perform (q.acts p op)) := by
        simp [at?_step, hl]
      exact LaneQueue.leavesOpen_append (leavesOpen_acts hl h.1)
        (ih hstep h.2)

theorem popsDue_of_append {α : Type} [Quantity α] {q : LinkQueue α}
    {p : Place} {ops more : List (Op α)} (h : q.PopsDue p (ops ++ more)) :
    q.PopsDue p ops := by
  induction ops generalizing q with
  | nil => trivial
  | cons op ops ih => exact ⟨h.1, ih h.2⟩

variable {s s' : IdStore} {link : Link Rat} {c : LinkCapacity Rat}
  {a : Option (LaneAssignment Rat)} {q : LinkQueue Rat} {p : Place}
  {l : LaneQueue Rat} {size : Rat}

/-- In a run of a new link what is left of a budget stays between its
bounds. -/
theorem solvent_run (hq : create s link c a = .ok (q, s'))
    (hl : q.at? p = some l) (hcapacity : 0 ≤ l.flow.capacity)
    (hsize : 0 ≤ size) {ops : List (Op Rat)} (hdue : q.PopsDue p ops)
    (hbounds : ∀ v ∈ pushed ops, 0 ≤ v.size ∧ v.size ≤ size) :
    Solvent size (l.perform (q.diary p ops)) := by
  obtain ⟨seg, _, heq⟩ := at?_create hq hl
  have hfull : l.flow.left = l.flow.capacity := by
    rw [heq]
    rfl
  have hnone : l.vehicles = [] := by
    rw [heq]
    rfl
  have hstart : Solvent size l := by
    constructor
    · exact hfull.le
    · rw [hfull]
      exact (neg_nonpos.2 hsize).trans hcapacity
  refine LaneQueue.solvent_perform hstart hcapacity (leavesOpen_diary hl hdue)
    fun v hv => hbounds v ?_
  rw [hnone, List.nil_append, entering_diary] at hv
  exact (broughtTo_sublist_pushed hq ops p).subset hv

/-- **No queue lets through more than its flow.**  Let the vehicles of a run
of a new link be no smaller than nothing and no larger than `size`, and
let vehicles be let out at a place only when they may leave.  Take any stretch
of the run, and the times that the budget at that place has reached before and
after it.  What leaves there is at most the flow of the time in between and of
one more second, and one vehicle.

Indeed what leaves and what is left after the stretch is covered by what was
left before it and the flow of the time in between, so a debt is paid off; and
what is left is never more than the flow of one second, so nothing is saved
up. -/
theorem throughput_le (hq : create s link c a = .ok (q, s'))
    (hl : q.at? p = some l) (hcapacity : 0 ≤ l.flow.capacity)
    (hsize : 0 ≤ size) (before stretch : List (Op Rat))
    (hdue : q.PopsDue p (before ++ stretch))
    (hbounds : ∀ v ∈ pushed (before ++ stretch),
      0 ≤ v.size ∧ v.size ≤ size) :
    ∃ l₁ l₂, (q.run before).at? p = some l₁ ∧
      (q.run (before ++ stretch)).at? p = some l₂ ∧
      l₁.flow.time ≤ l₂.flow.time ∧
      totalSize (((q.run before).history stretch).takenFrom p) ≤
        l.flow.capacity * ((l₂.flow.time : Rat) - l₁.flow.time + 1) + size ∧
      totalSize (((q.run before).history stretch).takenFrom p) +
          l₂.flow.left ≤
        l₁.flow.left +
          l.flow.capacity * ((l₂.flow.time : Rat) - l₁.flow.time) ∧
      l₂.flow.left ≤ l.flow.capacity := by
  have hl₁ : (q.run before).at? p = some (l.perform (q.diary p before)) := by
    rw [at?_run, hl, Option.map_some]
  have hl₂ : (q.run (before ++ stretch)).at? p =
      some (l.perform (q.diary p (before ++ stretch))) := by
    rw [at?_run, hl, Option.map_some]
  have hsplit : l.perform (q.diary p (before ++ stretch)) =
      (l.perform (q.diary p before)).perform
        ((q.run before).diary p stretch) := by
    rw [diary_append, LaneQueue.perform_append]
  have hpushed : ∀ v ∈ pushed before, 0 ≤ v.size ∧ v.size ≤ size :=
    fun v hv => hbounds v (mem_pushed_append hv stretch)
  have hfirst := (solvent_run hq hl hcapacity hsize
    (popsDue_of_append hdue) hpushed).unbanked
  have hlast := solvent_run hq hl hcapacity hsize hdue hbounds
  have hcap₁ := (LaneQueue.sameSegment_perform l (q.diary p before)).capacity
  have hcap₂ :=
    (LaneQueue.sameSegment_perform l (q.diary p (before ++ stretch))).capacity
  have hpaid := (l.perform (q.diary p before)).leaving_add_left_le
    ((q.run before).diary p stretch)
  rw [leaving_diary hl₁, ← hsplit, ← hcap₁] at hpaid
  rw [← hcap₁] at hfirst
  refine ⟨_, _, hl₁, hl₂, ?_, ?_, hpaid, ?_⟩
  · rw [hsplit]
    exact LaneQueue.time_le_perform _ _
  · have howed := hlast.owed
    rw [mul_add, mul_one]
    linarith
  · rw [hcap₂]
    exact hlast.unbanked

/-- The vehicle on the left lane may leave in the third second, and does. -/
theorem throughput_le_fork :
    forkQueue.PopsDue (.lane 0) forkOps ∧
    (∀ v ∈ pushed forkOps, 0 ≤ v.size ∧ v.size ≤ 1) ∧
    totalSize ((forkQueue.history forkOps).takenFrom (.lane 0)) = 1 ∧
    ∃ l₁ l₂, forkQueue.at? (.lane 0) = some l₁ ∧
      (forkQueue.run forkOps).at? (.lane 0) = some l₂ ∧
      totalSize ((forkQueue.history forkOps).takenFrom (.lane 0)) ≤
        l₁.flow.capacity * ((l₂.flow.time : Rat) - l₁.flow.time + 1) + 1 := by
  have hdue : forkQueue.PopsDue (.lane 0) forkOps :=
    ⟨nofun, nofun, nofun, nofun, nofun, nofun,
      fun _ => ⟨3, by decide +kernel⟩, nofun, nofun, trivial⟩
  have hbounds : ∀ v ∈ pushed forkOps, 0 ≤ v.size ∧ v.size ≤ 1 := by decide
  obtain ⟨l, hl⟩ : ∃ l, forkQueue.at? (.lane 0) = some l := ⟨_, rfl⟩
  have hcapacity : 0 ≤ l.flow.capacity := by
    have hall : ∀ k ∈ forkQueue.at? (.lane 0), 0 ≤ k.flow.capacity := by
      decide +kernel
    exact hall l hl
  obtain ⟨l₁, l₂, hl₁, hl₂, _, hle, _⟩ :=
    throughput_le create_fork hl hcapacity zero_le_one [] forkOps hdue hbounds
  obtain rfl := Option.some.inj (hl.symm.trans hl₁)
  exact ⟨hdue, hbounds, by decide +kernel, l, l₂, hl, hl₂, hle⟩

end LinkQueue

end LaneFlow
