import LaneFlow.Proofs.Queue.Throughput

/-!
# Seconds left out

A refill brings what the seconds since the last one bring, however many these
are, and then cuts what is left at the flow of one second.  Whoever refills
often cuts often.  But flow only adds to what is left, so a budget that is cut
early would be cut later as well, and nothing is lost by the earlier cuts.  A
refill for a time that has been seen does nothing.  So of several refills, in
whatever order, only the one for the latest time counts.

All numbers are exact here.

## Main results

* `FlowBudget.refill_of_skipped` — an earlier refill before a later one.
* `FlowBudget.foldl_refill` — only the latest of several refills counts.
* `FlowBudget.isOpen_refill_iff` — when a debt is paid off.
* `FlowBudget.seconds_may_be_left_out` — refills in any order, and second by
  second.
* `LinkQueue.run_refills` — the refills of all queues of a link.
-/

namespace LaneFlow

namespace FlowBudget

variable {b : FlowBudget Rat} {now earlier last : Nat} {times : List Nat}

/-! ## Two refills -/

theorem le_time_refill (b : FlowBudget Rat) (now : Nat) :
    now ≤ (b.refill now).time := by
  by_cases h : b.time < now
  · rw [refill_of_lt b now h]
  · rw [refill_of_not_lt h]
    exact not_lt.1 h

/-- The cut of an earlier refill makes no difference for a later one. -/
theorem refill_of_skipped (hcapacity : 0 ≤ b.capacity)
    (h : earlier ≤ now) : (b.refill earlier).refill now = b.refill now := by
  by_cases hseen : b.time < earlier
  · rcases h.eq_or_lt with rfl | hlt
    · exact refill_of_not_lt (not_lt.2 (b.le_time_refill earlier))
    · have hbrought : 0 ≤ b.capacity * ((now : Rat) - earlier) :=
        mul_nonneg hcapacity (sub_nonneg.2 (Nat.cast_le.2 hlt.le))
      have hcut :
          b.capacity ≤ b.capacity + b.capacity * ((now : Rat) - earlier) :=
        le_add_of_nonneg_right hbrought
      have hleft :
          min (min (b.left + b.capacity * ((earlier : Rat) - b.time))
              b.capacity + b.capacity * ((now : Rat) - earlier)) b.capacity =
            min (b.left + b.capacity * ((now : Rat) - b.time)) b.capacity := by
        rw [min_add, min_assoc, min_eq_right hcut]
        ring_nf
      rw [refill_of_lt b earlier hseen, refill_of_lt _ now hlt,
        refill_of_lt b now (hseen.trans hlt), hleft]
  · rw [refill_of_not_lt hseen]

/-! ## Several refills -/

/-- Refills up to some time make no difference for the refill at that time. -/
theorem refill_foldl_refill (hcapacity : 0 ≤ b.capacity)
    (h : ∀ t ∈ times, t ≤ last) :
    (times.foldl refill b).refill last = b.refill last := by
  induction times generalizing b with
  | nil => rfl
  | cons t times ih =>
      obtain ⟨ht, htimes⟩ := List.forall_mem_cons.1 h
      have hrest := ih (b := b.refill t) (by rwa [refill_capacity]) htimes
      exact hrest.trans (refill_of_skipped hcapacity ht)

/-- Refills for times that have been seen do nothing. -/
theorem foldl_refill_of_seen (h : ∀ t ∈ times, t ≤ b.time) :
    times.foldl refill b = b := by
  induction times with
  | nil => rfl
  | cons t times ih =>
      obtain ⟨ht, htimes⟩ := List.forall_mem_cons.1 h
      rw [List.foldl_cons, refill_of_not_lt (not_lt.2 ht), ih htimes]

/-- Of several refills only the one for the latest time counts. -/
theorem foldl_refill (hcapacity : 0 ≤ b.capacity) (hlast : last ∈ times)
    (h : ∀ t ∈ times, t ≤ last) : times.foldl refill b = b.refill last := by
  -- what comes before the latest time is made up for, what comes after is seen
  obtain ⟨before, after, rfl⟩ := List.append_of_mem hlast
  obtain ⟨hbefore, hrest⟩ := List.forall_mem_append.1 h
  have hafter : ∀ t ∈ after, t ≤ (b.refill last).time := fun t ht =>
    (hrest t (List.mem_cons_of_mem _ ht)).trans (b.le_time_refill last)
  rw [List.foldl_append, List.foldl_cons, refill_foldl_refill hcapacity hbefore,
    foldl_refill_of_seen hafter]

/-- Refills second by second, from the time that the budget has reached. -/
theorem foldl_refill_range' (hcapacity : 0 ≤ b.capacity) (n : Nat) :
    (List.range' (b.time + 1) n).foldl refill b = b.refill (b.time + n) := by
  cases n with
  | zero => exact (refill_of_not_lt (Nat.lt_irrefl _)).symm
  | succ n =>
      refine foldl_refill hcapacity ?_ fun t ht => ?_
      · rw [List.mem_range'_1]
        omega
      · rw [List.mem_range'_1] at ht
        omega

/-- A budget is open again as soon as its flow has paid off the debt, if it has
any flow to speak of. -/
theorem isOpen_refill_iff (h : b.time < now) :
    (b.refill now).isOpen = true ↔
      1e-10 < b.capacity ∧
        1e-10 < b.left + b.capacity * ((now : Rat) - b.time) := by
  rw [isOpen_iff, refill_of_lt b now h, lt_min_iff, and_comm]

/-- **Seconds may be left out.**  Refill a budget for several times, which may
be repeated, go back or leave gaps.  The budget is then as after the one refill
for the latest of them.  If this time is new, what is left is what was left and
what the time has brought, but no more than the flow of one second, and the
budget is open if and only if both are above the threshold; otherwise nothing
has changed.  So a budget that is refilled every second is at each second as if
it were refilled only then, and a debt is paid off at the same second. -/
theorem seconds_may_be_left_out (hcapacity : 0 ≤ b.capacity)
    (hlast : last ∈ times) (htimes : ∀ t ∈ times, t ≤ last) :
    times.foldl refill b = b.refill last ∧
    (b.time < last →
      times.foldl refill b =
        { time := last
          left := min b.capacity
            (b.left + b.capacity * ((last : Rat) - b.time))
          capacity := b.capacity } ∧
      ((times.foldl refill b).isOpen = true ↔
        1e-10 < b.capacity ∧
          1e-10 < b.left + b.capacity * ((last : Rat) - b.time))) ∧
    (last ≤ b.time → times.foldl refill b = b) ∧
    ∀ n, (List.range' (b.time + 1) n).foldl refill b =
      b.refill (b.time + n) := by
  rw [foldl_refill hcapacity hlast htimes]
  refine ⟨rfl, fun hnew => ⟨?_, isOpen_refill_iff hnew⟩,
    fun hseen => refill_of_not_lt (not_lt.2 hseen),
    foldl_refill_range' hcapacity⟩
  rw [refill_of_lt b last hnew, min_comm]

/-- A budget of a quarter vehicle per second that a vehicle has overdrawn. -/
def overdrawn : FlowBudget Rat := (full (1 / 4)).spend 1

/-- Three quarters are owed.  Three seconds pay them off, the fourth opens the
budget, in whatever order the refills come. -/
theorem seconds_may_be_left_out_overdrawn :
    0 ≤ overdrawn.capacity ∧ 4 ∈ [1, 4, 2] ∧ (∀ t ∈ [1, 4, 2], t ≤ 4) ∧
    [1, 4, 2].foldl refill overdrawn = ⟨4, 1 / 4, 1 / 4⟩ ∧
    ([1, 4, 2].foldl refill overdrawn).isOpen = true ∧
    ([1, 2, 3].foldl refill overdrawn).isOpen = false := by
  have hcapacity : 0 ≤ overdrawn.capacity := by decide +kernel
  have hlast : 4 ∈ [1, 4, 2] := by decide
  have htimes : ∀ t ∈ [1, 4, 2], t ≤ 4 := by decide
  obtain ⟨honce, hnew, -, hsteps⟩ :=
    seconds_may_be_left_out hcapacity hlast htimes
  obtain ⟨-, hopen⟩ := hnew (by decide)
  have hshut : [1, 2, 3].foldl refill overdrawn = overdrawn.refill 3 := hsteps 3
  refine ⟨hcapacity, hlast, htimes, honce.trans ?_, hopen.2 ?_, ?_⟩
  · decide +kernel
  · decide +kernel
  · rw [hshut]
    decide +kernel

end FlowBudget

/-! ## All queues of a link -/

namespace LinkQueue

theorem run_map_refill (q : LinkQueue Rat) (times : List Nat) :
    q.run (times.map .refill) =
      { q with
        trunk := { q.trunk with flow := times.foldl .refill q.trunk.flow }
        lanes := q.lanes.map fun l =>
          { l with flow := times.foldl .refill l.flow } } := by
  induction times generalizing q with
  | nil => simp
  | cons t times ih =>
      rw [List.map_cons, run_cons, ih]
      simp [step, refill, LaneQueue.refill]

/-- Of several refills of all queues only the one for the latest time counts. -/
theorem run_refills {q : LinkQueue Rat} {times : List Nat} {last : Nat}
    (htrunk : 0 ≤ q.trunk.flow.capacity)
    (hlanes : ∀ l ∈ q.lanes, 0 ≤ l.flow.capacity) (hlast : last ∈ times)
    (htimes : ∀ t ∈ times, t ≤ last) :
    q.run (times.map .refill) = q.refill last := by
  have hmap : (q.lanes.map fun l =>
      { l with flow := times.foldl .refill l.flow }) =
        q.lanes.map (·.refill last) :=
    List.map_congr_left fun l hl => by
      rw [FlowBudget.foldl_refill (hlanes l hl) hlast htimes]
      rfl
  rw [run_map_refill, hmap, FlowBudget.foldl_refill htrunk hlast htimes]
  rfl

end LinkQueue

end LaneFlow
