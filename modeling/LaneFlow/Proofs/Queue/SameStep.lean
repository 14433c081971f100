import LaneFlow.Proofs.Queue.Creation

/-!
# The order of operations within one second

A vehicle that enters at `now` is not due at `now`, so it does not take part in
a move of the same second.  A vehicle that leaves a lane frees its room only
when the storage is settled, so it opens no lane and makes none more
attractive within the second.  Hence entering, moving and leaving may be
done in any order.  No law of arithmetic is used, so this holds for floating
point numbers.

## Main results

* `Shifting.push`, `Shifting.leave_lane` — what the loop does after a vehicle
  has entered the trunk or left a lane.
* `enter_move_leave_commute` — the three operations commute pairwise.
-/

namespace LaneFlow

variable {α : Type} [Quantity α]

/-! ## Entering and moving -/

namespace LaneQueue

theorem lt_exitTime (q : LaneQueue α) (v : Vehicle α) {now : Nat}
    (hnow : now < clockEnd) : now < q.exitTime v now := by
  have htravel : 1 ≤ q.travelTime v := Nat.le_max_left ..
  refine Nat.lt_min.2 ⟨?_, hnow⟩
  omega

/-- Who is due now does not depend on who enters now. -/
theorem due?_push (q : LaneQueue α) (v : Vehicle α) {now : Nat}
    (hnow : now < clockEnd) : (q.push v now).due? now = q.due? now := by
  cases h : q.waiting with
  | nil =>
      have hexit : ¬ q.exitTime v now ≤ now :=
        Nat.not_le.2 (lt_exitTime q v hnow)
      simp [due?, push, h, Option.filter_some, hexit]
  | cons w rest => simp [due?, push, h]

end LaneQueue

namespace LinkQueue

theorem Shifting.push {now : Nat} {trunk : LaneQueue α}
    {lanes : List (LaneQueue α)} {s : Shift α}
    (h : Shifting now trunk lanes s) (hnow : now < clockEnd)
    (v : Vehicle α) :
    Shifting now (trunk.push v now) lanes
      { s with trunk := s.trunk.push v now } := by
  induction h with
  | @stop trunk lanes h =>
      refine .stop fun u l hu => h u l ⟨?_, hu.target, hu.room⟩
      rw [← LaneQueue.due?_push trunk v hnow]
      exact hu.due
  | @move trunk lanes u l s h hs ih =>
      obtain ⟨_, w, rest, hw, _⟩ := LaneQueue.due?_eq_some_iff.1 h.due
      have hleave := LaneQueue.leave_push
        (show trunk.waiting ≠ [] by simp [hw]) v now
      refine .move (s := { s with trunk := s.trunk.push v now })
        ⟨?_, h.target, h.room⟩ ?_
      · rw [LaneQueue.due?_push trunk v hnow]
        exact h.due
      · rw [hleave]
        exact ih

/-! ## Moving and leaving -/

/-- A vehicle that leaves a lane changes no load. -/
theorem sameLoads_modify_leave (lanes : List (LaneQueue α)) (i : Nat) :
    SameLoads (lanes.modify i LaneQueue.leave) lanes := by
  apply List.ext_getElem?
  intro j
  rw [List.getElem?_map, List.getElem?_map, List.getElem?_modify]
  cases lanes[j]? with
  | none => rfl
  | some l =>
      have hlinks := (LaneQueue.sameSegment_leave l).toLinks
      by_cases hj : i = j <;> simp [hj, hlinks]

/-- The same vehicles pass, whether or not a vehicle has left a lane. -/
private theorem Passes.leave_lane_iff {now : Nat} {trunk : LaneQueue α}
    {lanes : List (LaneQueue α)} {v : Vehicle α} {k : LaneQueue α} (i : Nat) :
    Passes now trunk (lanes.modify i LaneQueue.leave) v k ↔
      ∃ l, Passes now trunk lanes v l ∧
        k = if i = choose lanes v then l.leave else l := by
  have hchoose := choose_congr (sameLoads_modify_leave lanes i) v
  constructor
  · intro h
    have htarget := h.target
    rw [hchoose, List.getElem?_modify] at htarget
    obtain ⟨l, hl, rfl⟩ := Option.map_eq_some_iff.1 htarget
    refine ⟨l, ⟨h.due, hl, ?_⟩, rfl⟩
    have hroom := h.room
    split at hroom
    · simpa using hroom
    · exact hroom
  · rintro ⟨l, h, rfl⟩
    refine ⟨h.due, ?_, ?_⟩
    · rw [hchoose, List.getElem?_modify, h.target]
      rfl
    · split
      · simpa using h.room
      · exact h.room

/-- On a lane that is not empty a vehicle may leave before or after another
one moves into some lane. -/
private theorem modify_leave_set {lanes : List (LaneQueue α)} {i j : Nat}
    {k l : LaneQueue α} (hk : lanes[i]? = some k) (hne : k.waiting ≠ [])
    (hl : lanes[j]? = some l) (v : Vehicle α) (now : Nat) :
    (lanes.modify i LaneQueue.leave).set j
        ((if i = j then l.leave else l).push v now) =
      (lanes.set j (l.push v now)).modify i LaneQueue.leave := by
  apply List.ext_getElem?
  intro n
  have hlt := (List.getElem?_eq_some_iff.1 hl).1
  by_cases hj : j = n
  · subst hj
    rw [List.getElem?_set_self (by simpa using hlt), List.getElem?_modify,
      List.getElem?_set_self hlt]
    by_cases hi : i = j
    · subst hi
      obtain rfl := Option.some.inj (hk.symm.trans hl)
      simp [LaneQueue.leave_push hne]
    · simp [hi]
  · rw [List.getElem?_set_ne hj, List.getElem?_modify, List.getElem?_modify,
      List.getElem?_set_ne hj]

theorem Shifting.leave_lane {now : Nat} {trunk : LaneQueue α}
    {lanes : List (LaneQueue α)} {s : Shift α}
    (h : Shifting now trunk lanes s) {i : Nat} {k : LaneQueue α}
    (hk : lanes[i]? = some k) (hne : k.waiting ≠ []) :
    Shifting now trunk (lanes.modify i LaneQueue.leave)
      { s with lanes := s.lanes.modify i LaneQueue.leave } := by
  induction h generalizing k with
  | @stop trunk lanes h =>
      refine .stop fun v l hv => ?_
      obtain ⟨l, hl, _⟩ := (Passes.leave_lane_iff i).1 hv
      exact h v l hl
  | @move trunk lanes v l s h hs ih =>
      have hchoose := choose_congr (sameLoads_modify_leave lanes i) v
      have hpass := (Passes.leave_lane_iff i).2 ⟨l, h, rfl⟩
      -- lane `i` is not emptied: it may only have gained a vehicle
      obtain ⟨k', hk', hne'⟩ : ∃ k',
          (lanes.set (choose lanes v) (l.push v now))[i]? = some k' ∧
            k'.waiting ≠ [] := by
        by_cases hi : choose lanes v = i
        · have hlt := (List.getElem?_eq_some_iff.1 h.target).1
          refine ⟨l.push v now, ?_, by simp [LaneQueue.push]⟩
          rw [← hi, List.getElem?_set_self hlt]
        · exact ⟨k, by rw [List.getElem?_set_ne hi, hk], hne⟩
      have hmove := Shifting.move
        (s := { s with lanes := s.lanes.modify i LaneQueue.leave }) hpass
        (by
          rw [hchoose, modify_leave_set hk hne h.target]
          exact ih hk' hne')
      rw [hchoose] at hmove
      exact hmove

/-! ## The three operations -/

theorem shifted_push (q : LinkQueue α) (v : Vehicle α) {now : Nat}
    (hnow : now < clockEnd) :
    (q.push v now).shifted now =
      { q.shifted now with trunk := (q.shifted now).trunk.push v now } :=
  (((shifting_shifted q now).push hnow v).eq_shifted (q := q.push v now)).symm

theorem shifted_pop_lane (q : LinkQueue α) (now : Nat) {i : Nat}
    {l : LaneQueue α} (hl : q.lanes[i]? = some l) (hne : l.waiting ≠ []) :
    (q.pop (.lane i)).2.shifted now =
      { q.shifted now with
        lanes := (q.shifted now).lanes.modify i LaneQueue.leave } := by
  rw [pop_lane]
  exact (((shifting_shifted q now).leave_lane hl hne).eq_shifted
    (q := { q with lanes := q.lanes.modify i LaneQueue.leave })).symm

/-- A move does not change who is first in a lane that is not empty. -/
theorem head?_vehicles_move (q : LinkQueue α) (now : Nat) {i : Nat}
    {l : LaneQueue α} (hl : q.lanes[i]? = some l) (hne : l.waiting ≠ []) :
    (q.move now).lanes[i]?.bind (·.vehicles.head?) = l.vehicles.head? := by
  have hmove : (q.move now).lanes[i]? =
      some (l.perform (q.acts (.lane i) (.move now))) := by
    have hstep := at?_step q (.lane i) (.move now)
    simpa only [step, at?, hl, Option.map_some] using hstep
  have hvehicles := LaneQueue.vehicles_perform l
    (q.acts (.lane i) (.move now))
  rw [LaneQueue.leaving_eq_nil l (leave_notMem_acts_move q i now),
    List.nil_append] at hvehicles
  have hfirst : l.vehicles ≠ [] := by simpa [LaneQueue.vehicles] using hne
  rw [hmove, Option.bind_some, ← hvehicles, List.head?_append,
    List.head?_eq_some_head hfirst]
  rfl

/-- **Within one second the order does not matter.**  A vehicle enters, the
vehicles of the trunk move, and a vehicle leaves a lane that is not empty: any
two of these can change places.  The queues are the same in the end, the same
vehicles move into the same lanes, and the same vehicle leaves. -/
theorem enter_move_leave_commute (q : LinkQueue α) (v : Vehicle α) {now : Nat}
    (hnow : now < clockEnd) {i : Nat} {l : LaneQueue α}
    (hl : q.lanes[i]? = some l) (hne : l.waiting ≠ []) :
    ((q.push v now).move now = (q.move now).push v now ∧
      (q.push v now).moves now = q.moves now) ∧
    (q.push v now).pop (.lane i) =
      ((q.pop (.lane i)).1, (q.pop (.lane i)).2.push v now) ∧
    ((q.move now).pop (.lane i) =
        ((q.pop (.lane i)).1, (q.pop (.lane i)).2.move now) ∧
      (q.pop (.lane i)).2.moves now = q.moves now) := by
  refine ⟨⟨?_, ?_⟩, ?_, ?_, ?_⟩
  · rw [move, shifted_push q v hnow]
    rfl
  · rw [moves, shifted_push q v hnow]
    rfl
  · rw [pop_lane, pop_lane]
    rfl
  · rw [move.eq_def (q.pop (.lane i)).2, shifted_pop_lane q now hl hne,
      pop_lane, pop_lane, head?_vehicles_move q now hl hne, hl]
    rfl
  · rw [moves, shifted_pop_lane q now hl hne]
    rfl

/-- One vehicle stands in the left lane and the next one is due on the trunk:
a third one enters, the second moves into the right lane, the first leaves. -/
theorem enter_move_leave_commute_fork :
    ((forkQueue.run (forkOps.take 5)).push (forkVehicle 3) 3).moves 3 =
      [(forkVehicle 2, 1)] ∧
    (((forkQueue.run (forkOps.take 5)).move 3).pop (.lane 0)).1 =
      some (forkVehicle 1) ∧
    ((forkQueue.run (forkOps.take 5)).push (forkVehicle 3) 3).move 3 =
      ((forkQueue.run (forkOps.take 5)).move 3).push (forkVehicle 3) 3 := by
  have hsome : (forkQueue.run (forkOps.take 5)).lanes[0]?.isSome := by
    decide +kernel
  have hne : ((forkQueue.run (forkOps.take 5)).lanes[0]?.get hsome).waiting ≠
      [] := by
    decide +kernel +revert
  obtain ⟨⟨hmove, hmoves⟩, _, hpop, _⟩ :=
    enter_move_leave_commute (forkQueue.run (forkOps.take 5)) (forkVehicle 3)
      (show 3 < clockEnd by decide) (Option.some_get hsome).symm hne
  refine ⟨?_, ?_, hmove⟩
  · rw [hmoves]
    decide +kernel
  · rw [hpop]
    decide +kernel

end LinkQueue

end LaneFlow
