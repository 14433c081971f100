import LaneFlow.Proofs.Queue.Creation
import Mathlib.Logic.Function.Basic

/-!
# When vehicles came

A queue remembers of a vehicle only when it can leave.  The *timetable* of a
run remembers more: for each vehicle on the link when it was let in, and when
it came to the queue it stands in.  It is kept beside the run and decides
nothing, since it is told only which operations are carried out and which
lanes the moves go to.

The timetable fits the queues: the stays at a place are those of the vehicles
that stand there, and the second from which a vehicle may leave is the exit
time for its arrival (`Kept`).  So what can be said about leaving can be said
of two times of arrival, and the time a vehicle spends on the link is bounded
by the travel times of the trunk and of its lane.  Times may be repeated or
go back, and the clock may stop at its end.

## Main results

* `kept_run` — the timetable of a run fits its queues.
* `Shifting.due_take` — the vehicles that move are due, one after the other.
* `not_ahead_of_travel_time` — nobody moves or is offered before its time.
-/

namespace LaneFlow

/-- A vehicle in a queue, with the second in which it was let into the link and
the one in which it came to the queue. -/
structure Stay (α : Type) where
  vehicle : Vehicle α
  entered : Nat
  arrived : Nat
deriving Repr, DecidableEq

/-- A vehicle and the second in which it was let into the link. -/
def Stay.entry {α : Type} (s : Stay α) : Vehicle α × Nat :=
  (s.vehicle, s.entered)

/-- The stays at each place, from the first vehicle to the last. -/
abbrev Timetable (α : Type) := Place → List (Stay α)

namespace Timetable

variable {α : Type}

/-- A vehicle is let into the link. -/
def enter (t : Timetable α) (v : Vehicle α) (now : Nat) : Timetable α :=
  Function.update t .trunk (t .trunk ++ [⟨v, now, now⟩])

/-- The first vehicle at a place leaves. -/
def leave (t : Timetable α) (p : Place) : Timetable α :=
  Function.update t p (t p).tail

/-- The first vehicle of the trunk moves into a lane. -/
def move (now : Nat) (t : Timetable α) (i : Nat) : Timetable α :=
  match t .trunk with
  | [] => t
  | s :: rest =>
    Function.update (Function.update t .trunk rest) (.lane i)
      (t (.lane i) ++ [{ s with arrived := now }])

theorem move_trunk {t : Timetable α} {s : Stay α} {rest : List (Stay α)}
    (h : t .trunk = s :: rest) (now i : Nat) : t.move now i .trunk = rest := by
  simp [move, h]

theorem move_lane_self {t : Timetable α} {s : Stay α} {rest : List (Stay α)}
    (h : t .trunk = s :: rest) (now i : Nat) :
    t.move now i (.lane i) = t (.lane i) ++ [{ s with arrived := now }] := by
  simp [move, h]

theorem move_lane_other (t : Timetable α) {i j : Nat} (hj : j ≠ i)
    (now : Nat) : t.move now i (.lane j) = t (.lane j) := by
  cases h : t .trunk with
  | nil => simp [move, h]
  | cons s rest => simp [move, h, hj]

/-! ### Who the stays are -/

/-- The stays on the trunk are the last ones of those that were let in, and
the stays in each lane are among those before. -/
def Listed (es : List (Vehicle α × Nat)) (t : Timetable α) : Prop :=
  ∃ gone, es = gone ++ (t .trunk).map Stay.entry ∧
    ∀ i, ((t (.lane i)).map Stay.entry).Sublist gone

variable {es : List (Vehicle α × Nat)} {t : Timetable α}

theorem Listed.enter (h : Listed es t) (v : Vehicle α) (now : Nat) :
    Listed (es ++ [(v, now)]) (t.enter v now) := by
  obtain ⟨gone, rfl, hlanes⟩ := h
  refine ⟨gone, ?_, fun i => ?_⟩
  · simp [Timetable.enter, Stay.entry]
  · simpa [Timetable.enter] using hlanes i

theorem Listed.leave (h : Listed es t) (p : Place) :
    Listed es (t.leave p) := by
  obtain ⟨gone, rfl, hlanes⟩ := h
  cases p with
  | trunk =>
      cases hs : t .trunk with
      | nil => exact ⟨gone, by simp [Timetable.leave, hs], fun i => by
          simpa [Timetable.leave] using hlanes i⟩
      | cons s rest =>
          refine ⟨gone ++ [s.entry], by simp [Timetable.leave, hs], fun i => ?_⟩
          simpa [Timetable.leave] using
            (hlanes i).trans (List.sublist_append_left ..)
  | lane j =>
      refine ⟨gone, by simp [Timetable.leave], fun i => ?_⟩
      by_cases hi : i = j
      · subst hi
        have htail := (List.tail_sublist (t (.lane i))).map Stay.entry
        simpa [Timetable.leave] using htail.trans (hlanes i)
      · simpa [Timetable.leave, hi] using hlanes i

theorem Listed.move (h : Listed es t) (i now : Nat) :
    Listed es (t.move now i) := by
  cases hs : t .trunk with
  | nil => simpa [Timetable.move, hs] using h
  | cons s rest =>
      obtain ⟨gone, rfl, hlanes⟩ := h
      refine ⟨gone ++ [s.entry], ?_, fun j => ?_⟩
      · rw [Timetable.move_trunk hs, hs]
        simp
      · by_cases hj : j = i
        · subst hj
          rw [Timetable.move_lane_self hs, List.map_append]
          exact (hlanes j).append (List.Sublist.refl [s.entry])
        · rw [Timetable.move_lane_other t hj]
          exact (hlanes j).trans (List.sublist_append_left ..)

end Timetable

/-! ## One queue -/

namespace LaneQueue

variable {α : Type} [Quantity α]

/-- What the queue on a segment remembers of a stay. -/
def remember (q : LaneQueue α) (s : Stay α) : Waiting α :=
  ⟨s.vehicle, q.exitTime s.vehicle s.arrived⟩

theorem SameSegment.exitTime_eq {q r : LaneQueue α} (h : SameSegment q r)
    (v : Vehicle α) (now : Nat) : q.exitTime v now = r.exitTime v now := by
  simp only [exitTime, travelTime, h.length, h.freespeed]

theorem SameSegment.remember_eq {q r : LaneQueue α} (h : SameSegment q r) :
    q.remember = r.remember := by
  funext s
  simp only [remember, h.exitTime_eq]

/-- Some stays are those of the vehicles in the queue. -/
def Holds (q : LaneQueue α) (stays : List (Stay α)) : Prop :=
  q.waiting = stays.map q.remember

variable {q : LaneQueue α} {stays : List (Stay α)}

theorem Holds.push (h : q.Holds stays) (s : Stay α) :
    (q.push s.vehicle s.arrived).Holds (stays ++ [s]) := by
  have hpush : (q.push s.vehicle s.arrived).waiting =
      q.waiting ++ [q.remember s] := rfl
  have hsame : q.SameSegment (q.push s.vehicle s.arrived) :=
    sameSegment_act q (.enter s.vehicle s.arrived)
  rw [Holds, hpush, h, ← hsame.remember_eq, List.map_append]
  rfl

theorem Holds.leave (h : q.Holds stays) : q.leave.Holds stays.tail := by
  rw [Holds, waiting_leave, h, ← (sameSegment_leave q).remember_eq,
    List.map_tail]

theorem Holds.refill (h : q.Holds stays) (now : Nat) :
    (q.refill now).Holds stays := h

theorem Holds.settle (h : q.Holds stays) : q.settle.Holds stays := h

/-- The first vehicle of a queue that is due has had its time. -/
theorem Holds.exists_of_due? (h : q.Holds stays) {now : Nat} {v : Vehicle α}
    (hdue : q.due? now = some v) :
    ∃ s rest, stays = s :: rest ∧ s.vehicle = v ∧
      q.exitTime v s.arrived ≤ now := by
  obtain ⟨_, w, more, hw, hexit, rfl⟩ := due?_eq_some_iff.1 hdue
  rw [h] at hw
  obtain ⟨s, rest, rfl, rfl, _⟩ := List.map_eq_cons_iff.1 hw
  exact ⟨s, rest, rfl, rfl, hexit⟩

/-- Before the end of the clock an exit time is that of the full travel. -/
theorem add_travelTime_le {v : Vehicle α} {t now : Nat}
    (h : q.exitTime v t ≤ now) (hnow : now < clockEnd) :
    t + q.travelTime v ≤ now := by
  have hmin : min (t + q.travelTime v) clockEnd ≤ now := h
  omega

theorem one_le_travelTime (q : LaneQueue α) (v : Vehicle α) :
    1 ≤ q.travelTime v := Nat.le_max_left ..

end LaneQueue

namespace LinkQueue

open LaneQueue (SameSegment)
open Timetable (Listed)

variable {α : Type}

/-- The vehicles that operations let into the link, each with its second. -/
def entries (ops : List (Op α)) : List (Vehicle α × Nat) :=
  ops.filterMap fun
    | .push v now => some (v, now)
    | _ => none

theorem entries_cons (op : Op α) (ops : List (Op α)) :
    entries (op :: ops) = entries [op] ++ entries ops :=
  List.filterMap_append (l := [op])

variable [Quantity α]

/-! ## The timetable of a run -/

/-- The timetable after an operation. -/
def note (q : LinkQueue α) (t : Timetable α) : Op α → Timetable α
  | .push v now => t.enter v now
  | .pop p => t.leave p
  | .refill _ => t
  | .settle => t
  | .move now => ((q.moves now).map (·.2)).foldl (Timetable.move now) t

/-- The timetable after several operations. -/
def noted (q : LinkQueue α) (t : Timetable α) : List (Op α) → Timetable α
  | [] => t
  | op :: ops => (q.step op).noted (q.note t op) ops

/-- The timetable of a run of a link that is empty at first. -/
def timetable (q : LinkQueue α) (ops : List (Op α)) : Timetable α :=
  q.noted (fun _ => []) ops

/-- The stays of the vehicles that move now, if a run is followed by a move. -/
def movingStays (q : LinkQueue α) (ops : List (Op α)) (now : Nat) :
    List (Stay α) :=
  (q.timetable ops .trunk).take ((q.run ops).moves now).length

/-- The timetable fits a trunk and some lanes. -/
structure Kept (trunk : LaneQueue α) (lanes : List (LaneQueue α))
    (t : Timetable α) : Prop where
  onTrunk : trunk.Holds (t .trunk)
  onLane : ∀ (i : Nat) (l : LaneQueue α),
    lanes[i]? = some l → l.Holds (t (.lane i))
  /-- On the trunk vehicles are where they were let in. -/
  entered : ∀ s ∈ t .trunk, s.arrived = s.entered
  /-- Nobody came to a lane before it could leave the trunk. -/
  passed : ∀ (i : Nat), ∀ s ∈ t (.lane i),
    trunk.exitTime s.vehicle s.entered ≤ s.arrived

theorem Kept.holds {q : LinkQueue α} {t : Timetable α}
    (h : Kept q.trunk q.lanes t) {p : Place} {l : LaneQueue α}
    (hl : q.at? p = some l) : l.Holds (t p) := by
  cases p with
  | trunk =>
      obtain rfl := Option.some.inj hl
      exact h.onTrunk
  | lane i => exact h.onLane i l hl

variable {trunk : LaneQueue α} {lanes : List (LaneQueue α)}
  {t : Timetable α} {now : Nat}

/-- A vehicle moves that is due. -/
theorem Kept.move (h : Kept trunk lanes t) {v : Vehicle α} {l : LaneQueue α}
    (hpass : Passes now trunk lanes v l) :
    Kept trunk.leave (lanes.set (choose lanes v) (l.push v now))
      (t.move now (choose lanes v)) := by
  obtain ⟨s, rest, hs, rfl, hexit⟩ := h.onTrunk.exists_of_due? hpass.due
  have hmem : s ∈ t .trunk := by simp [hs]
  constructor
  · rw [Timetable.move_trunk hs]
    simpa [hs] using h.onTrunk.leave
  · intro i k hk
    by_cases hi : choose lanes s.vehicle = i
    · subst hi
      rw [List.getElem?_set_self (List.getElem?_eq_some_iff.1 hpass.target).1]
        at hk
      obtain rfl := Option.some.inj hk
      rw [Timetable.move_lane_self hs]
      exact (h.onLane _ l hpass.target).push { s with arrived := now }
    · rw [List.getElem?_set_ne hi] at hk
      rw [Timetable.move_lane_other t (Ne.symm hi)]
      exact h.onLane i k hk
  · intro u hu
    rw [Timetable.move_trunk hs] at hu
    exact h.entered u (by simp [hs, hu])
  · intro i u hu
    rw [← (LaneQueue.sameSegment_leave trunk).exitTime_eq]
    by_cases hi : choose lanes s.vehicle = i
    · subst hi
      rw [Timetable.move_lane_self hs, List.mem_append] at hu
      rcases hu with hu | hu
      · exact h.passed _ u hu
      · obtain rfl := List.mem_singleton.1 hu
        rw [h.entered s hmem] at hexit
        exact hexit
    · rw [Timetable.move_lane_other t (Ne.symm hi)] at hu
      exact h.passed i u hu

/-- The loop keeps the timetable. -/
theorem Shifting.kept {s : Shift α} (hs : Shifting now trunk lanes s)
    (h : Kept trunk lanes t) :
    Kept s.trunk s.lanes
      ((s.moves.map (·.2)).foldl (Timetable.move now) t) := by
  induction hs generalizing t with
  | stop _ => exact h
  | move hpass _ ih => exact ih (h.move hpass)

/-- The vehicles that move are, one after the other, the first ones of the
trunk, and each has had its time. -/
theorem Shifting.due_take {s : Shift α} (hs : Shifting now trunk lanes s)
    {stays : List (Stay α)} (h : trunk.Holds stays) :
    (stays.take s.moves.length).map (·.vehicle) = s.moves.map (·.1) ∧
    ∀ u ∈ stays.take s.moves.length,
      trunk.exitTime u.vehicle u.arrived ≤ now := by
  induction hs generalizing stays with
  | stop _ => simp
  | @move trunk lanes v l s hpass _ ih =>
      obtain ⟨u, rest, rfl, rfl, hexit⟩ := h.exists_of_due? hpass.due
      obtain ⟨hvehicles, hdue⟩ := ih h.leave
      refine ⟨by simpa using hvehicles, fun w hw => ?_⟩
      rcases List.mem_cons.1 hw with rfl | hw
      · exact hexit
      · rw [(LaneQueue.sameSegment_leave trunk).exitTime_eq]
        exact hdue w hw

theorem kept_push {q : LinkQueue α} (h : Kept q.trunk q.lanes t)
    (v : Vehicle α) (now : Nat) :
    Kept (q.push v now).trunk (q.push v now).lanes (t.enter v now) := by
  constructor
  · rw [Timetable.enter, Function.update_self]
    exact h.onTrunk.push ⟨v, now, now⟩
  · intro i l hl
    simpa [Timetable.enter] using h.onLane i l hl
  · intro s hs
    rw [Timetable.enter, Function.update_self, List.mem_append] at hs
    rcases hs with hs | hs
    · exact h.entered s hs
    · obtain rfl := List.mem_singleton.1 hs
      rfl
  · intro i s hs
    exact h.passed i s (by simpa [Timetable.enter] using hs)

theorem kept_pop {q : LinkQueue α} (h : Kept q.trunk q.lanes t)
    (p : Place) : Kept (q.pop p).2.trunk (q.pop p).2.lanes (t.leave p) := by
  cases p with
  | trunk =>
      rw [pop_trunk]
      constructor
      · simpa [Timetable.leave] using h.onTrunk.leave
      · intro i l hl
        simpa [Timetable.leave] using h.onLane i l hl
      · intro s hs
        rw [Timetable.leave, Function.update_self] at hs
        exact h.entered s (List.mem_of_mem_tail hs)
      · intro i s hs
        rw [← (LaneQueue.sameSegment_leave q.trunk).exitTime_eq]
        exact h.passed i s (by simpa [Timetable.leave] using hs)
  | lane j =>
      rw [pop_lane]
      constructor
      · simpa [Timetable.leave] using h.onTrunk
      · intro i l hl
        rw [List.getElem?_modify] at hl
        obtain ⟨k, hk, rfl⟩ := Option.map_eq_some_iff.1 hl
        by_cases hi : j = i
        · subst hi
          simpa [Timetable.leave] using (h.onLane j k hk).leave
        · simpa [Timetable.leave, hi, Ne.symm hi] using h.onLane i k hk
      · intro s hs
        exact h.entered s (by simpa [Timetable.leave] using hs)
      · intro i s hs
        by_cases hi : j = i
        · subst hi
          rw [Timetable.leave, Function.update_self] at hs
          exact h.passed j s (List.mem_of_mem_tail hs)
        · exact h.passed i s
            (by simpa [Timetable.leave, Ne.symm hi] using hs)

/-- Every operation keeps the timetable. -/
theorem kept_step {q : LinkQueue α} (h : Kept q.trunk q.lanes t)
    (op : Op α) :
    Kept (q.step op).trunk (q.step op).lanes (q.note t op) := by
  cases op with
  | push v now => exact kept_push h v now
  | pop p => exact kept_pop h p
  | refill now =>
      refine ⟨h.onTrunk.refill now, fun i l hl => ?_, h.entered, h.passed⟩
      simp only [step, refill, List.getElem?_map] at hl
      obtain ⟨k, hk, rfl⟩ := Option.map_eq_some_iff.1 hl
      exact (h.onLane i k hk).refill now
  | settle =>
      refine ⟨h.onTrunk.settle, fun i l hl => ?_, h.entered, h.passed⟩
      simp only [step, settle, List.getElem?_map] at hl
      obtain ⟨k, hk, rfl⟩ := Option.map_eq_some_iff.1 hl
      exact (h.onLane i k hk).settle
  | move now => exact (shifting_shifted q now).kept h

theorem kept_noted {q : LinkQueue α} (h : Kept q.trunk q.lanes t)
    (ops : List (Op α)) :
    Kept (q.run ops).trunk (q.run ops).lanes (q.noted t ops) := by
  induction ops generalizing q t with
  | nil => exact h
  | cons op ops ih => exact ih (kept_step h op)

theorem listed_note {es : List (Vehicle α × Nat)} {q : LinkQueue α}
    (h : Listed es t) (op : Op α) :
    Listed (es ++ entries [op]) (q.note t op) := by
  cases op with
  | push v now => exact h.enter v now
  | pop p => simpa [entries, note] using h.leave p
  | refill now => simpa [entries, note] using h
  | settle => simpa [entries, note] using h
  | move now =>
      have hmoves : ∀ (is : List Nat) (t : Timetable α), Listed es t →
          Listed es (is.foldl (Timetable.move now) t) := by
        intro is
        induction is with
        | nil => exact fun _ h => h
        | cons i is ih => exact fun t h => ih _ (h.move i now)
      simpa [entries, note] using hmoves _ t h

theorem listed_noted {es : List (Vehicle α × Nat)} {q : LinkQueue α}
    (h : Listed es t) (ops : List (Op α)) :
    Listed (es ++ entries ops) (q.noted t ops) := by
  induction ops generalizing q t es with
  | nil => simpa [entries, noted] using h
  | cons op ops ih =>
      rw [entries_cons, ← List.append_assoc]
      exact ih (listed_note h op)

/-! ## A new link -/

variable {s s' : IdStore} {link : Link α} {c : LinkCapacity α}
  {a : Option (LaneAssignment α)} {q : LinkQueue α}

/-- The timetable of a run fits its queues. -/
theorem kept_run (hq : create s link c a = .ok (q, s'))
    (ops : List (Op α)) :
    Kept (q.run ops).trunk (q.run ops).lanes (q.timetable ops) := by
  have hempty : ∀ p l, q.at? p = some l → l.Holds [] := by
    intro p l hl
    obtain ⟨seg, _, heq⟩ := at?_create hq hl
    rw [heq]
    rfl
  have hstart : Kept q.trunk q.lanes fun _ => [] :=
    ⟨hempty .trunk _ rfl, fun i l hl => hempty (.lane i) l hl, by simp, by simp⟩
  exact kept_noted hstart ops

/-- The stays of a run are those of vehicles that were let in. -/
theorem listed_run (q : LinkQueue α) (ops : List (Op α)) :
    Listed (entries ops) (q.timetable ops) := by
  have hstart : Listed ([] : List (Vehicle α × Nat)) fun _ => [] :=
    ⟨[], rfl, fun _ => .slnil⟩
  exact listed_noted hstart ops

theorem sameSegment_trunk_run (q : LinkQueue α) (ops : List (Op α)) :
    SameSegment q.trunk (q.run ops).trunk := by
  have htrunk := at?_run q .trunk ops
  rw [Option.some.inj htrunk]
  exact LaneQueue.sameSegment_perform _ _

/-- Who moves has had its time on the trunk. -/
theorem movingStays_due (hq : create s link c a = .ok (q, s'))
    (ops : List (Op α)) (now : Nat) :
    (q.movingStays ops now).map (·.vehicle) =
      ((q.run ops).moves now).map (·.1) ∧
    ∀ u ∈ q.movingStays ops now,
      q.trunk.exitTime u.vehicle u.entered ≤ now := by
  have hkept := kept_run hq ops
  obtain ⟨hvehicles, hdue⟩ :=
    (shifting_shifted (q.run ops) now).due_take hkept.onTrunk
  refine ⟨hvehicles, fun u hu => ?_⟩
  rw [(sameSegment_trunk_run q ops).exitTime_eq,
    ← hkept.entered u (List.mem_of_mem_take hu)]
  exact hdue u hu

/-- Who is offered at a place has had its time there. -/
theorem exists_stay_of_mem_offers (hq : create s link c a = .ok (q, s'))
    {ops : List (Op α)} {p : Place} {v : Vehicle α}
    (h : (p, v) ∈ (q.run ops).offers now) :
    ∃ l u rest, q.at? p = some l ∧ q.timetable ops p = u :: rest ∧
      u.vehicle = v ∧ l.exitTime v u.arrived ≤ now := by
  obtain ⟨_, k, hk, hdue⟩ := mem_offers_iff.1 h
  have hholds := (kept_run hq ops).holds hk
  obtain ⟨l, hl, rfl⟩ := exists_at?_of_run hk
  obtain ⟨u, rest, hu, hv, hexit⟩ := hholds.exists_of_due? hdue
  refine ⟨l, u, rest, hl, hu, hv, ?_⟩
  rwa [(LaneQueue.sameSegment_perform l _).exitTime_eq]

/-- Who is offered by a lane has had its time on the trunk, too. -/
theorem exists_stay_of_mem_offers_lane
    (hq : create s link c a = .ok (q, s')) {ops : List (Op α)} {i : Nat}
    {v : Vehicle α} (h : (.lane i, v) ∈ (q.run ops).offers now) :
    ∃ l u rest, q.lanes[i]? = some l ∧
      q.timetable ops (.lane i) = u :: rest ∧ u.vehicle = v ∧
      q.trunk.exitTime v u.entered ≤ u.arrived ∧
      l.exitTime v u.arrived ≤ now ∧
      (now < clockEnd →
        u.entered + q.trunk.travelTime v + l.travelTime v ≤ now) := by
  obtain ⟨l, u, rest, hl, hu, rfl, hexit⟩ := exists_stay_of_mem_offers hq h
  have hpassed : q.trunk.exitTime u.vehicle u.entered ≤ u.arrived := by
    rw [(sameSegment_trunk_run q ops).exitTime_eq]
    exact (kept_run hq ops).passed i u (by simp [hu])
  refine ⟨l, u, rest, hl, hu, rfl, hpassed, hexit, fun hnow => ?_⟩
  have hlane := LaneQueue.add_travelTime_le hexit hnow
  have htrunk := LaneQueue.add_travelTime_le hpassed (by omega)
  omega

/-- Who is offered by the trunk has had its time there. -/
theorem exists_stay_of_mem_offers_trunk
    (hq : create s link c a = .ok (q, s')) {ops : List (Op α)}
    {v : Vehicle α} (h : (.trunk, v) ∈ (q.run ops).offers now) :
    ∃ u rest, q.timetable ops .trunk = u :: rest ∧ u.vehicle = v ∧
      q.trunk.exitTime v u.entered ≤ now ∧
      (now < clockEnd → u.entered + q.trunk.travelTime v ≤ now) := by
  obtain ⟨l, u, rest, hl, hu, rfl, hexit⟩ := exists_stay_of_mem_offers hq h
  obtain rfl : q.trunk = l := Option.some.inj hl
  rw [(kept_run hq ops).entered u (by simp [hu])] at hexit
  exact ⟨u, rest, hu, rfl, hexit, LaneQueue.add_travelTime_le hexit⟩

/-- **No vehicle is ahead of its travel time.**  The timetable of a run of a new
link fits its queues, and its stays are those of the vehicles that were let
in, in their order.  Then, whatever the times of the operations were:

* the vehicles that move now are the first ones of the trunk, and for each of
  them the exit time of the trunk has come;
* a vehicle that a lane offers now came to the lane when the exit time of the
  trunk had come, and the exit time of the lane has come; before the clock ends
  it was let in at least as long ago as it travels on both, which is no less
  than two seconds;
* a vehicle that the trunk offers now has had its time there;
* before the clock ends, a vehicle that takes for ever on the trunk neither
  moves nor is offered, and one that takes for ever on a lane is not offered
  there. -/
theorem not_ahead_of_travel_time (hq : create s link c a = .ok (q, s'))
    (ops : List (Op α)) (now : Nat) :
    (∀ p l, (q.run ops).at? p = some l →
      l.waiting = (q.timetable ops p).map l.remember) ∧
    Listed (entries ops) (q.timetable ops) ∧
    ((q.movingStays ops now).map (·.vehicle) =
        ((q.run ops).moves now).map (·.1) ∧
      ∀ u ∈ q.movingStays ops now,
        q.trunk.exitTime u.vehicle u.entered ≤ now) ∧
    (∀ i v, (.lane i, v) ∈ (q.run ops).offers now →
      ∃ l u rest, q.lanes[i]? = some l ∧
        q.timetable ops (.lane i) = u :: rest ∧ u.vehicle = v ∧
        q.trunk.exitTime v u.entered ≤ u.arrived ∧
        l.exitTime v u.arrived ≤ now ∧
        (now < clockEnd →
          u.entered + q.trunk.travelTime v + l.travelTime v ≤ now ∧
          u.entered + 2 ≤ now)) ∧
    (∀ v, (.trunk, v) ∈ (q.run ops).offers now →
      ∃ u rest, q.timetable ops .trunk = u :: rest ∧ u.vehicle = v ∧
        q.trunk.exitTime v u.entered ≤ now ∧
        (now < clockEnd → u.entered + q.trunk.travelTime v ≤ now)) ∧
    (now < clockEnd → ∀ v, q.trunk.travelTime v = clockEnd →
      v ∉ ((q.run ops).moves now).map (·.1) ∧
      ∀ p, (p, v) ∉ (q.run ops).offers now) ∧
    (now < clockEnd → ∀ (i : Nat) l v, q.lanes[i]? = some l →
      l.travelTime v = clockEnd → (.lane i, v) ∉ (q.run ops).offers now) := by
  refine ⟨fun p l hl => (kept_run hq ops).holds hl, listed_run q ops,
    movingStays_due hq ops now, fun i v hv => ?_,
    fun v hv => exists_stay_of_mem_offers_trunk hq hv,
    fun hnow v hnever => ⟨fun hv => ?_, fun p hv => ?_⟩,
    fun hnow i l v hl hnever hv => ?_⟩
  · obtain ⟨l, u, rest, hl, hu, huv, hpassed, hexit, hadd⟩ :=
      exists_stay_of_mem_offers_lane hq hv
    refine ⟨l, u, rest, hl, hu, huv, hpassed, hexit, fun hnow => ?_⟩
    have hsum := hadd hnow
    have htrunk := q.trunk.one_le_travelTime v
    have hlane := l.one_le_travelTime v
    exact ⟨hsum, by omega⟩
  · obtain ⟨hvehicles, hdue⟩ := movingStays_due hq ops now
    rw [← hvehicles, List.mem_map] at hv
    obtain ⟨u, hu, rfl⟩ := hv
    have hle := LaneQueue.add_travelTime_le (hdue u hu) hnow
    omega
  · cases p with
    | trunk =>
        obtain ⟨u, _, _, _, _, hadd⟩ := exists_stay_of_mem_offers_trunk hq hv
        have hle := hadd hnow
        omega
    | lane i =>
        obtain ⟨l, u, _, _, _, _, _, _, hadd⟩ :=
          exists_stay_of_mem_offers_lane hq hv
        have hle := hadd hnow
        omega
  · obtain ⟨k, u, _, hk, _, _, _, _, hadd⟩ :=
      exists_stay_of_mem_offers_lane hq hv
    obtain rfl := Option.some.inj (hl.symm.trans hk)
    have hle := hadd hnow
    omega

/-- The vehicle that the left lane offers in the third second was let in at
the start: it takes two seconds on the trunk and one on the lane. -/
theorem not_ahead_of_travel_time_fork :
    (.lane 0, forkVehicle 1) ∈ (forkQueue.run (forkOps.take 6)).offers 3 ∧
    ∃ l u rest, forkQueue.lanes[0]? = some l ∧
      forkQueue.timetable (forkOps.take 6) (.lane 0) = u :: rest ∧
      u.vehicle = forkVehicle 1 ∧
      u.entered + forkQueue.trunk.travelTime (forkVehicle 1) +
        l.travelTime (forkVehicle 1) ≤ 3 := by
  have hoffer : (.lane 0, forkVehicle 1) ∈
      (forkQueue.run (forkOps.take 6)).offers 3 := by
    decide +kernel
  obtain ⟨l, u, rest, hl, hu, hv, _, _, hadd⟩ :=
    (not_ahead_of_travel_time create_fork (forkOps.take 6) 3).2.2.2.1 0 _ hoffer
  exact ⟨hoffer, l, u, rest, hl, hu, hv, (hadd (by decide)).1⟩

end LinkQueue

end LaneFlow
