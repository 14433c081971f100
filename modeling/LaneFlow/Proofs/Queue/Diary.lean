import LaneFlow.Proofs.Queue.Moving
import LaneFlow.Queue.History

/-!
# The diary of a queue

An operation on a link does something to each of its queues.  The *diary* of a
place lists these acts, so that the queue found there after a run is the
queue found there before, taken through its diary.  The loop in `move` is
dealt with here once; what is true of the queues of a link is then a matter
of acts on one queue.

## Main results

* `at?_run` — the queue at a place after a run.
* `entering_diary`, `leaving_diary` — the vehicles that a diary brings and
  takes away are those of the history of the run.
-/

namespace LaneFlow.LinkQueue

open LaneQueue (Act entering)

variable {α : Type} [Quantity α]

/-! ## Letting a vehicle out -/

theorem pop_trunk (q : LinkQueue α) :
    q.pop .trunk = (q.trunk.vehicles.head?, { q with trunk := q.trunk.leave }) := by
  cases h : q.trunk.waiting with
  | nil =>
      have hpop := LaneQueue.pop?_eq_none_iff.2 h
      simp [pop, at?, hpop, LaneQueue.leave_of_empty h, LaneQueue.vehicles, h]
  | cons w rest =>
      simp [pop, at?, setAt, LaneQueue.pop?_of_waiting h, LaneQueue.vehicles, h]

theorem pop_lane (q : LinkQueue α) (i : Nat) :
    q.pop (.lane i) =
      (q.lanes[i]?.bind (·.vehicles.head?),
        { q with lanes := q.lanes.modify i LaneQueue.leave }) := by
  cases hl : q.lanes[i]? with
  | none =>
      have hlen : q.lanes.length ≤ i := List.getElem?_eq_none_iff.1 hl
      simp [pop, at?, hl, List.modify_eq_self hlen]
  | some l =>
      cases h : l.waiting with
      | nil =>
          have hpop := LaneQueue.pop?_eq_none_iff.2 h
          have hsame : q.lanes.modify i LaneQueue.leave = q.lanes := by
            apply List.ext_getElem?
            intro j
            by_cases hj : i = j
            · subst hj
              simp [hl, LaneQueue.leave_of_empty h]
            · simp [hj]
          simp [pop, at?, hl, hpop, hsame, LaneQueue.vehicles, h]
      | cons w rest =>
          have hset : q.lanes.set i l.leave =
              q.lanes.modify i LaneQueue.leave := by
            apply List.ext_getElem?
            intro j
            by_cases hj : i = j
            · subst hj
              have hlt := (List.getElem?_eq_some_iff.1 hl).1
              rw [List.getElem?_set_self hlt, List.getElem?_modify_eq, hl]
              rfl
            · simp [hj, List.getElem?_set_ne hj]
          simp [pop, at?, setAt, hl, LaneQueue.pop?_of_waiting h, hset,
            LaneQueue.vehicles, h]

/-- The vehicle let out at a place is the first one there. -/
theorem pop_fst (q : LinkQueue α) (p : Place) :
    (q.pop p).1 = (q.at? p).bind (·.vehicles.head?) := by
  cases p with
  | trunk => simp [pop_trunk, at?]
  | lane i => simp [pop_lane, at?]

/-! ## One operation -/

/-- What an operation does to the queue at a place. -/
def acts (q : LinkQueue α) (p : Place) : Op α → List (Act α)
  | .push v now => if p = .trunk then [.enter v now] else []
  | .pop place => if p = place then [.leave] else []
  | .refill now => [.refill now]
  | .settle => [.settle]
  | .move now => (q.moves now).filterMap (moveAct now p)

/-- The queue at a place after an operation. -/
theorem at?_step (q : LinkQueue α) (p : Place) (op : Op α) :
    (q.step op).at? p = (q.at? p).map (·.perform (q.acts p op)) := by
  cases op with
  | push v now =>
      cases p <;> simp [step, push, at?, acts, LaneQueue.act]
  | pop place =>
      cases place with
      | trunk =>
          rw [step, pop_trunk]
          cases p <;> simp [at?, acts, LaneQueue.act]
      | lane j =>
          rw [step, pop_lane]
          cases p with
          | trunk => simp [at?, acts]
          | lane i =>
              by_cases hi : i = j
              · simp [at?, acts, hi, LaneQueue.act]
              · simp [at?, acts, hi, Ne.symm hi]
  | refill now =>
      cases p <;> simp [step, refill, at?, acts, LaneQueue.act]
  | settle =>
      cases p <;> simp [step, settle, at?, acts, LaneQueue.act]
  | move now =>
      have h := shifting_shifted q now
      cases p with
      | trunk => simp [step, move, at?, acts, moves, h.trunk_eq]
      | lane i => simp [step, move, at?, acts, moves, h.lane_eq]

/-- An operation leaves the number of lanes as it is. -/
@[simp] theorem length_lanes_step (q : LinkQueue α) (op : Op α) :
    (q.step op).lanes.length = q.lanes.length := by
  cases op with
  | push v now => rfl
  | pop place =>
      cases place with
      | trunk => simp [step, pop_trunk]
      | lane i => simp [step, pop_lane]
  | refill now => simp [step, refill]
  | settle => simp [step, settle]
  | move now => exact (shifting_shifted q now).length_lanes

/-- A move lets nobody out of a lane. -/
theorem leave_notMem_acts_move (q : LinkQueue α) (i now : Nat) :
    .leave ∉ q.acts (.lane i) (.move now) := by
  simp [acts, moveAct]

theorem entering_acts (q : LinkQueue α) (p : Place) (op : Op α) :
    entering (q.acts p op) = History.broughtTo p (q.events op) := by
  cases op with
  | push v now =>
      cases p <;>
        simp [acts, events, entering, Act.entering?, History.broughtTo,
          Event.broughtTo]
  | pop place =>
      cases hpop : (q.pop place).1 <;> by_cases hp : p = place <;>
        simp [acts, events, hp, hpop, entering, Act.entering?,
          History.broughtTo, Event.broughtTo]
  | refill now =>
      simp [acts, events, entering, Act.entering?, History.broughtTo]
  | settle =>
      simp [acts, events, entering, Act.entering?, History.broughtTo,
        Event.broughtTo]
  | move now =>
      simp only [acts, events, entering, History.broughtTo, List.filterMap_map,
        List.filterMap_filterMap]
      congr 1
      funext m
      cases p with
      | trunk => simp [moveAct, Act.entering?, Event.broughtTo]
      | lane i =>
          by_cases hi : i = m.2 <;>
            simp [moveAct, hi, Act.entering?, Event.broughtTo]

theorem leaving_acts {q : LinkQueue α} {p : Place} {l : LaneQueue α}
    (h : q.at? p = some l) (op : Op α) :
    l.leaving (q.acts p op) = History.takenFrom p (q.events op) := by
  cases op with
  | push v now =>
      cases p <;>
        simp [acts, events, LaneQueue.leaving, LaneQueue.leaving?,
          History.takenFrom, Event.takenFrom]
  | pop place =>
      by_cases hp : p = place
      · subst hp
        have hfst : (q.pop p).1 = l.vehicles.head? := by simp [pop_fst, h]
        cases hhead : l.vehicles.head? <;>
          simp [acts, events, hfst, hhead, LaneQueue.leaving,
            LaneQueue.leaving?, History.takenFrom, Event.takenFrom]
      · cases hpop : (q.pop place).1 <;>
          simp [acts, events, hp, hpop, LaneQueue.leaving, History.takenFrom,
            Event.takenFrom]
  | refill now =>
      simp [acts, events, LaneQueue.leaving, LaneQueue.leaving?,
        History.takenFrom]
  | settle =>
      simp [acts, events, LaneQueue.leaving, LaneQueue.leaving?,
        History.takenFrom, Event.takenFrom]
  | move now =>
      cases p with
      | trunk =>
          obtain rfl : q.trunk = l := Option.some.inj h
          have hleave := (shifting_shifted q now).leaving_trunk
          simp only [acts, moves, hleave, events, History.takenFrom,
            List.filterMap_map]
          rw [← List.filterMap_eq_map]
          rfl
      | lane i =>
          rw [LaneQueue.leaving_eq_nil l (leave_notMem_acts_move q i now)]
          simp [events, History.takenFrom, Event.takenFrom]

/-! ## A run -/

/-- What a run does to the queue at a place. -/
def diary (q : LinkQueue α) (p : Place) : List (Op α) → List (Act α)
  | [] => []
  | op :: ops => q.acts p op ++ (q.step op).diary p ops

theorem diary_append (q : LinkQueue α) (p : Place) (ops more : List (Op α)) :
    q.diary p (ops ++ more) = q.diary p ops ++ (q.run ops).diary p more := by
  induction ops generalizing q with
  | nil => rfl
  | cons op ops ih => simp [diary, ih, List.append_assoc]

/-- The queue at a place after a run: it has been taken through its diary. -/
theorem at?_run (q : LinkQueue α) (p : Place) (ops : List (Op α)) :
    (q.run ops).at? p = (q.at? p).map (·.perform (q.diary p ops)) := by
  induction ops generalizing q with
  | nil => simp [diary]
  | cons op ops ih =>
      rw [run_cons, ih, at?_step, Option.map_map]
      congr 1
      funext l
      simp [diary, LaneQueue.perform_append]

@[simp] theorem length_lanes_run (q : LinkQueue α) (ops : List (Op α)) :
    (q.run ops).lanes.length = q.lanes.length := by
  induction ops generalizing q with
  | nil => rfl
  | cons op ops ih => rw [run_cons, ih, length_lanes_step]

theorem entering_diary (q : LinkQueue α) (p : Place) (ops : List (Op α)) :
    entering (q.diary p ops) = (q.history ops).broughtTo p := by
  induction ops generalizing q with
  | nil => rfl
  | cons op ops ih =>
      rw [history, History.broughtTo_append, ← entering_acts, ← ih]
      exact List.filterMap_append

theorem leaving_diary {q : LinkQueue α} {p : Place} {l : LaneQueue α}
    (h : q.at? p = some l) (ops : List (Op α)) :
    l.leaving (q.diary p ops) = (q.history ops).takenFrom p := by
  induction ops generalizing q l with
  | nil => rfl
  | cons op ops ih =>
      have hstep : (q.step op).at? p = some (l.perform (q.acts p op)) := by
        simp [at?_step, h]
      rw [diary, LaneQueue.leaving_append, leaving_acts h, ih hstep, history,
        History.takenFrom_append]

end LaneFlow.LinkQueue
