import LaneFlow.Proofs.Queue.LaneActs
import LaneFlow.Queue.LinkQueue

/-!
# Moving from the trunk into the lanes

`LinkQueue.shift` is a loop: as long as the first vehicle of the trunk is due
and the lane it chooses has room, it leaves the trunk and enters that lane.
`Shifting` says the same as a relation, one rule for the end of the loop and one
for a vehicle that moves, so that a fact about the loop is proved by induction
on its rules.  The relation and the function agree (`shifting_shifted`,
`Shifting.eq_shifted`).

## Main results

* `choose_congr` — the choice of a lane depends on where the lanes lead and on
  the storage in use, and on nothing else.
* `Shifting.trunk_eq`, `Shifting.lane_eq` — for each queue the loop is a list of
  acts: the moved vehicles leave the trunk, and enter their lanes.
* `Shifting.leaving_trunk` — the vehicles that move are those that leave the
  trunk, in their order.
-/

namespace LaneFlow.LinkQueue

open LaneQueue (Act)

variable {α : Type} [Quantity α]

/-! ## What the choice of a lane depends on -/

/-- Lanes that lead to the same links and have the same storage in use. -/
def SameLoads (lanes other : List (LaneQueue α)) : Prop :=
  lanes.map (fun l => (l.toLinks, l.inUse)) =
    other.map (fun l => (l.toLinks, l.inUse))

theorem SameLoads.length_eq {lanes other : List (LaneQueue α)}
    (h : SameLoads lanes other) : lanes.length = other.length := by
  simpa using congrArg List.length h

theorem SameLoads.map_getElem? {lanes other : List (LaneQueue α)}
    (h : SameLoads lanes other) (i : Nat) :
    lanes[i]?.map (fun l => (l.toLinks, l.inUse)) =
      other[i]?.map (fun l => (l.toLinks, l.inUse)) := by
  simpa using congrArg (·[i]?) h

private theorem serving_congr {lanes other : List (LaneQueue α)}
    (h : SameLoads lanes other) (v : Vehicle α) :
    serving lanes v = serving other v := by
  unfold serving
  cases v.next with
  | none => rfl
  | some link =>
      rw [h.length_eq]
      apply List.filter_congr
      intro i _
      have hi := h.map_getElem? i
      cases hl : lanes[i]? <;> cases ho : other[i]? <;>
        simp_all [LaneQueue.leadsTo]

private theorem lessUsed_congr {lanes other : List (LaneQueue α)}
    (h : SameLoads lanes other) (i j : Nat) :
    lessUsed lanes i j = lessUsed other i j := by
  have hi := h.map_getElem? i
  have hj := h.map_getElem? j
  unfold lessUsed
  cases hli : lanes[i]? <;> cases hoi : other[i]? <;> simp_all
  cases hlj : lanes[j]? <;> cases hoj : other[j]? <;> simp_all

theorem choose_congr {lanes other : List (LaneQueue α)}
    (h : SameLoads lanes other) (v : Vehicle α) :
    choose lanes v = choose other v := by
  have hless : lessUsed lanes = lessUsed other := by
    funext i j
    exact lessUsed_congr h i j
  simp only [choose, candidates, serving_congr h, h.length_eq, hless]

/-! ## The rules of the loop -/

/-- The first vehicle of the trunk is `v`, it is due, and the lane `l` that it
chooses has room. -/
structure Passes (now : Nat) (trunk : LaneQueue α)
    (lanes : List (LaneQueue α)) (v : Vehicle α) (l : LaneQueue α) : Prop where
  due : trunk.due? now = some v
  target : lanes[choose lanes v]? = some l
  room : l.hasRoom = true

/-- What the loop makes of a trunk and some lanes. -/
inductive Shifting (now : Nat) :
    LaneQueue α → List (LaneQueue α) → Shift α → Prop
  | stop {trunk : LaneQueue α} {lanes : List (LaneQueue α)}
      (h : ∀ v l, ¬ Passes now trunk lanes v l) :
      Shifting now trunk lanes { trunk, lanes }
  | move {trunk : LaneQueue α} {lanes : List (LaneQueue α)}
      {v : Vehicle α} {l : LaneQueue α} {s : Shift α}
      (h : Passes now trunk lanes v l)
      (hs : Shifting now trunk.leave
        (lanes.set (choose lanes v) (l.push v now)) s) :
      Shifting now trunk lanes
        { s with moves := (v, choose lanes v) :: s.moves }

theorem Shifting.unique {now : Nat} {trunk : LaneQueue α}
    {lanes : List (LaneQueue α)} {s t : Shift α}
    (hs : Shifting now trunk lanes s) (ht : Shifting now trunk lanes t) :
    s = t := by
  induction hs generalizing t with
  | stop h =>
      cases ht with
      | stop _ => rfl
      | move h' _ => exact absurd h' (h _ _)
  | move h _ ih =>
      cases ht with
      | stop h' => exact absurd h (h' _ _)
      | move h' hs' =>
          obtain rfl := Option.some.inj (h.due.symm.trans h'.due)
          obtain rfl := Option.some.inj (h.target.symm.trans h'.target)
          rw [ih hs']

private theorem shifting_shift (now : Nat) (ws : List (Waiting α)) :
    ∀ (trunk : LaneQueue α) (lanes : List (LaneQueue α)),
      trunk.waiting = ws →
        Shifting now trunk lanes (shift now ws trunk lanes) := by
  induction ws with
  | nil =>
      intro trunk lanes hws
      refine .stop fun v l h => ?_
      obtain ⟨_, w, rest, hw, _⟩ := LaneQueue.due?_eq_some_iff.1 h.due
      simp [hws] at hw
  | cons w rest ih =>
      intro trunk lanes hws
      unfold shift
      cases hdue : trunk.due? now with
      | none =>
          refine .stop fun v l h => ?_
          exact absurd (hdue.symm.trans h.due) (by simp)
      | some v =>
          have hpop : trunk.pop? = some (v, trunk.leave) := by
            obtain ⟨_, u, more, hu, _, rfl⟩ :=
              LaneQueue.due?_eq_some_iff.1 hdue
            exact LaneQueue.pop?_of_waiting hu
          simp only [hpop]
          cases htarget : lanes[choose lanes v]? with
          | none =>
              refine Shifting.stop fun u l h => ?_
              obtain rfl := Option.some.inj (hdue.symm.trans h.due)
              exact absurd (htarget.symm.trans h.target) (by simp)
          | some l =>
              simp only
              by_cases hroom : l.hasRoom = true
              · rw [if_pos hroom]
                refine .move ⟨hdue, htarget, hroom⟩ (ih _ _ ?_)
                simp [hws]
              · rw [if_neg hroom]
                refine .stop fun u k h => ?_
                obtain rfl := Option.some.inj (hdue.symm.trans h.due)
                obtain rfl := Option.some.inj (htarget.symm.trans h.target)
                exact hroom h.room

/-- The loop follows the rules. -/
theorem shifting_shifted (q : LinkQueue α) (now : Nat) :
    Shifting now q.trunk q.lanes (q.shifted now) := by
  unfold shifted
  split
  · rename_i hempty
    have hlanes : q.lanes = [] := List.isEmpty_iff.1 hempty
    refine .stop fun v l h => ?_
    have htarget := h.target
    simp [hlanes] at htarget
  · exact shifting_shift now _ _ _ rfl

/-- Only the loop follows the rules. -/
theorem Shifting.eq_shifted {q : LinkQueue α} {now : Nat} {s : Shift α}
    (h : Shifting now q.trunk q.lanes s) : s = q.shifted now :=
  h.unique (shifting_shifted q now)

/-! ## The loop seen from one queue -/

/-- What the move of a vehicle into a lane means for the queue at a place. -/
def moveAct (now : Nat) (p : Place) (m : Vehicle α × Nat) : Option (Act α) :=
  match p with
  | .trunk => some .leave
  | .lane i => if i = m.2 then some (.enter m.1 now) else none

theorem Shifting.trunk_eq {now : Nat} {trunk : LaneQueue α}
    {lanes : List (LaneQueue α)} {s : Shift α}
    (h : Shifting now trunk lanes s) :
    s.trunk = trunk.perform (s.moves.filterMap (moveAct now .trunk)) := by
  induction h with
  | stop h => rfl
  | move h hs ih => simpa [moveAct, LaneQueue.act] using ih

theorem Shifting.leaving_trunk {now : Nat} {trunk : LaneQueue α}
    {lanes : List (LaneQueue α)} {s : Shift α}
    (h : Shifting now trunk lanes s) :
    trunk.leaving (s.moves.filterMap (moveAct now .trunk)) =
      s.moves.map (·.1) := by
  induction h with
  | stop h => rfl
  | move h hs ih =>
      obtain ⟨_, w, rest, hw, _, rfl⟩ := LaneQueue.due?_eq_some_iff.1 h.due
      simpa [moveAct, LaneQueue.act, LaneQueue.leaving, LaneQueue.leaving?,
        LaneQueue.vehicles, hw] using ih

theorem Shifting.length_lanes {now : Nat} {trunk : LaneQueue α}
    {lanes : List (LaneQueue α)} {s : Shift α}
    (h : Shifting now trunk lanes s) : s.lanes.length = lanes.length := by
  induction h with
  | stop h => rfl
  | move h hs ih => simpa using ih

/-- Vehicles move into lanes that are there. -/
theorem Shifting.lt_length {now : Nat} {trunk : LaneQueue α}
    {lanes : List (LaneQueue α)} {s : Shift α}
    (h : Shifting now trunk lanes s) {m : Vehicle α × Nat}
    (hm : m ∈ s.moves) : m.2 < lanes.length := by
  induction h with
  | stop h => simp at hm
  | move h hs ih =>
      rcases List.mem_cons.1 hm with rfl | hm
      · exact (List.getElem?_eq_some_iff.1 h.target).1
      · simpa using ih hm

theorem Shifting.lane_eq {now : Nat} {trunk : LaneQueue α}
    {lanes : List (LaneQueue α)} {s : Shift α}
    (h : Shifting now trunk lanes s) (i : Nat) :
    s.lanes[i]? = lanes[i]?.map
      (·.perform (s.moves.filterMap (moveAct now (.lane i)))) := by
  induction h with
  | stop h => simp
  | @move trunk lanes v l s h hs ih =>
      rw [ih]
      by_cases hi : choose lanes v = i
      · subst hi
        have hlt := (List.getElem?_eq_some_iff.1 h.target).1
        rw [List.getElem?_set_self hlt, h.target]
        simp [moveAct, LaneQueue.act]
      · simp [List.getElem?_set_ne hi, moveAct, Ne.symm hi]

end LaneFlow.LinkQueue
