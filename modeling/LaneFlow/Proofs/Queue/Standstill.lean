import LaneFlow.Proofs.Queue.Routing

/-!
# Moving up to a standstill

Vehicles move from the trunk into the lanes one by one, each at a moment at
which it may.  When the loop ends, nothing may move any more, for one of five
reasons (`Standstill`).  None of the reasons goes away if one looks at an
earlier second, so to move again at the same second or before changes nothing.

What the loop does to the link is told by `carry`: a vehicle leaves the trunk
and enters a lane.  All else on the link stays as it is: the trunk is a queue
from which vehicles have only left (`OnlyLeft`), and a lane is one into which
vehicles have only come (`OnlyEntered`).

No law of arithmetic is used, so all of this is true of floating point numbers.

## Main results

* `standstill_iff` — the five reasons are all there are.
* `Standstill.earlier`, `Standstill.move_eq` — at a standstill nothing happens,
  now or earlier.
* `Shifting.mayMove` — each move is one that may be made at its moment.
* `moves_up_to_standstill` — what a move does, why it ends, and what it leaves
  as it was.
-/

namespace LaneFlow

variable {α : Type}

/-! ## Queues in which only one thing happens -/

namespace LaneQueue

/-- From a queue some vehicles have left, and that is all. -/
structure OnlyLeft (q r : LaneQueue α) : Prop where
  segment : SameSegment q r
  waiting : r.waiting <:+ q.waiting
  time : r.flow.time = q.flow.time
  used : r.storage.used = q.storage.used
  consumed : r.storage.consumed = q.storage.consumed

/-- Into a queue some vehicles have come, and that is all. -/
structure OnlyEntered (q r : LaneQueue α) : Prop where
  segment : SameSegment q r
  waiting : q.waiting <+: r.waiting
  flow : r.flow = q.flow
  used : r.storage.used = q.storage.used
  released : r.storage.released = q.storage.released

theorem OnlyLeft.refl (q : LaneQueue α) : OnlyLeft q q :=
  ⟨.refl q, List.suffix_rfl, rfl, rfl, rfl⟩

theorem OnlyLeft.trans {q r s : LaneQueue α} (h : OnlyLeft q r)
    (h' : OnlyLeft r s) : OnlyLeft q s where
  segment := h.segment.trans h'.segment
  waiting := h'.waiting.trans h.waiting
  time := h'.time.trans h.time
  used := h'.used.trans h.used
  consumed := h'.consumed.trans h.consumed

theorem OnlyEntered.refl (q : LaneQueue α) : OnlyEntered q q :=
  ⟨.refl q, List.prefix_rfl, rfl, rfl, rfl⟩

theorem OnlyEntered.trans {q r s : LaneQueue α} (h : OnlyEntered q r)
    (h' : OnlyEntered r s) : OnlyEntered q s where
  segment := h.segment.trans h'.segment
  waiting := h.waiting.trans h'.waiting
  flow := h'.flow.trans h.flow
  used := h'.used.trans h.used
  released := h'.released.trans h.released

variable [Quantity α]

theorem onlyLeft_leave (q : LaneQueue α) : OnlyLeft q q.leave := by
  cases h : q.waiting with
  | nil =>
      rw [leave_of_empty h]
      exact .refl q
  | cons w rest =>
      have hsegment := sameSegment_leave q
      rw [leave_of_waiting h] at hsegment ⊢
      exact ⟨hsegment, h ▸ List.suffix_cons w rest, rfl, rfl, rfl⟩

theorem onlyEntered_push (q : LaneQueue α) (v : Vehicle α) (now : Nat) :
    OnlyEntered q (q.push v now) :=
  ⟨sameSegment_act q (.enter v now), List.prefix_append _ _, rfl, rfl, rfl⟩

theorem due?_eq_some_iff_head? {q : LaneQueue α} {now : Nat} {v : Vehicle α} :
    q.due? now = some v ↔ q.flow.isOpen = true ∧
      ∃ w, q.waiting.head? = some w ∧ w.exit ≤ now ∧ w.vehicle = v := by
  rw [due?_eq_some_iff]
  cases q.waiting <;> simp

end LaneQueue

namespace LinkQueue

open LaneQueue (OnlyLeft OnlyEntered)

variable [Quantity α]

/-! ## Why nothing moves -/

/-- Nothing may move on a link: it is not split, nobody is on its trunk, the
flow of the trunk is used up, the first vehicle is not due, or the lane that it
chooses is full. -/
inductive Standstill (now : Nat) (q : LinkQueue α) : Prop
  | unsplit (h : q.lanes = [])
  | empty (h : q.trunk.waiting = [])
  | usedUp (h : q.trunk.flow.isOpen = false)
  | early {w : Waiting α} (hw : q.trunk.waiting.head? = some w)
      (h : now < w.exit)
  | full {w : Waiting α} {l : LaneQueue α}
      (hw : q.trunk.waiting.head? = some w)
      (hl : q.lanes[choose q.lanes w.vehicle]? = some l)
      (h : l.hasRoom = false)

/-- A vehicle may move into the lane at some place: it is the first on the
trunk and due, the flow of the trunk lets it through, and it chooses this lane,
which has room. -/
structure MayMove (now : Nat) (q : LinkQueue α) (m : Vehicle α × Nat) :
    Prop where
  flow : q.trunk.flow.isOpen = true
  due : ∃ w, q.trunk.waiting.head? = some w ∧ w.exit ≤ now ∧ w.vehicle = m.1
  chosen : choose q.lanes m.1 = m.2
  room : ∃ l, q.lanes[m.2]? = some l ∧ l.hasRoom = true

theorem mayMove_iff {now : Nat} {q : LinkQueue α} {m : Vehicle α × Nat} :
    MayMove now q m ↔
      choose q.lanes m.1 = m.2 ∧ ∃ l, Passes now q.trunk q.lanes m.1 l := by
  constructor
  · rintro ⟨hflow, hdue, hchosen, l, hl, hroom⟩
    exact ⟨hchosen, l, LaneQueue.due?_eq_some_iff_head?.2 ⟨hflow, hdue⟩, hchosen ▸ hl, hroom⟩
  · rintro ⟨hchosen, l, hdue, hl, hroom⟩
    obtain ⟨hflow, hfirst⟩ := LaneQueue.due?_eq_some_iff_head?.1 hdue
    exact ⟨hflow, hfirst, hchosen, l, hchosen ▸ hl, hroom⟩

/-- The lane that a vehicle chooses is there. -/
theorem choose_lt_length {lanes : List (LaneQueue α)} (v : Vehicle α)
    (h : lanes ≠ []) : choose lanes v < lanes.length := by
  have hmem := choose_mem_candidates v h
  unfold candidates at hmem
  split at hmem
  · exact List.mem_range.1 hmem
  · obtain ⟨_, l, _, hl, _⟩ := mem_serving_iff.1 hmem
    exact (List.getElem?_eq_some_iff.1 hl).1

/-- The five reasons are all there are. -/
theorem standstill_iff {now : Nat} {q : LinkQueue α} :
    Standstill now q ↔ ∀ v l, ¬ Passes now q.trunk q.lanes v l := by
  constructor
  · intro h v l hpass
    obtain ⟨hflow, w, hw, hexit, rfl⟩ := LaneQueue.due?_eq_some_iff_head?.1 hpass.due
    have htarget := hpass.target
    cases h with
    | unsplit h => simp [h] at htarget
    | empty h => simp [h] at hw
    | usedUp h => exact absurd (hflow.symm.trans h) nofun
    | early hu h =>
        obtain rfl := Option.some.inj (hw.symm.trans hu)
        exact Nat.not_lt.2 hexit h
    | full hu hl h =>
        obtain rfl := Option.some.inj (hw.symm.trans hu)
        obtain rfl := Option.some.inj (htarget.symm.trans hl)
        exact absurd (hpass.room.symm.trans h) nofun
  · intro h
    by_cases hlanes : q.lanes = []
    · exact .unsplit hlanes
    cases hw : q.trunk.waiting.head? with
    | none => exact .empty (List.head?_eq_none_iff.1 hw)
    | some w =>
        cases hflow : q.trunk.flow.isOpen with
        | false => exact .usedUp hflow
        | true =>
            by_cases hexit : w.exit ≤ now
            · have hlt := choose_lt_length w.vehicle hlanes
              have hl := List.getElem?_eq_getElem hlt
              refine .full hw hl (Bool.eq_false_iff.2 fun hroom => ?_)
              have hdue := LaneQueue.due?_eq_some_iff_head?.2 ⟨hflow, w, hw, hexit, rfl⟩
              exact h w.vehicle _ ⟨hdue, hl, hroom⟩
            · exact .early hw (Nat.not_le.1 hexit)

/-- What may not move now might not have moved before. -/
theorem Standstill.earlier {now before : Nat} {q : LinkQueue α}
    (h : Standstill now q) (hle : before ≤ now) : Standstill before q := by
  cases h with
  | unsplit h => exact .unsplit h
  | empty h => exact .empty h
  | usedUp h => exact .usedUp h
  | early hw h => exact .early hw (Nat.lt_of_le_of_lt hle h)
  | full hw hl h => exact .full hw hl h

theorem Standstill.shifted_eq {now : Nat} {q : LinkQueue α}
    (h : Standstill now q) :
    q.shifted now = { trunk := q.trunk, lanes := q.lanes } :=
  (Shifting.eq_shifted (.stop (standstill_iff.1 h))).symm

/-- At a standstill a move does nothing. -/
theorem Standstill.move_eq {now : Nat} {q : LinkQueue α}
    (h : Standstill now q) : q.move now = q := by
  rw [move, h.shifted_eq]

theorem Standstill.moves_eq {now : Nat} {q : LinkQueue α}
    (h : Standstill now q) : q.moves now = [] := by
  rw [moves, h.shifted_eq]

/-! ## The loop -/

/-- A vehicle leaves the trunk and enters the lane at some place. -/
def carry (now : Nat) (q : LinkQueue α) (m : Vehicle α × Nat) : LinkQueue α :=
  { q with
    trunk := q.trunk.leave
    lanes := q.lanes.modify m.2 (·.push m.1 now) }

/-- Several vehicles leave the trunk and enter lanes, one after the other. -/
def carryAll (now : Nat) (q : LinkQueue α) (ms : List (Vehicle α × Nat)) :
    LinkQueue α := ms.foldl (carry now) q

/-- A move that passes is the carriage of one vehicle. -/
theorem Passes.carry_eq {now : Nat} {q : LinkQueue α} {v : Vehicle α}
    {l : LaneQueue α} (h : Passes now q.trunk q.lanes v l) :
    carry now q (v, choose q.lanes v) =
      { q with
        trunk := q.trunk.leave
        lanes := q.lanes.set (choose q.lanes v) (l.push v now) } := by
  have hlt := (List.getElem?_eq_some_iff.1 h.target).1
  have hset : q.lanes.modify (choose q.lanes v) (·.push v now) =
      q.lanes.set (choose q.lanes v) (l.push v now) := by
    apply List.ext_getElem?
    intro i
    by_cases hi : choose q.lanes v = i
    · subst hi
      rw [List.getElem?_set_self hlt, List.getElem?_modify, h.target]
      simp
    · simp [hi]
  rw [carry, hset]

variable {now : Nat} {trunk : LaneQueue α} {lanes : List (LaneQueue α)}
  {s : Shift α}

/-- The loop carries the vehicles that move, one after the other. -/
theorem Shifting.carryAll_eq (h : Shifting now trunk lanes s) (id : Id .link) :
    carryAll now ⟨id, trunk, lanes⟩ s.moves = ⟨id, s.trunk, s.lanes⟩ := by
  induction h with
  | stop h => rfl
  | @move trunk lanes v l s h hs ih =>
      have hcarry := Passes.carry_eq (q := ⟨id, trunk, lanes⟩) h
      rw [carryAll, List.foldl_cons, hcarry]
      exact ih

/-- Each move is one that may be made at its moment. -/
theorem Shifting.mayMove (h : Shifting now trunk lanes s) (id : Id .link)
    {before after : List (Vehicle α × Nat)} {m : Vehicle α × Nat}
    (hm : s.moves = before ++ m :: after) :
    MayMove now (carryAll now ⟨id, trunk, lanes⟩ before) m := by
  induction h generalizing before with
  | stop h => simp at hm
  | @move trunk lanes v l s h hs ih =>
      cases before with
      | nil =>
          obtain ⟨rfl, -⟩ := List.cons.inj hm
          exact mayMove_iff.2 ⟨rfl, l, h⟩
      | cons first before =>
          obtain ⟨rfl, hrest⟩ := List.cons.inj hm
          have hcarry := Passes.carry_eq (q := ⟨id, trunk, lanes⟩) h
          rw [carryAll, List.foldl_cons, hcarry]
          exact ih hrest

/-- The vehicles that move are the first ones of the trunk. -/
theorem Shifting.take_drop (h : Shifting now trunk lanes s) :
    s.moves.map (·.1) =
        (trunk.waiting.take s.moves.length).map (·.vehicle) ∧
      s.trunk.waiting = trunk.waiting.drop s.moves.length := by
  induction h with
  | stop h => simp
  | move h hs ih =>
      obtain ⟨_, w, rest, hw, _, rfl⟩ := LaneQueue.due?_eq_some_iff.1 h.due
      rw [LaneQueue.waiting_leave, hw, List.tail_cons] at ih
      simpa [hw] using ih

/-- When the loop ends, nothing may move. -/
theorem Shifting.standstill (h : Shifting now trunk lanes s) (id : Id .link) :
    Standstill now ⟨id, s.trunk, s.lanes⟩ := by
  induction h with
  | stop h => exact standstill_iff.2 h
  | move h hs ih => exact ih

theorem Shifting.onlyLeft (h : Shifting now trunk lanes s) :
    OnlyLeft trunk s.trunk := by
  induction h with
  | stop h => exact .refl _
  | move h hs ih => exact (LaneQueue.onlyLeft_leave _).trans ih

theorem Shifting.onlyEntered (h : Shifting now trunk lanes s) {i : Nat}
    {l : LaneQueue α} (hl : lanes[i]? = some l) :
    ∃ r, s.lanes[i]? = some r ∧ OnlyEntered l r := by
  induction h generalizing l with
  | stop h => exact ⟨l, hl, .refl l⟩
  | @move trunk lanes v k s h hs ih =>
      by_cases hi : choose lanes v = i
      · subst hi
        obtain rfl := Option.some.inj (hl.symm.trans h.target)
        have hlt := (List.getElem?_eq_some_iff.1 hl).1
        obtain ⟨r, hr, hentered⟩ := ih (List.getElem?_set_self hlt)
        exact ⟨r, hr, (LaneQueue.onlyEntered_push l v now).trans hentered⟩
      · exact ih ((List.getElem?_set_ne hi).trans hl)

/-! ## A move -/

/-- **Vehicles move as long as they may, and then nothing moves.**  The moved
vehicles are the first ones of the trunk, and the others stay with their times.
Each was moved at a moment at which it might: it was due, the flow of the trunk
was not used up, and the lane that it chose had room.  In the end the link is at
a standstill, so that to move again, at the same second or before, does nothing.
Vehicles have only left the trunk and only come into the lanes. -/
theorem moves_up_to_standstill (q : LinkQueue α) (now : Nat) :
    (q.moves now).map (·.1) =
      (q.trunk.waiting.take (q.moves now).length).map (·.vehicle) ∧
    (q.move now).trunk.waiting = q.trunk.waiting.drop (q.moves now).length ∧
    q.move now = carryAll now q (q.moves now) ∧
    (∀ before m after, q.moves now = before ++ m :: after →
      MayMove now (carryAll now q before) m) ∧
    Standstill now (q.move now) ∧
    (∀ earlier ≤ now, (q.move now).moves earlier = [] ∧
      (q.move now).move earlier = q.move now) ∧
    OnlyLeft q.trunk (q.move now).trunk ∧
    (q.move now).lanes.length = q.lanes.length ∧
    ∀ (i : Nat) (l : LaneQueue α), q.lanes[i]? = some l →
      ∃ r, (q.move now).lanes[i]? = some r ∧ OnlyEntered l r := by
  have hloop := shifting_shifted q now
  have hstill : Standstill now (q.move now) := hloop.standstill q.id
  refine ⟨hloop.take_drop.1, hloop.take_drop.2, (hloop.carryAll_eq q.id).symm,
    fun before m after hm => hloop.mayMove q.id hm, hstill,
    fun earlier hle => ?_, hloop.onlyLeft, hloop.length_lanes,
    fun i l hl => hloop.onlyEntered hl⟩
  have hbefore := hstill.earlier hle
  exact ⟨hbefore.moves_eq, hbefore.move_eq⟩

/-! ## Three small vehicles -/

/-- A vehicle of which two pass in a second. -/
def smallVehicle (n : Nat) : Vehicle Rat := { forkVehicle n with size := 1 / 2 }

/-- Three small vehicles at the end of the trunk. -/
def smallQueue : LinkQueue Rat :=
  forkQueue.run [.push (smallVehicle 1) 0, .push (smallVehicle 2) 0,
    .push (smallVehicle 3) 0, .refill 2]

/-- The first vehicle takes the left lane, the second the right one, which is
then the emptier one, and the third waits, since the flow of the trunk is used
up. -/
theorem moves_up_to_standstill_small :
    (smallQueue.moves 2).map (·.1) = [smallVehicle 1, smallVehicle 2] ∧
    MayMove 2 (carryAll 2 smallQueue [(smallVehicle 1, 0)])
      (smallVehicle 2, 1) ∧
    Standstill 2 (smallQueue.move 2) ∧
    (smallQueue.move 2).move 1 = smallQueue.move 2 ∧
    ∃ l r, smallQueue.lanes[0]? = some l ∧
      (smallQueue.move 2).lanes[0]? = some r ∧ OnlyEntered l r := by
  have hmoves : smallQueue.moves 2 =
      [(smallVehicle 1, 0)] ++ (smallVehicle 2, 1) :: [] := by
    decide +kernel
  have hlane : smallQueue.lanes[0]? = some (forkQueue.refill 2).lanes[0] := by
    decide +kernel
  obtain ⟨-, -, -, hmay, hstill, hearlier, -, -, hentered⟩ :=
    moves_up_to_standstill smallQueue 2
  obtain ⟨r, hr, honly⟩ := hentered 0 _ hlane
  exact ⟨by rw [hmoves]; rfl, hmay _ _ _ hmoves, hstill,
    (hearlier 1 (by decide)).2, _, r, hlane, hr, honly⟩

end LinkQueue

end LaneFlow
