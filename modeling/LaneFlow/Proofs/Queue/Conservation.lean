import LaneFlow.Proofs.Queue.Creation
import Mathlib.Data.List.Nodup
import Mathlib.Data.List.Perm.Basic

/-!
# No vehicle is lost

Every queue is first in, first out, so at each place the vehicles brought
there are, in order, those taken away followed by those that are still there.
Adding this up over all places of a link, the moves inside the link cancel:
what was let into the link is what has left it and what is on it.

## Main results

* `broughtTo_eq` — the balance of one place.
* `perm_left_append_vehicles` — the balance of the link.
* `vehicles_conserved` — both, for every run of a new link.
-/

namespace LaneFlow

open scoped List

variable {α : Type}

/-! ## Reading a history -/

/-- The vehicle that an event lets into the link. -/
def Event.entered? : Event α → Option (Vehicle α)
  | .entered v => some v
  | _ => none

/-- The vehicle that an event moves, with the lane it moves into. -/
def Event.moved? : Event α → Option (Vehicle α × Nat)
  | .moved v lane => some (v, lane)
  | _ => none

/-- The vehicle that an event lets out of the link, with the place it leaves. -/
def Event.left? : Event α → Option (Vehicle α × Place)
  | .left v place => some (v, place)
  | _ => none

/-- The vehicle that an event brings to some queue, with its place. -/
def Event.brought? : Event α → Option (Vehicle α × Place)
  | .entered v => some (v, .trunk)
  | .moved v lane => some (v, .lane lane)
  | _ => none

/-- The vehicle that an event takes from some queue, with its place. -/
def Event.taken? : Event α → Option (Vehicle α × Place)
  | .moved v _ => some (v, .trunk)
  | .left v place => some (v, place)
  | _ => none

namespace History

/-- The vehicles that were let into the link. -/
def entered (h : History α) : List (Vehicle α) := h.filterMap Event.entered?

/-- The vehicles that moved from the trunk into a lane, each with its lane. -/
def moved (h : History α) : List (Vehicle α × Nat) := h.filterMap Event.moved?

/-- The vehicles that left the link, each with the place it left. -/
def left (h : History α) : List (Vehicle α × Place) := h.filterMap Event.left?

private theorem filterMap_cons_toList {β γ : Type} (f : β → Option γ) (x : β)
    (xs : List β) : (x :: xs).filterMap f = (f x).toList ++ xs.filterMap f := by
  cases h : f x <;> simp [h]

theorem broughtTo_cons (p : Place) (e : Event α) (h : History α) :
    broughtTo p (e :: h) = (e.broughtTo p).toList ++ h.broughtTo p :=
  filterMap_cons_toList ..

theorem takenFrom_cons (p : Place) (e : Event α) (h : History α) :
    takenFrom p (e :: h) = (e.takenFrom p).toList ++ h.takenFrom p :=
  filterMap_cons_toList ..

@[simp] theorem entered_cons (e : Event α) (h : History α) :
    entered (e :: h) = e.entered?.toList ++ h.entered :=
  filterMap_cons_toList ..

@[simp] theorem moved_cons (e : Event α) (h : History α) :
    moved (e :: h) = e.moved?.toList ++ h.moved :=
  filterMap_cons_toList ..

@[simp] theorem left_cons (e : Event α) (h : History α) :
    left (e :: h) = e.left?.toList ++ h.left :=
  filterMap_cons_toList ..

/-- The vehicles brought to a lane are those that moved into it. -/
theorem broughtTo_lane (h : History α) (i : Nat) :
    h.broughtTo (.lane i) = (h.moved.filter (·.2 = i)).map (·.1) := by
  induction h with
  | nil => rfl
  | cons e h ih =>
      cases e with
      | moved v lane =>
          by_cases hi : lane = i
          · subst hi
            simp [broughtTo_cons, Event.broughtTo, Event.moved?, ih]
          · simp [broughtTo_cons, Event.broughtTo, Event.moved?, ih, hi,
              Ne.symm hi]
      | _ => simp [broughtTo_cons, Event.broughtTo, Event.moved?, ih]

/-- What moved into a lane kept the order of the moves. -/
theorem broughtTo_lane_sublist (h : History α) (i : Nat) :
    (h.broughtTo (.lane i)).Sublist (h.moved.map (·.1)) := by
  rw [broughtTo_lane]
  exact List.filter_sublist.map _

/-- Vehicles are brought to the trunk when they enter, and only then. -/
theorem broughtTo_trunk (h : History α) : h.broughtTo .trunk = h.entered := by
  induction h with
  | nil => rfl
  | cons e h ih =>
      cases e <;> simp [broughtTo_cons, Event.broughtTo, Event.entered?, ih]

/-- What moves is taken from the trunk. -/
theorem moved_sublist (h : History α) :
    (h.moved.map (·.1)).Sublist (h.takenFrom .trunk) := by
  induction h with
  | nil => exact .slnil
  | cons e h ih =>
      cases e with
      | moved v lane =>
          simpa [takenFrom_cons, Event.moved?, Event.takenFrom] using ih
      | left v place =>
          simpa [takenFrom_cons, Event.moved?] using
            ih.trans (List.sublist_append_right ..)
      | _ => simpa [takenFrom_cons, Event.moved?, Event.takenFrom] using ih

/-- Place by place, the vehicles brought to some queue are those that entered
and those that moved. -/
theorem brought_perm (h : History α) :
    ((h.filterMap Event.brought?).map (·.1)).Perm
      (h.moved.map (·.1) ++ h.entered) := by
  induction h with
  | nil => exact .nil
  | cons e h ih =>
      cases e with
      | entered v =>
          have hcons := (ih.cons v).trans List.perm_middle.symm
          simpa [filterMap_cons_toList, Event.brought?, Event.moved?,
            Event.entered?] using hcons
      | _ =>
          simpa [filterMap_cons_toList, Event.brought?, Event.moved?,
            Event.entered?] using ih

/-- Place by place, the vehicles taken from some queue are those that moved
and those that left. -/
theorem taken_perm (h : History α) :
    ((h.filterMap Event.taken?).map (·.1)).Perm
      (h.moved.map (·.1) ++ h.left.map (·.1)) := by
  induction h with
  | nil => exact .nil
  | cons e h ih =>
      cases e with
      | left v place =>
          have hcons := (ih.cons v).trans List.perm_middle.symm
          simpa [filterMap_cons_toList, Event.taken?, Event.moved?,
            Event.left?] using hcons
      | _ =>
          simpa [filterMap_cons_toList, Event.taken?, Event.moved?,
            Event.left?] using ih

theorem broughtTo_eq_filter (h : History α) (p : Place) :
    h.broughtTo p =
      ((h.filterMap Event.brought?).filter (·.2 = p)).map (·.1) := by
  induction h with
  | nil => rfl
  | cons e h ih =>
      rw [broughtTo_cons, filterMap_cons_toList, ih]
      cases e with
      | entered v =>
          by_cases hp : p = .trunk
          · subst hp
            simp [Event.broughtTo, Event.brought?]
          · simp [Event.broughtTo, Event.brought?, hp, Ne.symm hp]
      | moved v lane =>
          by_cases hp : p = .lane lane
          · subst hp
            simp [Event.broughtTo, Event.brought?]
          · simp [Event.broughtTo, Event.brought?, hp, Ne.symm hp]
      | _ => simp [Event.broughtTo, Event.brought?]

theorem takenFrom_eq_filter (h : History α) (p : Place) :
    h.takenFrom p =
      ((h.filterMap Event.taken?).filter (·.2 = p)).map (·.1) := by
  induction h with
  | nil => rfl
  | cons e h ih =>
      rw [takenFrom_cons, filterMap_cons_toList, ih]
      cases e with
      | moved v lane =>
          by_cases hp : p = .trunk
          · subst hp
            simp [Event.takenFrom, Event.taken?]
          · simp [Event.takenFrom, Event.taken?, hp, Ne.symm hp]
      | left v place =>
          by_cases hp : p = place
          · subst hp
            simp [Event.takenFrom, Event.taken?]
          · simp [Event.takenFrom, Event.taken?, hp, Ne.symm hp]
      | _ => simp [Event.takenFrom, Event.taken?]

end History

/-- Things that each belong to one of several places are, place by place,
all of them. -/
theorem perm_flatMap_filter {β κ : Type} [DecidableEq κ] {keys : List κ}
    (hkeys : keys.Nodup) (xs : List (β × κ)) (hxs : ∀ x ∈ xs, x.2 ∈ keys) :
    xs.Perm (keys.flatMap fun k => xs.filter (·.2 = k)) := by
  induction keys generalizing xs with
  | nil =>
      have hnil : xs = [] := List.eq_nil_iff_forall_not_mem.2 fun x hx => by
        simpa using hxs x hx
      simp [hnil]
  | cons k keys ih =>
      obtain ⟨hk, hkeys⟩ := List.nodup_cons.1 hkeys
      -- what does not belong to `k` belongs to one of the other places
      have hrest := ih hkeys (xs.filter fun x => !decide (x.2 = k)) (by
        intro x hx
        obtain ⟨hx, hne⟩ := List.mem_filter.1 hx
        exact (List.mem_cons.1 (hxs x hx)).resolve_left (by simpa using hne))
      have hsame : (keys.flatMap fun k' =>
          (xs.filter fun x => !decide (x.2 = k)).filter (·.2 = k')) =
            keys.flatMap fun k' => xs.filter (·.2 = k') := by
        refine List.flatMap_congr fun k' hk' => ?_
        rw [List.filter_filter]
        refine List.filter_congr fun x _ => ?_
        have hne : k' ≠ k := fun h => hk (h ▸ hk')
        by_cases hx : x.2 = k' <;> simp [hx, hne]
      rw [hsame] at hrest
      rw [List.flatMap_cons]
      exact (List.filter_append_perm _ xs).symm.trans (hrest.append_left _)

namespace History

/-- Over all places, the vehicles brought are those that moved and those that
entered. -/
theorem flatMap_broughtTo_perm {ps : List Place} (hps : ps.Nodup)
    (h : History α)
    (hmem : ∀ e ∈ h, ∀ v p, e.brought? = some (v, p) → p ∈ ps) :
    (ps.flatMap h.broughtTo).Perm (h.moved.map (·.1) ++ h.entered) := by
  have hparts := perm_flatMap_filter hps (h.filterMap Event.brought?) (by
    intro x hx
    obtain ⟨e, he, hex⟩ := List.mem_filterMap.1 hx
    exact hmem e he x.1 x.2 hex)
  have hfirst := (hparts.map (·.1)).symm.trans h.brought_perm
  rw [List.map_flatMap] at hfirst
  simpa only [broughtTo_eq_filter] using hfirst

/-- Over all places, the vehicles taken are those that moved and those that
left. -/
theorem flatMap_takenFrom_perm {ps : List Place} (hps : ps.Nodup)
    (h : History α)
    (hmem : ∀ e ∈ h, ∀ v p, e.taken? = some (v, p) → p ∈ ps) :
    (ps.flatMap h.takenFrom).Perm
      (h.moved.map (·.1) ++ h.left.map (·.1)) := by
  have hparts := perm_flatMap_filter hps (h.filterMap Event.taken?) (by
    intro x hx
    obtain ⟨e, he, hex⟩ := List.mem_filterMap.1 hx
    exact hmem e he x.1 x.2 hex)
  have hfirst := (hparts.map (·.1)).symm.trans h.taken_perm
  rw [List.map_flatMap] at hfirst
  simpa only [takenFrom_eq_filter] using hfirst

end History

namespace LinkQueue

/-- The vehicles that operations let into the link. -/
def pushed (ops : List (Op α)) : List (Vehicle α) :=
  ops.filterMap fun
    | .push v _ => some v
    | _ => none

theorem mem_pushed_append {ops : List (Op α)} {v : Vehicle α}
    (hv : v ∈ pushed ops) (more : List (Op α)) : v ∈ pushed (ops ++ more) := by
  have happend : pushed (ops ++ more) = pushed ops ++ pushed more :=
    List.filterMap_append
  rw [happend]
  exact List.mem_append_left _ hv

/-- The places of a link. -/
def places (q : LinkQueue α) : List Place :=
  .trunk :: (List.range q.lanes.length).map .lane

/-- The vehicles at a place; none where there is no queue. -/
def vehiclesAt (q : LinkQueue α) (p : Place) : List (Vehicle α) :=
  ((q.at? p).map (·.vehicles)).getD []

/-- The vehicles on the link, queue by queue. -/
def vehicles (q : LinkQueue α) : List (Vehicle α) :=
  q.trunk.vehicles ++ q.lanes.flatMap (·.vehicles)

theorem nodup_places (q : LinkQueue α) : q.places.Nodup := by
  have hlanes : ((List.range q.lanes.length).map Place.lane).Nodup :=
    List.Nodup.map (fun _ _ h => Place.lane.inj h) List.nodup_range
  exact List.nodup_cons.2 ⟨by simp, hlanes⟩

theorem mem_places_of_at? {q : LinkQueue α} {p : Place} {l : LaneQueue α}
    (h : q.at? p = some l) : p ∈ q.places := by
  cases p with
  | trunk => exact List.mem_cons_self
  | lane i =>
      have hlt := (List.getElem?_eq_some_iff.1 h).1
      simp [places, hlt]

theorem vehicles_eq_flatMap (q : LinkQueue α) :
    q.vehicles = q.places.flatMap q.vehiclesAt := by
  have hlanes : ∀ lanes : List (LaneQueue α), lanes.flatMap (·.vehicles) =
      (List.range lanes.length).flatMap fun i =>
        (lanes[i]?.map (·.vehicles)).getD [] := by
    intro lanes
    induction lanes with
    | nil => rfl
    | cons l lanes ih =>
        simp [List.range_succ_eq_map, List.flatMap_map, ih]
  simp [vehicles, places, List.flatMap_map, vehiclesAt, at?, hlanes q.lanes]

theorem count_eq_length (q : LinkQueue α) : q.count = q.vehicles.length := by
  have hfrom : ∀ (ls : List (LaneQueue α)) (n : Nat),
      ls.foldl (fun n l => n + l.count) n =
        n + (ls.flatMap (·.vehicles)).length := by
    intro ls
    induction ls with
    | nil => simp
    | cons l ls ih =>
        intro n
        have hl : l.count = l.vehicles.length := by
          simp [LaneQueue.count, LaneQueue.vehicles]
        rw [List.foldl_cons, ih, List.flatMap_cons, List.length_append, hl,
          Nat.add_assoc]
  rw [count, hfrom, vehicles, List.length_append]
  simp [LaneQueue.count, LaneQueue.vehicles]

variable [Quantity α]

/-! ## The balance of one place -/

/-- At each place the vehicles that were there and that were brought there
are, in order, those that were taken away and those that are still there. -/
theorem vehiclesAt_append_broughtTo (q : LinkQueue α) (ops : List (Op α))
    (p : Place) (hp : p ∈ q.places) :
    q.vehiclesAt p ++ (q.history ops).broughtTo p =
      (q.history ops).takenFrom p ++ (q.run ops).vehiclesAt p := by
  obtain ⟨l, hl⟩ : ∃ l, q.at? p = some l := by
    cases p with
    | trunk => exact ⟨q.trunk, rfl⟩
    | lane i =>
        have hlt : i < q.lanes.length := by simpa [places] using hp
        exact ⟨q.lanes[i], List.getElem?_eq_getElem hlt⟩
  have hperform := LaneQueue.vehicles_perform l (q.diary p ops)
  rw [entering_diary, leaving_diary hl] at hperform
  simpa [vehiclesAt, at?_run, hl] using hperform

theorem entered_history (q : LinkQueue α) (ops : List (Op α)) :
    (q.history ops).entered = pushed ops := by
  induction ops generalizing q with
  | nil => rfl
  | cons op ops ih =>
      have happend : (q.history (op :: ops)).entered =
          History.entered (q.events op) ++ pushed ops := by
        rw [history, ← ih (q.step op)]
        exact List.filterMap_append
      rw [happend]
      cases op with
      | push v now => rfl
      | pop p =>
          cases hpop : (q.pop p).1 <;>
            simp [events, hpop, History.entered, Event.entered?, pushed]
      | refill now => rfl
      | settle => rfl
      | move now => simp [events, History.entered, Event.entered?, pushed]

/-! ## The balance of the link -/

/-- Whatever happens, happens at a place of the link. -/
private theorem mem_places_of_mem_events (q : LinkQueue α) (op : Op α)
    {e : Event α} (he : e ∈ q.events op) {v : Vehicle α} {p : Place}
    (hp : e.brought? = some (v, p) ∨ e.taken? = some (v, p)) :
    p ∈ q.places := by
  cases op with
  | push u now =>
      obtain rfl := List.mem_singleton.1 he
      rcases hp with hp | hp <;> simp_all [Event.brought?, Event.taken?, places]
  | pop place =>
      simp only [events, Option.mem_toList, Option.map_eq_some_iff] at he
      obtain ⟨u, hu, rfl⟩ := he
      rw [pop_fst] at hu
      obtain ⟨l, hl, _⟩ := Option.bind_eq_some_iff.1 hu
      rcases hp with hp | hp
      · simp [Event.brought?] at hp
      · obtain ⟨_, rfl⟩ : u = v ∧ place = p := by
          simpa [Event.taken?] using hp
        exact mem_places_of_at? hl
  | refill now => simp [events] at he
  | settle =>
      obtain rfl := List.mem_singleton.1 he
      rcases hp with hp | hp <;> simp [Event.brought?, Event.taken?] at hp
  | move now =>
      obtain ⟨m, hm, rfl⟩ := List.mem_map.1 he
      have hlt := (shifting_shifted q now).lt_length hm
      rcases hp with hp | hp
      · obtain ⟨rfl, rfl⟩ : m.1 = v ∧ .lane m.2 = p := by
          simpa [Event.brought?] using hp
        simp [places, hlt]
      · obtain ⟨rfl, rfl⟩ : m.1 = v ∧ .trunk = p := by
          simpa [Event.taken?] using hp
        simp [places]

@[simp] theorem places_run (q : LinkQueue α) (ops : List (Op α)) :
    (q.run ops).places = q.places := by
  simp [places]

private theorem mem_places_of_mem_history (q : LinkQueue α)
    (ops : List (Op α)) {e : Event α} (he : e ∈ q.history ops)
    {v : Vehicle α} {p : Place}
    (hp : e.brought? = some (v, p) ∨ e.taken? = some (v, p)) :
    p ∈ q.places := by
  induction ops generalizing q with
  | nil => simp [history] at he
  | cons op ops ih =>
      rcases List.mem_append.1 he with he | he
      · exact mem_places_of_mem_events q op he hp
      · have hmem := ih (q.step op) he
        simpa [places] using hmem

/-- Vehicles move into lanes that are there. -/
theorem moved_lt_length (q : LinkQueue α) (ops : List (Op α))
    {m : Vehicle α × Nat} (hm : m ∈ (q.history ops).moved) :
    m.2 < q.lanes.length := by
  obtain ⟨e, he, hem⟩ := List.mem_filterMap.1 hm
  have hbrought : e.brought? = some (m.1, .lane m.2) := by
    cases e with
    | moved v lane => cases hem; rfl
    | _ => simp [Event.moved?] at hem
  have hmem := mem_places_of_mem_history q ops he (.inl hbrought)
  simpa [places] using hmem

/-- Nothing is taken from where there is no queue. -/
theorem takenFrom_eq_nil (q : LinkQueue α) (ops : List (Op α)) {p : Place}
    (hp : p ∉ q.places) : (q.history ops).takenFrom p = [] := by
  rw [History.takenFrom_eq_filter, List.map_eq_nil_iff,
    List.filter_eq_nil_iff]
  intro x hx hxp
  obtain ⟨e, he, hex⟩ := List.mem_filterMap.1 hx
  obtain rfl : x.2 = p := of_decide_eq_true hxp
  exact hp (mem_places_of_mem_history q ops he (.inr hex))

/-- What was on the link and what was let in is what has left and what is
there now. -/
theorem perm_left_append_vehicles (q : LinkQueue α) (ops : List (Op α)) :
    (q.vehicles ++ pushed ops).Perm
      ((q.history ops).left.map (·.1) ++ (q.run ops).vehicles) := by
  have hbrought := History.flatMap_broughtTo_perm q.nodup_places
    (q.history ops)
    (fun e he v p hp => mem_places_of_mem_history q ops he (.inl hp))
  have htaken := History.flatMap_takenFrom_perm q.nodup_places (q.history ops)
    (fun e he v p hp => mem_places_of_mem_history q ops he (.inr hp))
  rw [entered_history] at hbrought
  have hplaces : (q.places.flatMap fun p =>
      q.vehiclesAt p ++ (q.history ops).broughtTo p) =
        q.places.flatMap fun p =>
          (q.history ops).takenFrom p ++ (q.run ops).vehiclesAt p :=
    List.flatMap_congr fun p hp => vehiclesAt_append_broughtTo q ops p hp
  have hafter : (q.places.flatMap fun p => (q.run ops).vehiclesAt p) =
      (q.run ops).vehicles := by
    rw [vehicles_eq_flatMap, places_run]
  -- the vehicles that moved were both brought and taken, and cancel
  refine (List.perm_append_left_iff ((q.history ops).moved.map (·.1))).1 ?_
  calc (q.history ops).moved.map (·.1) ++ (q.vehicles ++ pushed ops)
      ~ q.vehicles ++ ((q.history ops).moved.map (·.1) ++ pushed ops) :=
        List.perm_append_comm_assoc ..
    _ ~ q.vehicles ++ q.places.flatMap (q.history ops).broughtTo :=
        hbrought.symm.append_left _
    _ ~ q.places.flatMap fun p =>
          q.vehiclesAt p ++ (q.history ops).broughtTo p := by
        rw [vehicles_eq_flatMap]
        exact List.flatMap_append_perm ..
    _ = q.places.flatMap fun p =>
          (q.history ops).takenFrom p ++ (q.run ops).vehiclesAt p := hplaces
    _ ~ q.places.flatMap (q.history ops).takenFrom ++
          (q.run ops).vehicles := by
        rw [← hafter]
        exact (List.flatMap_append_perm ..).symm
    _ ~ (q.history ops).moved.map (·.1) ++
          ((q.history ops).left.map (·.1) ++ (q.run ops).vehicles) := by
        rw [← List.append_assoc]
        exact htaken.append_right _

/-! ## A new link -/

variable {s s' : IdStore} {link : Link α} {c : LinkCapacity α}
  {a : Option (LaneAssignment α)} {q : LinkQueue α}

/-- A new link is empty at every place. -/
theorem vehiclesAt_create (hq : create s link c a = .ok (q, s'))
    (p : Place) : q.vehiclesAt p = [] := by
  unfold vehiclesAt
  cases hl : q.at? p with
  | none => rfl
  | some l =>
      obtain ⟨seg, _, heq⟩ := at?_create hq hl
      rw [heq]
      rfl

theorem vehicles_create (hq : create s link c a = .ok (q, s')) :
    q.vehicles = [] := by
  rw [vehicles_eq_flatMap]
  exact List.flatMap_eq_nil_iff.2 fun p _ => vehiclesAt_create hq p

/-- The balance of one place of a link that was empty at first. -/
theorem broughtTo_eq (hq : create s link c a = .ok (q, s'))
    (ops : List (Op α)) {p : Place} {l : LaneQueue α}
    (hl : (q.run ops).at? p = some l) :
    (q.history ops).broughtTo p =
      (q.history ops).takenFrom p ++ l.vehicles := by
  have hp : p ∈ q.places := by
    have hmem := mem_places_of_at? hl
    rwa [places_run] at hmem
  have hbalance := vehiclesAt_append_broughtTo q ops p hp
  rw [vehiclesAt_create hq] at hbalance
  simpa [vehiclesAt, hl] using hbalance

/-- What was let into a link that was empty at first has left the trunk or
stands there. -/
theorem pushed_eq (hq : create s link c a = .ok (q, s'))
    (ops : List (Op α)) :
    pushed ops =
      (q.history ops).takenFrom .trunk ++ (q.run ops).trunk.vehicles := by
  rw [← entered_history q, ← History.broughtTo_trunk]
  exact broughtTo_eq hq ops (p := .trunk) rfl

/-- What moved kept the order in which it was let in. -/
theorem moved_sublist_pushed (hq : create s link c a = .ok (q, s'))
    (ops : List (Op α)) :
    ((q.history ops).moved.map (·.1)).Sublist (pushed ops) := by
  rw [pushed_eq hq ops]
  exact (History.moved_sublist _).trans (List.sublist_append_left ..)

/-- What was brought to a queue kept the order in which it was let in. -/
theorem broughtTo_sublist_pushed (hq : create s link c a = .ok (q, s'))
    (ops : List (Op α)) (p : Place) :
    ((q.history ops).broughtTo p).Sublist (pushed ops) := by
  cases p with
  | trunk =>
      rw [History.broughtTo_trunk, entered_history]
  | lane i =>
      exact (History.broughtTo_lane_sublist _ i).trans
        (moved_sublist_pushed hq ops)

/-- What stands in a queue was let in. -/
theorem mem_pushed_of_mem_vehicles (hq : create s link c a = .ok (q, s'))
    {ops : List (Op α)} {p : Place} {l : LaneQueue α}
    (hl : (q.run ops).at? p = some l) {v : Vehicle α} (hv : v ∈ l.vehicles) :
    v ∈ pushed ops := by
  refine (broughtTo_sublist_pushed hq ops p).subset ?_
  rw [broughtTo_eq hq ops hl]
  exact List.mem_append_right _ hv

/-- What left a lane kept the order in which it had moved into the lane. -/
theorem takenFrom_lane_sublist (hq : create s link c a = .ok (q, s'))
    (ops : List (Op α)) (i : Nat) :
    ((q.history ops).takenFrom (.lane i)).Sublist
      ((q.history ops).broughtTo (.lane i)) := by
  cases hl : (q.run ops).lanes[i]? with
  | none =>
      have hlen : q.lanes.length ≤ i := by
        simpa using List.getElem?_eq_none_iff.1 hl
      have hp : .lane i ∉ q.places := by
        simpa [places] using hlen
      rw [takenFrom_eq_nil q ops hp]
      exact List.nil_sublist _
  | some l =>
      rw [broughtTo_eq hq ops (p := .lane i) hl]
      exact List.sublist_append_left ..

/-- **No vehicle is lost, doubled, altered or overtaken.**  After any run of a
new link:

* what was let in is, in order, what was taken from the trunk and what stands
  there;
* what moved into a lane is, in order, what left it and what stands there;
* what moved into each lane kept the order of the moves, and all lanes
  together have all moves;
* what was let in is what has left and what is on the link, and so are the
  numbers of vehicles;
* vehicles that leave by the same lane do so in the order in which they were
  let in. -/
theorem vehicles_conserved (hq : create s link c a = .ok (q, s'))
    (ops : List (Op α)) :
    pushed ops =
      (q.history ops).takenFrom .trunk ++ (q.run ops).trunk.vehicles ∧
    (∀ i l, (q.run ops).lanes[i]? = some l →
      (q.history ops).broughtTo (.lane i) =
        (q.history ops).takenFrom (.lane i) ++ l.vehicles) ∧
    (∀ i, ((q.history ops).broughtTo (.lane i)).Sublist
      ((q.history ops).moved.map (·.1))) ∧
    ((List.range q.lanes.length).flatMap fun i =>
      (q.history ops).broughtTo (.lane i)).Perm
        ((q.history ops).moved.map (·.1)) ∧
    (pushed ops).Perm
      ((q.history ops).left.map (·.1) ++ (q.run ops).vehicles) ∧
    (q.run ops).count + (q.history ops).left.length = (pushed ops).length ∧
    ∀ i, ((q.history ops).takenFrom (.lane i)).Sublist (pushed ops) := by
  have hperm := perm_left_append_vehicles q ops
  rw [vehicles_create hq, List.nil_append] at hperm
  refine ⟨pushed_eq hq ops, fun i l hl => broughtTo_eq hq ops hl,
    History.broughtTo_lane_sublist _, ?_, hperm, ?_, fun i => ?_⟩
  · have hparts := perm_flatMap_filter List.nodup_range
      (q.history ops).moved fun m hm =>
        List.mem_range.2 (moved_lt_length q ops hm)
    have hfirst := (hparts.map (·.1)).symm
    rw [List.map_flatMap] at hfirst
    simpa only [History.broughtTo_lane] using hfirst
  · rw [count_eq_length, hperm.length_eq, List.length_append, List.length_map]
    omega
  · exact (takenFrom_lane_sublist hq ops i).trans
      (broughtTo_sublist_pushed hq ops (.lane i))

/-- Of two vehicles one has left and one is on the link. -/
theorem vehicles_conserved_fork :
    (forkQueue.history forkOps).left = [(forkVehicle 1, .lane 0)] ∧
    (pushed forkOps).Perm
      ((forkQueue.history forkOps).left.map (·.1) ++
        (forkQueue.run forkOps).vehicles) ∧
    (forkQueue.run forkOps).count + (forkQueue.history forkOps).left.length =
      (pushed forkOps).length := by
  obtain ⟨_, _, _, _, hperm, hcount, _⟩ :=
    vehicles_conserved create_fork forkOps
  exact ⟨by decide +kernel, hperm, hcount⟩

end LinkQueue

end LaneFlow
