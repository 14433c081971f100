import LaneFlow.Proofs.Queue.SameStep
import LaneFlow.Proofs.Queue.Standstill

/-!
# Leaving the link

A link offers the vehicles that may leave it: at each of its exits the first
one, if it is due and the flow of the exit lets it through.  To let a vehicle
out is to take the first one from one exit, and nothing happens at the others.
So each exit gives the vehicle that it offers, and it does not matter in which
order the offers are taken.

The room of a vehicle that leaves is not free before the storage is settled.  So
for whoever wants to enter the link, or to move into one of its lanes, nothing
has changed (`SameRoom`).

No law of arithmetic is used, so all of this is true of floating point numbers.

## Main results

* `mem_offers_iff_mayLeave` — who is offered, and where.
* `at?_pop_ne`, `pop_pop_comm` — the places of a link are independent.
* `release_snd`, `release_of_nodup`, `release_perm` — to let out several
  vehicles is a run; what vehicles the places give, and that their order does
  not matter.
* `offers_taken_in_any_order` — offers and the vehicles that leave agree.
-/

namespace LaneFlow

/-- One lane comes before another. -/
inductive Place.Before : Place → Place → Prop
  | lane {i j : Nat} (h : i < j) : Before (.lane i) (.lane j)

theorem Place.Before.ne {p p' : Place} (h : p.Before p') : p ≠ p' := by
  cases h with
  | lane h => exact fun heq => Nat.ne_of_lt h (Place.lane.inj heq)

namespace LinkQueue

variable {α : Type} [Quantity α]

/-! ## Who is offered -/

/-- A vehicle may leave the link from a place: it is an exit, that is a lane or,
if there are no lanes, the trunk, its flow lets the vehicle through, and the
vehicle is the first one there and due. -/
structure MayLeave (now : Nat) (q : LinkQueue α) (p : Place) (v : Vehicle α) :
    Prop where
  exit : (q.lanes = [] ∧ p = .trunk) ∨ ∃ i, p = .lane i
  first : ∃ l w, q.at? p = some l ∧ l.flow.isOpen = true ∧
    l.waiting.head? = some w ∧ w.exit ≤ now ∧ w.vehicle = v

theorem mem_offers_iff_mayLeave {now : Nat} {q : LinkQueue α} {p : Place}
    {v : Vehicle α} : (p, v) ∈ q.offers now ↔ MayLeave now q p v := by
  rw [mem_offers_iff, mem_exits_iff]
  constructor
  · rintro ⟨hexit, l, hl, hdue⟩
    obtain ⟨hopen, w, hw, htime, hv⟩ :=
      LaneQueue.due?_eq_some_iff_head?.1 hdue
    exact ⟨hexit.imp_right fun ⟨i, _, hi⟩ => ⟨i, hi⟩,
      l, w, hl, hopen, hw, htime, hv⟩
  · rintro ⟨hexit, l, w, hl, hopen, hw, htime, hv⟩
    refine ⟨hexit.imp_right ?_, l, hl,
      LaneQueue.due?_eq_some_iff_head?.2 ⟨hopen, w, hw, htime, hv⟩⟩
    rintro ⟨i, rfl⟩
    exact ⟨i, (List.getElem?_eq_some_iff.1 hl).1, rfl⟩

omit [Quantity α] in
theorem pairwise_before_exits (q : LinkQueue α) :
    q.exits.Pairwise Place.Before := by
  unfold exits
  split
  · exact List.pairwise_singleton _ _
  · exact List.pairwise_lt_range.map _ fun _ _ => .lane

/-- Lanes make their offers from the first to the last, and each makes one at
most. -/
theorem pairwise_before_offers (q : LinkQueue α) (now : Nat) :
    (q.offers now).Pairwise fun o o' => o.1.Before o'.1 := by
  refine q.pairwise_before_exits.filterMap _ fun p p' hbefore o ho o' ho' => ?_
  obtain ⟨v, _, rfl⟩ := Option.map_eq_some_iff.1 ho
  obtain ⟨v', _, rfl⟩ := Option.map_eq_some_iff.1 ho'
  exact hbefore

theorem nodup_places_offers (q : LinkQueue α) (now : Nat) :
    ((q.offers now).map (·.1)).Nodup :=
  (q.pairwise_before_offers now).map _ fun _ _ h => h.ne

/-! ## Letting one vehicle out -/

theorem at?_pop (q : LinkQueue α) (p p' : Place) :
    (q.pop p).2.at? p' =
      (q.at? p').map fun l => if p' = p then l.leave else l := by
  have hstep := at?_step q p' (.pop p)
  rw [step] at hstep
  rw [hstep]
  by_cases hp : p' = p <;> simp [acts, hp, LaneQueue.act]

/-- All other places stay as they are. -/
theorem at?_pop_ne (q : LinkQueue α) {p p' : Place} (h : p' ≠ p) :
    (q.pop p).2.at? p' = q.at? p' := by
  simp [at?_pop, h]

theorem id_pop (q : LinkQueue α) (p : Place) : (q.pop p).2.id = q.id := by
  cases p with
  | trunk => rw [pop_trunk]
  | lane i => rw [pop_lane]

theorem exits_pop (q : LinkQueue α) (p : Place) :
    (q.pop p).2.exits = q.exits := by
  have hlength : (q.pop p).2.lanes.length = q.lanes.length :=
    length_lanes_step q (.pop p)
  simp only [exits, ← List.length_eq_zero_iff, List.isEmpty_iff, hlength]

omit [Quantity α] in
/-- A link is told by its id and its queues. -/
theorem eq_of_at? {q r : LinkQueue α} (hid : q.id = r.id)
    (h : ∀ p, q.at? p = r.at? p) : q = r := by
  have htrunk : q.trunk = r.trunk := Option.some.inj (h .trunk)
  have hlanes : q.lanes = r.lanes := List.ext_getElem? fun i => h (.lane i)
  cases q
  cases r
  simp_all

/-- Vehicles can be let out at two places in either order. -/
theorem pop_pop_comm (q : LinkQueue α) (p p' : Place) :
    ((q.pop p).2.pop p').2 = ((q.pop p').2.pop p).2 := by
  refine eq_of_at? (by simp only [id_pop]) fun place => ?_
  simp only [at?_pop, Option.map_map]
  congr 1
  funext l
  by_cases hp : place = p
  · simp only [Function.comp_apply, if_pos hp]
    exact (apply_ite LaneQueue.leave ..).symm
  · simp only [Function.comp_apply, if_neg hp]

/-- Who is offered gets out. -/
theorem MayLeave.pop_eq {now : Nat} {q : LinkQueue α} {p : Place}
    {v : Vehicle α} (h : MayLeave now q p v) : (q.pop p).1 = some v := by
  obtain ⟨l, w, hl, _, hw, _, rfl⟩ := h.first
  rw [pop_fst, hl, Option.bind_some, LaneQueue.vehicles, List.head?_map, hw]
  rfl

/-- All other places offer what they offered before, now and at any time. -/
theorem offers_pop (q : LinkQueue α) (p : Place) (now : Nat) :
    ((q.pop p).2.offers now).filter (·.1 ≠ p) =
      (q.offers now).filter (·.1 ≠ p) := by
  unfold offers
  rw [List.filter_filterMap, List.filter_filterMap, exits_pop]
  refine List.filterMap_congr fun p' _ => ?_
  by_cases hp : p' = p
  · subst hp
    have hnone : ∀ o : Option (Vehicle α),
        (o.map (p', ·)).filter (·.1 ≠ p') = none := by
      intro o
      cases o <;> simp [Option.filter_some]
    rw [hnone, hnone]
  · rw [at?_pop_ne q hp]

/-! ## Room -/

/-- For whoever wants to enter a link or to move into one of its lanes nothing
has changed: there is room where there was some, as much storage is in use, and
vehicles choose the same lanes. -/
structure SameRoom (q r : LinkQueue α) : Prop where
  entrance : r.hasRoom = q.hasRoom
  inUse : r.inUse = q.inUse
  queues : ∀ p, (r.at? p).map (fun l => (l.hasRoom, l.inUse)) =
    (q.at? p).map fun l => (l.hasRoom, l.inUse)
  chosen : ∀ v, choose r.lanes v = choose q.lanes v

theorem SameRoom.refl (q : LinkQueue α) : SameRoom q q :=
  ⟨rfl, rfl, fun _ => rfl, fun _ => rfl⟩

theorem SameRoom.trans {q r s : LinkQueue α} (h : SameRoom q r)
    (h' : SameRoom r s) : SameRoom q s where
  entrance := h'.entrance.trans h.entrance
  inUse := h'.inUse.trans h.inUse
  queues p := (h'.queues p).trans (h.queues p)
  chosen v := (h'.chosen v).trans (h.chosen v)

theorem sameLoads_pop (q : LinkQueue α) (p : Place) :
    SameLoads (q.pop p).2.lanes q.lanes := by
  cases p with
  | trunk => rw [pop_trunk]; rfl
  | lane i => rw [pop_lane]; exact sameLoads_modify_leave q.lanes i

theorem sameRoom_pop (q : LinkQueue α) (p : Place) :
    SameRoom q (q.pop p).2 := by
  have hqueues : ∀ p',
      ((q.pop p).2.at? p').map (fun l => (l.hasRoom, l.inUse)) =
        (q.at? p').map fun l => (l.hasRoom, l.inUse) := by
    intro p'
    rw [at?_pop, Option.map_map]
    congr 1
    funext l
    by_cases hp : p' = p <;> simp [hp]
  have htrunk : ((q.pop p).2.trunk.hasRoom, (q.pop p).2.trunk.inUse) =
      (q.trunk.hasRoom, q.trunk.inUse) := Option.some.inj (hqueues .trunk)
  obtain ⟨hroom, huse⟩ := Prod.mk.inj htrunk
  have hlanes : (q.pop p).2.lanes.map (·.inUse) = q.lanes.map (·.inUse) := by
    simpa only [List.map_map, Function.comp_def] using
      congrArg (List.map Prod.snd) (q.sameLoads_pop p)
  exact
    { entrance := hroom
      inUse := by rw [LinkQueue.inUse, LinkQueue.inUse, huse, hlanes]
      queues := hqueues
      chosen := choose_congr (q.sameLoads_pop p) }

/-! ## Letting several vehicles out -/

/-- Lets vehicles out at several places, one after the other: who came out
where, and what is left. -/
def release (q : LinkQueue α) :
    List Place → List (Place × Option (Vehicle α)) × LinkQueue α
  | [] => ([], q)
  | p :: ps =>
    let more := (q.pop p).2.release ps
    ((p, (q.pop p).1) :: more.1, more.2)

theorem release_snd (q : LinkQueue α) (ps : List Place) :
    (q.release ps).2 = q.run (ps.map .pop) := by
  induction ps generalizing q with
  | nil => rfl
  | cons p ps ih => exact ih (q.pop p).2

/-- Each place gives the vehicle that it would give alone. -/
theorem release_of_nodup (q : LinkQueue α) {ps : List Place} (h : ps.Nodup) :
    (q.release ps).1 = ps.map fun p => (p, (q.pop p).1) := by
  induction ps generalizing q with
  | nil => rfl
  | cons p ps ih =>
      obtain ⟨hp, hps⟩ := List.nodup_cons.1 h
      rw [release, ih _ hps, List.map_cons]
      refine congrArg _ (List.map_congr_left fun p' hp' => ?_)
      have hne : p' ≠ p := fun heq => hp (heq ▸ hp')
      rw [pop_fst, pop_fst, at?_pop_ne q hne]

/-- The order in which vehicles are let out does not matter for the link. -/
theorem release_perm (q : LinkQueue α) {ps ps' : List Place}
    (h : ps.Perm ps') : (q.release ps).2 = (q.release ps').2 := by
  induction h generalizing q with
  | nil => rfl
  | cons p _ ih => exact ih (q.pop p).2
  | swap p p' ps =>
      show (((q.pop p').2.pop p).2.release ps).2 =
        (((q.pop p).2.pop p').2.release ps).2
      rw [pop_pop_comm]
  | trans _ _ ih ih' => exact (ih q).trans (ih' q)

theorem sameRoom_release (q : LinkQueue α) (ps : List Place) :
    SameRoom q (q.release ps).2 := by
  induction ps generalizing q with
  | nil => exact .refl q
  | cons p ps ih => exact (q.sameRoom_pop p).trans (ih (q.pop p).2)

/-- **Offers can be taken in any order.**  Offers come from the first lane to
the last, at most one from each, and are exactly of the vehicles that may leave.
An exit gives the vehicle that it offers; all other places stay as they are, and
so do their offers.  So if all offers are taken, in any order, each exit gives
what it offered, and the link is the same in the end.  To let vehicles out,
wherever it may be, changes neither the room on the link nor the lane that a
vehicle would choose. -/
theorem offers_taken_in_any_order (q : LinkQueue α) (now : Nat) :
    ((q.offers now).Pairwise fun o o' => o.1.Before o'.1) ∧
    (∀ p v, (p, v) ∈ q.offers now ↔ MayLeave now q p v) ∧
    (∀ p v, (p, v) ∈ q.offers now →
      (q.pop p).1 = some v ∧
      (∀ p', p' ≠ p → (q.pop p).2.at? p' = q.at? p') ∧
      ∀ later : Nat, ((q.pop p).2.offers later).filter (·.1 ≠ p) =
        (q.offers later).filter (·.1 ≠ p)) ∧
    (∀ os : List (Place × Vehicle α), os.Perm (q.offers now) →
      (q.release (os.map (·.1))).1 = os.map (fun o => (o.1, some o.2)) ∧
      (q.release (os.map (·.1))).2 =
        (q.release ((q.offers now).map (·.1))).2) ∧
    ∀ ps : List Place, SameRoom q (q.release ps).2 := by
  have hpop : ∀ p v, (p, v) ∈ q.offers now → (q.pop p).1 = some v :=
    fun p v ho => (mem_offers_iff_mayLeave.1 ho).pop_eq
  refine ⟨q.pairwise_before_offers now, fun p v => mem_offers_iff_mayLeave,
    fun p v ho => ⟨hpop p v ho, fun p' hne => q.at?_pop_ne hne, q.offers_pop p⟩,
    fun os hos => ⟨?_, q.release_perm (hos.map _)⟩, q.sameRoom_release⟩
  have hnodup : (os.map (·.1)).Nodup :=
    (hos.map _).nodup_iff.2 (q.nodup_places_offers now)
  rw [q.release_of_nodup hnodup, List.map_map]
  refine List.map_congr_left fun o ho => ?_
  exact congrArg _ (hpop o.1 o.2 (hos.subset ho))

/-- Two lanes offer a small vehicle each.  The right lane may give its vehicle
first; the left lane then still gives the one that it offered, and as much
storage is in use as before. -/
theorem offers_taken_in_any_order_small :
    (smallQueue.move 2).offers 3 =
      [(.lane 0, smallVehicle 1), (.lane 1, smallVehicle 2)] ∧
    [(.lane 1, smallVehicle 2), (.lane 0, smallVehicle 1)].Perm
      ((smallQueue.move 2).offers 3) ∧
    ((smallQueue.move 2).release [.lane 1, .lane 0]).1 =
      [(.lane 1, some (smallVehicle 2)), (.lane 0, some (smallVehicle 1))] ∧
    ((smallQueue.move 2).release [.lane 1, .lane 0]).2 =
      ((smallQueue.move 2).release [.lane 0, .lane 1]).2 ∧
    ((smallQueue.move 2).release [.lane 1, .lane 0]).2.inUse = 5 / 2 := by
  have hoffers : (smallQueue.move 2).offers 3 =
      [(.lane 0, smallVehicle 1), (.lane 1, smallVehicle 2)] := by
    decide +kernel
  have hperm : [(.lane 1, smallVehicle 2), (.lane 0, smallVehicle 1)].Perm
      ((smallQueue.move 2).offers 3) := by
    rw [hoffers]
    exact .swap ..
  obtain ⟨-, -, -, htaken, hroom⟩ :=
    offers_taken_in_any_order (smallQueue.move 2) 3
  obtain ⟨hgiven, hleft⟩ := htaken _ hperm
  rw [hoffers] at hleft
  refine ⟨hoffers, hperm, hgiven, hleft, ?_⟩
  rw [(hroom _).inUse]
  decide +kernel

end LinkQueue

end LaneFlow
