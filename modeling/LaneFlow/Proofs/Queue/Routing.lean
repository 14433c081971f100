import LaneFlow.Proofs.Queue.Conservation

/-!
# Lanes serve the vehicles that stand in them

A vehicle chooses its lane when it moves, from the lanes that lead to its next
link or, if there is none, from all lanes.  Where a lane leads never changes,
and a vehicle stays in the lane that it moved into.  So what was true of the
choice stays true for as long as the vehicle is on the link: it stands in a
lane that serves it, if any lane does.

The lanes, the routes and the storage in use are arbitrary here.  All that
counts of a comparison of loads is that it picks one of two lanes.

## Main results

* `choose_mem_candidates` — the choice is one of the candidates.
* `suits_moved` — every move of a run goes into a lane that suits the vehicle.
* `stands_in_serving_lane` — so does every vehicle that stands in a lane or is
  let out of it.
-/

namespace LaneFlow.LinkQueue

variable {α : Type}

/-- A place suits a vehicle: if any of the lanes leads to the next link of the
vehicle, the one at this place does. -/
def Suits (lanes : List (LaneQueue α)) (v : Vehicle α) (i : Nat) : Prop :=
  ∀ next, v.next = some next → (∃ k ∈ lanes, k.leadsTo next = true) →
    ∃ l, lanes[i]? = some l ∧ l.leadsTo next = true

/-- What suits a vehicle depends on where the lanes lead, and on nothing
else. -/
theorem suits_congr {lanes other : List (LaneQueue α)}
    (h : lanes.map (·.toLinks) = other.map (·.toLinks)) (v : Vehicle α)
    (i : Nat) : Suits lanes v i ↔ Suits other v i := by
  have hlinks : ∀ ls : List (LaneQueue α), Suits ls v i ↔
      ∀ next, v.next = some next →
        (∃ links ∈ ls.map (·.toLinks), next.isIn links = true) →
          ∃ links, (ls.map (·.toLinks))[i]? = some links ∧
            next.isIn links = true := by
    intro ls
    simp [Suits, LaneQueue.leadsTo]
  rw [hlinks, hlinks, h]

/-! ## The choice of a lane -/

theorem mem_serving_iff {lanes : List (LaneQueue α)} {v : Vehicle α} {i : Nat} :
    i ∈ serving lanes v ↔ ∃ next l, v.next = some next ∧
      lanes[i]? = some l ∧ l.leadsTo next = true := by
  unfold serving
  cases hnext : v.next with
  | none => simp
  | some link =>
      rw [List.mem_filter, List.mem_range, Option.any_eq_true]
      constructor
      · rintro ⟨_, l, hl, hleads⟩
        exact ⟨link, l, rfl, hl, hleads⟩
      · rintro ⟨_, l, hlink, hl, hleads⟩
        obtain rfl := Option.some.inj hlink
        exact ⟨(List.getElem?_eq_some_iff.1 hl).1, l, hl, hleads⟩

/-- Of the candidates of a vehicle every one suits it. -/
theorem suits_of_mem_candidates {lanes : List (LaneQueue α)} {v : Vehicle α}
    {i : Nat} (hi : i ∈ candidates lanes v) : Suits lanes v i := by
  rintro next hnext ⟨k, hk, hleads⟩
  obtain ⟨j, hj⟩ := List.mem_iff_getElem?.1 hk
  have hserving : j ∈ serving lanes v :=
    mem_serving_iff.2 ⟨next, k, hnext, hj, hleads⟩
  have hsome : ¬ (serving lanes v).isEmpty := by
    rw [List.isEmpty_iff]
    exact List.ne_nil_of_mem hserving
  rw [candidates, if_neg hsome] at hi
  obtain ⟨_, l, hnext', hl, hleads'⟩ := mem_serving_iff.1 hi
  obtain rfl := Option.some.inj (hnext.symm.trans hnext')
  exact ⟨l, hl, hleads'⟩

variable [Quantity α]

theorem lessUsed_eq_or (lanes : List (LaneQueue α)) (i j : Nat) :
    lessUsed lanes i j = i ∨ lessUsed lanes i j = j := by
  unfold lessUsed
  split
  · split
    · exact .inr rfl
    · exact .inl rfl
  · exact .inl rfl

/-- Comparing loads picks one of the lanes that are compared. -/
theorem foldl_lessUsed_mem (lanes : List (LaneQueue α)) (js : List Nat)
    (i : Nat) : js.foldl (lessUsed lanes) i ∈ i :: js := by
  induction js generalizing i with
  | nil => simp
  | cons j js ih =>
      have hmem := ih (lessUsed lanes i j)
      rcases lessUsed_eq_or lanes i j with heq | heq
      · rw [List.foldl_cons, heq]
        rw [heq] at hmem
        exact (List.sublist_cons_self j js).cons_cons i |>.subset hmem
      · rw [List.foldl_cons, heq]
        rw [heq] at hmem
        exact List.mem_cons_of_mem i hmem

/-- A vehicle chooses one of its candidates. -/
theorem choose_mem_candidates {lanes : List (LaneQueue α)} (v : Vehicle α)
    (h : lanes ≠ []) : choose lanes v ∈ candidates lanes v := by
  have hne := candidates_ne_nil v h
  unfold choose
  cases hcons : candidates lanes v with
  | nil => exact absurd hcons hne
  | cons i rest => exact foldl_lessUsed_mem lanes rest i

/-! ## Moving -/

/-- A vehicle that enters a lane does not change where the lanes lead. -/
private theorem map_toLinks_set {lanes : List (LaneQueue α)} {i : Nat}
    {l : LaneQueue α} (hl : lanes[i]? = some l) (v : Vehicle α) (now : Nat) :
    (lanes.set i (l.push v now)).map (·.toLinks) =
      lanes.map (·.toLinks) := by
  apply List.ext_getElem?
  intro j
  rw [List.getElem?_map, List.getElem?_map]
  by_cases hj : i = j
  · subst hj
    rw [List.getElem?_set_self (List.getElem?_eq_some_iff.1 hl).1, hl]
    rfl
  · rw [List.getElem?_set_ne hj]

/-- Vehicles move into lanes that suit them. -/
theorem Shifting.suits {now : Nat} {trunk : LaneQueue α}
    {lanes : List (LaneQueue α)} {s : Shift α}
    (h : Shifting now trunk lanes s) {m : Vehicle α × Nat}
    (hm : m ∈ s.moves) : Suits lanes m.1 m.2 := by
  induction h with
  | stop h => simp at hm
  | move h hs ih =>
      rcases List.mem_cons.1 hm with rfl | hm
      · have hlanes := List.ne_nil_of_mem (List.mem_of_getElem? h.target)
        exact suits_of_mem_candidates (choose_mem_candidates _ hlanes)
      · exact (suits_congr (map_toLinks_set h.target _ _) _ _).1 (ih hm)

/-! ## A run -/

/-- Where the lanes lead never changes. -/
theorem map_toLinks_run (q : LinkQueue α) (ops : List (Op α)) :
    (q.run ops).lanes.map (·.toLinks) = q.lanes.map (·.toLinks) := by
  apply List.ext_getElem?
  intro i
  have hrun := at?_run q (.lane i) ops
  simp only [at?] at hrun
  rw [List.getElem?_map, List.getElem?_map, hrun, Option.map_map]
  congr 1
  funext l
  exact (LaneQueue.sameSegment_perform l (q.diary (.lane i) ops)).toLinks.symm

/-- In a run vehicles move into lanes that suit them. -/
theorem suits_moved (q : LinkQueue α) (ops : List (Op α))
    {m : Vehicle α × Nat} (hm : m ∈ (q.history ops).moved) :
    Suits q.lanes m.1 m.2 := by
  induction ops generalizing q with
  | nil => simp [history, History.moved] at hm
  | cons op ops ih =>
      have hsplit : (q.history (op :: ops)).moved =
          History.moved (q.events op) ++ ((q.step op).history ops).moved :=
        List.filterMap_append
      rw [hsplit, List.mem_append] at hm
      rcases hm with hm | hm
      · cases op with
        | move now =>
            have hmoves : m ∈ q.moves now := by
              simpa [events, History.moved, Event.moved?] using hm
            exact (shifting_shifted q now).suits hmoves
        | pop p =>
            cases hpop : (q.pop p).1 <;>
              simp [events, hpop, History.moved, Event.moved?] at hm
        | _ => simp [events, History.moved, Event.moved?] at hm
      · exact (suits_congr (map_toLinks_run q [op]) _ _).1 (ih _ hm)

/-! ## A new link -/

variable {s s' : IdStore} {link : Link α} {c : LinkCapacity α}
  {a : Option (LaneAssignment α)} {q : LinkQueue α}

theorem suits_of_mem_vehicles (hq : create s link c a = .ok (q, s'))
    {ops : List (Op α)} {i : Nat} {l : LaneQueue α}
    (hl : (q.run ops).lanes[i]? = some l) {v : Vehicle α}
    (hv : v ∈ l.vehicles) : Suits (q.run ops).lanes v i := by
  have hbrought : v ∈ (q.history ops).broughtTo (.lane i) := by
    rw [broughtTo_eq hq ops (p := .lane i) hl]
    exact List.mem_append_right _ hv
  rw [History.broughtTo_lane] at hbrought
  obtain ⟨m, hm, rfl⟩ := List.mem_map.1 hbrought
  obtain ⟨hmoved, hlane⟩ := List.mem_filter.1 hm
  obtain rfl : m.2 = i := of_decide_eq_true hlane
  exact (suits_congr (map_toLinks_run q ops) _ _).2 (suits_moved q ops hmoved)

/-- **Vehicles stand in lanes that serve them.**  After any run of a new link,
a vehicle that stands in a lane or is let out of it is in a lane that leads to
its next link, if any lane of the link does. -/
theorem stands_in_serving_lane (hq : create s link c a = .ok (q, s'))
    (ops : List (Op α)) (i : Nat) :
    (∀ l, (q.run ops).lanes[i]? = some l → ∀ v ∈ l.vehicles,
      Suits (q.run ops).lanes v i) ∧
    ∀ v, ((q.run ops).pop (.lane i)).1 = some v →
      Suits (q.run ops).lanes v i := by
  refine ⟨fun l hl v hv => suits_of_mem_vehicles hq hl hv, fun v hv => ?_⟩
  rw [pop_fst] at hv
  obtain ⟨l, hl, hhead⟩ := Option.bind_eq_some_iff.1 hv
  exact suits_of_mem_vehicles hq hl (List.mem_of_mem_head? hhead)

/-! ## A link whose lanes part -/

/-- Lanes of the link that splits, of which the right one turns off. -/
def partingLanes : LaneAssignment Rat where
  link := ⟨0, "fork"⟩
  lanes :=
    [{ id := ⟨1, "left"⟩, start := 10, toLinks := [⟨1, "next"⟩] },
      { id := ⟨2, "right"⟩, start := 10, toLinks := [⟨2, "side"⟩] }]

/-- The empty queues of the link whose lanes part. -/
def partingQueue : LinkQueue Rat :=
  ofCapacities forkLink (forkLink.allocate (some partingLanes) ⟨1, 1, 10⟩)
    (some partingLanes) ⟨0, "fork.ol"⟩

/-- A vehicle that wants to turn off. -/
def turningVehicle : Vehicle Rat :=
  { forkVehicle 3 with route := [⟨0, "fork"⟩, ⟨2, "side"⟩] }

/-- The left lane comes first and is empty, and yet the vehicle that wants to
turn off stands in the right one. -/
theorem stands_in_serving_lane_turning :
    ∃ l, (partingQueue.run [.push turningVehicle 0, .move 2]).lanes[1]? =
        some l ∧ l.vehicles = [turningVehicle] ∧
      Suits (partingQueue.run [.push turningVehicle 0, .move 2]).lanes
        turningVehicle 1 := by
  have hq : create { lanes := ["fork.ol"] } forkLink
      (forkLink.allocate (some partingLanes) ⟨1, 1, 10⟩) (some partingLanes) =
        .ok (partingQueue, { lanes := ["fork.ol"] }) := by
    decide +kernel
  have hlane : ((partingQueue.run [.push turningVehicle 0, .move 2]).lanes[1]?.map
      (·.vehicles)) = some [turningVehicle] := by
    decide +kernel
  obtain ⟨l, hl, hvehicles⟩ := Option.map_eq_some_iff.1 hlane
  have hmem : turningVehicle ∈ l.vehicles := by simp [hvehicles]
  exact ⟨l, hl, hvehicles,
    (stands_in_serving_lane hq _ 1).1 l hl turningVehicle hmem⟩

end LaneFlow.LinkQueue
