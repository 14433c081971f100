import LaneFlow.Proofs.Capacity.Tabulation
import LaneFlow.Proofs.Road.IndexedNetwork

/-!
# Tables with an index

The capacities of a link are looked up for every vehicle that enters it, so a
table keeps their places.  An `IndexedTable` is filled link by link: the place
of the next entry is written down for the id of the link, and the entry is put
there.  Lanes are checked before, link by link, and the links that they are
about are looked up by their places, too.

Places are right in a table as long as they are in the network, since no two
links have the same id then.  So the entries are those of the table without
places, each is found under the id of its link, and there is none under any
other id (`IndexedTable.Tabulates`).

## Main results

* `findings_eq`, `fill_eq`, `compute_eq` — what is found and computed is what is
  found and computed without places.
* `compute_tabulates` — why there is no table, and what is in the one there is,
  for any network that was built by requests.
-/

namespace LaneFlow

/-- The capacities of the links of a network, and their places. -/
structure IndexedTable (α : Type) where
  results : Indexed (LinkCapacity α) := {}

namespace IndexedTable

variable {α : Type} [Quantity α]

omit [Quantity α] in
/-- The number of links. -/
def size (t : IndexedTable α) : Nat := t.results.items.length

omit [Quantity α] in
/-- The capacities of a link, if its id has a place. -/
def get? (t : IndexedTable α) (id : Id .link) :
    Option (Option (LinkCapacity α)) :=
  t.results.get? id

/-- The findings about the lanes of one link of a network, or that it has no
such link.  There are none if the place of the link leads out of the list. -/
def findingsOf (n : IndexedNetwork α) (a : LaneAssignment α) :
    Option (List (Finding α)) :=
  match n.link? a.link with
  | none => some [.unknownLink a.link]
  | some none => none
  | some (some link) => some (a.findings link)

/-- All findings about the lanes of a network. -/
def findings (n : IndexedNetwork α) (r : LaneRegistry α) :
    Option (List (Finding α)) :=
  (r.inOrder.mapM (findingsOf n)).map List.flatten

/-- What stops a computation with some lanes.  The findings do in the strict
mode alone, but they are looked for if they are to be reported, too. -/
def check (n : IndexedNetwork α) (r : LaneRegistry α) :
    Validation → Option (Halt (List (Finding α)))
  | .ignore => none
  | .warn =>
    match findings n r with
    | none => some .astray
    | some _ => none
  | .strict =>
    match findings n r with
    | none => some .astray
    | some [] => none
    | some found => some (.refused found)

/-- A table that is filled with the capacities of all links. -/
def fill (n : IndexedNetwork α) (lanes : Option (LaneRegistry α))
    (f : Factors α) : IndexedTable α :=
  n.links.items.foldl
    (fun t link =>
      ⟨t.results.push link.id
        (link.allocate (lanes.bind (·.get? link.id)) f)⟩)
    {}

/-- The capacities of every link, or what has stopped their computation. -/
def compute (n : IndexedNetwork α) (lanes : Option (LaneRegistry α))
    (config : Config α) :
    Except (Halt (List (Finding α))) (IndexedTable α) :=
  let used := CapacityTable.lanesInUse lanes config
  match used.bind (check n · config.laneUse.validation) with
  | some stop => .error stop
  | none => .ok (fill n used (.ofScaling config.simulation n.cellSize))

/-- Some findings stand against a table: lanes are given and used, they are
checked in the strict mode, and this is all that is found about them. -/
def Blocked (n : IndexedNetwork α) (lanes : Option (LaneRegistry α))
    (config : Config α) (found : List (Finding α)) : Prop :=
  ∃ r, lanes = some r ∧ config.laneUse.use = true ∧
    config.laneUse.validation = .strict ∧ findings n r = some found ∧ found ≠ []

/-- A table holds what the links of a network are allocated, in their order and
under their ids. -/
structure Tabulates (t : IndexedTable α) (n : IndexedNetwork α)
    (lanes : Option (LaneRegistry α)) (config : Config α) : Prop where
  size_eq : t.size = n.links.items.length
  getElem?_results : ∀ i : Nat, t.results.items[i]? =
    n.links.items[i]?.map fun link =>
      link.allocate (CapacityTable.lanesFor lanes config link.id)
        (.ofScaling config.simulation n.cellSize)
  get?_eq_getElem? : ∀ (i : Nat) (link : Link α),
    n.links.items[i]? = some link → t.get? link.id = some t.results.items[i]?
  get?_eq_none : ∀ id : Id .link,
    (∀ link ∈ n.links.items, ¬ link.id.same id) → t.get? id = none

variable {n : IndexedNetwork α} {lanes : Option (LaneRegistry α)}
  {config : Config α}

/-! ## What is found -/

theorem findingsOf_eq (h : n.Right) (a : LaneAssignment α) :
    findingsOf n a = some (LaneRegistry.findingsOf n.plain a) := by
  rw [findingsOf, LaneRegistry.findingsOf, h.link?_eq]
  cases n.plain.link? a.link <;> rfl

/-- What is found is what is found without places. -/
theorem findings_eq (h : n.Right) (r : LaneRegistry α) :
    findings n r = some (r.findings n.plain) := by
  have hpure : findingsOf n =
      fun a => pure (LaneRegistry.findingsOf n.plain a) :=
    funext (findingsOf_eq h)
  rw [findings, hpure, List.mapM_pure]
  rfl

theorem blocked_iff (h : n.Right) {found : List (Finding α)} :
    Blocked n lanes config found ↔
      CapacityTable.Blocked n.plain lanes config found := by
  simp only [Blocked, CapacityTable.Blocked, findings_eq h, Option.some.injEq]

/-! ## What is computed -/

/-- A table with the entries of another, put in one after the other. -/
def ofTable (t : CapacityTable α) : IndexedTable α :=
  ⟨({} : Indexed (LinkCapacity α)).pushAll (·.link) t.entries⟩

/-- A table is filled with the allocation. -/
theorem fill_eq : fill n (CapacityTable.lanesInUse lanes config)
      (.ofScaling config.simulation n.cellSize) =
    ofTable (.allocate n.plain lanes config) := by
  have hfrom : ∀ (ls : List (Link α)) (x : Indexed (LinkCapacity α))
      (g : Link α → LinkCapacity α), (∀ link, (g link).link = link.id) →
      ls.foldl (fun t link => (⟨t.results.push link.id (g link)⟩ :
        IndexedTable α)) ⟨x⟩ = ⟨x.pushAll (·.link) (ls.map g)⟩ := by
    intro ls x g hg
    induction ls generalizing x with
    | nil => rfl
    | cons link ls ih =>
        rw [List.foldl_cons, ih, List.map_cons, Indexed.pushAll,
          Indexed.pushAll, List.foldl_cons, hg]
  exact hfrom n.links.items {} _ fun link => Link.allocate_link link _ _

/-- There is a table if there is one without places, with the same entries, and
the same findings stand against it otherwise. -/
theorem compute_eq (h : n.Right) : compute n lanes config =
    match CapacityTable.compute n.plain lanes config with
    | .ok t => .ok (ofTable t)
    | .error found => .error (.refused found) := by
  have hlanes : compute n lanes config =
      match (CapacityTable.lanesInUse lanes config).bind
        (check n · config.laneUse.validation) with
      | some stop => .error stop
      | none =>
        .ok (ofTable (.allocate n.plain lanes config)) := by
    rw [← fill_eq]
    rfl
  rw [hlanes, CapacityTable.compute, CapacityTable.objections]
  cases CapacityTable.lanesInUse lanes config with
  | none => rfl
  | some r =>
      rw [Option.bind_some]
      cases config.laneUse.validation with
      | ignore => rfl
      | warn => rw [check, findings_eq h]
      | strict =>
          rw [check, findings_eq h]
          cases hfound : r.findings n.plain <;> simp [hfound]

theorem compute_eq_ok_iff (h : n.Right) {t : IndexedTable α} :
    compute n lanes config = .ok t ↔
      ∃ u, CapacityTable.compute n.plain lanes config = .ok u ∧
        t = ofTable u := by
  rw [compute_eq h]
  cases CapacityTable.compute n.plain lanes config <;> simp [eq_comm]

theorem compute_eq_error_iff (h : n.Right) {found : List (Finding α)} :
    compute n lanes config = .error (.refused found) ↔
      Blocked n lanes config found := by
  rw [blocked_iff h, ← CapacityTable.compute_eq_error_iff, compute_eq h]
  cases CapacityTable.compute n.plain lanes config <;> simp

theorem compute_ne_astray (h : n.Right) :
    compute n lanes config ≠ .error .astray := by
  rw [compute_eq h]
  cases CapacityTable.compute n.plain lanes config <;> simp

/-! ## What is in a table -/

/-- The entries of a network with right places have right places. -/
theorem right_ofTable (h : n.Right) :
    (ofTable (.allocate n.plain lanes config)).results.Right
      LinkCapacity.link := by
  refine Indexed.right_pushAll ?_
  rw [CapacityTable.entries_allocate, List.map_map]
  simp only [Function.comp_def, Link.allocate_link]
  exact h.links.nodup

/-- What is in the allocation of a network with right places. -/
theorem tabulates_ofTable (h : n.Right) :
    (ofTable (.allocate n.plain lanes config)).Tabulates n
      lanes config := by
  have hright : (ofTable (.allocate n.plain lanes config)).results.Right
      LinkCapacity.link := right_ofTable h
  have hitems : (ofTable (.allocate n.plain lanes config)).results.items =
      n.links.items.map fun link =>
        link.allocate (CapacityTable.lanesFor lanes config link.id)
          (.ofScaling config.simulation n.cellSize) := by
    rw [ofTable, Indexed.pushAll_items, CapacityTable.entries_allocate]
    rfl
  refine
    { size_eq := ?_
      getElem?_results := fun i => ?_
      get?_eq_getElem? := fun i link hlink => ?_
      get?_eq_none := fun id hid => ?_ }
  · rw [size, hitems, List.length_map]
  · rw [hitems, List.getElem?_map]
  · rw [hitems, List.getElem?_map, hlink, Option.map_some]
    refine hright.get?_eq_some_iff.2 ⟨?_, ?_⟩
    · rw [hitems]
      exact List.mem_map_of_mem (List.mem_of_getElem? hlink)
    · rw [Link.allocate_link, Id.same_self]
  · refine hright.get?_eq_none_iff.2 fun c hc => ?_
    rw [hitems] at hc
    obtain ⟨link, hlink, rfl⟩ := List.mem_map.1 hc
    rw [Link.allocate_link]
    exact hid link hlink

/-- **A table is the allocation, link by link, and checks only stand before
it.**  For a network that was built by requests there is no table if and only if
lanes are given and used, checked in the strict mode and found not to fit; the
refusal then carries all that is found, and nothing else stops the computation.
Otherwise the table holds what each link is allocated, in the order of the links
and under their ids alone.  So if the strict mode gives a table, all modes give
that table. -/
theorem compute_tabulates (requests : List (NetworkRequest α))
    (lanes : Option (LaneRegistry α)) (config : Config α) :
    let n := IndexedNetwork.built requests
    (∀ found, compute n lanes config = .error (.refused found) ↔
      Blocked n lanes config found) ∧
    ((¬ ∃ found, Blocked n lanes config found) →
      ∃ t, compute n lanes config = .ok t ∧ t.Tabulates n lanes config) ∧
    compute n lanes config ≠ .error .astray ∧
    ∀ (other : Config α) (t : IndexedTable α),
      config.laneUse.validation = .strict →
      other.laneUse.use = config.laneUse.use →
      other.simulation = config.simulation →
      compute n lanes config = .ok t → compute n lanes other = .ok t := by
  intro n
  have hright : n.Right := IndexedNetwork.right_built requests
  refine ⟨fun _ => compute_eq_error_iff hright, fun hfree => ?_,
    compute_ne_astray hright, ?_⟩
  · simp only [blocked_iff hright] at hfree
    have htable := CapacityTable.compute_of_not_blocked hfree
    exact ⟨_, (compute_eq_ok_iff hright).2 ⟨_, htable, rfl⟩,
      tabulates_ofTable hright⟩
  · intro other t hstrict huse hscales ht
    obtain ⟨u, hu, rfl⟩ := (compute_eq_ok_iff hright).1 ht
    refine (compute_eq_ok_iff hright).2 ⟨u, ?_, rfl⟩
    obtain ⟨hobj, rfl⟩ := CapacityTable.compute_eq_ok_iff.1 hu
    have hfree :
        ¬ ∃ found, CapacityTable.Blocked n.plain lanes other found := by
      rintro ⟨found, r, hr, hused, -, hfound, hne⟩
      have hblocked : CapacityTable.Blocked n.plain lanes config found :=
        ⟨r, hr, huse ▸ hused, hstrict, hfound, hne⟩
      exact hne ((CapacityTable.blocked_iff.1 hblocked).1.symm.trans hobj)
    rw [CapacityTable.compute_of_not_blocked hfree,
      CapacityTable.allocate_congr huse hscales]

/-- A road and a ring road at one node, and a second try at the first. -/
def twoRoads : List (NetworkRequest Rat) :=
  [.addNode { id := ⟨0, "a"⟩, x := 0, y := 0 },
    .createLink ⟨1, "out"⟩ ⟨0, "a"⟩ ⟨0, "a"⟩ 100 3600 10 2,
    .createLink ⟨0, "ring"⟩ ⟨0, "a"⟩ ⟨0, "a"⟩ 60 1800 10 1,
    .createLink ⟨1, "out"⟩ ⟨0, "a"⟩ ⟨0, "a"⟩ 30 3600 10 2,
    .setCellSize 10]

/-- Lanes of one of the links, and of a link that is not there. -/
def stray : LaneRegistry Rat :=
  ⟨[{ link := ⟨1, "out"⟩
      lanes :=
        [{ id := ⟨0, "left"⟩, start := 40 },
          { id := ⟨1, "right"⟩, start := 30 }] },
    { link := ⟨2, "yz"⟩ }]⟩

/-- Lanes of a link that is not there stop the strict mode alone.  Otherwise
each link is found under its id with what it is allocated, and without lanes
both modes give the same table. -/
theorem compute_tabulates_stray :
    compute (.built twoRoads) (some stray) CapacityTable.strictly =
      .error (.refused [.unknownLink ⟨2, "yz"⟩]) ∧
    (∃ t, compute (.built twoRoads) (some stray) {} = .ok t ∧ t.size = 2 ∧
      t.get? ⟨1, "out"⟩ = some (some
        { link := ⟨1, "out"⟩, flow := 1, space := 19
          trunk := ⟨60, 2, 12, 1⟩
          lanes :=
            [⟨⟨0, "left"⟩, ⟨40, 1, 4, 1 / 2⟩⟩,
              ⟨⟨1, "right"⟩, ⟨30, 1, 3, 1 / 2⟩⟩] }) ∧
      t.get? ⟨0, "ring"⟩ = some (some
        { link := ⟨0, "ring"⟩, flow := 1 / 2, space := 6
          trunk := ⟨60, 1, 6, 1 / 2⟩, lanes := [] }) ∧
      t.get? ⟨2, "yz"⟩ = none) ∧
    ∃ t, compute (.built twoRoads) none CapacityTable.strictly = .ok t ∧
      compute (.built twoRoads) none {} = .ok t := by
  obtain ⟨hstrict, -, -⟩ :=
    compute_tabulates twoRoads (some stray) CapacityTable.strictly
  obtain ⟨-, hok, -⟩ := compute_tabulates twoRoads (some stray) {}
  obtain ⟨-, hfree, -, hsame⟩ :=
    compute_tabulates twoRoads none CapacityTable.strictly
  refine ⟨?_, ?_, ?_⟩
  · have horder : stray.inOrder = stray.assignments :=
      List.mergeSort_of_pairwise (by decide)
    have hfound : findings (.built twoRoads) stray =
        some [.unknownLink ⟨2, "yz"⟩] := by
      rw [findings, horder]
      decide +kernel
    exact (hstrict _).2
      ⟨stray, rfl, by decide, by decide, hfound, List.cons_ne_nil _ _⟩
  · obtain ⟨t, ht, htable⟩ := hok fun ⟨_, _, _, _, hmode, _⟩ =>
      absurd hmode (by decide)
    have hout := htable.get?_eq_getElem? 0
      ⟨⟨1, "out"⟩, ⟨0, "a"⟩, ⟨0, "a"⟩, 100, 3600, 10, 2, 3600⟩
      (by decide +kernel)
    have hring := htable.get?_eq_getElem? 1
      ⟨⟨0, "ring"⟩, ⟨0, "a"⟩, ⟨0, "a"⟩, 60, 1800, 10, 1, 3600⟩
      (by decide +kernel)
    rw [htable.getElem?_results] at hout hring
    exact ⟨t, ht, htable.size_eq.trans (by decide +kernel),
      hout.trans (by decide +kernel), hring.trans (by decide +kernel),
      htable.get?_eq_none _ (by decide +kernel)⟩
  · obtain ⟨t, ht, -⟩ := hfree fun ⟨_, _, hlanes, _⟩ => nomatch hlanes
    exact ⟨t, ht, hsame {} t (by decide) (by decide) rfl ht⟩

end IndexedTable

end LaneFlow
