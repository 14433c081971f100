import LaneFlow.Proofs.Capacity.IndexedTable
import LaneFlow.Proofs.IdIndex
import LaneFlow.Proofs.Scenario.LaneLoading

/-!
# Loading with indexes

A network file and a lane file are read record by record.  Each text is looked
up in a store or added to it, each node and each link is looked up in the
network that is being built or added to it, and all of them have places: in an
`IndexedStore` and in an `IndexedNetwork`.  Whatever leads out of a list on the
way stops the loading.

Nothing does.  Read with places and without, the same files are refused with the
same faults or give the same network and lanes, step by step (`Follows`).

## Main results

* `Follows.bind` — two steps go together if each of them does.
* `follows_toNetwork`, `follows_toLanes` — a network file and a lane file are
  read as they are without places.
* `capacitiesOf` — all three steps, from two files to a table with places.
-/

namespace LaneFlow

/-- The same with another fault. -/
def Halt.map {φ ψ : Type} (f : φ → ψ) : Halt φ → Halt ψ
  | .refused fault => .refused (f fault)
  | .astray => .astray

/-- A computation with places ends as one without them: with the same fault, or
with results that belong together. -/
inductive Follows {φ β γ : Type} (R : β → γ → Prop) :
    Except (Halt φ) β → Except φ γ → Prop
  | ok {b : β} {c : γ} (h : R b c) : Follows R (.ok b) (.ok c)
  | refused (fault : φ) : Follows R (.error (.refused fault)) (.error fault)

/-- Two steps go together if each of them does. -/
theorem Follows.bind {φ β γ β' γ' : Type} {R : β → γ → Prop}
    {S : β' → γ' → Prop} {x : Except (Halt φ) β} {y : Except φ γ}
    (hx : Follows R x y) {k : β → Except (Halt φ) β'} {l : γ → Except φ γ'}
    (hk : ∀ b c, R b c → Follows S (k b) (l c)) :
    Follows S (x >>= k) (y >>= l) := by
  cases hx with
  | ok h => exact hk _ _ h
  | refused fault => exact .refused fault

section Follows

variable {φ β γ : Type} {R : β → γ → Prop} {x : Except (Halt φ) β}

theorem Follows.of_ok {c : γ} (h : Follows R x (.ok c)) :
    ∃ b, x = .ok b ∧ R b c := by
  cases h with
  | ok h => exact ⟨_, rfl, h⟩

theorem Follows.exists_of_ok {b : β} {y : Except φ γ}
    (h : Follows R (.ok b) y) : ∃ c, y = .ok c ∧ R b c := by
  cases h with
  | ok h => exact ⟨_, rfl, h⟩

theorem Follows.of_error {fault : φ} (h : Follows R x (.error fault)) :
    x = .error (.refused fault) := by
  cases h with
  | refused => rfl

end Follows

namespace IndexedStore

/-- The store after several creations, each of a text of some kind. -/
def after (created : List (IdKind × String)) : IndexedStore :=
  created.foldl (fun i c => (i.create c.1.code c.2).2) {}

/-- Gives a text its id. -/
def give (i : IndexedStore) (kind : IdKind) (x : String) :
    Except (Halt ScenarioFault) (Id kind × IndexedStore) :=
  match i.create kind.code x with
  | (some e, i) => .ok (⟨e.internal, e.external⟩, i)
  | (none, _) => .error .astray

/-- The id of a text that must be the id of something. -/
def refer {kind : IdKind} {β : Type} (i : IndexedStore)
    (find : Id kind → Option (Option β)) (fault : ScenarioFault) (x : String) :
    Except (Halt ScenarioFault) (Id kind) :=
  match i.find? kind x with
  | none => .error (.refused fault)
  | some (.error _) => .error .astray
  | some (.ok id) =>
    match find id with
    | none => .error (.refused fault)
    | some none => .error .astray
    | some (some _) => .ok id

end IndexedStore

namespace IndexedLoading

variable {α : Type}

/-! ## Reading with places -/

/-- The network that a step leaves, unless it is stopped. -/
def taken (x : NetworkChange α) :
    Except (Halt ScenarioFault) (IndexedNetwork α) :=
  match x with
  | (n, none) => .ok n
  | (_, some stop) => .error (stop.map fun fault => .refused (.network fault))

/-- Adds the nodes of a file to a network. -/
def addNodes (n : IndexedNetwork α) (i : IndexedStore) :
    List (NodeRecord α) →
      Except (Halt ScenarioFault) (IndexedNetwork α × IndexedStore)
  | [] => .ok (n, i)
  | r :: rest => do
    let (id, i) ← i.give .node r.id
    let n ← taken (n.addNode { id, x := r.x, y := r.y })
    addNodes n i rest

/-- Adds one link of a file to a network. -/
def addLink (period : α) (n : IndexedNetwork α) (i : IndexedStore)
    (r : LinkRecord α) :
    Except (Halt ScenarioFault) (IndexedNetwork α × IndexedStore) := do
  let missing := fun node => .unknownReference .node node s!"link {r.id}"
  let source ← i.refer n.node? (missing r.source) r.source
  let target ← i.refer n.node? (missing r.target) r.target
  let (id, i) ← i.give .link r.id
  let n ← taken (n.addLink
    ⟨id, source, target, r.length, r.capacity, r.freespeed, r.lanes, period⟩)
  return (n, i)

/-- Adds the links of a file to a network. -/
def addLinks (period : α) (n : IndexedNetwork α) (i : IndexedStore) :
    List (LinkRecord α) →
      Except (Halt ScenarioFault) (IndexedNetwork α × IndexedStore)
  | [] => .ok (n, i)
  | r :: rest => do
    let (n, i) ← addLink period n i r
    addLinks period n i rest

/-- The network of a file, with ids for all its texts. -/
def toNetwork (f : NetworkFile α) (i : IndexedStore) :
    Except (Halt ScenarioFault) (IndexedNetwork α × IndexedStore) := do
  let empty := { capacityPeriod := f.capacityPeriod, cellSize := f.cellSize }
  let (n, i) ← addNodes empty i f.nodes
  addLinks f.capacityPeriod n i f.links

/-- The ids of the lanes that a lane leads to, all of which must be in the same
assignment. -/
def lanesOf (a : AssignmentRecord α) (r : LaneRecord α) (i : IndexedStore) :
    List String → Except (Halt ScenarioFault) (List (Id .lane) × IndexedStore)
  | [] => .ok ([], i)
  | lane :: rest =>
    if a.lanes.any (·.id == lane) then do
      let (id, i) ← i.give .lane lane
      let (ids, i) ← lanesOf a r i rest
      return (id :: ids, i)
    else
      .error (.refused (.unknownReference .lane lane (LaneFile.laneName a r)))

/-- The ids of the links that a lane leads to, all of which must be in the
network. -/
def linksOf (n : IndexedNetwork α) (a : AssignmentRecord α) (r : LaneRecord α)
    (i : IndexedStore) :
    List String → Except (Halt ScenarioFault) (List (Id .link))
  | [] => .ok []
  | link :: rest => do
    let id ← i.refer n.link?
      (.unknownReference .link link (LaneFile.laneName a r)) link
    let ids ← linksOf n a r i rest
    return id :: ids

/-- The lane of a record. -/
def toLane (n : IndexedNetwork α) (a : AssignmentRecord α) (r : LaneRecord α)
    (i : IndexedStore) :
    Except (Halt ScenarioFault) (Lane α × IndexedStore) := do
  let (toLanes, i) ← lanesOf a r i r.toLanes
  let toLinks ← linksOf n a r i r.toLinks
  let (id, i) ← i.give .lane r.id
  return (⟨id, r.start, r.represented, r.capacity, toLanes, toLinks⟩, i)

/-- Adds the lanes of a record to an assignment. -/
def addLanes (n : IndexedNetwork α) (a : AssignmentRecord α)
    (result : LaneAssignment α) (i : IndexedStore) :
    List (LaneRecord α) →
      Except (Halt ScenarioFault) (LaneAssignment α × IndexedStore)
  | [] => .ok (result, i)
  | r :: rest => do
    let (lane, i) ← toLane n a r i
    let result ← (LaneFile.place a.link result lane).mapError .refused
    addLanes n a result i rest

/-- Adds the assignments of a file to a registry. -/
def addAssignments (n : IndexedNetwork α) (registry : LaneRegistry α)
    (i : IndexedStore) :
    List (AssignmentRecord α) →
      Except (Halt ScenarioFault) (LaneRegistry α × IndexedStore)
  | [] => .ok (registry, i)
  | a :: rest => do
    let (link, i) ← i.give .link a.link
    if (registry.get? link).isSome then
      throw (.refused (.lanesTwice a.link))
    let (result, i) ← addLanes n a { link } i a.lanes
    match registry.add result with
    | .ok registry => addAssignments n registry i rest
    | .error fault => throw (.refused (.refused (.lanes fault)))

/-- The lanes of a file, for a network. -/
def toLanes (f : LaneFile α) (n : IndexedNetwork α) (i : IndexedStore) :
    Except (Halt ScenarioFault) (LaneRegistry α × IndexedStore) :=
  addAssignments n {} i f.assignments

/-- The lanes of a lane file, if there is one. -/
def toLanes? (lanes : Option (LaneFile α)) (n : IndexedNetwork α)
    (i : IndexedStore) :
    Except (Halt ScenarioFault) (Option (LaneRegistry α) × IndexedStore) :=
  match lanes with
  | none => .ok (none, i)
  | some f => (toLanes f n i).map fun r => (some r.1, r.2)

/-! ## Stores -/

/-- A store with places holds the distinct texts of one without them. -/
structure Holds (i : IndexedStore) (s : IdStore) : Prop where
  mirrors : i.Mirrors s
  distinct : s.Distinct

variable {i : IndexedStore} {s : IdStore}

/-- Creations go together. -/
theorem holds_after (created : List (IdKind × String)) :
    Holds (.after created) (.after created) := by
  have hfrom : ∀ {i : IndexedStore} {s : IdStore}, Holds i s →
      Holds (created.foldl (fun i c => (i.create c.1.code c.2).2) i)
        (created.foldl (fun s c => (s.create c.1 c.2).2) s) := by
    induction created with
    | nil => exact fun h => h
    | cons c created ih =>
        exact fun h => ih ⟨(h.mirrors.create h.distinct c.1 c.2).2,
          IdStore.distinct_create h.distinct c.1 c.2⟩
  exact hfrom ⟨IndexedStore.mirrors_empty, IdStore.distinct_after []⟩

/-- A text is given the same id. -/
theorem Holds.give (h : Holds i s) (kind : IdKind) (x : String) :
    ∃ j, i.give kind x = .ok ((s.create kind x).1, j) ∧
      Holds j (s.create kind x).2 := by
  obtain ⟨hentry, hmirrors⟩ := h.mirrors.create h.distinct kind x
  refine ⟨(i.create kind.code x).2, ?_, hmirrors,
    IdStore.distinct_create h.distinct kind x⟩
  rw [IndexedStore.give]
  generalize i.create kind.code x = out at hentry
  obtain ⟨entry, j⟩ := out
  obtain rfl : entry = _ := hentry
  rfl

/-- A text refers to the same thing. -/
theorem Holds.refer (h : Holds i s) {kind : IdKind} {β : Type}
    {find : Id kind → Option (Option β)} {find' : Id kind → Option β}
    (hfind : ∀ id, find id = (find' id).map some) (fault : ScenarioFault)
    (x : String) :
    i.refer find fault x =
      match (s.find? kind x).filter fun id => (find' id).isSome with
      | some id => .ok id
      | none => .error (.refused fault) := by
  rw [IndexedStore.refer, h.mirrors.find?_eq h.distinct]
  cases s.find? kind x with
  | none => rfl
  | some id =>
      rw [Option.map_some]
      simp only [hfind]
      cases hid : find' id <;> simp [Option.filter_some, hid]

/-! ## Networks -/

/-- A network and a store with places hold what a network and a store without
them do. -/
structure Loads (p : IndexedNetwork α × IndexedStore)
    (q : Network α × IdStore) : Prop where
  right : p.1.Right
  plain_eq : p.1.plain = q.1
  store : Holds p.2 q.2

variable {n : IndexedNetwork α}

/-- The network that a change leaves, unless it is refused. -/
def accepted (out : Network α × Option NetworkFault) :
    Except ScenarioFault (Network α) :=
  match out with
  | (m, none) => .ok m
  | (_, some fault) => .error (.refused (.network fault))

theorem follows_taken {x : NetworkChange α}
    {out : Network α × Option NetworkFault} (h : IndexedNetwork.Leaves x out) :
    Follows (fun n m => n.Right ∧ n.plain = m) (taken x) (accepted out) := by
  obtain ⟨n, stop⟩ := x
  obtain ⟨m, fault⟩ := out
  obtain rfl : n.plain = m := h.plain_eq
  obtain rfl : stop = fault.map .refused := h.stop_eq
  cases fault with
  | none => exact .ok ⟨h.right, rfl⟩
  | some fault => exact .refused _

theorem addNodes_cons (m : Network α) (s : IdStore) (r : NodeRecord α)
    (rs : List (NodeRecord α)) :
    NetworkFile.addNodes m s (r :: rs) =
      accepted (m.addNode { id := (s.create .node r.id).1, x := r.x, y := r.y })
        >>= fun m => NetworkFile.addNodes m (s.create .node r.id).2 rs := by
  rw [NetworkFile.addNodes]
  obtain ⟨id, t⟩ := s.create .node r.id
  dsimp only
  generalize m.addNode _ = out
  obtain ⟨k, fault⟩ := out
  cases fault <;> rfl

theorem follows_addNodes (hn : n.Right) (hi : Holds i s)
    (rs : List (NodeRecord α)) :
    Follows Loads (addNodes n i rs) (NetworkFile.addNodes n.plain s rs) := by
  induction rs generalizing n i s with
  | nil => exact .ok ⟨hn, rfl, hi⟩
  | cons r rs ih =>
      obtain ⟨j, hgive, hj⟩ := hi.give .node r.id
      rw [addNodes, hgive, addNodes_cons]
      refine (follows_taken (hn.addNode _)).bind ?_
      rintro m _ ⟨hm, rfl⟩
      exact ih hm hj

theorem follows_endOf (hn : n.Right) (hi : Holds i s) (link node : String) :
    Follows (fun a b => a = b)
      (i.refer n.node? (.unknownReference .node node s!"link {link}") node)
      (NetworkFile.endOf n.plain s link node) := by
  rw [hi.refer hn.node?_eq, NetworkFile.endOf]
  cases (s.find? .node node).filter fun id => (n.plain.node? id).isSome with
  | none => exact .refused _
  | some id => exact .ok rfl

theorem addLink_eq (period : α) (m : Network α) (s : IdStore)
    (r : LinkRecord α) :
    NetworkFile.addLink period m s r =
      NetworkFile.endOf m s r.id r.source >>= fun source =>
      NetworkFile.endOf m s r.id r.target >>= fun target =>
      accepted (m.addLink ⟨(s.create .link r.id).1, source, target, r.length,
        r.capacity, r.freespeed, r.lanes, period⟩) >>= fun m =>
      .ok (m, (s.create .link r.id).2) := by
  rw [NetworkFile.addLink]
  refine congrArg _ (funext fun source => congrArg _ (funext fun target => ?_))
  dsimp only
  generalize m.addLink _ = out
  obtain ⟨k, fault⟩ := out
  cases fault <;> rfl

theorem follows_addLink (hn : n.Right) (hi : Holds i s) (period : α)
    (r : LinkRecord α) :
    Follows Loads (addLink period n i r)
      (NetworkFile.addLink period n.plain s r) := by
  rw [addLink_eq]
  refine (follows_endOf hn hi r.id r.source).bind ?_
  rintro source _ rfl
  refine (follows_endOf hn hi r.id r.target).bind ?_
  rintro target _ rfl
  obtain ⟨j, hgive, hj⟩ := hi.give .link r.id
  rw [hgive]
  refine (follows_taken (hn.addLink _)).bind ?_
  rintro m _ ⟨hm, rfl⟩
  exact .ok ⟨hm, rfl, hj⟩

theorem follows_addLinks (hn : n.Right) (hi : Holds i s) (period : α)
    (rs : List (LinkRecord α)) :
    Follows Loads (addLinks period n i rs)
      (NetworkFile.addLinks period n.plain s rs) := by
  induction rs generalizing n i s with
  | nil => exact .ok ⟨hn, rfl, hi⟩
  | cons r rs ih =>
      rw [NetworkFile.addLinks_cons]
      refine (follows_addLink hn hi period r).bind ?_
      rintro ⟨m, j⟩ ⟨_, t⟩ ⟨hm, rfl, hj⟩
      exact ih hm hj

/-- A network file is read as it is without places. -/
theorem follows_toNetwork (hi : Holds i s) (f : NetworkFile α) :
    Follows Loads (toNetwork f i) (f.toNetwork s) := by
  have hbind : f.toNetwork s =
      NetworkFile.addNodes ⟨[], [], f.capacityPeriod, f.cellSize⟩ s f.nodes
        >>= fun p => NetworkFile.addLinks f.capacityPeriod p.1 p.2 f.links := by
    rw [NetworkFile.toNetwork]
    cases NetworkFile.addNodes _ s f.nodes <;> rfl
  let empty : IndexedNetwork α :=
    { capacityPeriod := f.capacityPeriod, cellSize := f.cellSize }
  have hempty : empty.Right := ⟨Indexed.right_empty _, Indexed.right_empty _⟩
  rw [hbind]
  refine (follows_addNodes hempty hi f.nodes).bind ?_
  rintro ⟨n, j⟩ ⟨_, t⟩ ⟨hn, rfl, hj⟩
  exact follows_addLinks hn hj f.capacityPeriod f.links

/-! ## Lanes -/

/-- The same is read, with a store that holds the same. -/
def SameRead {β : Type} (p : β × IndexedStore) (q : β × IdStore) : Prop :=
  p.1 = q.1 ∧ Holds p.2 q.2

theorem follows_lanesOf (hi : Holds i s) (a : AssignmentRecord α)
    (r : LaneRecord α) (names : List String) :
    Follows SameRead (lanesOf a r i names) (LaneFile.lanesOf a r s names) := by
  induction names generalizing i s with
  | nil => exact .ok ⟨rfl, hi⟩
  | cons name names ih =>
      have hany : a.lanes.any (·.id == name) = true ↔
          name ∈ a.lanes.map (·.id) := by simp
      simp only [lanesOf, LaneFile.lanesOf_cons, hany]
      split
      · obtain ⟨j, hgive, hj⟩ := hi.give .lane name
        rw [hgive, map_eq_bind_ok]
        refine (ih hj).bind ?_
        rintro ⟨ids, k⟩ ⟨_, t⟩ ⟨rfl, hk⟩
        exact .ok ⟨rfl, hk⟩
      · exact .refused _

theorem follows_linksOf (hn : n.Right) (hi : Holds i s) (a : AssignmentRecord α)
    (r : LaneRecord α) (names : List String) :
    Follows (fun xs ys => xs = ys) (linksOf n a r i names)
      (LaneFile.linksOf n.plain a r s names) := by
  induction names with
  | nil => exact .ok rfl
  | cons name names ih =>
      rw [linksOf, LaneFile.linksOf, hi.refer hn.link?_eq]
      cases (s.find? .link name).filter fun id => (n.plain.link? id).isSome with
      | none => exact .refused _
      | some id =>
          dsimp only
          rw [map_eq_bind_ok]
          refine ih.bind ?_
          rintro ids _ rfl
          exact .ok rfl

theorem follows_toLane (hn : n.Right) (hi : Holds i s) (a : AssignmentRecord α)
    (r : LaneRecord α) :
    Follows SameRead (toLane n a r i) (LaneFile.toLane n.plain a r s) := by
  refine (follows_lanesOf hi a r r.toLanes).bind ?_
  rintro ⟨toLanes, j⟩ ⟨_, t⟩ ⟨rfl, hj⟩
  refine (follows_linksOf hn hj a r r.toLinks).bind ?_
  rintro toLinks _ rfl
  obtain ⟨k, hgive, hk⟩ := hj.give .lane r.id
  simp only [hgive]
  exact .ok ⟨rfl, hk⟩

theorem follows_addLanes (hn : n.Right) (hi : Holds i s)
    (a : AssignmentRecord α) (result : LaneAssignment α)
    (rs : List (LaneRecord α)) :
    Follows SameRead (addLanes n a result i rs)
      (LaneFile.addLanes n.plain a result s rs) := by
  induction rs generalizing i s result with
  | nil => exact .ok ⟨rfl, hi⟩
  | cons r rs ih =>
      refine (follows_toLane hn hi a r).bind ?_
      rintro ⟨lane, j⟩ ⟨_, t⟩ ⟨rfl, hj⟩
      dsimp only
      cases LaneFile.place a.link result lane with
      | error fault => exact .refused fault
      | ok placed => exact ih hj placed

theorem follows_addAssignments (hn : n.Right) (hi : Holds i s)
    (registry : LaneRegistry α) (as : List (AssignmentRecord α)) :
    Follows SameRead (addAssignments n registry i as)
      (LaneFile.addAssignments n.plain registry s as) := by
  induction as generalizing i s registry with
  | nil => exact .ok ⟨rfl, hi⟩
  | cons a as ih =>
      obtain ⟨j, hgive, hj⟩ := hi.give .link a.link
      rw [addAssignments, LaneFile.addAssignments, hgive]
      generalize s.create .link a.link = p at hj ⊢
      obtain ⟨link, t⟩ := p
      change Follows _ (if (registry.get? link).isSome then _ else _)
        (if (registry.get? link).isSome then _ else _)
      split
      · exact .refused _
      · refine (follows_addLanes hn hj a { link } a.lanes).bind ?_
        rintro ⟨result, k⟩ ⟨_, u⟩ ⟨rfl, hk⟩
        dsimp only
        cases registry.add result with
        | ok registry => exact ih hk registry
        | error fault => exact .refused _

/-- A lane file is read as it is without places. -/
theorem follows_toLanes (hn : n.Right) (hi : Holds i s) (f : LaneFile α) :
    Follows SameRead (toLanes f n i) (f.toLanes n.plain s) :=
  follows_addAssignments hn hi {} f.assignments

theorem follows_toLanes? (hn : n.Right) (hi : Holds i s)
    (lanes : Option (LaneFile α)) :
    Follows SameRead (toLanes? lanes n i)
      (LaneFile.toLanes? lanes n.plain s) := by
  cases lanes with
  | none => exact .ok ⟨rfl, hi⟩
  | some f =>
      rw [toLanes?, LaneFile.toLanes?, map_eq_bind_ok, map_eq_bind_ok]
      refine (follows_toLanes hn hi f).bind ?_
      rintro ⟨registry, j⟩ ⟨_, t⟩ ⟨rfl, hj⟩
      exact .ok ⟨rfl, hj⟩

end IndexedLoading

/-! ## From files to capacities -/

/-- A stop as a refusal. -/
def Halt.refusal {φ ψ : Type} (f : φ → Refusal ψ) : Halt φ → Refusal ψ
  | .refused fault => f fault
  | .astray => .astray

variable {α : Type}

/-- The capacities of the links of a network file, with the lanes of a lane
file if there is one. -/
def capacitiesOf [Quantity α] (network : NetworkFile α)
    (lanes : Option (LaneFile α)) (config : Config α) (i : IndexedStore) :
    Except (Refusal (Finding α)) (IndexedTable α) := do
  let (n, i) ← (IndexedLoading.toNetwork network i).mapError
    (Halt.refusal .contents)
  let (registry, _) ← (IndexedLoading.toLanes? lanes n i).mapError
    (Halt.refusal .contents)
  (IndexedTable.compute n registry config).mapError (Halt.refusal .lanes)

/-- The outcome without its ids. -/
def outcome (x : Except (Refusal (Finding α)) (IndexedTable α)) :
    NamedOutcome α :=
  match x with
  | .ok table => .ok (table.results.items.map (·.named))
  | .error refusal => .error refusal.named

end LaneFlow
