import Mathlib.Data.List.Nodup
import LaneFlow.Proofs.Queue.Creation

/-!
# Lanes and their queues

When the queues of a link are created, what is known of its lanes comes
together from two sides.  The capacities are allocated lane by lane, so they and
the queues are in the order of the lanes.  Where a queue leads is looked up by
the id of its lane, and the first lane of that id is the one that is found.

So each queue has the id and the capacities of its lane, and leads where the
first lane of its id leads.  This is where its own lane leads as long as all
lanes of one id lead to the same links, in particular if no two lanes have the
same id.  If two lanes of one id lead to different links, the later one is lost
as a way to its links (`twin_lanes_not_followed`).

## Main results

* `getElem?_ofCapacities` — the queue of a lane.
* `follows_ofCapacities_iff` — when the queues are those of the lanes.
* `queues_follow_lanes` — both, for the queues of a new link.
-/

namespace LaneFlow

variable {α : Type} [Quantity α]

/-- A queue has the id of a lane and the capacities that were allocated to it;
there is at least the room of the vehicles of one second. -/
structure Lane.Queued (lane : Lane α) (cap : LaneCapacity α)
    (l : LaneQueue α) : Prop where
  allocated : cap.lane = lane.id
  id : l.id = lane.id
  flow : l.flow.capacity = cap.segment.flow
  room : l.storage.max = Quantity.max cap.segment.storage cap.segment.flow

/-- All lanes of one id lead to the same links. -/
def LaneAssignment.LeadsById (a : LaneAssignment α) : Prop :=
  ∀ lane ∈ a.lanes, ∀ other ∈ a.lanes, lane.id.same other.id = true →
    ∀ target, lane.leadsTo target = other.leadsTo target

/-- The queues of a link are those of its lanes: there is one for each, in their
order, with its id and its capacities, and it leads where the lane leads. -/
structure LinkQueue.Follows (q : LinkQueue α) (a : LaneAssignment α)
    (c : LinkCapacity α) : Prop where
  length_eq : q.lanes.length = a.lanes.length
  lane : ∀ (i : Nat) (lane : Lane α), a.lanes[i]? = some lane →
    ∃ cap l, c.lanes[i]? = some cap ∧ q.lanes[i]? = some l ∧
      lane.Queued cap l ∧ ∀ target, l.leadsTo target = lane.leadsTo target

namespace LaneAssignment

variable {a : LaneAssignment α}

omit [Quantity α] in
/-- Some lane is the first of its id. -/
theorem exists_first {lane : Lane α} (h : lane ∈ a.lanes) :
    ∃ first, a.lanes.find? (·.id.same lane.id) = some first := by
  refine Option.isSome_iff_exists.1 (List.find?_isSome.2 ⟨lane, h, ?_⟩)
  exact lane.id.same_self

omit [Quantity α] in
theorem leadsById_of_nodup (h : (a.lanes.map (·.id.internal)).Nodup) :
    a.LeadsById := by
  intro lane hlane other hother hsame target
  have heq : lane = other :=
    List.inj_on_of_nodup_map h hlane hother (Id.same_iff.1 hsame)
  rw [heq]

end LaneAssignment

namespace LinkQueue

variable {link : Link α} {a : LaneAssignment α} {f : Factors α}
  {trunkId : Id .lane}

/-- Capacities that were allocated to a link are accepted for it. -/
theorem create_allocate (s : IdStore) (link : Link α)
    (a : Option (LaneAssignment α)) (f : Factors α) :
    ∃ trunkId s', create s link (link.allocate a f) a =
      .ok (ofCapacities link (link.allocate a f) a trunkId, s') := by
  have hsame : link.id.same (link.allocate a f).link = true := by simp
  exact ⟨_, _, if_pos hsame⟩

theorem length_lanes_ofCapacities :
    (ofCapacities link (link.allocate (some a) f) (some a)
      trunkId).lanes.length = a.lanes.length := by
  simp [ofCapacities, Link.allocate]

omit [Quantity α] in
theorem linksOf_eq {lane first : Lane α}
    (h : a.lanes.find? (·.id.same lane.id) = some first) :
    linksOf (some a) lane.id = first.toLinks := by
  simp [linksOf, h]

variable (link f trunkId) in
/-- The queue of a lane has its id and its capacities, and leads where the first
lane of that id leads. -/
theorem getElem?_ofCapacities {i : Nat} {lane : Lane α}
    (h : a.lanes[i]? = some lane) :
    ∃ cap l first, (link.allocate (some a) f).lanes[i]? = some cap ∧
      (ofCapacities link (link.allocate (some a) f) (some a)
        trunkId).lanes[i]? = some l ∧ lane.Queued cap l ∧
      a.lanes.find? (·.id.same lane.id) = some first ∧
      ∀ target, l.leadsTo target = first.leadsTo target := by
  obtain ⟨first, hfirst⟩ := a.exists_first (List.mem_of_getElem? h)
  have hcap : (link.allocate (some a) f).lanes[i]? =
      some (lane.allocate (f.flowCapacity link.capacity link.capacityPeriod)
        link.lanes f) := by
    simp [Link.allocate, h]
  have hl : (ofCapacities link (link.allocate (some a) f) (some a)
      trunkId).lanes[i]? = some (.ofSegment lane.id
        (lane.allocate (f.flowCapacity link.capacity link.capacityPeriod)
          link.lanes f).segment link.freespeed (linksOf (some a) lane.id)) := by
    rw [ofCapacities, List.getElem?_map, hcap]
    rfl
  have hlinks := linksOf_eq hfirst
  exact ⟨_, _, first, hcap, hl, ⟨rfl, rfl, rfl, rfl⟩, hfirst,
    fun target => congrArg target.isIn hlinks⟩

/-- The queues are those of the lanes if and only if all lanes of one id lead to
the same links. -/
theorem follows_ofCapacities_iff :
    (ofCapacities link (link.allocate (some a) f) (some a) trunkId).Follows a
      (link.allocate (some a) f) ↔ a.LeadsById := by
  constructor
  · -- a lane leads where its queue leads, and that is where the first lane of
    -- its id leads
    intro h
    have hfirst : ∀ lane ∈ a.lanes, ∀ first,
        a.lanes.find? (·.id.same lane.id) = some first →
          ∀ target, lane.leadsTo target = first.leadsTo target := by
      intro lane hlane first hfound target
      obtain ⟨i, hi⟩ := List.mem_iff_getElem?.1 hlane
      obtain ⟨_, l, _, hl, _, hleads⟩ := h.lane i lane hi
      obtain ⟨_, l', first', _, hl', _, hfound', hleads'⟩ :=
        getElem?_ofCapacities link f trunkId hi
      obtain rfl := Option.some.inj (hl.symm.trans hl')
      obtain rfl := Option.some.inj (hfound.symm.trans hfound')
      rw [← hleads, hleads']
    intro lane hlane other hother hsame target
    obtain ⟨first, hfound⟩ := a.exists_first hlane
    have hfound' : a.lanes.find? (·.id.same other.id) = some first := by
      rw [← hfound]
      congr 1
      funext k
      rw [Id.same, Id.same, Id.same_iff.1 hsame]
    rw [hfirst lane hlane first hfound, hfirst other hother first hfound']
  · intro h
    refine ⟨length_lanes_ofCapacities, fun i lane hi => ?_⟩
    obtain ⟨cap, l, first, hcap, hl, hqueued, hfound, hleads⟩ :=
      getElem?_ofCapacities link f trunkId hi
    refine ⟨cap, l, hcap, hl, hqueued, fun target => ?_⟩
    rw [hleads]
    exact h first (List.mem_of_find?_eq_some hfound) lane
      (List.mem_of_getElem? hi) (by simpa using List.find?_some hfound) target

/-- **Queues are those of the lanes, as far as ids tell lanes apart.**  Let the
queues of a link be created with the capacities that it is allocated with some
lanes.  Then there is one queue for each lane, in their order.  It has the id of
the lane and the capacities that were allocated to it, and leads where the first
lane of that id leads.  So the queues are those of the lanes if and only if all
lanes of one id lead to the same links, and in particular if no two lanes have
the same id. -/
theorem queues_follow_lanes (s : IdStore) (link : Link α)
    (a : LaneAssignment α) (f : Factors α) :
    ∃ q s', create s link (link.allocate (some a) f) (some a) = .ok (q, s') ∧
      q.lanes.length = a.lanes.length ∧
      (∀ (i : Nat) (lane : Lane α), a.lanes[i]? = some lane →
        ∃ cap l first, (link.allocate (some a) f).lanes[i]? = some cap ∧
          q.lanes[i]? = some l ∧ lane.Queued cap l ∧
          a.lanes.find? (·.id.same lane.id) = some first ∧
          ∀ target, l.leadsTo target = first.leadsTo target) ∧
      (q.Follows a (link.allocate (some a) f) ↔ a.LeadsById) ∧
      ((a.lanes.map (·.id.internal)).Nodup →
        q.Follows a (link.allocate (some a) f)) := by
  obtain ⟨trunkId, s', hq⟩ := create_allocate s link (some a) f
  exact ⟨_, s', hq, length_lanes_ofCapacities,
    fun i lane hi => getElem?_ofCapacities link f trunkId hi,
    follows_ofCapacities_iff,
    fun h => follows_ofCapacities_iff.2 (a.leadsById_of_nodup h)⟩

/-- The two lanes of the fork have ids of their own, and so their queues are
theirs: the right one leads to the link that follows. -/
theorem queues_follow_lanes_fork :
    (forkLanes.lanes.map (·.id.internal)).Nodup ∧
    ∃ q s', create {} forkLink forkCapacity (some forkLanes) = .ok (q, s') ∧
      q.Follows forkLanes forkCapacity ∧
      ∃ l, q.lanes[1]? = some l ∧ l.leadsTo ⟨1, "next"⟩ = true := by
  have hnodup : (forkLanes.lanes.map (·.id.internal)).Nodup := by decide
  obtain ⟨q, s', hq, -, hlanes, -, hfollows⟩ :=
    queues_follow_lanes {} forkLink forkLanes ⟨1, 1, 10⟩
  obtain ⟨_, l, first, -, hl, -, hfound, hleads⟩ := hlanes 1 _ rfl
  refine ⟨hnodup, q, s', hq, hfollows hnodup, l, hl, ?_⟩
  rw [hleads, ← Option.some.inj hfound]
  decide

/-- Two lanes of one id, of which the second one turns off. -/
def twinLanes : LaneAssignment Rat where
  link := ⟨0, "fork"⟩
  lanes :=
    [{ id := ⟨1, "left"⟩, start := 10, toLinks := [⟨1, "next"⟩] },
      { id := ⟨1, "left"⟩, start := 10, toLinks := [⟨2, "side"⟩] }]

/-- The second lane turns off, and its queue does not. -/
theorem twin_lanes_not_followed :
    ∃ q s', create {} forkLink (forkLink.allocate (some twinLanes) ⟨1, 1, 10⟩)
        (some twinLanes) = .ok (q, s') ∧
      twinLanes.lanes[1]?.map (·.leadsTo ⟨2, "side"⟩) = some true ∧
      q.lanes[1]?.map (·.leadsTo ⟨2, "side"⟩) = some false ∧
      ¬ q.Follows twinLanes
        (forkLink.allocate (some twinLanes) ⟨1, 1, 10⟩) := by
  obtain ⟨trunkId, s', hq⟩ :=
    create_allocate {} forkLink (some twinLanes) ⟨1, 1, 10⟩
  refine ⟨_, s', hq, by decide, rfl, fun h => ?_⟩
  have hleads := follows_ofCapacities_iff.1 h _ (List.mem_cons_self ..) _
    (List.mem_cons_of_mem _ (List.mem_cons_self ..)) rfl ⟨2, "side"⟩
  exact absurd hleads (by decide)

end LinkQueue

end LaneFlow
