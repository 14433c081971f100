import LaneFlow.Proofs.Queue.Diary

/-!
# New queues and what a run makes of them

The queues of a link are created empty, each on its segment of the capacities
of the link.  A run changes what stands in them, what is left of the flow
budget and the storage in use, but never the segment.

## Main results

* `at?_create` — the queue at a place of a new link.
* `exists_segment_of_run` — the queue at a place after a run stands on the
  segment it was created for.
-/

namespace LaneFlow

/-- The segment at a place of a link. -/
def LinkCapacity.segment? {α : Type} (c : LinkCapacity α) :
    Place → Option (Segment α)
  | .trunk => some c.trunk
  | .lane i => c.lanes[i]?.map (·.segment)

namespace LinkQueue

open LaneQueue (SameSegment)

variable {α : Type} [Quantity α]
variable {s s' : IdStore} {link : Link α} {c : LinkCapacity α}
  {a : Option (LaneAssignment α)} {q : LinkQueue α}

theorem create_eq_ok (h : create s link c a = .ok (q, s')) :
    link.id.same c.link ∧ ∃ trunkId, q = ofCapacities link c a trunkId := by
  unfold create at h
  split at h
  · rename_i hsame
    cases h
    exact ⟨hsame, _, rfl⟩
  · cases h

/-- A new queue is an empty one on its segment. -/
theorem at?_create (h : create s link c a = .ok (q, s')) {p : Place}
    {l : LaneQueue α} (hl : q.at? p = some l) :
    ∃ seg, c.segment? p = some seg ∧
      l = .ofSegment l.id seg link.freespeed l.toLinks := by
  obtain ⟨_, trunkId, rfl⟩ := create_eq_ok h
  cases p with
  | trunk =>
      obtain rfl := Option.some.inj hl
      exact ⟨c.trunk, rfl, rfl⟩
  | lane i =>
      simp only [at?, ofCapacities, List.getElem?_map] at hl
      obtain ⟨k, hk, rfl⟩ := Option.map_eq_some_iff.1 hl
      exact ⟨k.segment, by simp [LinkCapacity.segment?, hk], rfl⟩

/-- Every queue has been there from the start. -/
theorem exists_at?_of_run {p : Place} {l : LaneQueue α} {ops : List (Op α)}
    (hl : (q.run ops).at? p = some l) :
    ∃ l₀, q.at? p = some l₀ ∧ l = l₀.perform (q.diary p ops) := by
  rw [at?_run] at hl
  obtain ⟨l₀, hl₀, rfl⟩ := Option.map_eq_some_iff.1 hl
  exact ⟨l₀, hl₀, rfl⟩

/-- A queue stays on the segment that it was created for. -/
theorem exists_segment_of_run (h : create s link c a = .ok (q, s'))
    {p : Place} {l : LaneQueue α} {ops : List (Op α)}
    (hl : (q.run ops).at? p = some l) :
    ∃ seg, c.segment? p = some seg ∧
      SameSegment (.ofSegment l.id seg link.freespeed l.toLinks) l := by
  obtain ⟨l₀, hl₀, rfl⟩ := exists_at?_of_run hl
  obtain ⟨seg, hseg, heq⟩ := at?_create h hl₀
  have hsame := LaneQueue.sameSegment_perform l₀ (q.diary p ops)
  refine ⟨seg, hseg, ?_⟩
  rw [← hsame.id, ← hsame.toLinks, ← heq]
  exact hsame

/-! ## A link to look at

The cases that accompany the theorems on runs are all about one link: 30 m with
two lanes on its last 10 m, both of which lead to the link that follows.
-/

/-- A link that splits into two lanes. -/
def forkLink : Link Rat where
  id := ⟨0, "fork"⟩
  source := ⟨0, "from"⟩
  target := ⟨1, "to"⟩
  length := 30
  capacity := 3600
  freespeed := 10
  lanes := 1
  capacityPeriod := 3600

/-- The lanes of the link that splits. -/
def forkLanes : LaneAssignment Rat where
  link := ⟨0, "fork"⟩
  trunk := some { id := ⟨0, "trunk"⟩, start := 30 }
  lanes :=
    [{ id := ⟨1, "left"⟩, start := 10, toLinks := [⟨1, "next"⟩] },
      { id := ⟨2, "right"⟩, start := 10, toLinks := [⟨1, "next"⟩] }]

/-- The capacities of the link that splits. -/
def forkCapacity : LinkCapacity Rat :=
  forkLink.allocate (some forkLanes) ⟨1, 1, 10⟩

/-- The empty queues of the link that splits. -/
def forkQueue : LinkQueue Rat :=
  ofCapacities forkLink forkCapacity (some forkLanes) ⟨0, "trunk"⟩

theorem create_fork :
    create {} forkLink forkCapacity (some forkLanes) = .ok (forkQueue, {}) :=
  rfl

/-- A vehicle that wants to go on to the link that follows. -/
def forkVehicle (n : Nat) : Vehicle Rat where
  id := ⟨n, "vehicle"⟩
  size := 1
  maxSpeed := 10
  route := [⟨0, "fork"⟩, ⟨1, "next"⟩]

/-- Two vehicles enter, move into different lanes, and one of them leaves. -/
def forkOps : List (Op Rat) :=
  [.push (forkVehicle 1) 0, .push (forkVehicle 2) 0, .refill 2, .move 2,
    .refill 3, .move 3, .pop (.lane 0), .pop (.lane 5), .settle]

end LinkQueue

end LaneFlow
