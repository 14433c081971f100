import Mathlib
import LaneFlow.Proofs.Quantities
import LaneFlow.Proofs.Queue.Creation
import LaneFlow.Proofs.Queue.Sizes

/-!
# The room of a link

The room of a link is counted twice: when its capacities are allocated, as the
storage of its segments, and by its queues, each of which makes room for at
least the vehicles of one second.  The queues never change their mind, whatever
is done with them.  So the two counts agree for good unless the flow of some
segment exceeds its storage, and with exact numbers the queues never have less.

## Main results

* `limits_at?_run` — no run changes what a queue can hold and let through.
* `space_run_eq` — the room of a link after any run.
* `LinkCapacity.queueRoom_eq_space` — where both counts agree.
* `room_is_kept` — all of this.
-/

namespace LaneFlow

variable {α : Type} [Quantity α]

/-! ## Segments -/

/-- What a queue holds on a segment: its storage, or the vehicles of one second
if these are more. -/
def Segment.queueRoom (s : Segment α) : α := Quantity.max s.storage s.flow

/-- The flow of a segment does not exceed its storage. -/
def Segment.HoldsFlow (s : Segment α) : Prop := Quantity.le s.flow s.storage = true

instance (s : Segment α) : Decidable s.HoldsFlow :=
  inferInstanceAs (Decidable (_ = true))

namespace LinkCapacity

/-- The room that queues make on the segments of a link. -/
def queueRoom (c : LinkCapacity α) : α :=
  c.trunk.queueRoom + Quantity.sum (c.lanes.map (·.segment.queueRoom))

/-- The storage of a link is that of its segments. -/
theorem space_allocate_eq [Quantity.Regular α] (link : Link α)
    (lanes : Option (LaneAssignment α)) (f : Factors α) :
    (link.allocate lanes f).space = (link.allocate lanes f).trunk.storage +
      Quantity.sum ((link.allocate lanes f).lanes.map (·.segment.storage)) := by
  cases lanes with
  | none => exact (Quantity.Regular.add_sumStart _).symm
  | some a => rfl

omit [Quantity α] in
theorem exists_place_of_mem {c : LinkCapacity α} {l : LaneCapacity α}
    (h : l ∈ c.lanes) : ∃ p, c.segment? p = some l.segment := by
  obtain ⟨i, hi⟩ := List.mem_iff_getElem?.1 h
  exact ⟨.lane i, by rw [segment?, hi, Option.map_some]⟩

/-- If no flow exceeds the storage of its segment, the queues make the room that
was allocated. -/
theorem queueRoom_eq_space [Quantity.Regular α] (link : Link α)
    (lanes : Option (LaneAssignment α)) (f : Factors α)
    (h : ∀ p seg, (link.allocate lanes f).segment? p = some seg → seg.HoldsFlow) :
    (link.allocate lanes f).queueRoom = (link.allocate lanes f).space := by
  have hroom : ∀ p seg, (link.allocate lanes f).segment? p = some seg →
      seg.queueRoom = seg.storage :=
    fun p seg hseg => Quantity.Regular.max_of_le (h p seg hseg)
  have hlanes : (link.allocate lanes f).lanes.map (·.segment.queueRoom) =
      (link.allocate lanes f).lanes.map (·.segment.storage) := by
    refine List.map_congr_left fun l hl => ?_
    obtain ⟨p, hp⟩ := exists_place_of_mem hl
    exact hroom p _ hp
  rw [queueRoom, space_allocate_eq, hroom .trunk _ rfl, hlanes]

/-- With exact numbers the queues never make less room than was allocated. -/
theorem space_le_queueRoom (link : Link Rat) (lanes : Option (LaneAssignment Rat))
    (f : Factors Rat) :
    (link.allocate lanes f).space ≤ (link.allocate lanes f).queueRoom := by
  have hroom : ∀ s : Segment Rat, s.storage ≤ s.queueRoom := by
    intro s
    rw [Segment.queueRoom, Quantity.rat_max]
    split
    · rename_i hlt
      exact hlt.le
    · exact le_rfl
  rw [queueRoom, space_allocate_eq, Quantity.sum_rat, Quantity.sum_rat]
  exact add_le_add (hroom _) (List.sum_le_sum fun l _ => hroom l.segment)

end LinkCapacity

/-! ## Queues -/

/-- What a queue can hold, and what it lets through in a second. -/
def LaneQueue.limits {α : Type} (l : LaneQueue α) : α × α :=
  (l.storage.max, l.flow.capacity)

namespace LinkQueue

/-- The queues are new ones for some capacities, which were allocated to a
link. -/
def CreatedFor (q : LinkQueue α) (c : LinkCapacity α) : Prop :=
  ∃ (link road : Link α) (lanes declared : Option (LaneAssignment α))
    (f : Factors α) (s s' : IdStore),
    c = link.allocate lanes f ∧ create s road c declared = .ok (q, s')

variable {q : LinkQueue α} {c : LinkCapacity α}

/-- A new queue has the room and the flow of its segment. -/
theorem CreatedFor.limits_at? (h : q.CreatedFor c) (p : Place) :
    (q.at? p).map (·.limits) = (c.segment? p).map fun s => (s.queueRoom, s.flow) := by
  obtain ⟨link, road, lanes, declared, f, s, s', -, hcreate⟩ := h
  obtain ⟨-, trunkId, rfl⟩ := create_eq_ok hcreate
  cases p with
  | trunk => rfl
  | lane i =>
      simp only [at?, ofCapacities, LinkCapacity.segment?, List.getElem?_map,
        Option.map_map]
      rfl

/-- No run changes what a queue can hold and let through. -/
theorem limits_at?_run (q : LinkQueue α) (ops : List (Op α)) (p : Place) :
    ((q.run ops).at? p).map (·.limits) = (q.at? p).map (·.limits) := by
  rw [at?_run, Option.map_map]
  congr 1
  funext l
  have hsame := LaneQueue.sameSegment_perform l (q.diary p ops)
  exact Prod.ext hsame.room.symm hsame.capacity.symm

/-- The room of a link is told by what its queues can hold. -/
theorem space_congr {r : LinkQueue α}
    (h : ∀ p, (r.at? p).map (·.limits) = (c.segment? p).map fun s => (s.queueRoom, s.flow)) :
    r.space = c.queueRoom := by
  have hmax : ∀ p, (r.at? p).map (·.storage.max) = (c.segment? p).map (·.queueRoom) := by
    intro p
    have hfirst := congrArg (Option.map Prod.fst) (h p)
    rwa [Option.map_map, Option.map_map] at hfirst
  have htrunk : r.trunk.storage.max = c.trunk.queueRoom := Option.some.inj (hmax .trunk)
  have hlanes : r.lanes.map (·.storage.max) = c.lanes.map (·.segment.queueRoom) := by
    refine List.ext_getElem? fun i => ?_
    have hlane := hmax (.lane i)
    simp only [at?, LinkCapacity.segment?, Option.map_map] at hlane
    rw [List.getElem?_map, List.getElem?_map]
    exact hlane
  rw [space, LinkCapacity.queueRoom, htrunk, hlanes]

/-- The room of a link after any run. -/
theorem CreatedFor.space_run_eq (h : q.CreatedFor c) (ops : List (Op α)) :
    (q.run ops).space = c.queueRoom :=
  space_congr fun p => (limits_at?_run q ops p).trans (h.limits_at? p)

/-- **The room of a link is kept.**  Take new queues for capacities that were
allocated, and do anything with them.  Each queue can still hold and let through
what it could when it was new, and the room of the link is that of its segments,
each of which has the larger of its storage and its flow.  This is the storage
that was allocated to the link if no flow exceeds the storage of its segment,
and with exact numbers it is never less. -/
theorem room_is_kept :
    (∀ (α : Type) [Quantity α] [Quantity.Regular α] (q : LinkQueue α)
      (c : LinkCapacity α), q.CreatedFor c → ∀ ops,
      (∀ p, ((q.run ops).at? p).map (·.limits) = (q.at? p).map (·.limits)) ∧
      (q.run ops).space = Quantity.max c.trunk.storage c.trunk.flow +
        Quantity.sum (c.lanes.map fun l =>
          Quantity.max l.segment.storage l.segment.flow) ∧
      ((∀ p seg, c.segment? p = some seg → seg.HoldsFlow) →
        (q.run ops).space = c.space)) ∧
    ∀ (q : LinkQueue Rat) (c : LinkCapacity Rat), q.CreatedFor c → ∀ ops,
      c.space ≤ (q.run ops).space := by
  constructor
  · intro α _ _ q c h ops
    refine ⟨limits_at?_run q ops, h.space_run_eq ops, fun hholds => ?_⟩
    rw [h.space_run_eq]
    obtain ⟨link, -, lanes, -, f, -, -, rfl, -⟩ := h
    exact LinkCapacity.queueRoom_eq_space link lanes f hholds
  · intro q c h ops
    rw [h.space_run_eq]
    obtain ⟨link, -, lanes, -, f, -, -, rfl, -⟩ := h
    exact LinkCapacity.space_le_queueRoom link lanes f

/-- The link that splits has room for four vehicles, whatever is done with it:
for two before the split and for one in each lane. -/
theorem room_is_kept_fork :
    forkQueue.CreatedFor forkCapacity ∧ (forkQueue.run forkOps).space = 4 ∧
      forkCapacity.space ≤ (forkQueue.run forkOps).space := by
  have hcreated : forkQueue.CreatedFor forkCapacity :=
    ⟨forkLink, forkLink, some forkLanes, some forkLanes, ⟨1, 1, 10⟩, {}, {}, rfl,
      create_fork⟩
  have hholds : ∀ p seg, forkCapacity.segment? p = some seg → seg.HoldsFlow := by
    intro p seg hseg
    match p with
    | .trunk =>
        obtain rfl := Option.some.inj hseg
        decide +kernel
    | .lane 0 =>
        obtain rfl := Option.some.inj hseg
        decide +kernel
    | .lane 1 =>
        obtain rfl := Option.some.inj hseg
        decide +kernel
    | .lane (_ + 2) => cases hseg
  have hspace : forkCapacity.space = 4 := by decide +kernel
  refine ⟨hcreated, ?_, room_is_kept.2 forkQueue forkCapacity hcreated forkOps⟩
  rw [← hspace]
  exact (room_is_kept.1 Rat forkQueue forkCapacity hcreated forkOps).2.2 hholds

end LinkQueue

end LaneFlow
