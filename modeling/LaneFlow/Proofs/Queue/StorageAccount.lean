import Mathlib
import LaneFlow.Proofs.Queue.Conservation
import LaneFlow.Proofs.Queue.Sizes

/-!
# The account of the storage

A queue keeps three counts of the room on its segment: what was in use when
the step began, what was taken and what was released since.  `Accounted` ties
them to the vehicles themselves: the storage in use is the room of those that
stand in the queue and of those that have left it since the storage was
settled.  Every act on a queue keeps this account, so it holds after every run
of a new link, whatever the order of the operations.

That the sizes are not negative is needed only where the storage is settled:
there it says that the room that remains is not cut off at zero.

## Main results

* `accounted_run` — the account of every queue after a run.
* `storage_accounted` — the account, and what follows from it for a settled
  link.
-/

namespace LaneFlow

/-! ## The three counts -/

namespace Storage

theorem inUse_empty (max : Rat) : (empty max).inUse = 0 := by
  norm_num [empty, inUse]

theorem released_empty (max : Rat) : (empty max).released = 0 := by
  norm_num [empty]

theorem inUse_consume (s : Storage Rat) (size : Rat) :
    (s.consume size).inUse = s.inUse + size :=
  (add_assoc s.used s.consumed size).symm

theorem released_settle (s : Storage Rat) : s.settle.released = 0 := by
  norm_num [settle]

theorem inUse_settle_eq_used (s : Storage Rat) :
    s.settle.inUse = s.settle.used := by
  norm_num [inUse, settle]

/-- What is left after settling is cut off at zero. -/
theorem used_settle_eq_max (s : Storage Rat) :
    s.settle.used = 0 ⊔ (s.inUse - s.released) := by
  show (if 0.0 < s.inUse - s.released then s.inUse - s.released else 0.0) = _
  rw [Quantity.zero_rat, max_def_lt]

/-- Nothing is cut off if no more was released than was in use. -/
theorem used_settle {s : Storage Rat} (h : s.released ≤ s.inUse) :
    s.settle.used = s.inUse - s.released := by
  rw [used_settle_eq_max, max_eq_right (sub_nonneg.2 h)]

theorem inUse_settle {s : Storage Rat} (h : s.released ≤ s.inUse) :
    s.settle.inUse = s.inUse - s.released := by
  rw [inUse_settle_eq_used, used_settle h]

theorem hasRoom_iff {s : Storage Rat} : s.hasRoom ↔ s.inUse < s.max := by
  show decide (0.0 < s.max - s.inUse) = true ↔ _
  rw [decide_eq_true_iff, Quantity.zero_rat, sub_pos]

/-- A segment with room or with flow has some room. -/
theorem max_ofSegment_pos {seg : Segment Rat}
    (h : 0 < seg.storage ∨ 0 < seg.flow) : 0 < (ofSegment seg).max := by
  show 0 < if seg.storage < seg.flow then seg.flow else seg.storage
  split <;> rcases h with h | h <;> linarith

end Storage

/-! ## One queue -/

namespace LaneQueue

/-- The storage in use is the room of the vehicles in the queue and of those
that have left it since the storage was settled. -/
structure Accounted (q : LaneQueue Rat) (gone : List (Vehicle Rat)) :
    Prop where
  released : q.storage.released = totalSize gone
  inUse : q.inUse = totalSize q.vehicles + totalSize gone

variable {q : LaneQueue Rat} {gone : List (Vehicle Rat)}

theorem accounted_ofSegment (id : Id .lane) (seg : Segment Rat)
    (freespeed : Rat) (toLinks : List (Id .link)) :
    (ofSegment id seg freespeed toLinks).Accounted [] where
  released := Storage.released_empty _
  inUse := by
    have hin : (ofSegment id seg freespeed toLinks).inUse = 0 :=
      Storage.inUse_empty _
    have hempty : (ofSegment id seg freespeed toLinks).vehicles = [] := rfl
    rw [hin, hempty, totalSize_nil, add_zero]

theorem inUse_push (q : LaneQueue Rat) (v : Vehicle Rat) (now : Nat) :
    (q.push v now).inUse = q.inUse + v.size :=
  Storage.inUse_consume ..

theorem released_leave {w : Waiting Rat} {rest : List (Waiting Rat)}
    (h : q.waiting = w :: rest) :
    q.leave.storage.released = q.storage.released + w.vehicle.size := by
  rw [leave_of_waiting h]
  rfl

theorem Accounted.push (h : q.Accounted gone) (v : Vehicle Rat) (now : Nat) :
    (q.push v now).Accounted gone where
  released := h.released
  inUse := by
    rw [inUse_push, h.inUse, vehicles_push, totalSize_append, totalSize_cons,
      totalSize_nil]
    ring

theorem Accounted.leave (h : q.Accounted gone) :
    q.leave.Accounted (gone ++ q.vehicles.head?.toList) := by
  cases hw : q.waiting with
  | nil =>
      have hempty : q.vehicles = [] := by simp [vehicles, hw]
      rw [leave_of_empty hw, hempty]
      simpa using h
  | cons w rest =>
      have hvehicles : q.vehicles = w.vehicle :: q.leave.vehicles := by
        simp [vehicles, hw]
      have hhead : q.vehicles.head?.toList = [w.vehicle] := by
        simp [vehicles, hw]
      have hgone : totalSize (gone ++ q.vehicles.head?.toList) =
          totalSize gone + w.vehicle.size := by
        rw [hhead, totalSize_append, totalSize_cons, totalSize_nil, add_zero]
      constructor
      · rw [released_leave hw, h.released, hgone]
      · rw [inUse_leave, h.inUse, hgone, hvehicles, totalSize_cons]
        ring

theorem Accounted.refill (h : q.Accounted gone) (now : Nat) :
    (q.refill now).Accounted gone where
  released := h.released
  inUse := h.inUse

/-- No more was released than is in use. -/
theorem Accounted.released_le (h : q.Accounted gone)
    (hsize : ∀ v ∈ q.vehicles, 0 ≤ v.size) :
    q.storage.released ≤ q.storage.inUse := by
  have hin : q.storage.inUse = totalSize q.vehicles + totalSize gone :=
    h.inUse
  have hrest := totalSize_nonneg hsize
  rw [h.released, hin]
  linarith

theorem Accounted.settle (h : q.Accounted gone)
    (hsize : ∀ v ∈ q.vehicles, 0 ≤ v.size) : q.settle.Accounted [] where
  released := Storage.released_settle _
  inUse := by
    have hin : q.settle.inUse = q.inUse - q.storage.released :=
      Storage.inUse_settle (h.released_le hsize)
    rw [hin, h.inUse, h.released, vehicles_settle, totalSize_nil]
    ring

/-- Until the storage is settled, those that leave are added to the account. -/
theorem Accounted.perform (h : q.Accounted gone) {acts : List (Act Rat)}
    (hacts : .settle ∉ acts) :
    (q.perform acts).Accounted (gone ++ q.leaving acts) := by
  induction acts generalizing q gone with
  | nil => simpa [leaving] using h
  | cons a acts ih =>
      rw [List.mem_cons, not_or] at hacts
      have hfirst : (q.act a).Accounted (gone ++ (q.leaving? a).toList) := by
        cases a with
        | enter v now => simpa [leaving?, act] using h.push v now
        | leave => exact h.leave
        | refill now => simpa [leaving?, act] using h.refill now
        | settle => exact absurd rfl hacts.1
      simpa [leaving] using ih hfirst hacts.2

end LaneQueue

/-! ## What has happened since the storage was settled -/

theorem History.sinceSettled_settled {α : Type} (h : History α) :
    History.sinceSettled (h ++ [.settled]) = [] := by
  simp [History.sinceSettled, Event.isSettled]

theorem History.sinceSettled_append {α : Type} (h : History α)
    {k : History α} (hk : .settled ∉ k) :
    History.sinceSettled (h ++ k) = h.sinceSettled ++ k := by
  have hall : ∀ e ∈ k.reverse, (!e.isSettled) = true := by
    intro e he
    rw [List.mem_reverse] at he
    cases e with
    | settled => exact absurd he hk
    | _ => rfl
  unfold History.sinceSettled
  rw [List.reverse_append, List.takeWhile_append_of_pos hall,
    List.reverse_append, List.reverse_reverse]

namespace LinkQueue

open LaneQueue (Accounted)

theorem settled_notMem_events {α : Type} [Quantity α] (q : LinkQueue α)
    {op : Op α} (h : op ≠ .settle) : .settled ∉ q.events op := by
  cases op with
  | settle => exact absurd rfl h
  | pop p => cases hpop : (q.pop p).1 <;> simp [events, hpop]
  | _ => simp [events]

theorem settle_notMem_acts {α : Type} [Quantity α] (q : LinkQueue α)
    (p : Place) {op : Op α} (h : op ≠ .settle) : .settle ∉ q.acts p op := by
  cases op with
  | settle => exact absurd rfl h
  | push v now => cases p <;> simp [acts]
  | pop place => by_cases hp : p = place <;> simp [acts, hp]
  | refill now => simp [acts]
  | move now => cases p <;> simp [acts, moveAct]

variable {s s' : IdStore} {link : Link Rat} {c : LinkCapacity Rat}
  {a : Option (LaneAssignment Rat)} {q : LinkQueue Rat}

theorem accounted_step {gone : History Rat} {p : Place} {l : LaneQueue Rat}
    (hl : q.at? p = some l) (h : l.Accounted (gone.sinceSettled.takenFrom p))
    (hsize : ∀ v ∈ l.vehicles, 0 ≤ v.size) (op : Op Rat) :
    (l.perform (q.acts p op)).Accounted
      ((gone ++ q.events op).sinceSettled.takenFrom p) := by
  by_cases hop : op = .settle
  · subst hop
    rw [events, History.sinceSettled_settled]
    exact h.settle hsize
  · rw [History.sinceSettled_append _ (settled_notMem_events q hop),
      History.takenFrom_append, ← leaving_acts hl]
    exact h.perform (settle_notMem_acts q p hop)

/-- **The account of a queue.**  The induction is on the operations from the
last one on, since an operation adds to what has happened at the end. -/
theorem accounted_run (hq : create s link c a = .ok (q, s'))
    {ops : List (Op Rat)} (hsize : ∀ v ∈ pushed ops, 0 ≤ v.size)
    {p : Place} {l : LaneQueue Rat} (hl : (q.run ops).at? p = some l) :
    l.Accounted ((q.history ops).sinceSettled.takenFrom p) := by
  induction ops using List.reverseRecOn generalizing l with
  | nil =>
      obtain ⟨seg, _, heq⟩ := at?_create hq hl
      rw [heq]
      exact LaneQueue.accounted_ofSegment ..
  | append_singleton ops op ih =>
      have hpushed : ∀ v ∈ pushed ops, 0 ≤ v.size := fun v hv =>
        hsize v (mem_pushed_append hv [op])
      rw [run_append, run_cons, run_nil, at?_step] at hl
      obtain ⟨l₀, hl₀, rfl⟩ := Option.map_eq_some_iff.1 hl
      rw [history_append, history, history, List.append_nil]
      exact accounted_step hl₀ (ih hpushed hl₀)
        (fun v hv => hpushed v (mem_pushed_of_mem_vehicles hq hl₀ hv)) op

/-! ## A settled link -/

/-- When a link is settled, what is in use of each queue is the room of the
vehicles that stand there. -/
theorem inUse_settle_of_at? (hq : create s link c a = .ok (q, s'))
    {ops : List (Op Rat)} (hsize : ∀ v ∈ pushed ops, 0 ≤ v.size)
    {p : Place} {l : LaneQueue Rat} (hl : (q.run ops).at? p = some l) :
    l.settle.inUse = totalSize l.vehicles := by
  have hsettled := ((accounted_run hq hsize hl).settle fun v hv =>
    hsize v (mem_pushed_of_mem_vehicles hq hl hv)).inUse
  simpa using hsettled

theorem inUse_settle (hq : create s link c a = .ok (q, s'))
    {ops : List (Op Rat)} (hsize : ∀ v ∈ pushed ops, 0 ≤ v.size) :
    (q.run ops).settle.inUse = totalSize (q.run ops).vehicles := by
  have htrunk : (q.run ops).trunk.settle.inUse =
      totalSize (q.run ops).trunk.vehicles :=
    inUse_settle_of_at? hq hsize (p := .trunk) rfl
  have hlanes : ((q.run ops).lanes.map fun l => l.settle.inUse) =
      (q.run ops).lanes.map fun l => totalSize l.vehicles := by
    refine List.map_congr_left fun l hl => ?_
    obtain ⟨i, hi⟩ := List.mem_iff_getElem?.1 hl
    exact inUse_settle_of_at? hq hsize (p := .lane i) hi
  calc (q.run ops).settle.inUse
      = (q.run ops).trunk.settle.inUse +
          Quantity.sum ((q.run ops).lanes.map fun l => l.settle.inUse) := by
        simp [inUse, settle, Function.comp_def]
    _ = totalSize (q.run ops).trunk.vehicles +
          ((q.run ops).lanes.map fun l => totalSize l.vehicles).sum := by
        rw [htrunk, hlanes, Quantity.sum_rat]
    _ = totalSize (q.run ops).vehicles := by
        rw [vehicles, totalSize_append, totalSize_flatMap]

/-- A queue has the room of its segment. -/
theorem storage_max_of_run (hq : create s link c a = .ok (q, s'))
    {ops : List (Op Rat)} {p : Place} {seg : Segment Rat} {l : LaneQueue Rat}
    (hseg : c.segment? p = some seg) (hl : (q.run ops).at? p = some l) :
    l.storage.max = (Storage.ofSegment seg).max := by
  obtain ⟨seg', hseg', hsame⟩ := exists_segment_of_run hq hl
  obtain rfl := Option.some.inj (hseg.symm.trans hseg')
  exact hsame.room.symm

/-- **The account of the storage is exact.**  Let no vehicle that was let into
a new link have a negative size.  Then, after any run:

* in each queue the storage in use is the room of the vehicles that stand
  there and of those that have left since the storage was settled;
* settling cuts nothing off: what remains in use is what was in use without
  what was released;
* on the settled link the storage in use is the room of the vehicles there;
* an empty queue of the settled link has room, if its segment has room or
  flow at all. -/
theorem storage_accounted (hq : create s link c a = .ok (q, s'))
    (ops : List (Op Rat)) (hsize : ∀ v ∈ pushed ops, 0 ≤ v.size) :
    (∀ p l, (q.run ops).at? p = some l →
      l.inUse = totalSize l.vehicles +
        totalSize ((q.history ops).sinceSettled.takenFrom p) ∧
      l.storage.settle.used = l.storage.inUse - l.storage.released) ∧
    (q.run (ops ++ [.settle])).inUse =
      totalSize (q.run (ops ++ [.settle])).vehicles ∧
    ∀ p seg l, c.segment? p = some seg →
      (q.run (ops ++ [.settle])).at? p = some l → l.vehicles = [] →
      0 < seg.storage ∨ 0 < seg.flow → l.hasRoom = true := by
  have hrun : q.run (ops ++ [.settle]) = (q.run ops).settle :=
    run_append q ops [.settle]
  refine ⟨fun p l hl => ?_, ?_, fun p seg l hseg hl hempty hpos => ?_⟩
  · have haccount := accounted_run hq hsize hl
    exact ⟨haccount.inUse, Storage.used_settle (haccount.released_le fun v hv =>
      hsize v (mem_pushed_of_mem_vehicles hq hl hv))⟩
  · have hvehicles : (q.run ops).settle.vehicles = (q.run ops).vehicles := by
      simp [vehicles, settle, List.flatMap_map]
    rw [hrun, inUse_settle hq hsize, hvehicles]
  · have hmax := storage_max_of_run hq hseg hl
    rw [hrun] at hl
    have hstep := at?_step (q.run ops) p .settle
    rw [step, hl] at hstep
    obtain ⟨l₀, hl₀, rfl⟩ := Option.map_eq_some_iff.1 hstep.symm
    have hin : (l₀.settle).inUse = 0 := by
      have hnone : l₀.vehicles = [] := hempty
      rw [inUse_settle_of_at? hq hsize hl₀, hnone, totalSize_nil]
    refine Storage.hasRoom_iff.2 ?_
    show l₀.settle.inUse < l₀.settle.storage.max
    rw [hin]
    exact hmax ▸ Storage.max_ofSegment_pos hpos

/-- Of two vehicles of size one the first has left, and its room is free
again. -/
theorem storage_accounted_fork :
    (∀ v ∈ pushed forkOps, 0 ≤ v.size) ∧
    (forkQueue.run (forkOps ++ [.settle])).inUse = 1 := by
  have hsize : ∀ v ∈ pushed forkOps, 0 ≤ v.size := by decide
  have hrest : totalSize (forkQueue.run (forkOps ++ [.settle])).vehicles = 1 :=
    by decide +kernel
  exact ⟨hsize, (storage_accounted create_fork forkOps hsize).2.1.trans hrest⟩

end LinkQueue

end LaneFlow
