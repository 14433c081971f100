import Mathlib
import LaneFlow.Proofs.Queue.StorageAccount

/-!
# How full a queue gets

A vehicle may enter while any room is left, even if it does not fit, so a
queue can be filled beyond its storage, but by less than one vehicle.  Vehicles
enter the lanes only in this way, since a move asks for room first.  The
trunk takes whoever is let into the link, so there the bound is that of runs
that ask for room as well.

The room is measured by what is in use, which counts those that have entered
within the step and also those that have left within it.  So leaving frees
nothing at once, and settling, which does, makes what is in use only smaller.

## Main results

* `LaneQueue.filled_perform` — the bounds on what is in use, for any acts on a
  queue in which vehicles enter only where there is room.
* `entersRoom_diary` — which acts of a run these are.
* `filled_by_less_than_one` — the bounds for every run of a new link.
-/

namespace LaneFlow

/-! ## Settling -/

namespace Storage

theorem inUse_settle_nonneg (s : Storage Rat) : 0 ≤ s.settle.inUse := by
  rw [inUse_settle_eq_used, used_settle_eq_max]
  exact le_max_left ..

/-- Settling makes what is in use only smaller. -/
theorem inUse_settle_le {s : Storage Rat} (hin : 0 ≤ s.inUse)
    (hreleased : 0 ≤ s.released) : s.settle.inUse ≤ s.inUse := by
  rw [inUse_settle_eq_used, used_settle_eq_max]
  exact max_le hin (sub_le_self _ hreleased)

end Storage

/-! ## One queue -/

namespace LaneQueue

/-- Vehicles enter only where there is room. -/
def EntersRoom {α : Type} [Quantity α] : LaneQueue α → List (Act α) → Prop
  | _, [] => True
  | q, a :: acts =>
    (a.entering?.isSome → q.hasRoom = true) ∧ EntersRoom (q.act a) acts

theorem entersRoom_append {α : Type} [Quantity α] {q : LaneQueue α}
    {acts more : List (Act α)} (h : q.EntersRoom acts)
    (hmore : (q.perform acts).EntersRoom more) :
    q.EntersRoom (acts ++ more) := by
  induction acts generalizing q with
  | nil => exact hmore
  | cons a acts ih => exact ⟨h.1, ih h.2 hmore⟩

/-- What can be in use where vehicles no larger than `size` enter only if
there is room. -/
structure Filled (size : Rat) (q : LaneQueue Rat) : Prop where
  released_nonneg : 0 ≤ q.storage.released
  inUse_nonneg : 0 ≤ q.inUse
  /-- Nothing is in use, or less than the storage and one vehicle. -/
  bound : q.inUse = 0 ∨ q.inUse < q.storage.max + size
  /-- Without storage nobody enters. -/
  closed : q.storage.max ≤ 0 → q.vehicles = []

variable {q : LaneQueue Rat} {size : Rat}

theorem filled_ofSegment (size : Rat) (id : Id .lane) (seg : Segment Rat)
    (freespeed : Rat) (toLinks : List (Id .link)) :
    Filled size (ofSegment id seg freespeed toLinks) := by
  have hin : (ofSegment id seg freespeed toLinks).inUse = 0 :=
    Storage.inUse_empty _
  have hreleased : (ofSegment id seg freespeed toLinks).storage.released = 0 :=
    Storage.released_empty _
  exact ⟨hreleased.ge, hin.ge, .inl hin, fun _ => rfl⟩

theorem Filled.push (h : Filled size q) (hroom : q.hasRoom = true)
    {v : Vehicle Rat} (hv : 0 ≤ v.size ∧ v.size ≤ size) (now : Nat) :
    Filled size (q.push v now) := by
  have hless : q.inUse < q.storage.max := Storage.hasRoom_iff.1 hroom
  constructor
  · exact h.released_nonneg
  · rw [inUse_push]
    exact add_nonneg h.inUse_nonneg hv.1
  · right
    rw [inUse_push]
    exact add_lt_add_of_lt_of_le hless hv.2
  · intro hmax
    exact absurd (h.inUse_nonneg.trans_lt hless) (not_lt.2 hmax)

theorem Filled.leave (h : Filled size q)
    (hbounds : ∀ v ∈ q.vehicles, 0 ≤ v.size ∧ v.size ≤ size) :
    Filled size q.leave := by
  cases hw : q.waiting with
  | nil =>
      rw [leave_of_empty hw]
      exact h
  | cons w rest =>
      have hfirst : 0 ≤ w.vehicle.size ∧ w.vehicle.size ≤ size :=
        hbounds _ (by simp [vehicles, hw])
      have hmax : q.storage.max = q.leave.storage.max :=
        (sameSegment_leave q).room
      constructor
      · rw [released_leave hw]
        exact add_nonneg h.released_nonneg hfirst.1
      · rw [inUse_leave]
        exact h.inUse_nonneg
      · rw [inUse_leave, ← hmax]
        exact h.bound
      · rw [← hmax, vehicles_leave]
        intro hnone
        rw [h.closed hnone, List.tail_nil]

theorem Filled.settle (h : Filled size q) : Filled size q.settle := by
  have hnonneg : 0 ≤ q.settle.inUse := q.storage.inUse_settle_nonneg
  have hle : q.settle.inUse ≤ q.inUse :=
    Storage.inUse_settle_le h.inUse_nonneg h.released_nonneg
  constructor
  · exact (Storage.released_settle q.storage).ge
  · exact hnonneg
  · rcases h.bound with hzero | hless
    · exact .inl (le_antisymm (hle.trans hzero.le) hnonneg)
    · exact .inr (hle.trans_lt hless)
  · exact h.closed

theorem Filled.act (h : Filled size q) {a : Act Rat}
    (hroom : a.entering?.isSome → q.hasRoom = true)
    (hbounds : ∀ v ∈ q.vehicles ++ a.entering?.toList,
      0 ≤ v.size ∧ v.size ≤ size) : Filled size (q.act a) := by
  cases a with
  | enter v now =>
      exact h.push (hroom rfl) (hbounds v (by simp [Act.entering?])) now
  | leave =>
      exact h.leave fun v hv => hbounds v (List.mem_append_left _ hv)
  | refill now =>
      exact ⟨h.released_nonneg, h.inUse_nonneg, h.bound, h.closed⟩
  | settle => exact h.settle

/-- Acts keep what is in use between its bounds. -/
theorem filled_perform (h : Filled size q) {acts : List (Act Rat)}
    (hroom : q.EntersRoom acts)
    (hbounds : ∀ v ∈ q.vehicles ++ entering acts,
      0 ≤ v.size ∧ v.size ≤ size) : Filled size (q.perform acts) := by
  induction acts generalizing q with
  | nil => exact h
  | cons a acts ih =>
      have hfirst : Filled size (q.act a) := by
        refine h.act hroom.1 fun v hv => hbounds v ?_
        rw [entering_cons, ← List.append_assoc]
        exact List.mem_append_left _ hv
      exact ih hfirst hroom.2 fun v hv =>
        hbounds v (vehicles_act_subset q a acts hv)

end LaneQueue

/-! ## A run -/

namespace LinkQueue

open LaneQueue (EntersRoom Filled)

section Acts

variable {α : Type} [Quantity α]

/-- Vehicles are let into the link only while it has room. -/
def AsksForRoom : LinkQueue α → List (Op α) → Prop
  | _, [] => True
  | q, op :: ops =>
    ((∃ v now, op = .push v now) → q.hasRoom = true) ∧
      AsksForRoom (q.step op) ops

/-- Vehicles move into a lane only while it has room. -/
theorem Shifting.entersRoom {now : Nat} {trunk : LaneQueue α}
    {lanes : List (LaneQueue α)} {s : Shift α}
    (h : Shifting now trunk lanes s) {i : Nat} {l : LaneQueue α}
    (hl : lanes[i]? = some l) :
    l.EntersRoom (s.moves.filterMap (moveAct now (.lane i))) := by
  induction h generalizing l with
  | stop h => trivial
  | @move trunk lanes v k s h hs ih =>
      by_cases hi : i = choose lanes v
      · subst hi
        obtain rfl := Option.some.inj (hl.symm.trans h.target)
        have hlt := (List.getElem?_eq_some_iff.1 hl).1
        have hrest := ih (List.getElem?_set_self hlt)
        simpa [moveAct, EntersRoom, LaneQueue.act, h.room] using hrest
      · have hrest := ih ((List.getElem?_set_ne (Ne.symm hi)).trans hl)
        simpa [moveAct, hi] using hrest

theorem entersRoom_acts {q : LinkQueue α} {p : Place} {l : LaneQueue α}
    (hl : q.at? p = some l) {op : Op α}
    (hroom : p = .trunk → (∃ v now, op = .push v now) → q.hasRoom = true) :
    l.EntersRoom (q.acts p op) := by
  cases op with
  | push v now =>
      by_cases hp : p = .trunk
      · subst hp
        obtain rfl : q.trunk = l := Option.some.inj hl
        have htrunk : q.trunk.hasRoom = true := hroom rfl ⟨v, now, rfl⟩
        simp [acts, EntersRoom, htrunk]
      · simp [acts, hp, EntersRoom]
  | pop place =>
      by_cases hp : p = place <;>
        simp [acts, hp, EntersRoom, LaneQueue.Act.entering?]
  | refill now => simp [acts, EntersRoom, LaneQueue.Act.entering?]
  | settle => simp [acts, EntersRoom, LaneQueue.Act.entering?]
  | move now =>
      cases p with
      | lane i => exact (shifting_shifted q now).entersRoom hl
      | trunk =>
          have hleaves : ∀ (ms : List (Vehicle α × Nat)) (k : LaneQueue α),
              k.EntersRoom (ms.filterMap (moveAct now .trunk)) := by
            intro ms
            induction ms with
            | nil => exact fun _ => trivial
            | cons m ms ih =>
                exact fun k =>
                  ⟨fun henters => absurd henters Bool.false_ne_true, ih _⟩
          exact hleaves _ l

/-- In a run vehicles enter the lanes only where there is room, and the trunk
too if it is asked for. -/
theorem entersRoom_diary {q : LinkQueue α} {p : Place} {l : LaneQueue α}
    (hl : q.at? p = some l) {ops : List (Op α)}
    (hroom : p = .trunk → q.AsksForRoom ops) :
    l.EntersRoom (q.diary p ops) := by
  induction ops generalizing q l with
  | nil => trivial
  | cons op ops ih =>
      have hstep : (q.step op).at? p = some (l.perform (q.acts p op)) := by
        simp [at?_step, hl]
      exact LaneQueue.entersRoom_append
        (entersRoom_acts hl fun hp => (hroom hp).1)
        (ih hstep fun hp => (hroom hp).2)

end Acts

variable {s s' : IdStore} {link : Link Rat} {c : LinkCapacity Rat}
  {a : Option (LaneAssignment Rat)} {q : LinkQueue Rat} {size : Rat}

theorem filled_run (hq : create s link c a = .ok (q, s'))
    {ops : List (Op Rat)}
    (hsize : ∀ v ∈ pushed ops, 0 ≤ v.size ∧ v.size ≤ size) {p : Place}
    (hroom : p = .trunk → q.AsksForRoom ops) {l : LaneQueue Rat}
    (hl : (q.run ops).at? p = some l) : Filled size l := by
  obtain ⟨l₀, hl₀, rfl⟩ := exists_at?_of_run hl
  obtain ⟨seg, _, heq⟩ := at?_create hq hl₀
  have hstart : Filled size l₀ := by
    rw [heq]
    exact LaneQueue.filled_ofSegment ..
  have hnone : l₀.vehicles = [] := by
    rw [heq]
    rfl
  refine LaneQueue.filled_perform hstart (entersRoom_diary hl₀ hroom)
    fun v hv => hsize v ?_
  rw [hnone, List.nil_append, entering_diary] at hv
  exact (broughtTo_sublist_pushed hq ops p).subset hv

/-- **A queue is filled beyond its storage by less than one vehicle.**  Let the
vehicles of a run of a new link be no smaller than nothing and no larger than
`size`.  Then in each lane nothing is in use or less than its storage and one
vehicle, and a lane without storage is empty.  The same is true of the trunk
if vehicles are let into the link only while it has room. -/
theorem filled_by_less_than_one (hq : create s link c a = .ok (q, s'))
    (ops : List (Op Rat))
    (hsize : ∀ v ∈ pushed ops, 0 ≤ v.size ∧ v.size ≤ size) :
    (∀ (i : Nat) (l : LaneQueue Rat), (q.run ops).lanes[i]? = some l →
      (l.inUse = 0 ∨ l.inUse < l.storage.max + size) ∧
      (l.storage.max ≤ 0 → l.vehicles = [])) ∧
    (q.AsksForRoom ops →
      ((q.run ops).trunk.inUse = 0 ∨
        (q.run ops).trunk.inUse < (q.run ops).trunk.storage.max + size) ∧
      ((q.run ops).trunk.storage.max ≤ 0 →
        (q.run ops).trunk.vehicles = [])) := by
  constructor
  · intro i l hl
    have hfilled := filled_run (p := .lane i) hq hsize nofun hl
    exact ⟨hfilled.bound, hfilled.closed⟩
  · intro hroom
    have hfilled := filled_run (p := .trunk) hq hsize (fun _ => hroom) rfl
    exact ⟨hfilled.bound, hfilled.closed⟩

/-- A vehicle with the size of one and a half. -/
def largeVehicle (n : Nat) : Vehicle Rat := { forkVehicle n with size := 3 / 2 }

/-- Two large vehicles enter the link that splits, and move into its lanes. -/
def largeOps : List (Op Rat) :=
  [.push (largeVehicle 1) 0, .push (largeVehicle 2) 0, .refill 2, .move 2,
    .refill 3, .move 3]

/-- The trunk has room for two cars, and three are in use.  Each of the lanes
has room for one and is filled by a vehicle that is larger.  So the bound cannot
do without the size of a vehicle. -/
theorem filled_by_less_than_one_large :
    (∀ v ∈ pushed largeOps, 0 ≤ v.size ∧ v.size ≤ 3 / 2) ∧
    forkQueue.AsksForRoom largeOps ∧
    (forkQueue.run largeOps).trunk.storage.max = 2 ∧
    (forkQueue.run largeOps).trunk.inUse = 3 ∧
    ((forkQueue.run largeOps).trunk.inUse = 0 ∨
      (forkQueue.run largeOps).trunk.inUse <
        (forkQueue.run largeOps).trunk.storage.max + 3 / 2) ∧
    (forkQueue.run largeOps).lanes.map
        (fun l => (l.storage.max, l.inUse, l.vehicles.length)) =
      [(1, 3 / 2, 1), (1, 3 / 2, 1)] ∧
    ∀ l ∈ (forkQueue.run largeOps).lanes,
      (l.inUse = 0 ∨ l.inUse < l.storage.max + 3 / 2) ∧
      (l.storage.max ≤ 0 → l.vehicles = []) := by
  have hsize : ∀ v ∈ pushed largeOps, 0 ≤ v.size ∧ v.size ≤ 3 / 2 := by
    decide +kernel
  have hfirst : forkQueue.hasRoom = true := by decide +kernel
  have hsecond : (forkQueue.push (largeVehicle 1) 0).hasRoom = true := by
    decide +kernel
  have hroom : forkQueue.AsksForRoom largeOps :=
    ⟨fun _ => hfirst, fun _ => hsecond, nofun, nofun, nofun, nofun, trivial⟩
  obtain ⟨hlanes, htrunk⟩ := filled_by_less_than_one create_fork largeOps hsize
  refine ⟨hsize, hroom, by decide +kernel, by decide +kernel, (htrunk hroom).1,
    by decide +kernel, fun l hl => ?_⟩
  obtain ⟨i, hi⟩ := List.getElem?_of_mem hl
  exact hlanes i l hi

end LinkQueue

end LaneFlow
