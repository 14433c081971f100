import Mathlib
import LaneFlow.Proofs.Queue.Standstill
import LaneFlow.Proofs.Queue.StorageAccount

/-!
# The lane that a vehicle chooses

The candidates of a vehicle are the lanes that lead to its next link, or all
lanes if there is no such lane.  It chooses the one with the least storage in
use and of several such lanes the first.  This is so in any order that ranks
all values (`Quantity.Ranked`), as do the exact order of `Rat` and the total
order of floating point numbers.

A lane that is no larger than the chosen one and no less in use has room only if
the chosen one has.  So if a vehicle waits at the end of the trunk for its lane,
no other candidate of that size could take it.  This compares what is left of
two lanes and is shown with exact arithmetic.

## Main results

* `mem_candidates_iff` — who is a candidate.
* `choose_eq_iff` — the choice is the first of the least loaded candidates.
* `candidates_full` — if the chosen lane is full, so is every candidate that is
  no larger.
* `chooses_least_loaded` — the choice, and why a vehicle that waits has to.
-/

namespace LaneFlow

/-! ## Orders that rank all values -/

/-- The order of all values ranks them: of any two either one comes first, or
both have the same rank. -/
class Quantity.Ranked (α : Type) [Quantity α] : Prop where
  not_before_self : ∀ a : α, ¬ before a a = true
  before_trans : ∀ {a b c : α}, before a b = true → before b c = true →
    before a c = true
  before_or_before : ∀ {a c : α} (b : α), before a c = true →
    before a b = true ∨ before b c = true

namespace Quantity

theorem rat_before (a b : Rat) : before a b = decide (a < b) := rfl

theorem float_before (a b : Float) :
    before a b = decide (orderKey a < orderKey b) := rfl

instance : Ranked Rat where
  not_before_self a := by simp [rat_before]
  before_trans {a b c} := by
    simpa only [rat_before, decide_eq_true_eq] using lt_trans
  before_or_before {a c} b h := by
    simp only [rat_before, decide_eq_true_eq] at h ⊢
    by_cases hab : a < b
    · exact .inl hab
    · exact .inr (lt_of_le_of_lt (not_lt.1 hab) h)

instance : Ranked Float where
  not_before_self a := by simp [float_before]
  before_trans {a b c} := by
    simpa only [float_before, decide_eq_true_eq] using Int.lt_trans
  before_or_before {a c} b h := by
    simp only [float_before, decide_eq_true_eq] at h ⊢
    omega

end Quantity

namespace LinkQueue

variable {α : Type}

/-! ## Candidates -/

/-- The lane at a place leads to the next link of a vehicle. -/
def Serves (lanes : List (LaneQueue α)) (v : Vehicle α) (i : Nat) : Prop :=
  ∃ next l, v.next = some next ∧ lanes[i]? = some l ∧ l.leadsTo next = true

/-- A vehicle may take the lane at a place: it serves the vehicle, or none
does. -/
def Candidate (lanes : List (LaneQueue α)) (v : Vehicle α) (i : Nat) : Prop :=
  i < lanes.length ∧ (Serves lanes v i ∨ ∀ j, ¬ Serves lanes v j)

theorem mem_candidates_iff {lanes : List (LaneQueue α)} {v : Vehicle α}
    {i : Nat} : i ∈ candidates lanes v ↔ Candidate lanes v i := by
  have hserves : ∀ j, j ∈ serving lanes v ↔ Serves lanes v j :=
    fun j => mem_serving_iff
  unfold candidates Candidate
  by_cases hnone : serving lanes v = []
  · have hno : ∀ j, ¬ Serves lanes v j := by
      intro j hj
      simpa [hnone] using (hserves j).2 hj
    simp [hnone, hno]
  · obtain ⟨j, hj⟩ := List.exists_mem_of_ne_nil _ hnone
    have hsome : ¬ ∀ j, ¬ Serves lanes v j := fun h => h j ((hserves j).1 hj)
    rw [if_neg (by simpa using hnone), hserves]
    constructor
    · rintro ⟨next, l, hnext, hl, hleads⟩
      exact ⟨(List.getElem?_eq_some_iff.1 hl).1,
        .inl ⟨next, l, hnext, hl, hleads⟩⟩
    · exact fun h => h.2.resolve_right hsome

/-- Candidates are tried from the first lane to the last. -/
theorem pairwise_lt_candidates (lanes : List (LaneQueue α)) (v : Vehicle α) :
    (candidates lanes v).Pairwise (· < ·) := by
  have hall : (List.range lanes.length).Pairwise (· < ·) :=
    List.pairwise_lt_range
  unfold candidates
  split
  · exact hall
  · unfold serving
    split
    · exact hall.filter _
    · exact List.Pairwise.nil

/-! ## The least loaded lane -/

variable [Quantity α]

/-- The lane at one place has less storage in use than that at another. -/
def Lighter (lanes : List (LaneQueue α)) (i j : Nat) : Prop :=
  ∃ k l, lanes[i]? = some k ∧ lanes[j]? = some l ∧
    Quantity.before k.inUse l.inUse = true

/-- Of some lanes in their order this one is the first with the least storage
in use. -/
structure Wins (lanes : List (LaneQueue α)) (is : List Nat) (i : Nat) :
    Prop where
  mem : i ∈ is
  least : ∀ j ∈ is, ¬ Lighter lanes j i
  first : ∀ j ∈ is, ¬ Lighter lanes i j → i ≤ j

/-- Of the candidates of a vehicle this one is the first with the least storage
in use. -/
structure LeastLoaded (lanes : List (LaneQueue α)) (v : Vehicle α) (i : Nat) :
    Prop where
  candidate : Candidate lanes v i
  least : ∀ j, Candidate lanes v j → ¬ Lighter lanes j i
  first : ∀ j, Candidate lanes v j → ¬ Lighter lanes i j → i ≤ j

/-- No two lanes are the first with the least storage in use. -/
theorem LeastLoaded.unique {lanes : List (LaneQueue α)} {v : Vehicle α}
    {i j : Nat} (hi : LeastLoaded lanes v i) (hj : LeastLoaded lanes v j) :
    i = j := by
  have hij := hi.first j hj.candidate (hj.least i hi.candidate)
  have hji := hj.first i hi.candidate (hi.least j hj.candidate)
  exact Nat.le_antisymm hij hji

theorem lessUsed_of_lighter {lanes : List (LaneQueue α)} {i j : Nat}
    (h : Lighter lanes j i) : lessUsed lanes i j = j := by
  obtain ⟨k, l, hk, hl, hbefore⟩ := h
  simp [lessUsed, hk, hl, hbefore]

theorem lessUsed_of_not_lighter {lanes : List (LaneQueue α)} {i j : Nat}
    (h : ¬ Lighter lanes j i) : lessUsed lanes i j = i := by
  unfold lessUsed
  split
  · rename_i l k hl hk
    exact if_neg fun hbefore => h ⟨k, l, hk, hl, hbefore⟩
  · rfl

variable [Quantity.Ranked α]

theorem not_lighter_self (lanes : List (LaneQueue α)) (i : Nat) :
    ¬ Lighter lanes i i := by
  rintro ⟨k, l, hk, hl, hbefore⟩
  obtain rfl := Option.some.inj (hk.symm.trans hl)
  exact Quantity.Ranked.not_before_self _ hbefore

theorem Lighter.trans {lanes : List (LaneQueue α)} {i j n : Nat}
    (hij : Lighter lanes i j) (hjn : Lighter lanes j n) :
    Lighter lanes i n := by
  obtain ⟨k, l, hk, hl, hkl⟩ := hij
  obtain ⟨l', m, hl', hm, hlm⟩ := hjn
  obtain rfl := Option.some.inj (hl.symm.trans hl')
  exact ⟨k, m, hk, hm, Quantity.Ranked.before_trans hkl hlm⟩

theorem Lighter.or_lighter {lanes : List (LaneQueue α)} {i n : Nat}
    (hin : Lighter lanes i n) {j : Nat} (hj : j < lanes.length) :
    Lighter lanes i j ∨ Lighter lanes j n := by
  obtain ⟨k, m, hk, hm, hkm⟩ := hin
  have hl := List.getElem?_eq_getElem hj
  exact (Quantity.Ranked.before_or_before lanes[j].inUse hkm).imp
    (fun h => ⟨k, _, hk, hl, h⟩) fun h => ⟨_, m, hl, hm, h⟩

/-- One lane more, behind all others: it wins if it has less in use than the
winner so far. -/
theorem Wins.concat {lanes : List (LaneQueue α)} {is : List Nat} {i j : Nat}
    (h : Wins lanes is i) (his : ∀ n ∈ is, n < lanes.length)
    (hj : ∀ n ∈ is, n < j) :
    Wins lanes (is ++ [j]) (lessUsed lanes i j) := by
  by_cases hlight : Lighter lanes j i
  · rw [lessUsed_of_lighter hlight]
    refine ⟨by simp, fun n hn => ?_, fun n hn hnot => ?_⟩
    · rcases List.mem_append.1 hn with hn | hn
      · exact fun hnj => h.least n hn (hnj.trans hlight)
      · obtain rfl := List.mem_singleton.1 hn
        exact not_lighter_self lanes n
    · rcases List.mem_append.1 hn with hn | hn
      · -- no lane so far has as little in use as the new one
        rcases hlight.or_lighter (his n hn) with hjn | hni
        · exact absurd hjn hnot
        · exact absurd hni (h.least n hn)
      · exact Nat.le_of_eq (List.mem_singleton.1 hn).symm
  · rw [lessUsed_of_not_lighter hlight]
    refine ⟨List.mem_append_left _ h.mem, fun n hn => ?_, fun n hn hnot => ?_⟩
    · rcases List.mem_append.1 hn with hn | hn
      · exact h.least n hn
      · obtain rfl := List.mem_singleton.1 hn
        exact hlight
    · rcases List.mem_append.1 hn with hn | hn
      · exact h.first n hn hnot
      · obtain rfl := List.mem_singleton.1 hn
        exact Nat.le_of_lt (hj i h.mem)

/-- Comparing lanes one after the other finds the winner. -/
theorem wins_foldl {lanes : List (LaneQueue α)} (i : Nat) (js : List Nat)
    (hrange : ∀ n ∈ i :: js, n < lanes.length)
    (hsorted : (i :: js).Pairwise (· < ·)) :
    Wins lanes (i :: js) (js.foldl (lessUsed lanes) i) := by
  induction js using List.reverseRecOn with
  | nil =>
      refine ⟨by simp, fun n hn => ?_, fun n hn _ => ?_⟩
      · obtain rfl := List.mem_singleton.1 hn
        exact not_lighter_self lanes n
      · exact Nat.le_of_eq (List.mem_singleton.1 hn).symm
  | append_singleton js j ih =>
      rw [← List.cons_append] at hrange hsorted ⊢
      rw [List.pairwise_append] at hsorted
      have hfirst := fun n hn => hrange n (List.mem_append_left [j] hn)
      rw [List.foldl_append]
      exact (ih hfirst hsorted.1).concat hfirst
        fun n hn => hsorted.2.2 n hn j (by simp)

/-- The choice is the first of the least loaded candidates. -/
theorem leastLoaded_choose {lanes : List (LaneQueue α)} (v : Vehicle α)
    (h : lanes ≠ []) : LeastLoaded lanes v (choose lanes v) := by
  have hne := candidates_ne_nil v h
  have hrange : ∀ n ∈ candidates lanes v, n < lanes.length :=
    fun n hn => (mem_candidates_iff.1 hn).1
  have hsorted := pairwise_lt_candidates lanes v
  have hwins : Wins lanes (candidates lanes v) (choose lanes v) := by
    unfold choose
    cases hcons : candidates lanes v with
    | nil => exact absurd hcons hne
    | cons i js =>
        rw [hcons] at hrange hsorted
        exact wins_foldl i js hrange hsorted
  exact ⟨mem_candidates_iff.1 hwins.mem,
    fun j hj => hwins.least j (mem_candidates_iff.2 hj),
    fun j hj => hwins.first j (mem_candidates_iff.2 hj)⟩

theorem choose_eq_iff {lanes : List (LaneQueue α)} {v : Vehicle α} {i : Nat}
    (h : lanes ≠ []) : choose lanes v = i ↔ LeastLoaded lanes v i := by
  constructor
  · rintro rfl
    exact leastLoaded_choose v h
  · exact (leastLoaded_choose v h).unique

/-! ## Vehicles that wait for their lane -/

/-- If the chosen lane is full, so is every candidate that is no larger. -/
theorem candidates_full {lanes : List (LaneQueue Rat)} {v : Vehicle Rat}
    {target : LaneQueue Rat} (htarget : lanes[choose lanes v]? = some target)
    (hfull : target.hasRoom = false) {i : Nat} {l : LaneQueue Rat}
    (hi : Candidate lanes v i) (hl : lanes[i]? = some l)
    (hmax : l.storage.max ≤ target.storage.max) : l.hasRoom = false := by
  have hlanes : lanes ≠ [] := List.ne_nil_of_mem (List.mem_of_getElem? hl)
  have hleast : target.inUse ≤ l.inUse := by
    by_contra hless
    refine (leastLoaded_choose v hlanes).least i hi ⟨l, target, hl, htarget, ?_⟩
    rw [Quantity.rat_before, decide_eq_true_iff]
    exact not_le.1 hless
  have hover : target.storage.max ≤ target.inUse := by
    by_contra hless
    exact Bool.eq_false_iff.1 hfull (Storage.hasRoom_iff.2 (not_le.1 hless))
  refine Bool.eq_false_iff.2 fun hroom => ?_
  have hunder : l.inUse < l.storage.max := Storage.hasRoom_iff.1 hroom
  exact absurd (hmax.trans (hover.trans hleast)) (not_le.2 hunder)

/-- A vehicle that is due at the end of a move has a lane that is full. -/
theorem target_full {α : Type} [Quantity α] {q : LinkQueue α} {now : Nat}
    {v : Vehicle α} (hdue : (q.move now).trunk.due? now = some v)
    {target : LaneQueue α}
    (htarget : (q.move now).lanes[choose (q.move now).lanes v]? = some target) :
    target.hasRoom = false := by
  have hstill : Standstill now (q.move now) :=
    (shifting_shifted q now).standstill q.id
  refine Bool.eq_false_iff.2 fun hroom => ?_
  exact standstill_iff.1 hstill v target ⟨hdue, htarget, hroom⟩

/-- **A vehicle takes the least loaded of its lanes, and waits only if it has
to.**  On a link with lanes the choice is the one candidate of which no other
has less storage in use, and behind which come all that have the same.
So if a vehicle is due at the end of a move, no candidate has room that is no
larger than the lane that it waits for, and if all candidates are of one
size, none has. -/
theorem chooses_least_loaded :
    (∀ {α : Type} [Quantity α] [Quantity.Ranked α]
      (lanes : List (LaneQueue α)) (v : Vehicle α), lanes ≠ [] →
      ∀ i : Nat, choose lanes v = i ↔ LeastLoaded lanes v i) ∧
    ∀ (q : LinkQueue Rat) (now : Nat) (v : Vehicle Rat), q.lanes ≠ [] →
      (q.move now).trunk.due? now = some v →
      ∃ target,
        (q.move now).lanes[choose (q.move now).lanes v]? = some target ∧
        (∀ (i : Nat) (l : LaneQueue Rat), Candidate (q.move now).lanes v i →
          (q.move now).lanes[i]? = some l →
          l.storage.max ≤ target.storage.max → l.hasRoom = false) ∧
        ∀ room : Rat,
          (∀ (i : Nat) (l : LaneQueue Rat), Candidate (q.move now).lanes v i →
            (q.move now).lanes[i]? = some l → l.storage.max = room) →
          ∀ (i : Nat) (l : LaneQueue Rat), Candidate (q.move now).lanes v i →
            (q.move now).lanes[i]? = some l → l.hasRoom = false := by
  refine ⟨fun lanes v h i => choose_eq_iff h, ?_⟩
  intro q now v hlanes hdue
  have hlength : (q.move now).lanes.length = q.lanes.length :=
    (shifting_shifted q now).length_lanes
  have hsome : (q.move now).lanes ≠ [] := by
    rw [← List.length_pos_iff] at hlanes ⊢
    rwa [hlength]
  have hchosen := leastLoaded_choose v hsome
  obtain ⟨target, htarget⟩ : ∃ target,
      (q.move now).lanes[choose (q.move now).lanes v]? = some target :=
    ⟨_, List.getElem?_eq_getElem hchosen.candidate.1⟩
  have hfull := target_full hdue htarget
  refine ⟨target, htarget, fun i l hi hl hmax =>
    candidates_full htarget hfull hi hl hmax, fun room hroom i l hi hl => ?_⟩
  have hmax : l.storage.max = target.storage.max :=
    (hroom i l hi hl).trans (hroom _ target hchosen.candidate htarget).symm
  exact candidates_full htarget hfull hi hl (le_of_eq hmax)

/-- Three vehicles for two lanes, of which each holds one. -/
def crowdedQueue : LinkQueue Rat :=
  forkQueue.run [.push (forkVehicle 1) 0, .push (forkVehicle 2) 0,
    .push (forkVehicle 3) 0, .refill 2, .move 2, .refill 3, .move 3, .refill 4]

/-- Of two lanes with one small vehicle each a third one would take the left
lane.  Where each lane holds all that it can, the third vehicle is due and
neither has room for it. -/
theorem chooses_least_loaded_crowded :
    LeastLoaded (smallQueue.move 2).lanes (smallVehicle 3) 0 ∧
    (crowdedQueue.move 4).trunk.due? 4 = some (forkVehicle 3) ∧
    ∀ (i : Nat) (l : LaneQueue Rat),
      Candidate (crowdedQueue.move 4).lanes (forkVehicle 3) i →
      (crowdedQueue.move 4).lanes[i]? = some l → l.hasRoom = false := by
  have hdue : (crowdedQueue.move 4).trunk.due? 4 = some (forkVehicle 3) := by
    decide +kernel
  have hsizes : ∀ l ∈ (crowdedQueue.move 4).lanes, l.storage.max = 1 := by
    decide +kernel
  have hchoose : choose (smallQueue.move 2).lanes (smallVehicle 3) = 0 := by
    decide +kernel
  have hleast := (chooses_least_loaded.1 (smallQueue.move 2).lanes
    (smallVehicle 3) (by decide +kernel) 0).1 hchoose
  obtain ⟨target, -, -, hsame⟩ := chooses_least_loaded.2 crowdedQueue 4
    (forkVehicle 3) (by decide +kernel) hdue
  exact ⟨hleast, hdue,
    hsame 1 fun i l _ hl => hsizes l (List.mem_of_getElem? hl)⟩

end LinkQueue

end LaneFlow
