import LaneFlow.Capacity.Validation
import LaneFlow.Proofs.Ids
import Mathlib.Data.List.Induction
import Mathlib.Data.List.Perm.Basic

/-!
# What is found about lanes, and in which order

The findings about the lanes of a link come in three parts: that the link has no
lanes of its own, the lanes that are longer than the link in the order of their
declaration, and that the lanes stand for another number of lanes than the link
has (`LaneAssignment.Tells`).

The findings about a registry come link by link in the order of the links' ids.
No two assignments of a registry are for the same link, so there is only one
such order, and it does not matter how the assignments have been listed before.

## Main results

* `LaneAssignment.tells_iff` — what is found about the lanes of a link, and
  nothing else.
* `LaneRegistry.keyed_collected` — a registry has at most one assignment for
  each link, whatever has been added.
* `LaneRegistry.inOrder_eq` — the order of ids is the only one in which the
  numbers rise.
* `LaneRegistry.findings_eq_of_perm` — how a registry lists its assignments
  makes no difference.
* `LaneRegistry.findings_eq_nil_iff` — nothing is found if nothing is found
  about any link.
-/

namespace LaneFlow

variable {α : Type}

/-! ## The lanes of one link -/

/-- A finding is there alone if something is the case, and nothing is there
otherwise. -/
def FoundIf (p : Prop) (x : Finding α) (found : List (Finding α)) : Prop :=
  (p ∧ found = [x]) ∨ (¬ p ∧ found = [])

theorem foundIf_iff {p : Prop} [Decidable p] {x : Finding α}
    {found : List (Finding α)} :
    FoundIf p x found ↔ (if p then [x] else []) = found := by
  by_cases hp : p
  · simp [FoundIf, hp, eq_comm]
  · simp [FoundIf, hp, eq_comm]

namespace LaneAssignment

variable [Quantity α]

/-- What there is to tell about the lanes of a link, part by part. -/
def Tells (a : LaneAssignment α) (link : Link α) (found : List (Finding α)) :
    Prop :=
  ∃ width lengths count, found = width ++ lengths ++ count ∧
    FoundIf (a.lanes ≠ [] ∧ Quantity.le link.lanes 0.0 = true)
      (.noLinkLanes link.id link.lanes) width ∧
    lengths = ((a.lanes.filter fun l => Quantity.lt link.length l.start).map
      fun l => .laneExceedsLink link.id l.id l.start link.length) ∧
    FoundIf (a.lanes ≠ [] ∧ Quantity.lt representedLanesTolerance
        (Quantity.abs (a.representedLanes - link.lanes)) = true)
      (.representedLanesMismatch link.id a.representedLanes link.lanes) count

variable {a : LaneAssignment α} {link : Link α} {found : List (Finding α)}

theorem foundIf_widthFindings :
    FoundIf (a.lanes ≠ [] ∧ Quantity.le link.lanes 0.0 = true)
      (.noLinkLanes link.id link.lanes) found ↔ a.widthFindings link = found := by
  rw [foundIf_iff, widthFindings]
  simp [and_comm]

theorem foundIf_countFindings :
    FoundIf (a.lanes ≠ [] ∧ Quantity.lt representedLanesTolerance
        (Quantity.abs (a.representedLanes - link.lanes)) = true)
      (.representedLanesMismatch link.id a.representedLanes link.lanes) found ↔
      a.countFindings link = found := by
  rw [foundIf_iff, countFindings]
  simp

/-- All that there is to tell is found, and nothing else. -/
theorem tells_iff : a.Tells link found ↔ a.findings link = found := by
  simp only [Tells, foundIf_widthFindings, foundIf_countFindings]
  constructor
  · rintro ⟨width, lengths, count, rfl, rfl, rfl, rfl⟩
    rfl
  · rintro rfl
    exact ⟨_, _, _, rfl, rfl, rfl, rfl⟩

end LaneAssignment

namespace LaneRegistry

variable {r other : LaneRegistry α} {as : List (LaneAssignment α)}

/-! ## Registries that were built -/

/-- No two assignments are for the same link. -/
def Keyed (r : LaneRegistry α) : Prop :=
  (r.assignments.map (·.link.internal)).Nodup

/-- The registry to which some assignments were added, whether it took them or
not. -/
def collected (as : List (LaneAssignment α)) : LaneRegistry α :=
  as.foldl (fun r a => (r.add a).toOption.getD r) {}

theorem mem_of_get? {link : Id .link} {a : LaneAssignment α}
    (h : r.get? link = some a) : a ∈ r.assignments :=
  List.mem_of_find?_eq_some h

theorem Keyed.get?_eq_some_iff (h : r.Keyed) {link : Id .link}
    {a : LaneAssignment α} :
    r.get? link = some a ↔ a ∈ r.assignments ∧ a.link.same link = true :=
  Id.find?_same_eq_some_iff h

theorem Keyed.add (h : r.Keyed) {a : LaneAssignment α}
    (hadd : r.add a = .ok other) : other.Keyed := by
  unfold LaneRegistry.add at hadd
  split at hadd
  · cases hadd
  · rename_i hnew
    cases hadd
    exact Id.nodup_concat h (Option.not_isSome_iff_eq_none.1 hnew)

theorem collected_concat (as : List (LaneAssignment α)) (a : LaneAssignment α) :
    collected (as ++ [a]) =
      ((collected as).add a).toOption.getD (collected as) := by
  rw [collected, List.foldl_append]
  rfl

/-- Whatever is added, no two assignments are for the same link. -/
theorem keyed_collected (as : List (LaneAssignment α)) : (collected as).Keyed := by
  induction as using List.reverseRecOn with
  | nil => exact List.nodup_nil
  | append_singleton as a ih =>
      rw [collected_concat]
      cases hadd : (collected as).add a with
      | error => exact ih
      | ok r => exact ih.add hadd

/-- If no link comes twice, all that is added is taken. -/
theorem assignments_collected (h : (as.map (·.link.internal)).Nodup) :
    (collected as).assignments = as := by
  induction as using List.reverseRecOn with
  | nil => rfl
  | append_singleton as a ih =>
      rw [List.map_append, List.nodup_append] at h
      have hrest := ih h.1
      have hnew : (collected as).get? a.link = none := by
        rw [get?, hrest, List.find?_eq_none]
        intro b hb hsame
        exact h.2.2 _ (List.mem_map_of_mem hb) _ List.mem_cons_self
          (Id.same_iff.1 hsame)
      rw [collected_concat, add_of_new hnew, hrest]
      rfl

/-! ## The order of links -/

theorem inOrder_perm (r : LaneRegistry α) : r.inOrder.Perm r.assignments :=
  List.mergeSort_perm _ _

theorem pairwise_le_inOrder (r : LaneRegistry α) :
    r.inOrder.Pairwise fun a b => a.link.internal ≤ b.link.internal := by
  have hsorted : r.inOrder.Pairwise fun a b =>
      decide (a.link.internal ≤ b.link.internal) = true := by
    refine List.pairwise_mergeSort ?_ ?_ r.assignments
    · intro a b c
      simpa using Nat.le_trans
    · intro a b
      simpa using Nat.le_total a.link.internal b.link.internal
  simpa only [decide_eq_true_eq] using hsorted

/-- The order of ids is the only one in which the numbers rise. -/
theorem inOrder_eq (hperm : as.Perm r.assignments)
    (has : as.Pairwise fun a b => a.link.internal < b.link.internal) :
    r.inOrder = as := by
  refine List.Perm.eq_of_pairwise ?_ r.pairwise_le_inOrder
    (has.imp Nat.le_of_lt) (r.inOrder_perm.trans hperm.symm)
  -- Two assignments of the list with the same number are the same one.
  intro a b ha hb hab hba
  have hnumbers : (as.map (·.link.internal)).Nodup :=
    List.pairwise_map.2 (has.imp Nat.ne_of_lt)
  have hmem : a ∈ as := hperm.symm.subset (r.inOrder_perm.subset ha)
  exact List.inj_on_of_nodup_map hnumbers hmem hb (Nat.le_antisymm hab hba)

theorem pairwise_lt_inOrder (h : r.Keyed) :
    r.inOrder.Pairwise fun a b => a.link.internal < b.link.internal := by
  have hnumbers : (r.inOrder.map (·.link.internal)).Nodup :=
    (r.inOrder_perm.map _).nodup_iff.2 h
  exact (r.pairwise_le_inOrder.and (List.pairwise_map.1 hnumbers)).imp
    fun hab => Nat.lt_of_le_of_ne hab.1 hab.2

variable [Quantity α] {n : Network α}

theorem findings_eq (hperm : as.Perm r.assignments)
    (has : as.Pairwise fun a b => a.link.internal < b.link.internal) :
    r.findings n = as.flatMap (findingsOf n) := by
  rw [findings, inOrder_eq hperm has]

/-- How a registry lists its assignments makes no difference to what is
found. -/
theorem findings_eq_of_perm (h : r.Keyed)
    (hperm : other.assignments.Perm r.assignments) :
    other.findings n = r.findings n :=
  findings_eq (r.inOrder_perm.trans hperm.symm) (pairwise_lt_inOrder h)

/-- Nothing is found if nothing is found about any link. -/
theorem findings_eq_nil_iff :
    r.findings n = [] ↔ ∀ a ∈ r.assignments, findingsOf n a = [] := by
  rw [findings, List.flatMap_eq_nil_iff]
  simp only [r.inOrder_perm.mem_iff]

end LaneRegistry

end LaneFlow
