import LaneFlow.Proofs.Ids
import Mathlib.Logic.Function.Basic

/-!
# Lists with an index

A thing in a list need not be searched for if its place is written down when it
is put there.  An `Indexed` list keeps places by the numbers of ids, apart from
its items: a lookup reads the place first and the item then, and could be led
out of the list.

It is not as long as places and items belong together (`Indexed.Right`): a
number has a place exactly if the thing at that place has the number.  Then a
lookup finds what a search of the list does, no two things have the same number,
and what is changed at the place of an id is changed wherever the id is.

## Main results

* `Right.push` — one thing more, under a new number.
* `Right.get?_eq` — a lookup is a search, and never leads out of the list.
* `Right.set_eq_map` — a change at the place of an id.
* `right_pushAll` — things with distinct numbers, put in one after the other.
-/

namespace LaneFlow

/-- A list, and the places of some numbers in it. -/
structure Indexed (β : Type) where
  items : List β := []
  places : Nat → Option Nat := fun _ => none

namespace Indexed

variable {β : Type} {kind : IdKind}

/-- The item at the place of an id.  The id may have no place, and a place may
have no item. -/
def get? (x : Indexed β) (id : Id kind) : Option (Option β) :=
  (x.places id.internal).map (x.items[·]?)

/-- Writes down the next place for an id, and puts an item there. -/
def push (x : Indexed β) (id : Id kind) (b : β) : Indexed β :=
  let marked := { x with
    places := Function.update x.places id.internal (some x.items.length) }
  { marked with items := marked.items ++ [b] }

/-- Places and items belong together: a number has a place exactly if the thing
at that place has the number. -/
def Right (x : Indexed β) (key : β → Id kind) : Prop :=
  ∀ k i, x.places k = some i ↔
    ∃ b, x.items[i]? = some b ∧ (key b).internal = k

variable {x : Indexed β} {key : β → Id kind}

theorem right_empty (key : β → Id kind) : ({} : Indexed β).Right key := by
  simp [Right]

@[simp] theorem push_items (x : Indexed β) (id : Id kind) (b : β) :
    (x.push id b).items = x.items ++ [b] := rfl

/-! ## Looking up -/

/-- A thing that is found has its number. -/
theorem Right.find?_of_place (h : x.Right key) {id : Id kind} {i : Nat}
    (hplace : x.places id.internal = some i) :
    ∃ b, x.items[i]? = some b ∧ (key b).same id = true ∧
      x.items.find? (fun b => (key b).same id) = some b := by
  obtain ⟨b, hb, hkey⟩ := (h _ _).1 hplace
  have hsame : (key b).same id = true := Id.same_iff.2 hkey
  refine ⟨b, hb, hsame, ?_⟩
  cases hfind : x.items.find? fun b => (key b).same id with
  | none =>
      exact absurd hsame
        (List.find?_eq_none.1 hfind b (List.mem_of_getElem? hb))
  | some c =>
      obtain ⟨j, hc⟩ :=
        List.mem_iff_getElem?.1 (List.mem_of_find?_eq_some hfind)
      have hc' : (key c).same id = true := by simpa using List.find?_some hfind
      have hother : x.places id.internal = some j :=
        (h _ _).2 ⟨c, hc, Id.same_iff.1 hc'⟩
      obtain rfl := Option.some.inj (hplace.symm.trans hother)
      exact congrArg some (Option.some.inj (hc.symm.trans hb))

theorem Right.find?_of_no_place (h : x.Right key) {id : Id kind}
    (hplace : x.places id.internal = none) :
    x.items.find? (fun b => (key b).same id) = none := by
  refine List.find?_eq_none.2 fun b hb hsame => ?_
  obtain ⟨i, hi⟩ := List.mem_iff_getElem?.1 hb
  have hfound := (h id.internal i).2 ⟨b, hi, Id.same_iff.1 hsame⟩
  exact nomatch hplace.symm.trans hfound

/-- An id has no place exactly if a search finds nothing. -/
theorem Right.places_eq_none_iff (h : x.Right key) {id : Id kind} :
    x.places id.internal = none ↔
      x.items.find? (fun b => (key b).same id) = none := by
  refine ⟨h.find?_of_no_place, fun hnone => ?_⟩
  cases hplace : x.places id.internal with
  | none => rfl
  | some i =>
      obtain ⟨b, -, -, hfind⟩ := h.find?_of_place hplace
      exact nomatch hnone.symm.trans hfind

/-- A lookup is a search, and never leads out of the list. -/
theorem Right.get?_eq (h : x.Right key) (id : Id kind) :
    x.get? id = (x.items.find? fun b => (key b).same id).map some := by
  rw [get?]
  cases hplace : x.places id.internal with
  | none =>
      rw [h.find?_of_no_place hplace]
      rfl
  | some i =>
      obtain ⟨b, hb, -, hfind⟩ := h.find?_of_place hplace
      rw [hfind, Option.map_some, hb]
      rfl

/-- No two things have the same number. -/
theorem Right.nodup (h : x.Right key) :
    (x.items.map fun b => (key b).internal).Nodup := by
  rw [List.nodup_iff_getElem?_ne_getElem?]
  intro i j hij hj hsame
  simp only [List.length_map] at hj
  have hi : i < x.items.length := by omega
  have hkey : (key x.items[i]).internal = (key x.items[j]).internal := by
    simpa [hi, hj] using hsame
  have hplace : x.places (key x.items[j]).internal = some i :=
    (h _ _).2 ⟨_, List.getElem?_eq_getElem hi, hkey⟩
  have hother : x.places (key x.items[j]).internal = some j :=
    (h _ _).2 ⟨_, List.getElem?_eq_getElem hj, rfl⟩
  have heq := Option.some.inj (hplace.symm.trans hother)
  omega

/-- A lookup finds the thing that has the id. -/
theorem Right.get?_eq_some_iff (h : x.Right key) {id : Id kind} {b : β} :
    x.get? id = some (some b) ↔ b ∈ x.items ∧ (key b).same id = true := by
  rw [h.get?_eq, Option.map_eq_some_iff, ← Id.find?_same_eq_some_iff h.nodup]
  simp

/-- It finds nothing if there is no such thing. -/
theorem Right.get?_eq_none_iff (h : x.Right key) {id : Id kind} :
    x.get? id = none ↔ ∀ b ∈ x.items, ¬ (key b).same id := by
  rw [h.get?_eq, Option.map_eq_none_iff]
  exact List.find?_eq_none

theorem Right.get?_ne_astray (h : x.Right key) (id : Id kind) :
    x.get? id ≠ some none := by
  simp [h.get?_eq]

/-! ## Changes -/

theorem exists_getElem?_concat {xs : List β} {b : β} {i : Nat} {P : β → Prop} :
    (∃ c, (xs ++ [b])[i]? = some c ∧ P c) ↔
      (∃ c, xs[i]? = some c ∧ P c) ∨ i = xs.length ∧ P b := by
  rcases Nat.lt_trichotomy i xs.length with hlt | rfl | hgt
  · simp [List.getElem?_append_left hlt, Nat.ne_of_lt hlt]
  · simp
  · have hshort : xs[i]? = none := List.getElem?_eq_none (Nat.le_of_lt hgt)
    have hlong : (xs ++ [b])[i]? = none := by
      refine List.getElem?_eq_none ?_
      rw [List.length_append]
      exact hgt
    simp [hshort, hlong, Nat.ne_of_gt hgt]

/-- One thing more, under a new number. -/
theorem Right.push (h : x.Right key) {b : β}
    (hnew : x.places (key b).internal = none) :
    (x.push (key b) b).Right key := by
  intro k i
  change Function.update x.places (key b).internal (some x.items.length) k =
    some i ↔ ∃ c, (x.items ++ [b])[i]? = some c ∧ (key c).internal = k
  rw [exists_getElem?_concat, ← h k i]
  by_cases hk : k = (key b).internal
  · subst hk
    simp [hnew, eq_comm]
  · simp [Function.update_of_ne hk, Ne.symm hk]

/-- Items may change as long as they keep their ids. -/
theorem Right.of_map_eq (h : x.Right key) {ys : List β}
    (hkeys : ys.map key = x.items.map key) :
    ({ x with items := ys } : Indexed β).Right key := by
  intro k i
  have hkey : ys[i]?.map key = x.items[i]?.map key := by
    rw [← List.getElem?_map, ← List.getElem?_map, hkeys]
  have hhas : ∀ o : Option β, (∃ b, o = some b ∧ (key b).internal = k) ↔
      ∃ id, o.map key = some id ∧ id.internal = k := by
    intro o
    cases o <;> simp
  change x.places k = some i ↔ ∃ b, ys[i]? = some b ∧ (key b).internal = k
  rw [h k i, hhas, hhas, hkey]

/-- What is changed at the place of an id is changed wherever the id is. -/
theorem Right.set_eq_map (h : x.Right key) {id : Id kind} {i : Nat} {b : β}
    (hplace : x.places id.internal = some i) (hb : x.items[i]? = some b)
    (f : β → β) :
    x.items.set i (f b) =
      x.items.map fun c => if (key c).same id then f c else c := by
  refine List.ext_getElem? fun j => ?_
  rw [List.getElem?_map]
  by_cases hij : i = j
  · subst hij
    obtain ⟨c, hc, hsame, -⟩ := h.find?_of_place hplace
    obtain rfl := Option.some.inj (hc.symm.trans hb)
    rw [List.getElem?_set_self (List.getElem?_eq_some_iff.1 hb).1, hb,
      Option.map_some, if_pos hsame]
  · rw [List.getElem?_set_ne hij]
    cases hj : x.items[j]? with
    | none => rfl
    | some c =>
        have hother : ¬ (key c).same id = true := by
          intro hsame
          have hfound := (h id.internal j).2 ⟨c, hj, Id.same_iff.1 hsame⟩
          exact hij (Option.some.inj (hplace.symm.trans hfound))
        rw [Option.map_some, if_neg hother]

/-! ## Many things -/

/-- Puts in some things under their ids, one after the other. -/
def pushAll (x : Indexed β) (key : β → Id kind) (bs : List β) : Indexed β :=
  bs.foldl (fun x b => x.push (key b) b) x

@[simp] theorem pushAll_items (x : Indexed β) (bs : List β) :
    (x.pushAll key bs).items = x.items ++ bs := by
  induction bs generalizing x with
  | nil => simp [pushAll]
  | cons b bs ih =>
      have hstep :
          x.pushAll key (b :: bs) = (x.push (key b) b).pushAll key bs :=
        rfl
      rw [hstep, ih, push_items, List.append_assoc, List.singleton_append]

/-- Places stay right as long as all numbers are distinct. -/
theorem Right.pushAll (h : x.Right key) {bs : List β}
    (hnodup : ((x.items ++ bs).map fun b => (key b).internal).Nodup) :
    (x.pushAll key bs).Right key := by
  induction bs generalizing x with
  | nil => exact h
  | cons b bs ih =>
      have hnew : x.places (key b).internal = none := by
        cases hplace : x.places (key b).internal with
        | none => rfl
        | some i =>
            obtain ⟨c, hc, hkey⟩ := (h _ _).1 hplace
            rw [List.map_append, List.nodup_append] at hnodup
            exact absurd hkey (hnodup.2.2 _
              (List.mem_map_of_mem (List.mem_of_getElem? hc)) _
              (List.mem_map_of_mem List.mem_cons_self))
      exact ih (h.push hnew) (by simpa using hnodup)

theorem right_pushAll {bs : List β}
    (hnodup : (bs.map fun b => (key b).internal).Nodup) :
    (({} : Indexed β).pushAll key bs).Right key :=
  (right_empty key).pushAll hnodup

end Indexed

end LaneFlow
