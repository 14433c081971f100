import LaneFlow.Ident
import Mathlib.Data.List.Find
import Mathlib.Data.List.Nodup

/-!
# Ids stand for their texts

A store gives each text of a kind one number, whatever has been asked of it
before.  So among the ids that one store has given, two are the same exactly
if their texts are: a comparison of numbers may be read as one of texts.  And
an id stays what it is, since a store only ever appends.

`Distinct` is what every store satisfies that creations lead to, `Knows` says
that an id was given by a store, and `Grows` that one store came later than
another.

## Main results

* `distinct_after` — after any creations the texts of each kind are distinct.
* `Id.find?_same_eq_some_iff` — of things with distinct numbers an id finds
  the one that has it.
* `same_iff_external_eq` — ids that a store knows are told apart by their
  texts.
* `find?_same`, `isSome_find?_same_iff` — what has an id is found by its text.
* `exists_filter_find?`, `filter_find?_eq_none` — a text that is looked up is
  found among some ids exactly if it is the text of one of them, however many
  other texts the store knows.
-/

namespace LaneFlow

/-! ## Things with distinct numbers -/

section Numbered

variable {kind : IdKind} {β : Type} {key : β → Id kind} {xs : List β}
  {id : Id kind} {x : β}

/-- Of things with distinct numbers an id finds the one that has it. -/
theorem Id.find?_same_eq_some_iff (h : (xs.map fun x => (key x).internal).Nodup) :
    xs.find? (fun x => (key x).same id) = some x ↔
      x ∈ xs ∧ (key x).same id = true := by
  constructor
  · intro hx
    have hsame := List.find?_some hx
    exact ⟨List.mem_of_find?_eq_some hx, hsame⟩
  · rintro ⟨hmem, hsame⟩
    cases hfind : xs.find? fun x => (key x).same id with
    | none => exact absurd hsame (List.find?_eq_none.1 hfind x hmem)
    | some y =>
        have hy := List.find?_some hfind
        have heq : (key y).internal = (key x).internal :=
          (same_iff.1 hy).trans (same_iff.1 hsame).symm
        rw [List.inj_on_of_nodup_map h (List.mem_of_find?_eq_some hfind) hmem
          heq]

/-- A thing that no id has found keeps the numbers distinct. -/
theorem Id.nodup_concat (h : (xs.map fun x => (key x).internal).Nodup)
    (hnew : xs.find? (fun y => (key y).same (key x)) = none) :
    ((xs ++ [x]).map fun x => (key x).internal).Nodup := by
  rw [List.map_append, List.map_singleton, ← List.concat_eq_append]
  refine h.concat fun hmem => ?_
  obtain ⟨y, hy, heq⟩ := List.mem_map.1 hmem
  exact List.find?_eq_none.1 hnew y hy (same_iff.2 heq)

end Numbered

end LaneFlow

namespace LaneFlow.IdStore

variable {kind : IdKind} {s t u : IdStore}

/-- The texts of each kind are distinct. -/
def Distinct (s : IdStore) : Prop := ∀ kind, (s.texts kind).Nodup

/-- An id was given by the store. -/
def Knows (s : IdStore) (id : Id kind) : Prop :=
  (s.texts kind)[id.internal]? = some id.external

instance (s : IdStore) (id : Id kind) : Decidable (s.Knows id) :=
  inferInstanceAs (Decidable (_ = _))

/-- One store came of another by creations: it keeps all texts in their places
and adds none twice. -/
structure Grows (s t : IdStore) : Prop where
  keeps : ∀ kind, s.texts kind <+: t.texts kind
  distinct : s.Distinct → t.Distinct

/-- The store after several creations, each of a text of some kind. -/
def after (created : List (IdKind × String)) : IdStore :=
  created.foldl (fun s c => (s.create c.1 c.2).2) {}

/-! ## Stores grow -/

theorem Grows.refl (s : IdStore) : s.Grows s := ⟨fun _ => List.prefix_rfl, id⟩

theorem Grows.trans (h : s.Grows t) (h' : t.Grows u) : s.Grows u :=
  ⟨fun kind => (h.keeps kind).trans (h'.keeps kind), h'.distinct ∘ h.distinct⟩

theorem Knows.mono {id : Id kind} (h : s.Knows id) (hgrows : s.Grows t) :
    t.Knows id := by
  obtain ⟨rest, hrest⟩ := hgrows.keeps kind
  rw [Knows, ← hrest]
  exact List.getElem?_append_left (List.getElem?_eq_some_iff.1 h).1 ▸ h

/-! ## Looking up and creating -/

theorem number?_eq_some_iff (h : s.Distinct) {x : String} {n : Nat} :
    s.number? kind x = some n ↔ (s.texts kind)[n]? = some x := by
  rw [number?, List.idxOf?_eq_some_iff, List.getElem?_eq_some_iff]
  constructor
  · rintro ⟨hlt, hx, _⟩
    exact ⟨hlt, hx⟩
  · rintro ⟨hlt, hx⟩
    refine ⟨hlt, hx, fun j hj hjx => ?_⟩
    have hsame := (h kind).getElem_inj_iff.1 (hjx.trans hx.symm)
    omega

theorem number?_isSome_iff {x : String} :
    (s.number? kind x).isSome = true ↔ x ∈ s.texts kind := by
  rw [number?, List.isSome_idxOf?]

theorem find?_eq_some_iff (h : s.Distinct) {x : String} {id : Id kind} :
    s.find? kind x = some id ↔ s.Knows id ∧ id.external = x := by
  rw [find?, Option.map_eq_some_iff]
  constructor
  · rintro ⟨n, hn, rfl⟩
    exact ⟨(number?_eq_some_iff h).1 hn, rfl⟩
  · rintro ⟨hid, rfl⟩
    exact ⟨id.internal, (number?_eq_some_iff h).2 hid, rfl⟩

theorem distinct_create (h : s.Distinct) (kind : IdKind) (x : String) :
    (s.create kind x).2.Distinct := by
  intro other
  by_cases hkind : other = kind
  · subst hkind
    rw [texts_create_self]
    split
    · exact h other
    · rename_i hnew
      have hmem : x ∉ s.texts other := by
        rwa [number?, List.isSome_idxOf?] at hnew
      rw [← List.concat_eq_append]
      exact (h other).concat hmem
  · rw [texts_create_other s x hkind]
    exact h other

theorem grows_create (s : IdStore) (kind : IdKind) (x : String) :
    s.Grows (s.create kind x).2 := by
  refine ⟨fun other => ?_, fun h => distinct_create h kind x⟩
  by_cases hkind : other = kind
  · subst hkind
    rw [texts_create_self]
    split
    · exact List.prefix_rfl
    · exact List.prefix_append ..
  · exact texts_create_other s x hkind ▸ List.prefix_rfl

theorem knows_create (h : s.Distinct) (kind : IdKind) (x : String) :
    (s.create kind x).2.Knows (s.create kind x).1 := by
  rw [Knows, create_external, create_internal, texts_create_self]
  cases hn : s.number? kind x with
  | none => simp
  | some n => simpa using (number?_eq_some_iff h).1 hn

theorem distinct_after (created : List (IdKind × String)) :
    (after created).Distinct := by
  have hfrom : ∀ (cs : List (IdKind × String)) (s : IdStore), s.Distinct →
      (cs.foldl (fun s c => (s.create c.1 c.2).2) s).Distinct := by
    intro cs
    induction cs with
    | nil => exact fun _ h => h
    | cons c cs ih => exact fun s h => ih _ (distinct_create h c.1 c.2)
  refine hfrom created {} fun kind => ?_
  cases kind <;> exact List.nodup_nil

/-! ## Comparing ids -/

/-- Ids that a store knows are told apart by their texts. -/
theorem same_iff_external_eq (h : s.Distinct) {a b : Id kind}
    (ha : s.Knows a) (hb : s.Knows b) :
    a.same b = true ↔ a.external = b.external := by
  have hlt := (List.getElem?_eq_some_iff.1 ha).1
  rw [Id.same_iff, ← List.getElem?_inj hlt (h kind), ha, hb,
    Option.some.injEq]

theorem same_eq_beq (h : s.Distinct) {a b : Id kind} (ha : s.Knows a)
    (hb : s.Knows b) : a.same b = (a.external == b.external) := by
  rw [Bool.eq_iff_iff, same_iff_external_eq h ha hb, beq_iff_eq]

/-- An id that a store knows is told from its text. -/
theorem Knows.ext (h : s.Distinct) {a b : Id kind} (ha : s.Knows a)
    (hb : s.Knows b) (hab : a.external = b.external) : a = b := by
  obtain ⟨i, x⟩ := a
  obtain ⟨j, y⟩ := b
  have hsame := Id.same_iff.1 ((same_iff_external_eq h ha hb).2 hab)
  simp_all

/-- The number of an id is the place of its text. -/
theorem Knows.internal_eq (h : s.Distinct) {id : Id kind} (hid : s.Knows id) :
    id.internal = (s.texts kind).idxOf id.external := by
  obtain ⟨hlt, htext⟩ := List.getElem?_eq_some_iff.1 hid
  rw [← htext, (h kind).idxOf_getElem]

/-- A text that a store holds has an id. -/
theorem knows_idxOf {x : String} (hx : x ∈ s.texts kind) :
    s.Knows (⟨(s.texts kind).idxOf x, x⟩ : Id kind) := by
  have hlt := List.idxOf_lt_length_iff.2 hx
  exact List.getElem?_eq_some_iff.2 ⟨hlt, List.getElem_idxOf hlt⟩

theorem Knows.external_mem {id : Id kind} (hid : s.Knows id) :
    id.external ∈ s.texts kind := List.mem_of_getElem? hid

/-- The numbers of ids rise if their texts come in the order of the store. -/
theorem pairwise_internal_lt (h : s.Distinct) {ids : List (Id kind)}
    (hids : ∀ id ∈ ids, s.Knows id)
    (hsub : (ids.map (·.external)).Sublist (s.texts kind)) :
    ids.Pairwise fun a b => a.internal < b.internal := by
  have htexts : (s.texts kind).Pairwise fun x y =>
      (s.texts kind).idxOf x < (s.texts kind).idxOf y := by
    rw [List.pairwise_iff_getElem]
    intro i j hi hj hij
    rwa [(h kind).idxOf_getElem, (h kind).idxOf_getElem]
  refine (List.pairwise_map.1 (htexts.sublist hsub)).imp_of_mem ?_
  intro a b ha hb hab
  rwa [(hids a ha).internal_eq h, (hids b hb).internal_eq h]

/-! ## Looking for an id -/

section Keyed

variable {β : Type} {key : β → Id kind} {xs : List β} {id : Id kind}

/-- What has an id is found by its text. -/
theorem find?_same (h : s.Distinct) (hxs : ∀ x ∈ xs, s.Knows (key x))
    (hid : s.Knows id) :
    xs.find? (fun x => (key x).same id) =
      xs.find? fun x => (key x).external == id.external :=
  List.find?_congr fun x hx => same_eq_beq h (hxs x hx) hid

theorem isSome_find?_same_iff (h : s.Distinct)
    (hxs : ∀ x ∈ xs, s.Knows (key x)) (hid : s.Knows id) :
    (xs.find? fun x => (key x).same id).isSome = true ↔
      id.external ∈ xs.map fun x => (key x).external := by
  rw [find?_same h hxs hid, List.find?_isSome]
  simp

/-- Numbers are distinct if texts are. -/
theorem nodup_internal_iff (h : s.Distinct) (hxs : ∀ x ∈ xs, s.Knows (key x)) :
    (xs.map fun x => (key x).internal).Nodup ↔
      (xs.map fun x => (key x).external).Nodup := by
  have hsame : ∀ {x y : β}, x ∈ xs → y ∈ xs →
      ((key x).internal ≠ (key y).internal ↔
        (key x).external ≠ (key y).external) := fun hx hy =>
    not_congr (Id.same_iff.symm.trans
      (same_iff_external_eq h (hxs _ hx) (hxs _ hy)))
  rw [List.Nodup, List.Nodup, List.pairwise_map, List.pairwise_map]
  exact List.Pairwise.iff_of_mem hsame

end Keyed

/-! ## Looking up among some ids -/

section Among

variable {names : List String} {p : Id kind → Bool} {x : String}

/-- A text is found among the ids of some names if it is one of the names. -/
theorem exists_filter_find? (h : s.Distinct)
    (hknown : ∀ name ∈ names, ∃ id : Id kind, s.Knows id ∧ id.external = name)
    (hp : ∀ id, s.Knows id → (p id = true ↔ id.external ∈ names))
    (hx : x ∈ names) :
    ∃ id, (s.find? kind x).filter p = some id ∧ s.Knows id ∧
      id.external = x ∧ p id = true := by
  obtain ⟨id, hid, rfl⟩ := hknown x hx
  have hpid := (hp id hid).2 hx
  refine ⟨id, ?_, hid, rfl, hpid⟩
  rw [(find?_eq_some_iff h).2 ⟨hid, rfl⟩, Option.filter_some, if_pos hpid]

/-- It is not found among them otherwise, even if the store knows it. -/
theorem filter_find?_eq_none (h : s.Distinct)
    (hp : ∀ id, s.Knows id → (p id = true ↔ id.external ∈ names))
    (hx : x ∉ names) : (s.find? kind x).filter p = none := by
  rw [Option.filter_eq_none_iff]
  intro id hid hpid
  obtain ⟨hknows, rfl⟩ := (find?_eq_some_iff h).1 hid
  exact hx ((hp id hknows).1 hpid)

end Among

end LaneFlow.IdStore
