import LaneFlow.Proofs.Ids
import Mathlib.Data.List.Induction

/-!
# Ids over any requests

A store is asked to create ids and to look them up, by number or by text, and
some of what it is asked for it does not have.  What it holds after any requests
is told from the requests alone: for each kind the texts that were created, each
at the place of its first creation (`IdRequest.firsts`).  The number of an id is
this place.

The texts only grow at their end, so the id of a text never changes once it has
been given.  What the kinds hold does not depend on each other, and looking up
changes nothing, whether something is found or not.

## Main results

* `texts_run` — what a store holds after any requests.
* `registers_run` — how it answers after any requests.
* `knows_of_mem_replies` — ids in replies are ids of the store.
* `stays_of_mem_replies`, `compare_of_mem_replies` — ids stay what they are, and
  how they compare.
-/

namespace LaneFlow

/-- What a store is asked for. -/
inductive IdRequest where
  /-- The id of a text, which is created if there is none. -/
  | create (kind : IdKind) (external : String)
  /-- The id of a number that must have been given. -/
  | byNumber (kind : IdKind) (internal : Nat)
  /-- The id of a text that must have been met. -/
  | byText (kind : IdKind) (external : String)
  /-- The id of a text, if it has been met. -/
  | find (kind : IdKind) (external : String)
deriving DecidableEq, Repr

/-- What a store replies. -/
inductive IdReply where
  | given (kind : IdKind) (id : Id kind)
  | absent
  | refused (fault : IdFault)
deriving DecidableEq, Repr

/-- The reply to a question that may be refused. -/
def IdReply.ofExcept {kind : IdKind} : Except IdFault (Id kind) → IdReply
  | .ok id => .given kind id
  | .error fault => .refused fault

/-- The reply to a question that may come to nothing. -/
def IdReply.ofOption {kind : IdKind} : Option (Id kind) → IdReply
  | some id => .given kind id
  | none => .absent

namespace IdRequest

/-- The text that a request creates for a kind, if it creates one. -/
def created? (kind : IdKind) : IdRequest → Option String
  | .create other x => if other = kind then some x else none
  | _ => none

/-- The texts that some requests create for a kind, in their order. -/
def created (kind : IdKind) (rs : List IdRequest) : List String :=
  rs.filterMap (created? kind)

/-- The same texts, each at its first creation only. -/
def firsts (kind : IdKind) (rs : List IdRequest) : List String :=
  (created kind rs).eraseDups

theorem mem_firsts {kind : IdKind} {rs : List IdRequest} {x : String} :
    x ∈ firsts kind rs ↔ x ∈ created kind rs := List.mem_eraseDups

/-- One request more adds the text that it creates, unless it has been created
before. -/
theorem firsts_concat (kind : IdKind) (rs : List IdRequest) (r : IdRequest) :
    firsts kind (rs ++ [r]) = firsts kind rs ++
      (r.created? kind).toList.filter (· ∉ firsts kind rs) := by
  have hcreated : created kind (rs ++ [r]) =
      created kind rs ++ (r.created? kind).toList := by
    rw [created, List.filterMap_append, List.filterMap_cons]
    cases r.created? kind <;> rfl
  rw [firsts, hcreated, List.eraseDups_append, ← firsts]
  cases r.created? kind with
  | none => rfl
  | some x =>
      by_cases hx : x ∈ created kind rs
      · simp [List.removeAll, mem_firsts, hx]
      · simp [List.removeAll, List.eraseDups_cons, mem_firsts, hx]

end IdRequest

namespace IdStore

open IdRequest

/-- What comes of a request: the reply, and the store that remains. -/
def answer (s : IdStore) : IdRequest → IdReply × IdStore
  | .create kind x =>
    let (id, s) := s.create kind x
    (.given kind id, s)
  | .byNumber kind n => (.ofExcept (s.byNumber kind n), s)
  | .byText kind x => (.ofExcept (s.byText kind x), s)
  | .find kind x => (.ofOption (s.find? kind x), s)

/-- The store after some requests. -/
def run (s : IdStore) (rs : List IdRequest) : IdStore :=
  rs.foldl (fun s r => (s.answer r).2) s

/-- The replies to some requests, one after the other. -/
def replies (s : IdStore) : List IdRequest → List IdReply
  | [] => []
  | r :: rs => (s.answer r).1 :: (s.answer r).2.replies rs

variable {kind : IdKind} {s : IdStore} {x : String}

@[simp] theorem run_nil (s : IdStore) : s.run [] = s := rfl

@[simp] theorem run_cons (s : IdStore) (r : IdRequest) (rs : List IdRequest) :
    s.run (r :: rs) = (s.answer r).2.run rs := rfl

theorem run_append (s : IdStore) (rs rs' : List IdRequest) :
    s.run (rs ++ rs') = (s.run rs).run rs' := by
  rw [run, run, run, List.foldl_append]

/-! ## Creating an id -/

/-- A text that has been met keeps its place. -/
theorem create_of_mem (h : s.Distinct) (hx : x ∈ s.texts kind) :
    s.create kind x = (⟨(s.texts kind).idxOf x, x⟩, s) := by
  have hn : s.number? kind x = some ((s.texts kind).idxOf x) :=
    (number?_eq_some_iff h).2 (knows_idxOf hx)
  rw [create, hn]

/-- A new text is put at the end. -/
theorem create_of_not_mem (hx : x ∉ s.texts kind) :
    s.create kind x =
      (⟨(s.texts kind).length, x⟩, s.setTexts kind (s.texts kind ++ [x])) := by
  have hn : s.number? kind x = none := by
    rwa [← Option.not_isSome_iff_eq_none, number?_isSome_iff]
  rw [create, hn]

/-- The numbers with a new text at the end. -/
theorem number?_setTexts_concat (hx : x ∉ s.texts kind) (y : String) :
    (s.setTexts kind (s.texts kind ++ [x])).number? kind y =
      if y = x then some (s.texts kind).length else s.number? kind y := by
  rw [number?, texts_setTexts_self, List.idxOf?, List.findIdx?_append,
    ← List.idxOf?, ← number?]
  by_cases hy : y = x
  · subst hy
    have hn : s.number? kind y = none := by
      rwa [← Option.not_isSome_iff_eq_none, number?_isSome_iff]
    simp [hn]
  · have hne : (x == y) = false := by simpa using Ne.symm hy
    simp [hy, hne]

/-! ## Looking up -/

theorem byNumber_eq_ok_iff {n : Nat} {id : Id kind} :
    s.byNumber kind n = .ok id ↔ id.internal = n ∧ s.Knows id := by
  obtain ⟨i, x⟩ := id
  unfold byNumber Knows
  split
  · rename_i hempty
    simp [List.isEmpty_iff.1 hempty]
  · cases hn : (s.texts kind)[n]? with
    | some y => grind
    | none => grind

theorem byNumber_eq_error_iff {n : Nat} {fault : IdFault} :
    s.byNumber kind n = .error fault ↔ (s.texts kind).length ≤ n ∧
      fault = if s.texts kind = [] then .noneOfKind kind
        else .unknownNumber n := by
  unfold byNumber
  split
  · rename_i hempty
    simp [List.isEmpty_iff.1 hempty, eq_comm]
  · rename_i hempty
    rw [List.isEmpty_iff] at hempty
    rw [if_neg hempty]
    cases hn : (s.texts kind)[n]? with
    | some y =>
        have hlt := (List.getElem?_eq_some_iff.1 hn).1
        simp [Nat.not_le.2 hlt]
    | none => simp [List.getElem?_eq_none_iff.1 hn, eq_comm]

theorem byText_eq_ok_iff (h : s.Distinct) {id : Id kind} :
    s.byText kind x = .ok id ↔ s.Knows id ∧ id.external = x := by
  rw [← find?_eq_some_iff h, byText]
  cases s.find? kind x <;> simp

theorem find?_eq_none_iff : s.find? kind x = none ↔ x ∉ s.texts kind := by
  rw [find?, Option.map_eq_none_iff, ← Option.not_isSome_iff_eq_none,
    number?_isSome_iff]

/-! ## After any requests -/

theorem grows_answer (s : IdStore) (r : IdRequest) : s.Grows (s.answer r).2 := by
  cases r with
  | create kind x => exact grows_create s kind x
  | byNumber | byText | find => exact .refl s

theorem grows_run (s : IdStore) (rs : List IdRequest) : s.Grows (s.run rs) := by
  induction rs generalizing s with
  | nil => exact .refl s
  | cons r rs ih => exact (grows_answer s r).trans (ih _)

/-- A request adds at most the text that it creates. -/
theorem texts_answer (s : IdStore) (r : IdRequest) (kind : IdKind) :
    (s.answer r).2.texts kind = s.texts kind ++
      (r.created? kind).toList.filter (· ∉ s.texts kind) := by
  cases r with
  | create other x =>
      by_cases hkind : other = kind
      · subst hkind
        have hnumber : (s.number? other x).isSome = true ↔ x ∈ s.texts other :=
          number?_isSome_iff
        simp only [answer, texts_create_self, created?, hnumber]
        by_cases hx : x ∈ s.texts other <;> simp [hx]
      · have hother := texts_create_other s x (Ne.symm hkind)
        simpa [answer, created?, hkind] using hother
  | byNumber | byText | find => simp [answer, created?]

/-- After any requests a store holds the texts that were created, each at the
place of its first creation. -/
theorem texts_run (rs : List IdRequest) (kind : IdKind) :
    (({} : IdStore).run rs).texts kind = firsts kind rs := by
  induction rs using List.reverseRecOn with
  | nil => cases kind <;> rfl
  | append_singleton rs r ih =>
      rw [run_append, run_cons, run_nil, texts_answer, ih, firsts_concat]

theorem distinct_run (rs : List IdRequest) : (({} : IdStore).run rs).Distinct := by
  refine (grows_run {} rs).distinct fun kind => ?_
  cases kind <;> exact List.nodup_nil

/-- An id in a reply is an id of the store. -/
theorem knows_of_answer (h : s.Distinct) {r : IdRequest} {id : Id kind}
    (hid : (s.answer r).1 = .given kind id) : (s.answer r).2.Knows id := by
  cases r with
  | create other x =>
      cases hid
      exact knows_create h kind x
  | byNumber other n =>
      cases hn : s.byNumber other n with
      | ok a =>
          simp only [answer, hn, IdReply.ofExcept] at hid
          cases hid
          exact (byNumber_eq_ok_iff.1 hn).2
      | error => simp [answer, hn, IdReply.ofExcept] at hid
  | byText other x =>
      cases hx : s.byText other x with
      | ok a =>
          simp only [answer, hx, IdReply.ofExcept] at hid
          cases hid
          exact ((byText_eq_ok_iff h).1 hx).1
      | error => simp [answer, hx, IdReply.ofExcept] at hid
  | find other x =>
      cases hx : s.find? other x with
      | some a =>
          simp only [answer, hx, IdReply.ofOption] at hid
          cases hid
          exact ((find?_eq_some_iff h).1 hx).1
      | none => simp [answer, hx, IdReply.ofOption] at hid

/-- And it stays one. -/
theorem knows_of_mem_replies (h : s.Distinct) {rs : List IdRequest}
    {id : Id kind} (hid : .given kind id ∈ s.replies rs) :
    (s.run rs).Knows id := by
  induction rs generalizing s with
  | nil => cases hid
  | cons r rs ih =>
      have hgrows := grows_answer s r
      rcases List.mem_cons.1 hid with hid | hid
      · exact (knows_of_answer h hid.symm).mono (grows_run _ rs)
      · exact ih (hgrows.distinct h) hid

/-- How a store answers after some requests. -/
structure Registers (s : IdStore) (past : List IdRequest) : Prop where
  texts_eq : ∀ kind, s.texts kind = firsts kind past
  texts_nodup : ∀ kind, (s.texts kind).Nodup
  /-- A text that has been created keeps its number, and nothing is added. -/
  create_old : ∀ kind x, x ∈ created kind past →
    s.create kind x = (⟨(firsts kind past).idxOf x, x⟩, s)
  /-- Any other text is added under the next number. -/
  create_new : ∀ kind x, x ∉ created kind past →
    (s.create kind x).1 = ⟨(firsts kind past).length, x⟩ ∧
    (s.create kind x).2.texts kind = firsts kind past ++ [x]
  create_other : ∀ kind x other, other ≠ kind →
    (s.create kind x).2.texts other = firsts other past
  byText_ok_iff : ∀ kind x id, s.byText kind x = .ok id ↔
    x ∈ created kind past ∧ id = ⟨(firsts kind past).idxOf x, x⟩
  byText_error_iff : ∀ kind x fault, s.byText kind x = .error fault ↔
    x ∉ created kind past ∧ fault = .unknownText x
  find?_some_iff : ∀ kind x id, s.find? kind x = some id ↔
    x ∈ created kind past ∧ id = ⟨(firsts kind past).idxOf x, x⟩
  find?_none_iff : ∀ kind x, s.find? kind x = none ↔ x ∉ created kind past
  byNumber_ok_iff : ∀ kind n id, s.byNumber kind n = .ok id ↔
    id.internal = n ∧ (firsts kind past)[n]? = some id.external
  byNumber_isOk_iff : ∀ kind n,
    (∃ id, s.byNumber kind n = .ok id) ↔ n < (firsts kind past).length
  byNumber_error_iff : ∀ kind n fault, s.byNumber kind n = .error fault ↔
    (firsts kind past).length ≤ n ∧
      fault = if firsts kind past = [] then .noneOfKind kind
        else .unknownNumber n

theorem knows_iff (h : s.Distinct) {id : Id kind} :
    s.Knows id ↔ id.external ∈ s.texts kind ∧
      id = ⟨(s.texts kind).idxOf id.external, id.external⟩ := by
  constructor
  · intro hid
    exact ⟨hid.external_mem, hid.ext h (knows_idxOf hid.external_mem) rfl⟩
  · rintro ⟨hmem, hid⟩
    rw [hid]
    exact knows_idxOf hmem

/-- What a store replies to a text, whether it must have been met or not. -/
theorem find?_some_iff_mem (h : s.Distinct) {id : Id kind} :
    s.find? kind x = some id ↔
      x ∈ s.texts kind ∧ id = ⟨(s.texts kind).idxOf x, x⟩ := by
  rw [find?_eq_some_iff h, knows_iff h]
  constructor
  · rintro ⟨⟨hmem, hid⟩, rfl⟩
    exact ⟨hmem, hid⟩
  · rintro ⟨hmem, rfl⟩
    exact ⟨⟨hmem, rfl⟩, rfl⟩

/-- After any requests a store answers by what has been created. -/
theorem registers_run (past : List IdRequest) :
    (({} : IdStore).run past).Registers past := by
  have htexts := texts_run past
  have hdistinct := distinct_run past
  generalize ({} : IdStore).run past = s at htexts hdistinct
  have hmem : ∀ kind x, x ∈ s.texts kind ↔ x ∈ created kind past := by
    intro kind x
    rw [htexts, mem_firsts]
  have hfind : ∀ kind x id, s.find? kind x = some id ↔
      x ∈ created kind past ∧ id = ⟨(firsts kind past).idxOf x, x⟩ := by
    intro kind x id
    rw [find?_some_iff_mem hdistinct, hmem, htexts]
  have hnone : ∀ kind x, s.find? kind x = none ↔ x ∉ created kind past := by
    intro kind x
    rw [find?_eq_none_iff, hmem]
  have hnumber : ∀ (kind : IdKind) (n : Nat) (id : Id kind),
      s.byNumber kind n = .ok id ↔
        id.internal = n ∧ (firsts kind past)[n]? = some id.external := by
    intro kind n id
    rw [byNumber_eq_ok_iff, Knows, htexts]
    refine and_congr_right ?_
    rintro rfl
    exact .rfl
  refine
    { texts_eq := htexts
      texts_nodup := hdistinct
      create_old := fun kind x hx => ?_
      create_new := fun kind x hx => ?_
      create_other := fun kind x other hother => ?_
      byText_ok_iff := fun kind x id => ?_
      byText_error_iff := fun kind x fault => ?_
      find?_some_iff := hfind
      find?_none_iff := hnone
      byNumber_ok_iff := hnumber
      byNumber_isOk_iff := fun kind n => ?_
      byNumber_error_iff := fun kind n fault => ?_ }
  · rw [create_of_mem hdistinct ((hmem kind x).2 hx), htexts]
  · rw [create_of_not_mem fun h => hx ((hmem kind x).1 h), htexts]
    exact ⟨rfl, texts_setTexts_self ..⟩
  · rw [texts_create_other s x hother, htexts]
  · rw [← hfind, byText]
    cases s.find? kind x <;> simp
  · rw [← hnone, byText]
    cases s.find? kind x <;> simp [eq_comm]
  · constructor
    · rintro ⟨id, hid⟩
      exact (List.getElem?_eq_some_iff.1 ((hnumber kind n id).1 hid).2).1
    · intro hlt
      exact ⟨⟨n, (firsts kind past)[n]⟩, (hnumber kind n _).2
        ⟨rfl, List.getElem?_eq_getElem hlt⟩⟩
  · rw [byNumber_eq_error_iff, htexts]

/-! ## Ids that have been given -/

variable {requests : List IdRequest} {a b : Id kind}

/-- An id that was given once is found by its number and by its text, and is
created again, whatever is asked for later. -/
theorem stays_of_mem_replies
    (ha : .given kind a ∈ ({} : IdStore).replies requests)
    (later : List IdRequest) :
    let s := ({} : IdStore).run (requests ++ later)
    s.byNumber kind a.internal = .ok a ∧ s.byText kind a.external = .ok a ∧
      s.create kind a.external = (a, s) := by
  have hknown := knows_of_mem_replies (distinct_run []) ha
  have hlater : (({} : IdStore).run (requests ++ later)).Knows a := by
    rw [run_append]
    exact hknown.mono (grows_run _ later)
  have hdistinct := distinct_run (requests ++ later)
  refine ⟨byNumber_eq_ok_iff.2 ⟨rfl, hlater⟩,
    (byText_eq_ok_iff hdistinct).2 ⟨hlater, rfl⟩, ?_⟩
  rw [create_of_mem hdistinct hlater.external_mem,
    ← ((knows_iff hdistinct).1 hlater).2]

/-- Its text has been created, and its number is the place of the text. -/
theorem place_of_mem_replies
    (ha : .given kind a ∈ ({} : IdStore).replies requests) :
    a.external ∈ created kind requests ∧
      a.internal = (firsts kind requests).idxOf a.external := by
  have hknown : (({} : IdStore).run requests).Knows a :=
    knows_of_mem_replies (distinct_run []) ha
  have hplace := hknown.internal_eq (distinct_run requests)
  have hmem := hknown.external_mem
  rw [texts_run] at hplace hmem
  exact ⟨mem_firsts.1 hmem, hplace⟩

/-- Ids of a kind compare as the first creations of their texts. -/
theorem compare_of_mem_replies
    (ha : .given kind a ∈ ({} : IdStore).replies requests)
    (hb : .given kind b ∈ ({} : IdStore).replies requests) :
    (a.same b = true ↔ a.external = b.external) ∧
      a.compare b = Ord.compare ((firsts kind requests).idxOf a.external)
        ((firsts kind requests).idxOf b.external) := by
  have hempty : ({} : IdStore).Distinct := distinct_run []
  refine ⟨same_iff_external_eq (distinct_run requests)
    (knows_of_mem_replies hempty ha) (knows_of_mem_replies hempty hb), ?_⟩
  rw [Id.compare, (place_of_mem_replies ha).2, (place_of_mem_replies hb).2]

end IdStore

end LaneFlow
