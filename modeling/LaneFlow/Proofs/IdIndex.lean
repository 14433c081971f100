import LaneFlow.Proofs.IdRequests
import Mathlib.Data.List.Indexes
import Mathlib.Logic.Function.Basic

/-!
# Ids with an index

A store that only has the texts of each kind must search them for each text that
it meets.  It need not if it keeps the number of each text, too.  An
`IndexedStore` does: it has the entries of each kind in the order of their
creation and, apart from them, the numbers by text.  A creation writes one after
the other, a question may read one without the other, and kinds are told apart
by their codes alone.

The two never get apart.  An indexed store mirrors the store of texts that was
asked the same (`IndexedStore.Mirrors`): a text has a number exactly if the
entry of that number is the entry of the text.  So it replies the same to all
requests, and no number leads out of the list.

## Main results

* `Mirrors.answer`, `Mirrors.run` — what one request keeps, and any requests.
* `Mirrors.replies_eq` — the replies are those of the store of texts.
* `Mirrors.number?_eq_some_iff` — entries and numbers are inverse to each other.
* `ids_settled` — how ids are given, that they stay what they are, and how they
  compare.
-/

namespace LaneFlow

/-- A text with the number that it was given. -/
structure IdEntry where
  internal : Nat
  external : String
deriving DecidableEq, Repr

/-- The entries of each kind, and the numbers of their texts.  Kinds go by their
codes, and what was never written is absent. -/
structure IndexedStore where
  entries : Nat → Option (List IdEntry) := fun _ => none
  numbers : Nat → Option (String → Option Nat) := fun _ => none

namespace IndexedStore

/-- The number of a text. -/
def number? (i : IndexedStore) (code : Nat) (x : String) : Option Nat :=
  (i.numbers code).bind (· x)

/-- The store with other entries and numbers for a code. -/
def write (i : IndexedStore) (code : Nat) (entries : List IdEntry)
    (numbers : String → Option Nat) : IndexedStore :=
  ⟨Function.update i.entries code (some entries),
    Function.update i.numbers code (some numbers)⟩

/-- The entry of a text, which is added if the text has no number.  There is
none if the number leads out of the list. -/
def create (i : IndexedStore) (code : Nat) (x : String) :
    Option IdEntry × IndexedStore :=
  let entries := (i.entries code).getD []
  let numbers := (i.numbers code).getD fun _ => none
  match numbers x with
  | some n => (entries[n]?, i.write code entries numbers)
  | none =>
    let entry : IdEntry := ⟨entries.length, x⟩
    (some entry, i.write code (entries ++ [entry])
      (Function.update numbers x (some entries.length)))

/-- The id with a number that must have been given. -/
def byNumber (i : IndexedStore) (kind : IdKind) (n : Nat) :
    Except IdFault (Id kind) :=
  match i.entries kind.code with
  | none => .error (.noneOfKind kind)
  | some entries =>
    match entries[n]? with
    | some entry => .ok ⟨entry.internal, entry.external⟩
    | none => .error (.unknownNumber n)

/-- The id of a text, if it has been met; its number must have been given. -/
def find? (i : IndexedStore) (kind : IdKind) (x : String) :
    Option (Except IdFault (Id kind)) :=
  (i.number? kind.code x).map (i.byNumber kind)

/-- What comes of a request.  There is no reply if a number leads out of the
list. -/
def answer (i : IndexedStore) : IdRequest → Option IdReply × IndexedStore
  | .create kind x =>
    let (entry, i) := i.create kind.code x
    (entry.map fun e => .given kind ⟨e.internal, e.external⟩, i)
  | .byNumber kind n => (some (.ofExcept (i.byNumber kind n)), i)
  | .byText kind x =>
    (some ((i.find? kind x).elim (.refused (.unknownText x)) .ofExcept), i)
  | .find kind x => (some ((i.find? kind x).elim .absent .ofExcept), i)

/-- The store after some requests. -/
def run (i : IndexedStore) (rs : List IdRequest) : IndexedStore :=
  rs.foldl (fun i r => (i.answer r).2) i

/-- The replies to some requests, one after the other. -/
def replies (i : IndexedStore) : List IdRequest → List (Option IdReply)
  | [] => []
  | r :: rs => (i.answer r).1 :: (i.answer r).2.replies rs

/-! ## Entries of texts -/

/-- Some texts with their places. -/
def entriesOf (xs : List String) : List IdEntry := xs.mapIdx IdEntry.mk

theorem getElem?_entriesOf (xs : List String) (n : Nat) :
    (entriesOf xs)[n]? = xs[n]?.map (IdEntry.mk n) := List.getElem?_mapIdx

theorem entriesOf_concat (xs : List String) (x : String) :
    entriesOf (xs ++ [x]) = entriesOf xs ++ [⟨(entriesOf xs).length, x⟩] := by
  rw [entriesOf, List.mapIdx_append_one, entriesOf, List.length_mapIdx]

/-- An indexed store mirrors a store of texts: it has the texts with their
places as entries, and these places as numbers. -/
structure Mirrors (i : IndexedStore) (s : IdStore) : Prop where
  entries : ∀ kind : IdKind, i.entries kind.code =
    if s.texts kind = [] then none else some (entriesOf (s.texts kind))
  number? : ∀ (kind : IdKind) x, i.number? kind.code x = s.number? kind x

variable {i : IndexedStore} {s t : IdStore} {kind : IdKind}

theorem mirrors_empty : ({} : IndexedStore).Mirrors {} := by
  constructor
  · intro kind
    cases kind <;> rfl
  · intro kind x
    cases kind <;> rfl

/-! ## Looking up -/

namespace Mirrors

variable (h : i.Mirrors s)

include h

theorem getD_entries :
    (i.entries kind.code).getD [] = entriesOf (s.texts kind) := by
  rw [h.entries]
  split
  · rename_i hnil
    rw [hnil]
    rfl
  · rfl

theorem byNumber_eq (kind : IdKind) (n : Nat) :
    i.byNumber kind n = s.byNumber kind n := by
  rw [byNumber, IdStore.byNumber, h.entries]
  by_cases hnil : s.texts kind = []
  · simp [hnil]
  · simp only [if_neg hnil, List.isEmpty_iff, getElem?_entriesOf]
    cases (s.texts kind)[n]? with
    | none => rfl
    | some x => rfl

/-- The number of a text leads to its entry. -/
theorem find?_eq (hs : s.Distinct) (kind : IdKind) (x : String) :
    i.find? kind x = (s.find? kind x).map .ok := by
  rw [find?, h.number?, IdStore.find?, Option.map_map]
  cases hn : s.number? kind x with
  | none => rfl
  | some n =>
      have hknown := (IdStore.number?_eq_some_iff hs).1 hn
      have hid : s.byNumber kind n = .ok ⟨n, x⟩ :=
        IdStore.byNumber_eq_ok_iff.2 ⟨rfl, hknown⟩
      rw [Option.map_some, h.byNumber_eq, hid]
      rfl

/-- Entries and numbers are inverse to each other. -/
theorem number?_eq_some_iff (hs : s.Distinct) {x : String} {n : Nat} :
    i.number? kind.code x = some n ↔
      ∃ entries, i.entries kind.code = some entries ∧
        entries[n]? = some ⟨n, x⟩ := by
  rw [h.number?, IdStore.number?_eq_some_iff hs, h.entries]
  by_cases hnil : s.texts kind = []
  · simp [hnil]
  · simp [hnil, getElem?_entriesOf]

end Mirrors

/-! ## Writing -/

section Write

variable (i : IndexedStore) {code other : Nat} (entries : List IdEntry)
  (numbers : String → Option Nat)

theorem entries_write_self :
    (i.write code entries numbers).entries code = some entries :=
  Function.update_self ..

theorem entries_write_other (h : other ≠ code) :
    (i.write code entries numbers).entries other = i.entries other :=
  Function.update_of_ne h ..

theorem number?_write_self (x : String) :
    (i.write code entries numbers).number? code x = numbers x := by
  have hnumbers : (i.write code entries numbers).numbers code = some numbers :=
    Function.update_self ..
  rw [number?, hnumbers, Option.bind_some]

theorem number?_write_other (h : other ≠ code) (x : String) :
    (i.write code entries numbers).number? other x = i.number? other x := by
  have hnumbers : (i.write code entries numbers).numbers other =
      i.numbers other := Function.update_of_ne h ..
  rw [number?, hnumbers, number?]

end Write

/-- A text that has a number keeps it. -/
theorem create_of_number {code n : Nat} {x : String}
    (h : i.number? code x = some n) :
    i.create code x = (((i.entries code).getD [])[n]?,
      i.write code ((i.entries code).getD [])
        ((i.numbers code).getD fun _ => none)) := by
  have hn : (i.numbers code).getD (fun _ => none) x = some n := by
    rw [← h, number?]
    cases i.numbers code <;> rfl
  simp only [create, hn]

/-- A text that has none gets the next. -/
theorem create_of_none {code : Nat} {x : String}
    (h : i.number? code x = none) :
    i.create code x =
      (some ⟨((i.entries code).getD []).length, x⟩,
        i.write code
          ((i.entries code).getD [] ++ [⟨((i.entries code).getD []).length, x⟩])
          (Function.update ((i.numbers code).getD fun _ => none) x
            (some ((i.entries code).getD []).length))) := by
  have hn : (i.numbers code).getD (fun _ => none) x = none := by
    rw [← h, number?]
    cases i.numbers code <;> rfl
  simp only [create, hn]

namespace Mirrors

variable (h : i.Mirrors s)

include h

/-- What is written for one kind is read for this kind alone. -/
theorem write (kind : IdKind)
    (hother : ∀ other, other ≠ kind → t.texts other = s.texts other)
    (hsome : t.texts kind ≠ []) {numbers : String → Option Nat}
    (hnumbers : ∀ x, numbers x = t.number? kind x) :
    (i.write kind.code (entriesOf (t.texts kind)) numbers).Mirrors t := by
  have hcode : ∀ other : IdKind, other ≠ kind → other.code ≠ kind.code :=
    fun other hne hcode => hne (IdKind.code_inj.1 hcode)
  constructor
  · intro other
    by_cases hkind : other = kind
    · rw [hkind, entries_write_self, if_neg hsome]
    · rw [entries_write_other _ _ _ (hcode other hkind), h.entries,
        hother other hkind]
  · intro other x
    by_cases hkind : other = kind
    · rw [hkind, number?_write_self, hnumbers]
    · rw [number?_write_other _ _ _ (hcode other hkind), h.number?,
        IdStore.number?, IdStore.number?, hother other hkind]

theorem getD_numbers (kind : IdKind) (x : String) :
    (i.numbers kind.code).getD (fun _ => none) x = s.number? kind x := by
  rw [← h.number?, IndexedStore.number?]
  cases i.numbers kind.code <;> rfl

/-- A creation gives the entry of the id, and writes what the store of texts has
then. -/
theorem create (hs : s.Distinct) (kind : IdKind) (x : String) :
    (i.create kind.code x).1 =
        some ⟨(s.create kind x).1.internal, (s.create kind x).1.external⟩ ∧
      (i.create kind.code x).2.Mirrors (s.create kind x).2 := by
  by_cases hx : x ∈ s.texts kind
  · have hn : s.number? kind x = some ((s.texts kind).idxOf x) :=
      (IdStore.number?_eq_some_iff hs).2 (IdStore.knows_idxOf hx)
    have htext : (s.texts kind)[(s.texts kind).idxOf x]? = some x :=
      IdStore.knows_idxOf hx
    rw [create_of_number ((h.number? kind x).trans hn), h.getD_entries,
      IdStore.create_of_mem hs hx, getElem?_entriesOf, htext]
    exact ⟨rfl, h.write kind (fun _ _ => rfl) (List.ne_nil_of_mem hx)
      (h.getD_numbers kind)⟩
  · have hn : s.number? kind x = none := by
      rwa [← Option.not_isSome_iff_eq_none, IdStore.number?_isSome_iff]
    have hlength : (entriesOf (s.texts kind)).length = (s.texts kind).length :=
      List.length_mapIdx
    have htexts : (s.setTexts kind (s.texts kind ++ [x])).texts kind =
        s.texts kind ++ [x] := IdStore.texts_setTexts_self ..
    rw [create_of_none ((h.number? kind x).trans hn), h.getD_entries,
      ← entriesOf_concat, hlength, IdStore.create_of_not_mem hx]
    refine ⟨rfl, ?_⟩
    have hnumbers : ∀ y, Function.update
        ((i.numbers kind.code).getD fun _ => none) x (some (s.texts kind).length) y =
        (s.setTexts kind (s.texts kind ++ [x])).number? kind y := by
      intro y
      rw [IdStore.number?_setTexts_concat hx, Function.update_apply,
        h.getD_numbers]
    have hwrite := h.write kind (fun other => IdStore.texts_setTexts_other s _)
      (by simp [htexts]) hnumbers
    rwa [htexts] at hwrite

/-! ## Any requests -/

/-- A request has the reply of the store of texts, which is mirrored then. -/
theorem answer (hs : s.Distinct) (r : IdRequest) :
    (i.answer r).1 = some (s.answer r).1 ∧
      (i.answer r).2.Mirrors (s.answer r).2 := by
  cases r with
  | create kind x =>
      obtain ⟨hentry, hmirrors⟩ := h.create hs kind x
      refine ⟨?_, hmirrors⟩
      simp only [IndexedStore.answer, hentry, Option.map_some]
      rfl
  | byNumber kind n =>
      refine ⟨?_, h⟩
      rw [IndexedStore.answer, h.byNumber_eq]
      rfl
  | byText kind x =>
      refine ⟨?_, h⟩
      rw [IndexedStore.answer, h.find?_eq hs, IdStore.answer, IdStore.byText]
      cases s.find? kind x <;> rfl
  | find kind x =>
      refine ⟨?_, h⟩
      rw [IndexedStore.answer, h.find?_eq hs, IdStore.answer]
      cases s.find? kind x <;> rfl

theorem run (hs : s.Distinct) (rs : List IdRequest) :
    (i.run rs).Mirrors (s.run rs) := by
  induction rs generalizing i s with
  | nil => exact h
  | cons r rs ih =>
      exact ih (h.answer hs r).2 ((IdStore.grows_answer s r).distinct hs)

/-- All requests have the replies of the store of texts. -/
theorem replies_eq (hs : s.Distinct) (rs : List IdRequest) :
    i.replies rs = (s.replies rs).map some := by
  induction rs generalizing i s with
  | nil => rfl
  | cons r rs ih =>
      obtain ⟨hreply, hmirrors⟩ := h.answer hs r
      rw [replies, IdStore.replies, List.map_cons, hreply,
        ih hmirrors ((IdStore.grows_answer s r).distinct hs)]

end Mirrors

end IndexedStore

namespace IdStore

open IdRequest

/-- **Ids are places of texts, and stay what they are.**  Let a store be asked
for anything, some of which it may refuse.  Then it holds the texts of each kind
in the order of their first creation, and it answers by what has been created.
An id that it has once replied with is the place of its text, and it is found by
its number and by its text, and created again, whatever is asked for later.  Two
such ids of a kind are the same exactly if their texts are, and they are
ordered as their texts were first created.  A store that keeps entries and
numbers apart replies the same, and the two are inverse to each other. -/
theorem ids_settled (requests : List IdRequest) :
    (({} : IdStore).run requests).Registers requests ∧
    (∀ kind (a : Id kind), .given kind a ∈ ({} : IdStore).replies requests →
      a.external ∈ created kind requests ∧
      a.internal = (firsts kind requests).idxOf a.external ∧
      ∀ later : List IdRequest,
        let s := ({} : IdStore).run (requests ++ later)
        s.byNumber kind a.internal = .ok a ∧
        s.byText kind a.external = .ok a ∧
        s.create kind a.external = (a, s)) ∧
    (∀ kind (a b : Id kind), .given kind a ∈ ({} : IdStore).replies requests →
      .given kind b ∈ ({} : IdStore).replies requests →
      (a.same b = true ↔ a.external = b.external) ∧
      a.compare b = Ord.compare ((firsts kind requests).idxOf a.external)
        ((firsts kind requests).idxOf b.external)) ∧
    ({} : IndexedStore).replies requests =
      (({} : IdStore).replies requests).map some ∧
    ∀ (kind : IdKind) (x : String) (n : Nat),
      (({} : IndexedStore).run requests).number? kind.code x = some n ↔
        ∃ entries, (({} : IndexedStore).run requests).entries kind.code =
          some entries ∧ entries[n]? = some ⟨n, x⟩ := by
  have hempty : ({} : IdStore).Distinct := distinct_run []
  have hmirrors := IndexedStore.mirrors_empty
  refine ⟨registers_run requests, fun kind a ha => ?_,
    fun kind a b ha hb => compare_of_mem_replies ha hb,
    hmirrors.replies_eq hempty requests, fun kind x n => ?_⟩
  · obtain ⟨hcreated, hplace⟩ := place_of_mem_replies ha
    exact ⟨hcreated, hplace, stays_of_mem_replies ha⟩
  · exact (hmirrors.run hempty requests).number?_eq_some_iff
      (distinct_run requests)

/-- Two links and a node that has the name of one of them.  Something is asked
for too early, and something that is never there. -/
def mixedRequests : List IdRequest :=
  [.create .link "b", .byText .link "a", .create .node "a", .create .link "a",
    .byNumber .link 7, .create .link "b"]

/-- The links have the numbers of their first creation, and keep them. -/
theorem ids_settled_mixed :
    ({} : IdStore).replies mixedRequests =
      [.given .link ⟨0, "b"⟩, .refused (.unknownText "a"),
        .given .node ⟨0, "a"⟩, .given .link ⟨1, "a"⟩,
        .refused (.unknownNumber 7), .given .link ⟨0, "b"⟩] ∧
    (({} : IdStore).run mixedRequests).create .link "b" =
      (⟨0, "b"⟩, ({} : IdStore).run mixedRequests) ∧
    ((({} : IdStore).run mixedRequests).create .link "c").1 = ⟨2, "c"⟩ ∧
    (∀ later, (({} : IdStore).run (mixedRequests ++ later)).byNumber .link 1 =
      .ok ⟨1, "a"⟩) ∧
    (⟨1, "a"⟩ : Id .link).compare ⟨0, "b"⟩ = .gt ∧
    (({} : IndexedStore).replies mixedRequests).length = 6 ∧
    ∃ entries, (({} : IndexedStore).run mixedRequests).entries IdKind.link.code =
      some entries ∧ entries[1]? = some ⟨1, "a"⟩ := by
  obtain ⟨hanswers, hstays, horder, hreplies, hindex⟩ := ids_settled mixedRequests
  have hfirst : .given .link ⟨0, "b"⟩ ∈ ({} : IdStore).replies mixedRequests := by
    decide +kernel
  have hsecond : .given .link ⟨1, "a"⟩ ∈ ({} : IdStore).replies mixedRequests := by
    decide +kernel
  refine ⟨by decide +kernel, ?_, ?_, fun later => ?_, ?_, ?_,
    (hindex .link "a" 1).1 (by decide +kernel)⟩
  · exact hanswers.create_old .link "b" (by decide +kernel)
  · exact (hanswers.create_new .link "c" (by decide +kernel)).1
  · exact ((hstays .link _ hsecond).2.2 later).1
  · rw [(horder .link _ _ hsecond hfirst).2]
    decide +kernel
  · rw [hreplies]
    decide +kernel

end IdStore

end LaneFlow
