import Mathlib
import LaneFlow.Document.Form

/-!
# Members that may be left out

A record is read by entering its members one by one, starting from the record in
which every field has its default.  So a member that may be left out can as well
be written out with its default: entering it changes nothing, wherever it stands
and whatever is entered before it, since fields do not get in each other's way.

This holds for what goes wrong as well.  The place at which reading stops is the
same.

## Main results

* `Form.fill_cons_eq_ok_iff` — all that entering a member can do.
* `Form.WritesOut.read_eq` — a record with one member more is read alike.
* `Form.ChangesMember.read_eq`, `ChangesItem.listOf_eq` — so is what is around
  it.
-/

namespace LaneFlow.Document

variable {σ ρ α : Type}

/-! ## Fields that are apart -/

/-- Two fields have different names, and it does not matter which of them is
entered first. -/
structure Field.Apart (a b : Field σ ρ) : Prop where
  name_ne : a.name ≠ b.name
  comm : ∀ v w r s t, a.enter v r = .ok s → b.enter w r = .ok t →
    ∃ u, a.enter v t = .ok u ∧ b.enter w s = .ok u

theorem Field.Apart.symm {a b : Field σ ρ} (h : a.Apart b) : b.Apart a := by
  refine ⟨h.name_ne.symm, fun v w r s t hs ht => ?_⟩
  obtain ⟨u, ha, hb⟩ := h.comm w v r t s ht hs
  exact ⟨u, hb, ha⟩

instance : Std.Symm (Field.Apart : Field σ ρ → Field σ ρ → Prop) :=
  ⟨fun _ _ h => h.symm⟩

theorem Field.apart_of {β γ : Type} {name name' : String} (required required' : Bool)
    (read : Tree σ → Reading β) (read' : Tree σ → Reading γ) {put : β → ρ → ρ}
    {put' : γ → ρ → ρ} (hname : name ≠ name')
    (hput : ∀ x y r, put x (put' y r) = put' y (put x r)) :
    (Field.of name required read put).Apart (.of name' required' read' put') := by
  refine ⟨hname, fun v w r s t hs ht => ?_⟩
  simp only [Field.of] at hs ht ⊢
  cases hv : read v with
  | error l => simp [hv, Except.map] at hs
  | ok x =>
      cases hw : read' w with
      | error l => simp [hw, Except.map] at ht
      | ok y =>
          simp only [hv, hw, Except.map, Except.ok.injEq] at hs ht ⊢
          subst hs ht
          exact ⟨_, rfl, (hput x y r).symm⟩

namespace Form

/-- The fields of a form do not get in each other's way. -/
def Separate (f : Form σ ρ) : Prop := f.fields.Pairwise Field.Apart

variable {f : Form σ ρ} {field other : Field σ ρ} {name : String}

theorem field?_eq_some (h : f.field? name = some field) :
    field ∈ f.fields ∧ field.name = name := by
  refine ⟨List.mem_of_find?_eq_some h, ?_⟩
  simpa using List.find?_some h

theorem Separate.apart (h : f.Separate) (hfield : field ∈ f.fields)
    (hother : other ∈ f.fields) (hne : field.name ≠ other.name) : field.Apart other :=
  List.Pairwise.forall h hfield hother fun heq => hne (congrArg Field.name heq)

/-- Fields of one name are one field. -/
theorem Separate.eq_of_name (h : f.Separate) (hfield : field ∈ f.fields)
    (hother : other ∈ f.fields) (hname : field.name = other.name) : field = other := by
  by_contra hne
  exact (List.Pairwise.forall h hfield hother hne).name_ne hname

/-! ## Entering members one by one -/

variable [Leaf σ α]

/-- All that entering a member can do. -/
theorem fill_cons_eq_ok_iff {seen : List String} {r : ρ} {key value : Tree σ}
    {entries : List (Tree σ × Tree σ)} {filled : List String × ρ} :
    f.fill seen r ((key, value) :: entries) = .ok filled ↔
      ∃ name, key.key? = some name ∧
        ((f.field? name = none ∧ value.isIntact ∧ f.fill seen r entries = .ok filled) ∨
          ∃ field s, f.field? name = some field ∧ name ∉ seen ∧
            field.enter value r = .ok s ∧ f.fill (name :: seen) s entries = .ok filled) := by
  rw [fill]
  cases key.key? with
  | none => simp
  | some name =>
      cases hfield : f.field? name with
      | none => cases value.isIntact <;> simp [hfield]
      | some field =>
          by_cases hseen : name ∈ seen
          · simp [hfield, hseen]
          · cases hvalue : field.enter value r <;> simp [hfield, hseen, hvalue]

theorem fill_append (seen : List String) (r : ρ) (before after : List (Tree σ × Tree σ)) :
    f.fill seen r (before ++ after) =
      (f.fill seen r before).bind fun filled => f.fill filled.1 filled.2 after := by
  induction before generalizing seen r with
  | nil => rfl
  | cons e before ih =>
      obtain ⟨key, value⟩ := e
      rw [List.cons_append, fill, fill]
      cases key.key? with
      | none => rfl
      | some name =>
          dsimp only
          cases f.field? name with
          | none =>
              dsimp only
              split
              · exact ih seen r
              · rfl
          | some field =>
              dsimp only
              split
              · rfl
              · cases within (.field name) (field.enter value r) with
                | error l => rfl
                | ok s => exact ih _ s

/-- No member has a name. -/
def Missing (name : String) (entries : List (Tree σ × Tree σ)) : Prop :=
  ∀ e ∈ entries, e.1.key? ≠ some name

instance (name : String) (entries : List (Tree σ × Tree σ)) :
    Decidable (Missing name entries) :=
  inferInstanceAs (Decidable (∀ e ∈ entries, e.1.key? ≠ some name))

/-- A field that no member enters is not among those that have been entered. -/
theorem not_mem_of_fill {seen : List String} {r : ρ} {entries : List (Tree σ × Tree σ)}
    {filled : List String × ρ} (hmissing : Missing name entries)
    (h : f.fill seen r entries = .ok filled) (hseen : name ∉ seen) : name ∉ filled.1 := by
  induction entries generalizing seen r with
  | nil =>
      obtain rfl := Except.ok.inj h
      exact hseen
  | cons e entries ih =>
      obtain ⟨hkey, hmissing⟩ := List.forall_mem_cons.1 hmissing
      obtain ⟨other, hother, ⟨-, -, h⟩ | ⟨_, s, -, -, -, h⟩⟩ := fill_cons_eq_ok_iff.1 h
      · exact ih hmissing h hseen
      · refine ih hmissing h fun hmem => ?_
        rcases List.mem_cons.1 hmem with rfl | hmem
        · exact hkey hother
        · exact hseen hmem

/-- A field that no member enters keeps its value. -/
theorem Separate.enter_of_fill (hf : f.Separate) (hfield : field ∈ f.fields)
    {value : Tree σ} {seen : List String} {r : ρ} {entries : List (Tree σ × Tree σ)}
    {filled : List String × ρ} (hmissing : Missing field.name entries)
    (h : f.fill seen r entries = .ok filled) (hkept : field.enter value r = .ok r) :
    field.enter value filled.2 = .ok filled.2 := by
  induction entries generalizing seen r with
  | nil =>
      obtain rfl := Except.ok.inj h
      exact hkept
  | cons e entries ih =>
      obtain ⟨hkey, hmissing⟩ := List.forall_mem_cons.1 hmissing
      obtain ⟨name, hname, ⟨-, -, h⟩ | ⟨other, s, hother, -, hs, h⟩⟩ :=
        fill_cons_eq_ok_iff.1 h
      · exact ih hmissing h hkept
      · obtain ⟨hmem, hothername⟩ := field?_eq_some hother
        have hapart := hf.apart hfield hmem fun heq =>
          hkey (by rw [hname, heq, hothername])
        obtain ⟨u, hu, hu'⟩ := hapart.comm _ _ _ _ _ hkept hs
        obtain rfl : s = u := Except.ok.inj (hs.symm.trans hu')
        exact ih hmissing h hu

variable {seen seen' : List String}
  (hseen : ∀ other, other ≠ name → (other ∈ seen ↔ other ∈ seen'))
  (hrequired : ∀ field ∈ f.fields, field.required → field.name ≠ name)

include hseen hrequired

omit [Leaf σ α] in
/-- That a field has been entered matters in the end only if it is required. -/
theorem close_congr (r : ρ) : f.close (seen, r) = f.close (seen', r) := by
  have hall : (f.fields.all fun field => !field.required || seen.contains field.name) =
      f.fields.all fun field => !field.required || seen'.contains field.name := by
    rw [Bool.eq_iff_iff, List.all_eq_true, List.all_eq_true]
    refine forall₂_congr fun field hfield => ?_
    cases hneeded : field.required with
    | false => simp
    | true => simpa using hseen _ (hrequired field hfield hneeded)
  simp only [close, hall]

/-- Before the end it matters only to later members of that name. -/
theorem fill_bind_close {entries : List (Tree σ × Tree σ)} (hmissing : Missing name entries) (r : ρ) :
    (f.fill seen r entries).bind f.close = (f.fill seen' r entries).bind f.close := by
  -- The two lists of fields that were entered go on to differ in one name at most.
  induction entries generalizing seen seen' r with
  | nil => exact close_congr hseen hrequired r
  | cons e entries ih =>
      obtain ⟨key, value⟩ := e
      obtain ⟨hkey, hmissing⟩ := List.forall_mem_cons.1 hmissing
      rw [fill, fill]
      cases hother : key.key? with
      | none => rfl
      | some other =>
          have hne : other ≠ name := fun heq => hkey (heq ▸ hother)
          have hcontains : seen.contains other = seen'.contains other := by
            rw [Bool.eq_iff_iff, List.contains_iff_mem, List.contains_iff_mem]
            exact hseen other hne
          dsimp only
          cases f.field? other with
          | none =>
              dsimp only
              split
              · exact ih hseen hmissing r
              · rfl
          | some field =>
              dsimp only
              rw [hcontains]
              split
              · rfl
              · cases within (.field other) (field.enter value r) with
                | error l => rfl
                | ok s =>
                    refine ih (fun third hthird => ?_) hmissing s
                    rw [List.mem_cons, List.mem_cons, hseen third hthird]

omit hseen hrequired

/-- A field that may be left out is no required field. -/
theorem Separate.name_ne_of_required (hf : f.Separate) (hfield : field ∈ f.fields)
    (hoptional : field.required = false) :
    ∀ other ∈ f.fields, other.required → other.name ≠ field.name := by
  intro other hother hneeded hname
  rw [hf.eq_of_name hother hfield hname, hoptional] at hneeded
  cases hneeded

/-- A member that may be left out and has its default can be written out
anywhere. -/
theorem Separate.read_insert (hf : f.Separate) (hfield : f.field? name = some field)
    (hoptional : field.required = false) {key value : Tree σ} (hkey : key.key? = some name)
    (hdefault : field.enter value f.blank = .ok f.blank)
    {before after : List (Tree σ × Tree σ)} (hbefore : Missing name before)
    (hafter : Missing name after) :
    f.read (.record (before ++ (key, value) :: after)) = f.read (.record (before ++ after)) := by
  obtain ⟨hmem, rfl⟩ := field?_eq_some hfield
  rw [read, read, fill_append, fill_append]
  cases hfill : f.fill [] f.blank before with
  | error l => rfl
  | ok filled =>
      obtain ⟨seen, r⟩ := filled
      have hnew : field.name ∉ seen := not_mem_of_fill hbefore hfill (by simp)
      have hvalue : field.enter value r = .ok r :=
        hf.enter_of_fill hmem hbefore hfill hdefault
      simp only [Except.bind]
      rw [fill_known hkey hfield (by simpa using hnew) hvalue]
      refine fill_bind_close (fun other hother => ?_)
        (hf.name_ne_of_required hmem hoptional) hafter r
      rw [List.mem_cons, or_iff_right hother]

/-! ## Entering values in the order of the form -/

omit [Leaf σ α] in
theorem fillInOrder_append (seen : List String) (r : ρ) (index : Nat)
    (fields : List (Field σ ρ)) (before after : List (Tree σ)) :
    fillInOrder seen r index fields (before ++ after) =
      (fillInOrder seen r index fields before).bind fun filled =>
        fillInOrder filled.1 filled.2 (index + before.length)
          (fields.drop before.length) after := by
  induction before generalizing seen r index fields with
  | nil => cases fields <;> rfl
  | cons value before ih =>
      cases fields with
      | nil => rfl
      | cons field fields =>
          rw [List.cons_append, fillInOrder, fillInOrder]
          cases within (.item index) (field.enter value r) with
          | error l => rfl
          | ok s =>
              rw [List.length_cons, List.drop_succ_cons,
                show index + (before.length + 1) = index + 1 + before.length by omega]
              exact ih _ s (index + 1) fields

omit [Leaf σ α] in
theorem enter_of_fillInOrder {value : Tree σ} {seen : List String} {r : ρ} {index : Nat}
    {fields : List (Field σ ρ)} {items : List (Tree σ)} {filled : List String × ρ}
    (hapart : ∀ other ∈ fields.take items.length, field.Apart other)
    (h : fillInOrder seen r index fields items = .ok filled)
    (hkept : field.enter value r = .ok r) :
    field.enter value filled.2 = .ok filled.2 := by
  induction items generalizing seen r index fields with
  | nil =>
      cases fields
      all_goals
        obtain rfl := Except.ok.inj h
        exact hkept
  | cons item items ih =>
      cases fields with
      | nil => cases h
      | cons other fields =>
          rw [fillInOrder] at h
          rw [List.length_cons, List.take_succ_cons, List.forall_mem_cons] at hapart
          cases hs : other.enter item r with
          | error l => rw [hs] at h; cases h
          | ok s =>
              rw [hs] at h
              obtain ⟨u, hu, hu'⟩ := hapart.1.comm _ _ _ _ _ hkept hs
              obtain rfl : s = u := Except.ok.inj (hs.symm.trans hu')
              exact ih hapart.2 h hu

/-- The last value of a record that lists its values can be written out as
well. -/
theorem Separate.read_concat (hf : f.Separate) {items : List (Tree σ)}
    (hfield : f.fields[items.length]? = some field) (hoptional : field.required = false)
    {value : Tree σ} (hdefault : field.enter value f.blank = .ok f.blank) :
    f.read (.list (items ++ [value])) = f.read (.list items) := by
  have hmem : field ∈ f.fields := List.mem_of_getElem? hfield
  obtain ⟨hlt, hget⟩ := List.getElem?_eq_some_iff.1 hfield
  have hdrop : f.fields.drop items.length = field :: f.fields.drop (items.length + 1) := by
    rw [List.drop_eq_getElem_cons hlt, hget]
  have hapart : ∀ other ∈ f.fields.take items.length, field.Apart other := by
    intro other hother
    have hsplit := hf
    rw [Separate, ← List.take_append_drop items.length f.fields,
      List.pairwise_append] at hsplit
    exact (hsplit.2.2 other hother field (by simp [hdrop])).symm
  rw [read, read]
  split
  · rw [fillInOrder_append]
    cases hfill : fillInOrder [] f.blank 0 f.fields items with
    | error l => rfl
    | ok filled =>
        obtain ⟨seen, r⟩ := filled
        have hvalue : field.enter value r = .ok r :=
          enter_of_fillInOrder hapart hfill hdefault
        simp only [Except.bind, hdrop, fillInOrder, hvalue, within_ok]
        refine close_congr (fun other hother => ?_)
          (hf.name_ne_of_required hmem hoptional) r
        rw [List.mem_cons, or_iff_right hother]
  · rfl

/-! ## Documents that say more -/

/-- A document writes out one member more, which the other leaves out, with its
default: somewhere in a record, at the end of a record that lists its values, or
in place of saying nothing. -/
inductive WritesOut (f : Form σ ρ) : Tree σ → Tree σ → Prop
  | member {name : String} {field : Field σ ρ} {key value : Tree σ}
      {before after : List (Tree σ × Tree σ)} (hfield : f.field? name = some field)
      (hoptional : field.required = false) (hkey : key.key? = some name)
      (hdefault : field.enter value f.blank = .ok f.blank)
      (hbefore : Missing name before) (hafter : Missing name after) :
      f.WritesOut (.record (before ++ after)) (.record (before ++ (key, value) :: after))
  | last {field : Field σ ρ} {items : List (Tree σ)} {value : Tree σ}
      (hfield : f.fields[items.length]? = some field) (hoptional : field.required = false)
      (hdefault : field.enter value f.blank = .ok f.blank) :
      f.WritesOut (.list items) (.list (items ++ [value]))
  | start {value : σ} (hvoid : Leaf.isVoid value) : f.WritesOut (.scalar value) (.record [])

/-- **A record with one member more, which has its default, is read alike.** -/
theorem WritesOut.read_eq (hf : f.Separate) {t t' : Tree σ} (h : f.WritesOut t t') :
    f.read t' = f.read t := by
  cases h with
  | member hfield hoptional hkey hdefault hbefore hafter =>
      exact hf.read_insert hfield hoptional hkey hdefault hbefore hafter
  | last hfield hoptional hdefault => exact hf.read_concat hfield hoptional hdefault
  | start hvoid => rw [read, read, if_pos hvoid]; rfl

/-- Two documents differ in the value of one field. -/
inductive ChangesMember (f : Form σ ρ) (name : String) (change : Tree σ → Tree σ → Prop) :
    Tree σ → Tree σ → Prop
  | member {key value value' : Tree σ} {before after : List (Tree σ × Tree σ)}
      (hkey : key.key? = some name) (h : change value value') :
      f.ChangesMember name change (.record (before ++ (key, value) :: after))
        (.record (before ++ (key, value') :: after))
  | inOrder {value value' : Tree σ} {before after : List (Tree σ)}
      (hplace : (f.fields[before.length]?).map (·.name) = some name)
      (h : change value value') :
      f.ChangesMember name change (.list (before ++ value :: after))
        (.list (before ++ value' :: after))

/-- Values that are entered alike make no difference. -/
theorem ChangesMember.read_eq (hf : f.Separate) (hfield : f.field? name = some field)
    {change : Tree σ → Tree σ → Prop}
    (hchange : ∀ v v' r, change v v' → field.enter v' r = field.enter v r)
    {t t' : Tree σ} (h : f.ChangesMember name change t t') : f.read t' = f.read t := by
  cases h with
  | member hkey h =>
      rw [read, read, fill_append, fill_append]
      congr 2
      funext filled
      simp only [fill, hkey, hfield, hchange _ _ _ h]
  | inOrder hplace h =>
      obtain ⟨placed, hplaced, hname⟩ := Option.map_eq_some_iff.1 hplace
      obtain ⟨hmem, hfieldname⟩ := field?_eq_some hfield
      obtain rfl := hf.eq_of_name (List.mem_of_getElem? hplaced) hmem
        (hname.trans hfieldname.symm)
      obtain ⟨hlt, hget⟩ := List.getElem?_eq_some_iff.1 hplaced
      rw [read, read, fillInOrder_append, fillInOrder_append]
      congr 3
      funext filled
      rw [List.drop_eq_getElem_cons hlt, hget]
      simp only [fillInOrder, hchange _ _ _ h]

end Form

/-- Two lists differ in one item. -/
inductive ChangesItem (change : Tree σ → Tree σ → Prop) : Tree σ → Tree σ → Prop
  | item {t t' : Tree σ} {before after : List (Tree σ)} (h : change t t') :
      ChangesItem change (.list (before ++ t :: after)) (.list (before ++ t' :: after))

/-- Items that are read alike make no difference. -/
theorem ChangesItem.listOf_eq {β : Type} [Leaf σ α] {read : Tree σ → Reading β}
    {change : Tree σ → Tree σ → Prop} (hchange : ∀ t t', change t t' → read t' = read t)
    {t t' : Tree σ} (h : ChangesItem change t t') : t'.listOf read = t.listOf read := by
  cases h with
  | item h =>
      rename_i u u' before after
      have hitems : ∀ index, Tree.readItems read index (before ++ u' :: after) =
          Tree.readItems read index (before ++ u :: after) := by
        intro index
        induction before generalizing index with
        | nil => simp only [List.nil_append, Tree.readItems, hchange _ _ h]
        | cons v before ih => simp only [List.cons_append, Tree.readItems, ih]
      exact hitems 0

end LaneFlow.Document
