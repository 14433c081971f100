import LaneFlow.Document.File
import LaneFlow.Proofs.Document.Faithful
import LaneFlow.Proofs.Document.OptionalMembers
import LaneFlow.Proofs.Files

/-!
# Written records

A record is written as its members with their names.  What the reader finds is a
record of the same members, so each of them is read for itself.  A writer may
leave out members that say nothing if that is their default: the record is read
as if they were there.

## Main results

* `Transcribes.listOf_eq` — a list is read item by item.
* `Transcribes.read_leavingOut` — members that say nothing may be left out.
* `readFile_saved` — what a faithful codec has saved is read as it was found.
-/

namespace LaneFlow.Document

namespace Tree

/-- A number or nothing as a document. -/
def ofNumber? : Option Float → Tree (Value Float)
  | none => .scalar .null
  | some x => .ofNumber x

/-! ## What is found -/

variable {σ : Type}

/-- A member as it is found. -/
def foundMember (found : Value Float → σ) (m : String × Tree (Value Float)) :
    Tree σ × Tree σ :=
  ((ofText m.1).map found, m.2.map found)

theorem map_ofFields (found : Value Float → σ)
    (members : List (String × Tree (Value Float))) :
    (ofFields members).map found =
      .record (members.map (foundMember found)) := by
  rw [ofFields, map, mapEntries_eq, List.map_map]
  rfl

end Tree

/-- A document that is nothing or an empty list. -/
def saysNothing : Tree (Value Float) → Bool
  | .scalar .null => true
  | .list [] => true
  | _ => false

/-- A number that is written, of a kind that comes back. -/
def Lasts (keeps : Float → Prop) (x : Float) : Prop :=
  Quantity.isFinite x ∧ keeps x

theorem Tree.map_ofNumber {σ : Type} {keeps : Float → Prop} {x : Float}
    (hx : Lasts keeps x) (found : Value Float → σ) :
    (Tree.ofNumber x).map found = .scalar (found (.number x)) := by
  rw [ofNumber, Value.ofNumber, if_pos hx.1, map]

namespace Transcribes

variable {σ : Type} [Leaf σ Float] {keeps : Float → Prop}
  {found : Value Float → σ} (h : Transcribes keeps found)

include h

theorem key?_ofText (s : String) : ((Tree.ofText s).map found).key? = some s :=
  h.text?_eq s

theorem text_ofText (s : String) :
    ((Tree.ofText s).map found).text = .ok s := by
  simp only [Tree.ofText, Tree.map, Tree.text, Tree.leaf, h.text?_eq]

theorem optional_ofText? (s : Option String) :
    ((Tree.ofText? s).map found).optional Tree.text = .ok s := by
  cases s with
  | none =>
    simp only [Tree.ofText?, Tree.map, Tree.optional, h.isUnset_null, if_true]
  | some s =>
      have htext := h.text_ofText s
      simp only [Tree.ofText, Tree.map] at htext
      simp only [Tree.ofText?, Tree.ofText, Tree.map, Tree.optional,
        h.isUnset_text, Bool.false_eq_true, if_false, htext]
      rfl

theorem number_ofNumber {x : Float} (hx : Lasts keeps x) :
    ((Tree.ofNumber x).map found).number = .ok x := by
  simp only [Tree.map_ofNumber hx, Tree.number, Tree.leaf, h.number?_eq x hx.2]

theorem optional_ofNumber? {x : Option Float} (hx : ∀ y ∈ x, Lasts keeps y) :
    ((Tree.ofNumber? x).map found).optional Tree.number = .ok x := by
  cases x with
  | none =>
    simp only [Tree.ofNumber?, Tree.map, Tree.optional, h.isUnset_null, if_true]
  | some x =>
      have hnumber := h.number_ofNumber (hx x rfl)
      rw [Tree.map_ofNumber (hx x rfl)] at hnumber
      simp only [Tree.ofNumber?, Tree.map_ofNumber (hx x rfl), Tree.optional,
        h.isUnset_number x (hx x rfl).2, Bool.false_eq_true, if_false, hnumber]
      rfl

omit h in
/-- A list is read item by item. -/
theorem listOf_eq {ρ : Type} {read : Tree σ → Reading ρ}
    {write : ρ → Tree (Value Float)} {rs : List ρ}
    (h : ∀ r ∈ rs, read ((write r).map found) = .ok r) :
    ((Tree.list (rs.map write)).map found).listOf read = .ok rs := by
  rw [Tree.map, Tree.mapItems_eq, List.map_map]
  suffices hitems : ∀ index,
      Tree.readItems read index (rs.map (Tree.map found ∘ write)) = .ok rs from
    hitems 0
  induction rs with
  | nil => exact fun _ => rfl
  | cons r rs ih =>
      intro index
      obtain ⟨hr, hrs⟩ := List.forall_mem_cons.1 h
      simp only [List.map_cons, Tree.readItems, Function.comp_apply, hr, ih hrs,
        within_ok]
      rfl

theorem listOf_text (xs : List String) :
    ((Tree.list (xs.map .ofText)).map found).listOf Tree.text = .ok xs :=
  listOf_eq fun s _ => h.text_ofText s

/-! ## Members that are left out -/

theorem missing_foundMember {name : String}
    {members : List (String × Tree (Value Float))}
    (hname : name ∉ members.map (·.1)) :
    Form.Missing name (members.map (Tree.foundMember found)) := by
  intro e he
  obtain ⟨m, hm, rfl⟩ := List.mem_map.1 he
  rw [Tree.foundMember, h.key?_ofText]
  rintro ⟨rfl⟩
  exact hname (List.mem_map_of_mem hm)

variable {ρ : Type} {f : Form σ ρ}

/-- Members that say nothing may be left out if that is the default of their
fields. -/
theorem read_leavingOut (hf : f.Separate)
    {members : List (String × Tree (Value Float))}
    (hnames : (members.map (·.1)).Nodup)
    (hdefaults : ∀ m ∈ members, saysNothing m.2 → ∃ field,
      f.field? m.1 = some field ∧ field.required = false ∧
        field.enter (m.2.map found) f.blank = .ok f.blank) :
    f.read ((Tree.ofFields
        (members.filter fun m => !saysNothing m.2)).map found) =
      f.read ((Tree.ofFields members).map found) := by
  -- What is left out is put back behind the members before it, which the
  -- induction has to know.
  suffices hbefore : ∀ before : List (String × Tree (Value Float)),
      (∀ m ∈ members, m.1 ∉ before.map (·.1)) →
      f.read ((Tree.ofFields
          (before ++ members.filter fun m => !saysNothing m.2)).map found) =
        f.read ((Tree.ofFields (before ++ members)).map found) from
    hbefore [] (by simp)
  induction members with
  | nil => intro before _; rfl
  | cons m members ih =>
      intro before hbefore
      obtain ⟨hm, hmembers⟩ := List.forall_mem_cons.1 hdefaults
      obtain ⟨hmissing, hbefore⟩ := List.forall_mem_cons.1 hbefore
      rw [List.map_cons, List.nodup_cons] at hnames
      have ih := ih hnames.2 hmembers
      cases hnothing : saysNothing m.2 with
      | false =>
          rw [List.filter_cons_of_pos (by simpa using hnothing)]
          have hnext := ih (before ++ [m]) fun n hn hmem => ?_
          · rwa [List.append_assoc, List.append_assoc] at hnext
          · rw [List.map_append, List.mem_append] at hmem
            rcases hmem with hmem | hmem
            · exact hbefore n hn hmem
            · rw [List.map_singleton, List.mem_singleton] at hmem
              exact hnames.1 (hmem ▸ List.mem_map_of_mem hn)
      | true =>
          obtain ⟨field, hfield, hoptional, hdefault⟩ := hm hnothing
          rw [List.filter_cons_of_neg (by simpa using hnothing),
            ih before hbefore,
            Tree.map_ofFields, Tree.map_ofFields, List.map_append,
            List.map_append, List.map_cons]
          exact (hf.read_insert hfield hoptional (h.key?_ofText m.1) hdefault
            (h.missing_foundMember hmissing)
            (h.missing_foundMember hnames.1)).symm

end Transcribes

/-! ## Documents that are written -/

namespace Tree.Writable

variable {keeps : Float → Prop} {depth : Nat}

theorem ofText (s : String) : (Tree.ofText s).Writable keeps depth :=
  .scalar fun _ h => by cases h

theorem ofText? (s : Option String) :
    (Tree.ofText? s).Writable keeps depth := by
  cases s with
  | none => exact .scalar fun _ h => by cases h
  | some s => exact ofText s

theorem ofNumber {x : Float} (h : Lasts keeps x) :
    (Tree.ofNumber x).Writable keeps depth := by
  refine .scalar fun y hy => ?_
  rw [Value.ofNumber, if_pos h.1] at hy
  cases hy
  exact h.2

theorem ofNumber? {x : Option Float} (h : ∀ y ∈ x, Lasts keeps y) :
    (Tree.ofNumber? x).Writable keeps depth := by
  cases x with
  | none => exact .scalar fun _ h => by cases h
  | some x => exact ofNumber (h x rfl)

theorem ofFields {members : List (String × Tree (Value Float))}
    (h : ∀ m ∈ members, m.2.Writable keeps depth) :
    (Tree.ofFields members).Writable keeps (depth + 1) := by
  refine .record (fun e he => ?_) fun e he => ?_
  · obtain ⟨m, -, rfl⟩ := List.mem_map.1 he
    exact ⟨m.1, rfl⟩
  · obtain ⟨m, hm, rfl⟩ := List.mem_map.1 he
    exact h m hm

theorem ofList {ρ : Type} {write : ρ → Tree (Value Float)} {rs : List ρ}
    (h : ∀ r ∈ rs, (write r).Writable keeps depth) :
    (Tree.list (rs.map write)).Writable keeps (depth + 1) := by
  refine .list fun t ht => ?_
  obtain ⟨r, hr, rfl⟩ := List.mem_map.1 ht
  exact h r hr

end Tree.Writable

/-! ## Files -/

/-- Of two endings of a name one ends in the other. -/
theorem isSuffixOf_eq_false (ending : List Char) {longer name : List Char}
    (h : longer <:+ name)
    (hlength : ending.length ≤ longer.length) (hne : ¬ ending <:+ longer) :
    ending.isSuffixOf name = false := by
  rw [Bool.eq_false_iff, ne_eq, List.isSuffixOf_iff_suffix]
  exact fun hending => hne (List.suffix_of_suffix_length_le hending h hlength)

theorem Format.ofPath?_json {path : String}
    (h : ".json".toList <:+ path.toList) :
    Format.ofPath? path = some (.json, false) := by
  have hgz := isSuffixOf_eq_false ".gz".toList h (by decide) (by decide)
  have hyml := isSuffixOf_eq_false ".yml".toList h (by decide) (by decide)
  have hyaml := isSuffixOf_eq_false ".yaml".toList h (by decide) (by decide)
  have hjson := List.isSuffixOf_iff_suffix.2 h
  simp only [ofPath?, dropEnding?, hgz, ofName?, hyml, hyaml, hjson,
    Bool.false_eq_true, if_false, Bool.or_false, if_true]
  rfl

/-- What a faithful codec has saved is read as it was found. -/
theorem readFile_saved [Codec] {keeps : Float → Prop}
    {found : Value Float → Codec.JsonValue}
    (hcodec : Codec.Faithful keeps found) {ρ : Type} (form : AnyForm ρ)
    {t : Tree (Value Float)} (ht : t.Writable keeps 100)
    {r : ρ} (hr : (form Codec.JsonValue).read (t.map found) = .ok r)
    {files saved : Files} {path : String}
    (hpath : ".json".toList <:+ path.toList)
    (hsave : (saveFile t files path).outcome = .ok saved) :
    readFile form saved path = .ok r := by
  have hbytes : files.save? path (Codec.writeJson t) = some saved := by
    unfold saveFile at hsave
    cases hfiles : files.save? path (Codec.writeJson t) with
    | none => rw [hfiles] at hsave; cases hsave
    | some g =>
        rw [hfiles] at hsave
        rw [← Except.ok.inj hsave]
  have hread :
      readJson (form Codec.JsonValue) ⟨Codec.writeJson t, true⟩ = .ok r := by
    rw [readJson, hcodec.readJson_writeJson t ht, hr]
  unfold readFile
  rw [Format.ofPath?_json hpath]
  dsimp only
  rw [Files.open?_save? hbytes]
  dsimp only [Format.read]
  rw [if_neg (by simp), hread]

end LaneFlow.Document
