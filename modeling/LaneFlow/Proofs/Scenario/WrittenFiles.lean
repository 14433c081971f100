import LaneFlow.Proofs.Document.WrittenRecords
import LaneFlow.Proofs.Json.Codecs
import LaneFlow.Scenario.Loading

/-!
# Scenario files that were written

What is written as a network file or a lane file is read back as it was, if the
codec is faithful to its numbers.  A lane is written without what it does not
declare, and read as if it were written in full.

The other way round, a document that leaves out members is read as the one in
which they are written out with their defaults.  This is told for one member at
a time, of the file or of a record inside it, and then for any number of them.

## Main results

* `NetworkFile.read_written`, `LaneFile.read_written` — records come back.
* `LaneRecord.leavesOut` — what a lane does not declare is not written.
* `NetworkFile.read_eq_of_writesOut`, `LaneFile.read_eq_of_writesOut` — members
  that are written out make no difference.
* `NetworkFile.load_saved`, `LaneFile.load_saved` — files that are saved and
  loaded.
* `scenario_files_survive` — all of this, with a codec that keeps finite
  numbers.
-/

namespace LaneFlow

open Document

variable {keeps : Float → Prop} {depth : Nat} {σ : Type} [Leaf σ Float]
  {found : Value Float → σ}

/-! ## Networks -/

namespace NodeRecord

/-- The numbers of a node. -/
def numbers {α : Type} (r : NodeRecord α) : List α := [r.x, r.y]

variable {r : NodeRecord Float} (h : ∀ x ∈ r.numbers, Lasts keeps x)

include h

theorem writable : r.write.Writable keeps (depth + 1) := by
  simp only [numbers, List.forall_mem_cons] at h
  refine .ofFields ?_
  simp only [List.forall_mem_cons]
  exact ⟨.ofText _, .ofNumber h.1, .ofNumber h.2.1, by simp⟩

theorem read_written (hfound : Transcribes keeps found) :
    form.read (r.write.map found) = .ok r := by
  simp only [numbers, List.forall_mem_cons] at h
  simp [form, Form.read, write, Tree.map_ofFields, Form.fill, Form.field?,
    Field.of, Except.map, Tree.foundMember, hfound.key?_ofText,
    hfound.text_ofText, hfound.number_ofNumber h.1,
    hfound.number_ofNumber h.2.1, Except.bind, Form.close]

end NodeRecord

namespace LinkRecord

/-- The numbers of a link. -/
def numbers {α : Type} (r : LinkRecord α) : List α :=
  [r.length, r.capacity, r.freespeed, r.lanes]

variable {r : LinkRecord Float} (h : ∀ x ∈ r.numbers, Lasts keeps x)

include h

theorem writable : r.write.Writable keeps (depth + 1) := by
  simp only [numbers, List.forall_mem_cons] at h
  obtain ⟨hlength, hcapacity, hfreespeed, hlanes, -⟩ := h
  refine .ofFields ?_
  simp only [List.forall_mem_cons]
  exact ⟨.ofText _, .ofText _, .ofText _, .ofNumber hlength,
    .ofNumber hcapacity, .ofNumber hfreespeed, .ofNumber hlanes, by simp⟩

theorem read_written (hfound : Transcribes keeps found) :
    form.read (r.write.map found) = .ok r := by
  simp only [numbers, List.forall_mem_cons] at h
  obtain ⟨hlength, hcapacity, hfreespeed, hlanes, -⟩ := h
  simp [form, Form.read, write, Tree.map_ofFields, Form.fill, Form.field?,
    Field.of, Except.map, Tree.foundMember, hfound.key?_ofText,
    hfound.text_ofText, hfound.number_ofNumber hlength,
    hfound.number_ofNumber hcapacity, hfound.number_ofNumber hfreespeed,
    hfound.number_ofNumber hlanes, Except.bind, Form.close]

end LinkRecord

namespace NetworkFile

/-- The numbers of a network file. -/
def numbers {α : Type} (f : NetworkFile α) : List α :=
  f.capacityPeriod :: f.cellSize ::
    (f.nodes.flatMap (·.numbers) ++ f.links.flatMap (·.numbers))

variable {f : NetworkFile Float} (h : ∀ x ∈ f.numbers, Lasts keeps x)

include h

theorem lasts_node {r : NodeRecord Float} (hr : r ∈ f.nodes) :
    ∀ x ∈ r.numbers, Lasts keeps x :=
  fun x hx => h x (by
    simp only [numbers, List.mem_cons, List.mem_append, List.mem_flatMap]
    exact .inr (.inr (.inl ⟨r, hr, hx⟩)))

theorem lasts_link {r : LinkRecord Float} (hr : r ∈ f.links) :
    ∀ x ∈ r.numbers, Lasts keeps x :=
  fun x hx => h x (by
    simp only [numbers, List.mem_cons, List.mem_append, List.mem_flatMap]
    exact .inr (.inr (.inr ⟨r, hr, hx⟩)))

theorem writable : f.write.Writable keeps (depth + 3) := by
  refine .ofFields ?_
  simp only [List.forall_mem_cons]
  exact ⟨.ofText? _, .ofNumber (h f.capacityPeriod (by simp [numbers])),
    .ofNumber (h f.cellSize (by simp [numbers])),
    .ofList fun r hr => NodeRecord.writable (lasts_node h hr),
    .ofList fun r hr => LinkRecord.writable (lasts_link h hr), by simp⟩

theorem read_written (hfound : Transcribes keeps found) :
    form.read (f.write.map found) = .ok f := by
  have hnodes : ((Tree.list (f.nodes.map (·.write))).map found).listOf
      NodeRecord.form.read = .ok f.nodes :=
    Transcribes.listOf_eq fun r hr =>
      NodeRecord.read_written (lasts_node h hr) hfound
  have hlinks : ((Tree.list (f.links.map (·.write))).map found).listOf
      LinkRecord.form.read = .ok f.links :=
    Transcribes.listOf_eq fun r hr =>
      LinkRecord.read_written (lasts_link h hr) hfound
  have hperiod :=
    hfound.number_ofNumber (h f.capacityPeriod (by simp [numbers]))
  have hcell := hfound.number_ofNumber (h f.cellSize (by simp [numbers]))
  simp [form, Form.read, write, Tree.map_ofFields, Form.fill, Form.field?,
    Field.of, Except.map, Tree.foundMember, hfound.key?_ofText,
    hfound.optional_ofText?, hperiod, hcell, hnodes, hlinks, Except.bind,
    Form.close]

end NetworkFile

/-! ## Fields that are apart -/

section Separate

variable {σ α : Type} [Leaf σ α] [Quantity α]

theorem NetworkFile.separate_form :
    (form : Form σ (NetworkFile α)).Separate := by
  simp only [Form.Separate, form, List.pairwise_cons, List.forall_mem_cons,
    List.not_mem_nil, List.Pairwise.nil, false_implies, implies_true, and_true]
  and_intros
  all_goals exact Field.apart_of _ _ _ _ (by decide) fun _ _ _ => rfl

theorem LaneRecord.separate_form : (form : Form σ (LaneRecord α)).Separate := by
  simp only [Form.Separate, form, List.pairwise_cons, List.forall_mem_cons,
    List.not_mem_nil, List.Pairwise.nil, false_implies, implies_true, and_true]
  and_intros
  all_goals exact Field.apart_of _ _ _ _ (by decide) fun _ _ _ => rfl

theorem AssignmentRecord.separate_form :
    (form : Form σ (AssignmentRecord α)).Separate := by
  simp only [Form.Separate, form, List.pairwise_cons, List.forall_mem_cons,
    List.not_mem_nil, List.Pairwise.nil, false_implies, implies_true, and_true]
  exact Field.apart_of _ _ _ _ (by decide) fun _ _ _ => rfl

theorem LaneFile.separate_form : (form : Form σ (LaneFile α)).Separate :=
  List.pairwise_singleton _ _

end Separate

/-! ## Lanes -/

namespace LaneRecord

/-- The numbers of a lane. -/
def numbers {α : Type} (r : LaneRecord α) : List α :=
  r.start :: (r.represented.toList ++ r.capacity.toList)

/-- A lane with all its members. -/
def members (r : LaneRecord Float) :
    List (String × Document.Tree (Value Float)) :=
  [("id", .ofText r.id), ("starts_at_meter_from_link_end", .ofNumber r.start),
    ("number_of_represented_lanes", .ofNumber? r.represented),
    ("capacity_vehicles_per_hour", .ofNumber? r.capacity),
    ("to_lane_ids", .list (r.toLanes.map .ofText)),
    ("to_link_ids", .list (r.toLinks.map .ofText))]

theorem saysNothing_ofNumber {x : Float} (h : Lasts keeps x) :
    saysNothing (.ofNumber x) = false := by
  simp only [Tree.ofNumber, Value.ofNumber, h.1, if_true, saysNothing]

theorem eq_none_of_saysNothing {x : Option Float} (h : ∀ y ∈ x, Lasts keeps y)
    (hnothing : saysNothing (.ofNumber? x)) : x = none := by
  cases x with
  | none => rfl
  | some x =>
      rw [Tree.ofNumber?, saysNothing_ofNumber (h x rfl)] at hnothing
      cases hnothing

theorem eq_nil_of_saysNothing {xs : List String}
    (hnothing : saysNothing (.list (xs.map .ofText))) : xs = [] := by
  cases xs with
  | nil => rfl
  | cons x xs => cases hnothing

theorem optionalField_eq (name : String) {x : Option Float}
    (h : ∀ y ∈ x, Lasts keeps y) :
    optionalField name x =
      [(name, .ofNumber? x)].filter fun m => !saysNothing m.2 := by
  cases x with
  | none => rfl
  | some x =>
      have hnothing : saysNothing (.ofNumber? (some x)) = false :=
        saysNothing_ofNumber (h x rfl)
      rw [List.filter_cons_of_pos (by simp [hnothing])]
      rfl

theorem textsField_eq (name : String) (xs : List String) :
    textsField name xs =
      [(name, (.list (xs.map .ofText) : Document.Tree (Value Float)))].filter
        fun m => !saysNothing m.2 := by
  cases xs <;> rfl

variable {r : LaneRecord Float} (h : ∀ x ∈ r.numbers, Lasts keeps x)

include h

theorem lasts_start : Lasts keeps r.start := h r.start (by simp [numbers])

theorem lasts_represented : ∀ x ∈ r.represented, Lasts keeps x :=
  fun x hx => h x (by simp [numbers, Option.mem_toList.2 hx])

theorem lasts_capacity : ∀ x ∈ r.capacity, Lasts keeps x :=
  fun x hx => h x (by simp [numbers, Option.mem_toList.2 hx])

/-- A lane is written without the members that say nothing. -/
theorem write_eq :
    r.write = .ofFields (r.members.filter fun m => !saysNothing m.2) := by
  have hbase :
      [("id", .ofText r.id),
          ("starts_at_meter_from_link_end", .ofNumber r.start)] =
        [("id", .ofText r.id),
          ("starts_at_meter_from_link_end", .ofNumber r.start)].filter
        fun m : String × Document.Tree (Value Float) => !saysNothing m.2 := by
    have hstart := saysNothing_ofNumber (lasts_start h)
    rw [List.filter_cons_of_pos rfl, List.filter_cons_of_pos (by simp [hstart]),
      List.filter_nil]
  rw [write, optionalField_eq _ (lasts_represented h),
    optionalField_eq _ (lasts_capacity h), textsField_eq, textsField_eq, hbase,
    ← List.filter_append, ← List.filter_append, ← List.filter_append,
    ← List.filter_append]
  rfl

theorem writable : r.write.Writable keeps (depth + 2) := by
  have hmembers : ∀ m ∈ r.members, m.2.Writable keeps (depth + 1) := by
    simp only [members, List.forall_mem_cons]
    exact ⟨.ofText _, .ofNumber (lasts_start h),
      .ofNumber? (lasts_represented h), .ofNumber? (lasts_capacity h),
      .ofList fun s _ => .ofText s, .ofList fun s _ => .ofText s, by simp⟩
  rw [write_eq h]
  exact .ofFields fun m hm => hmembers m (List.mem_of_mem_filter hm)

/-- A lane in full is read back. -/
theorem read_members (hfound : Transcribes keeps found) :
    form.read ((Tree.ofFields r.members).map found) = .ok r := by
  simp [form, Form.read, members, Tree.map_ofFields, Form.fill, Form.field?,
    Field.of, Except.map, Tree.foundMember, hfound.key?_ofText,
    hfound.text_ofText, hfound.number_ofNumber (lasts_start h),
    hfound.optional_ofNumber? (lasts_represented h),
    hfound.optional_ofNumber? (lasts_capacity h), hfound.listOf_text,
    Except.bind, Form.close]

/-- **A lane is read back** as if it had been written in full. -/
theorem read_written (hfound : Transcribes keeps found) :
    form.read (r.write.map found) = .ok r := by
  -- What is not declared is nothing or an empty list, and that is the default.
  have hnumber {x : Option Float} (hx : ∀ y ∈ x, Lasts keeps y) :
      saysNothing (.ofNumber? x) →
        ((Tree.ofNumber? x).map found).optional Tree.number = .ok none := by
    intro hnothing
    rw [hfound.optional_ofNumber? hx, eq_none_of_saysNothing hx hnothing]
  have htexts {xs : List String} :
      saysNothing (.list (xs.map .ofText)) →
        ((Tree.list (xs.map .ofText)).map found).listOf Tree.text = .ok [] := by
    intro hnothing
    rw [hfound.listOf_text, eq_nil_of_saysNothing hnothing]
  rw [write_eq h, hfound.read_leavingOut separate_form (by simp [members]),
    read_members h hfound]
  simp only [members, List.forall_mem_cons, List.not_mem_nil, false_implies,
    implies_true]
  refine ⟨fun hnothing => ?_, fun hnothing => ?_, fun hnothing => ?_,
    fun hnothing => ?_, fun hnothing => ?_, fun hnothing => ?_, trivial⟩
  · cases hnothing
  · rw [saysNothing_ofNumber (lasts_start h)] at hnothing
    cases hnothing
  · have hnone := hnumber (lasts_represented h) hnothing
    exact ⟨_, rfl, rfl, congrArg (Except.map _) hnone⟩
  · have hnone := hnumber (lasts_capacity h) hnothing
    exact ⟨_, rfl, rfl, congrArg (Except.map _) hnone⟩
  · exact ⟨_, rfl, rfl, congrArg (Except.map _) (htexts hnothing)⟩
  · exact ⟨_, rfl, rfl, congrArg (Except.map _) (htexts hnothing)⟩

end LaneRecord

namespace AssignmentRecord

/-- The numbers of the lanes of a link. -/
def numbers {α : Type} (a : AssignmentRecord α) : List α :=
  a.lanes.flatMap (·.numbers)

variable {a : AssignmentRecord Float} (h : ∀ x ∈ a.numbers, Lasts keeps x)

include h

theorem lasts_lane {r : LaneRecord Float} (hr : r ∈ a.lanes) :
    ∀ x ∈ r.numbers, Lasts keeps x :=
  fun x hx => h x (List.mem_flatMap.2 ⟨r, hr, hx⟩)

theorem writable : a.write.Writable keeps (depth + 4) := by
  refine .ofFields ?_
  simp only [List.forall_mem_cons]
  exact ⟨.ofText _,
    .ofList fun r hr => LaneRecord.writable (lasts_lane h hr), by simp⟩

theorem read_written (hfound : Transcribes keeps found) :
    form.read (a.write.map found) = .ok a := by
  have hlanes : ((Tree.list (a.lanes.map (·.write))).map found).listOf
      LaneRecord.form.read = .ok a.lanes :=
    Transcribes.listOf_eq fun r hr =>
      LaneRecord.read_written (lasts_lane h hr) hfound
  simp [form, Form.read, write, Tree.map_ofFields, Form.fill, Form.field?,
    Field.of, Except.map, Tree.foundMember, hfound.key?_ofText,
    hfound.text_ofText, hlanes, Except.bind, Form.close]

end AssignmentRecord

namespace LaneFile

/-- The numbers of a lane file. -/
def numbers {α : Type} (f : LaneFile α) : List α :=
  f.assignments.flatMap (·.numbers)

variable {f : LaneFile Float} (h : ∀ x ∈ f.numbers, Lasts keeps x)

include h

theorem lasts_assignment {a : AssignmentRecord Float} (ha : a ∈ f.assignments) :
    ∀ x ∈ a.numbers, Lasts keeps x :=
  fun x hx => h x (List.mem_flatMap.2 ⟨a, ha, hx⟩)

theorem writable : f.write.Writable keeps (depth + 6) := by
  refine .ofFields ?_
  simp only [List.forall_mem_cons]
  exact ⟨.ofList fun a ha => AssignmentRecord.writable (lasts_assignment h ha),
    by simp⟩

theorem read_written (hfound : Transcribes keeps found) :
    form.read (f.write.map found) = .ok f := by
  have hassignments :
      ((Tree.list (f.assignments.map (·.write))).map found).listOf
      AssignmentRecord.form.read = .ok f.assignments :=
    Transcribes.listOf_eq fun a ha =>
      AssignmentRecord.read_written (lasts_assignment h ha) hfound
  simp [form, Form.read, write, Tree.map_ofFields, Form.fill, Form.field?,
    Field.of, Except.map, Tree.foundMember, hfound.key?_ofText, hassignments,
    Except.bind, Form.close]

end LaneFile

/-! ## Members that are left out -/

section LeavesOut

variable {α : Type}

/-- The names of the members of a document. -/
def Document.Tree.names : Document.Tree (Value α) → List String
  | .record entries => entries.filterMap (·.1.key?)
  | _ => []

theorem names_ofFields (members : List (String × Document.Tree (Value α))) :
    (Tree.ofFields members).names = members.map (·.1) := by
  rw [Tree.ofFields, Tree.names]
  induction members with
  | nil => rfl
  | cons m members ih => exact congrArg (m.1 :: ·) ih

variable [Quantity α] {name other : String}

theorem mem_optionalField {x : Option α} :
    other ∈ (optionalField name x).map (·.1) ↔ other = name ∧ x ≠ none := by
  cases x <;> simp [optionalField]

omit [Quantity α] in
theorem mem_textsField {xs : List String} :
    other ∈ (textsField name xs :
        List (String × Document.Tree (Value α))).map (·.1) ↔
      other = name ∧ xs ≠ [] := by
  cases xs <;> simp [textsField]

/-- The document of a lane has no members for what the lane does not declare. -/
structure LaneRecord.LeavesOut (r : LaneRecord α) : Prop where
  represented :
    "number_of_represented_lanes" ∈ r.write.names ↔ r.represented ≠ none
  capacity : "capacity_vehicles_per_hour" ∈ r.write.names ↔ r.capacity ≠ none
  toLanes : "to_lane_ids" ∈ r.write.names ↔ r.toLanes ≠ []
  toLinks : "to_link_ids" ∈ r.write.names ↔ r.toLinks ≠ []

theorem LaneRecord.leavesOut (r : LaneRecord α) : r.LeavesOut := by
  constructor
  all_goals
    rw [write, names_ofFields]
    simp only [List.map_append, List.mem_append, mem_optionalField,
      mem_textsField, List.map_cons, List.map_nil, List.mem_cons,
      List.not_mem_nil, or_false]
    simp

end LeavesOut

/-! ## Members that are written out -/

section WritesOut

variable {σ α : Type}

/-- One member more is written out for the lanes of a link, or for one of the
lanes. -/
inductive AssignmentRecord.WritesOut [Leaf σ α] [Quantity α] :
    Document.Tree σ → Document.Tree σ → Prop
  | here {t t' : Document.Tree σ}
      (h : (form : Form σ (AssignmentRecord α)).WritesOut t t') : WritesOut t t'
  | inLane {t t' : Document.Tree σ}
      (h : (form : Form σ (AssignmentRecord α)).ChangesMember "lanes"
        (ChangesItem (LaneRecord.form : Form σ (LaneRecord α)).WritesOut)
        t t') : WritesOut t t'

/-- One member more is written out in a lane file. -/
inductive LaneFile.WritesOut [Leaf σ α] [Quantity α] :
    Document.Tree σ → Document.Tree σ → Prop
  | here {t t' : Document.Tree σ}
      (h : (form : Form σ (LaneFile α)).WritesOut t t') : WritesOut t t'
  | inAssignment {t t' : Document.Tree σ}
      (h : (form : Form σ (LaneFile α)).ChangesMember
        "lanes_to_link_assignments" (ChangesItem AssignmentRecord.WritesOut)
        t t') : WritesOut t t'

variable [Leaf σ α] [Quantity α] {t t' : Document.Tree σ}

theorem AssignmentRecord.WritesOut.read_eq
    (h : AssignmentRecord.WritesOut t t') :
    (form : Form σ (AssignmentRecord α)).read t' = form.read t := by
  cases h with
  | here h => exact h.read_eq separate_form
  | inLane h =>
      refine h.read_eq separate_form rfl fun v v' r hv => ?_
      exact congrArg (Except.map _)
        (hv.listOf_eq fun _ _ hlane => hlane.read_eq LaneRecord.separate_form)

theorem LaneFile.WritesOut.read_eq (h : LaneFile.WritesOut t t') :
    (form : Form σ (LaneFile α)).read t' = form.read t := by
  cases h with
  | here h => exact h.read_eq separate_form
  | inAssignment h =>
      refine h.read_eq separate_form rfl fun v v' r hv => ?_
      exact congrArg (Except.map _)
        (hv.listOf_eq fun _ _ hassignment => hassignment.read_eq)

/-- However many members are written out in a lane file, it is read alike. -/
theorem LaneFile.read_eq_of_writesOut
    (h : Relation.ReflTransGen LaneFile.WritesOut t t') :
    (form : Form σ (LaneFile α)).read t' = form.read t := by
  induction h with
  | refl => rfl
  | tail _ hstep ih => exact hstep.read_eq.trans ih

/-- However many members are written out in a network file, it is read alike. -/
theorem NetworkFile.read_eq_of_writesOut
    (h : Relation.ReflTransGen (form : Form σ (NetworkFile α)).WritesOut t t') :
    (form : Form σ (NetworkFile α)).read t' = form.read t := by
  induction h with
  | refl => rfl
  | tail _ hstep ih => exact (hstep.read_eq separate_form).trans ih

end WritesOut

/-! ## Files -/

section Codec

variable [Codec]

theorem outcome_loadFile {ρ : Type} (form : AnyForm ρ) (files : Files)
    (path : String) :
    (loadFile form files path).outcome = readFile form files path := rfl

theorem NetworkFile.outcome_load (files : Files) (path : String) :
    (NetworkFile.load files path).outcome =
      readFile (fun _ => form) files path := by
  rw [load, Logged.outcome_bind, outcome_loadFile]
  cases readFile (fun _ => form) files path <;> rfl

theorem LaneFile.outcome_load (files : Files) (path : String) :
    (LaneFile.load files path).outcome =
      readFile (fun _ => form) files path := by
  rw [load, Logged.outcome_bind, outcome_loadFile]
  cases readFile (fun _ => form) files path <;> rfl

variable {found : Value Float → Codec.JsonValue} {files saved : Files}
  {path : String}

/-- A network file that is saved is loaded as it was. -/
theorem NetworkFile.load_saved (hcodec : Codec.Faithful keeps found)
    {f : NetworkFile Float} (hf : ∀ x ∈ f.numbers, Lasts keeps x)
    (hpath : ".json".toList <:+ path.toList)
    (hsave : (saveFile f.write files path).outcome = .ok saved) :
    (NetworkFile.load saved path).outcome = .ok f := by
  rw [NetworkFile.outcome_load]
  exact readFile_saved hcodec _ (writable hf)
    (read_written hf hcodec.toTranscribes) hpath hsave

/-- A lane file that is saved is loaded as it was. -/
theorem LaneFile.load_saved (hcodec : Codec.Faithful keeps found)
    {f : LaneFile Float} (hf : ∀ x ∈ f.numbers, Lasts keeps x)
    (hpath : ".json".toList <:+ path.toList)
    (hsave : (saveFile f.write files path).outcome = .ok saved) :
    (LaneFile.load saved path).outcome = .ok f := by
  rw [LaneFile.outcome_load]
  exact readFile_saved hcodec _ (writable hf)
    (read_written hf hcodec.toTranscribes) hpath hsave

end Codec

/-- **Scenario files survive.** With a codec that keeps finite numbers, a
network file and a lane file of finite numbers that are saved under a name for
JSON are loaded as they were.  Lanes are written without what they do not
declare.  A document of a network or of lanes, in any format, that leaves out
members is read as the one in which they are written out with their defaults. -/
theorem scenario_files_survive [Codec] {found : Value Float → Codec.JsonValue}
    (hcodec : Codec.Faithful (fun x => Quantity.isFinite x = true) found) :
    (∀ f : NetworkFile Float, (∀ x ∈ f.numbers, Quantity.isFinite x) →
      ∀ (files saved : Files) (path : String), ".json".toList <:+ path.toList →
        (saveFile f.write files path).outcome = .ok saved →
        (NetworkFile.load saved path).outcome = .ok f) ∧
    (∀ f : LaneFile Float, (∀ x ∈ f.numbers, Quantity.isFinite x) →
      ∀ (files saved : Files) (path : String), ".json".toList <:+ path.toList →
        (saveFile f.write files path).outcome = .ok saved →
        (LaneFile.load saved path).outcome = .ok f) ∧
    (∀ r : LaneRecord Float, r.LeavesOut) ∧
    ∀ (σ : Type) [Leaf σ Float] (t t' : Document.Tree σ),
      (Relation.ReflTransGen NetworkFile.form.WritesOut t t' →
        NetworkFile.form.read t' = NetworkFile.form.read t) ∧
      (Relation.ReflTransGen LaneFile.WritesOut t t' →
        LaneFile.form.read t' = LaneFile.form.read t) := by
  refine ⟨?network, ?lanes, LaneRecord.leavesOut, fun σ _ t t' =>
    ⟨NetworkFile.read_eq_of_writesOut, LaneFile.read_eq_of_writesOut⟩⟩
  case network =>
    intro f hf files saved path hpath hsave
    exact NetworkFile.load_saved hcodec (fun x hx => ⟨hf x hx, hf x hx⟩) hpath
      hsave
  case lanes =>
    intro f hf files saved path hpath hsave
    exact LaneFile.load_saved hcodec (fun x hx => ⟨hf x hx, hf x hx⟩) hpath
      hsave

/-- A network of one link, without a name. -/
def spurFile : NetworkFile Float where
  capacityPeriod := 3600.0
  cellSize := 7.5
  nodes := [⟨"a", 0.0, 0.25⟩, ⟨"b", 100.0, -0.0⟩]
  links := [⟨"ab", "a", "b", 100.5, 1800.0, 13.9, 2.0⟩]

/-- Its lanes, of which the second declares nothing. -/
def spurLanes : LaneFile Float where
  assignments :=
    [{ link := "ab"
       lanes :=
         [{ id := "left", start := 50.0, represented := some 1.5,
            toLinks := ["ab"] },
          { id := "right", start := 50.0 }] }]

/-- A member of a document. -/
def foundEntry (name : String) (value : Document.Tree Json.Found) :
    Document.Tree Json.Found × Document.Tree Json.Found :=
  (.scalar (.value (.text name)), value)

/-- A network without links, with some members besides. -/
def networkDocument
    (members : List (Document.Tree Json.Found × Document.Tree Json.Found)) :
    Document.Tree Json.Found :=
  .record (foundEntry "links" (.list []) :: members)

/-- A lane file of one lane, with some members besides. -/
def laneDocument
    (members : List (Document.Tree Json.Found × Document.Tree Json.Found)) :
    Document.Tree Json.Found :=
  .record [foundEntry "lanes_to_link_assignments" (.list [.record
    [foundEntry "link_id" (.scalar (.value (.text "ab"))),
      foundEntry "lanes" (.list [.record
        (foundEntry "id" (.scalar (.value (.text "left"))) ::
          foundEntry "starts_at_meter_from_link_end"
            (.scalar (.value (.number 50.0))) :: members)])]])]

/-- The codec with marks keeps all finite numbers, and writes these files
without any marks, as the standard codec does. -/
theorem scenario_files_survive_spur :
    (∀ t ∈ [spurFile.write, spurLanes.write],
      @Codec.writeJson Json.markedCodec t = @Codec.writeJson standardCodec t) ∧
    (∃ saved,
      (@saveFile Json.markedCodec spurFile.write {} "spur.json").outcome =
        .ok saved ∧
      (@NetworkFile.load Json.markedCodec saved "spur.json").outcome =
        .ok spurFile) ∧
    (∃ saved,
      (@saveFile Json.markedCodec spurLanes.write {} "lanes.json").outcome =
        .ok saved ∧
      (@LaneFile.load Json.markedCodec saved "lanes.json").outcome =
        .ok spurLanes) ∧
    NetworkFile.form.read
        (networkDocument
          [foundEntry "effective_cell_size" (.scalar (.value (.number 7.5)))]) =
      NetworkFile.form.read (networkDocument []) ∧
    LaneFile.form.read (laneDocument [foundEntry "to_link_ids" (.list [])]) =
      LaneFile.form.read (laneDocument []) := by
  obtain ⟨hnetwork, hlanes, -, hdocument⟩ :=
    @scenario_files_survive Json.markedCodec _ (Json.faithful_marked _)
  have hnumbers : ∀ x ∈ spurFile.numbers, Quantity.isFinite x := by
    decide +kernel
  have hlaneNumbers : ∀ x ∈ spurLanes.numbers, Quantity.isFinite x := by
    decide +kernel
  refine ⟨by decide +kernel,
    ⟨_, rfl, hnetwork _ hnumbers {} _ _ (by decide) rfl⟩,
    ⟨_, rfl, hlanes _ hlaneNumbers {} _ _ (by decide) rfl⟩, ?_, ?_⟩
  · refine (hdocument Json.Found _ _).1 (.single ?_)
    exact @Form.WritesOut.member _ _ _ _ _ _ _ _ _
      [foundEntry "links" (.list [])] [] rfl rfl rfl rfl (by decide) (by decide)
  · refine (hdocument Json.Found _ _).2 (.single (.inAssignment ?_))
    refine @Form.ChangesMember.member _ _ _ _ _ _ _ _ _ _ [] [] rfl ?_
    refine @ChangesItem.item _ _ _ _ [] [] (.inLane ?_)
    refine @Form.ChangesMember.member _ _ _ _ _ _ _ _ _ _ [_] [] rfl ?_
    refine @ChangesItem.item _ _ _ _ [] [] ?_
    exact @Form.WritesOut.member _ _ _ _ _ _ _ _ _ [_, _] []
      rfl rfl rfl rfl (by decide) (by decide)

end LaneFlow
