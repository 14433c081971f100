import LaneFlow.Config.Basic
import LaneFlow.Document.File

/-!
# Configurations as documents

A configuration is a record with the field `modules`, a record of modules by
name. Of two modules of one name the last one counts. A module tells its kind in
the field `type`. If that comes first, the other fields are read as the kind
asks for them. Otherwise they have been passed before the kind is known, and are
read by what they say themselves: only a scalar that says a text is a text then.

## Main results

* `Module.readEntries_of_tagged`: a module that starts with its kind is read as
  the kind asks.
* `Module.ofKind_fields`: the fields of a module that are written are read back.
-/

namespace LaneFlow

open LaneFlow.Document

variable {σ : Type} [Leaf σ Float]

/-! ## Forms -/

/-- The fields of a scenario. -/
def ScenarioFiles.form : Form σ ScenarioFiles where
  fields :=
    [.of "network" true Tree.text fun x r => { r with network := x },
     .of "lanes" false (Tree.optional Tree.text)
       fun x r => { r with lanes := x }]
  blank := { network := "" }

/-- The fields of a simulation. -/
def Scaling.form : Form σ (Scaling Float) where
  fields :=
    [.of "flow_capacity_factor" false Tree.number
       fun x r => { r with flow := x },
     .of "storage_capacity_factor" false Tree.number
       fun x r => { r with storage := x }]
  blank := .unscaled

/-- The fields of the use of lanes. -/
def LaneUse.form : Form σ LaneUse where
  fields :=
    [.of "use_lanes" false Tree.flag fun x r => { r with use := x },
     .of "validation" false (Tree.choice Validation.ofName?)
       fun x r => { r with validation := x }]
  blank := {}

/-- The fields of the output. -/
def OutputRules.form : Form σ OutputRules where
  fields :=
    [.of "output_dir" true Tree.text fun x r => { r with folder := x },
     .of "logging" false (Tree.choice Logging.ofName?)
       fun x r => { r with logging := x }]
  blank := {}

/-! ## Modules -/

/-- The kinds of modules. -/
inductive ModuleKind where
  | scenario
  | simulation
  | lanes
  | output
deriving Repr, DecidableEq

/-- The name of a kind. -/
def ModuleKind.name : ModuleKind → String
  | .scenario => "Scenario"
  | .simulation => "Simulation"
  | .lanes => "Lanes"
  | .output => "Output"

/-- The kind of a name. -/
def ModuleKind.ofName? : String → Option ModuleKind
  | "Scenario" => some .scenario
  | "Simulation" => some .simulation
  | "Lanes" => some .lanes
  | "Output" => some .output
  | _ => none

theorem ModuleKind.ofName?_name (k : ModuleKind) : ofName? k.name = some k := by
  cases k <;> rfl

namespace Module

/-- The field that tells the kind of a module. -/
def kindField : String := "type"

/-- The kind of a module. -/
def kind {α : Type} : Module α → ModuleKind
  | .scenario _ => .scenario
  | .simulation _ => .simulation
  | .lanes _ => .lanes
  | .output _ => .output

/-- A module of a kind with the fields of a document. -/
def ofKind (kind : ModuleKind) (fields : Document.Tree σ) :
    Reading (Module Float) :=
  match kind with
  | .scenario => (ScenarioFiles.form.read fields).map .scenario
  | .simulation => (Scaling.form.read fields).map .simulation
  | .lanes => (LaneUse.form.read fields).map .lanes
  | .output => (OutputRules.form.read fields).map .output

/-- A kind that is given by its name. -/
def readKind (t : Document.Tree σ) : Reading ModuleKind :=
  t.text.bind fun name => match ModuleKind.ofName? name with
    | some kind => .ok kind
    | none => .error []

/-- A module whose fields have been passed before its kind is known. -/
def readPassed
    (entries :
      List (Document.Tree (Value Float) × Document.Tree (Value Float))) :
    Reading (Module Float) :=
  let (kinds, fields) := entries.partition fun e => e.1.key? = some kindField
  match kinds with
  | [(_, kind)] => (readKind kind).bind (ofKind · (.record fields))
  | _ => .error []

/-- A module with some entries. -/
def readEntries [Codec] :
    List (Document.Tree Codec.YamlValue × Document.Tree Codec.YamlValue) →
      Reading (Module Float)
  | [] => .error []
  | (key, value) :: rest =>
    if key.key? = some kindField then
      (readKind value).bind (ofKind · (.record rest))
    else match Codec.resolveYaml? ((key, value) :: rest) with
      | some entries => readPassed entries
      | none => .error []

/-- A module. -/
def read [Codec] (t : Document.Tree Codec.YamlValue) :
    Reading (Module Float) :=
  t.entries.bind readEntries

/-- A module that starts with its kind is read as the kind asks. -/
theorem readEntries_of_tagged [Codec]
    {key value : Document.Tree Codec.YamlValue} {kind : ModuleKind}
    (hkey : key.key? = some kindField) (hvalue : readKind value = .ok kind)
    (rest :
      List (Document.Tree Codec.YamlValue × Document.Tree Codec.YamlValue)) :
    readEntries ((key, value) :: rest) = ofKind kind (.record rest) := by
  simp only [readEntries, hkey, if_true, hvalue]
  rfl

/-- The fields of a module as documents. -/
def fields {α : Type} [Quantity α] :
    Module α → List (String × Document.Tree (Value α))
  | .scenario files =>
    [("network", .ofText files.network), ("lanes", .ofText? files.lanes)]
  | .simulation scaling =>
    [("flow_capacity_factor", .ofNumber scaling.flow),
     ("storage_capacity_factor", .ofNumber scaling.storage)]
  | .lanes use =>
    [("use_lanes", .scalar (.flag use.use)),
     ("validation", .ofText use.validation.name)]
  | .output rules =>
    [("output_dir", .ofText rules.folder),
     ("logging", .ofText rules.logging.name)]

/-- A module as a document. -/
def write {α : Type} [Quantity α] (m : Module α) : Document.Tree (Value α) :=
  .ofFields ((kindField, .ofText m.kind.name) :: m.fields)

/-- Whether all numbers of a module are finite. -/
def isFinite {α : Type} [Quantity α] : Module α → Bool
  | .simulation scaling =>
    Quantity.isFinite scaling.flow && Quantity.isFinite scaling.storage
  | _ => true

/-- The fields of a module that are written are read back. -/
theorem ofKind_fields {m : Module Float} (h : m.isFinite) :
    ofKind m.kind (.ofFields m.fields) = .ok m := by
  cases m with
  | scenario files =>
      simp [ofKind, kind, fields, ScenarioFiles.form, Form.read, Tree.ofFields,
        Form.fill, Form.field?, Field.of, Except.map, Except.bind, Form.close]
  | simulation scaling =>
      simp only [isFinite, Bool.and_eq_true] at h
      simp [ofKind, kind, fields, Scaling.form, Form.read, Tree.ofFields,
        Form.fill, Form.field?, Field.of, Except.map, Tree.number_ofNumber h.1,
        Tree.number_ofNumber h.2, Except.bind, Form.close]
  | lanes use =>
      simp [ofKind, kind, fields, LaneUse.form, Form.read, Tree.ofFields,
        Form.fill, Form.field?, Field.of, Except.map,
        Tree.choice_ofText (Validation.ofName?_name _), Except.bind, Form.close]
  | output rules =>
      simp [ofKind, kind, fields, OutputRules.form, Form.read, Tree.ofFields,
        Form.fill, Form.field?, Field.of, Except.map,
        Tree.choice_ofText (Logging.ofName?_name _), Except.bind, Form.close]

end Module

/-! ## Configurations -/

namespace Config

/-- Modules by name, after those that have been read. -/
def readModules [Codec] (ms : List (String × Module Float)) :
    List (Document.Tree Codec.YamlValue × Document.Tree Codec.YamlValue) →
      Reading (List (String × Module Float))
  | [] => .ok ms
  | (key, value) :: rest =>
    match key.key? with
    | none => .error [.unknown]
    | some name => do
      let m ← within (.field name) (Module.read value)
      readModules (insert name m ms) rest

/-- The fields of a configuration. -/
def form [Codec] : Form Codec.YamlValue (Config Float) where
  fields :=
    [.of "modules" true (fun t => t.entries.bind (readModules []))
       fun x c => { c with modules := x }]
  blank := {}

/-- A configuration as a document. -/
def write {α : Type} [Quantity α] (c : Config α) : Document.Tree (Value α) :=
  .ofFields [("modules", .ofFields (c.modules.map fun m => (m.1, m.2.write)))]

end Config

end LaneFlow
