import LaneFlow.Quantity

/-!
# Configurations

A configuration is a set of named modules. Each module is of one of four kinds,
and a kind is looked for under one fixed name; a module of another kind under
that name counts as absent. What is absent reads as its default, except for the
scenario, which has none.

## Main results

* `Config.find?_put_self`, `Config.find?_put_other`: writing one module touches
  no other.
* `Config.simulation_putSimulation` and its like: what was written is read back.
-/

namespace LaneFlow

/-- The files of a scenario, as they are named in the configuration. -/
structure ScenarioFiles where
  network : String
  lanes : Option String := none
deriving Repr, DecidableEq

/-- Scales for all flow and all storage capacities. -/
structure Scaling (α : Type) where
  flow : α
  storage : α
deriving Repr, DecidableEq

/-- Nothing is scaled unless it is asked for. -/
def Scaling.unscaled {α : Type} [Quantity α] : Scaling α := ⟨1.0, 1.0⟩

/-- What is done about lanes that do not fit their link. -/
inductive Validation where
  /-- Nothing. -/
  | ignore
  /-- Each finding is logged. -/
  | warn
  /-- Nothing is computed if there is a finding. -/
  | strict
deriving Repr, DecidableEq

/-- The name of a validation mode. -/
def Validation.name : Validation → String
  | .ignore => "None"
  | .warn => "Warn"
  | .strict => "Strict"

/-- The validation mode of a name. -/
def Validation.ofName? : String → Option Validation
  | "None" => some .ignore
  | "Warn" => some .warn
  | "Strict" => some .strict
  | _ => none

theorem Validation.ofName?_name (v : Validation) : ofName? v.name = some v := by
  cases v <;> rfl

/-- Whether lanes are used, and what is done if they do not fit. -/
structure LaneUse where
  use : Bool := true
  validation : Validation := .ignore
deriving Repr, DecidableEq

/-- Whether the log is also written to a file. -/
inductive Logging where
  | off
  | info
deriving Repr, DecidableEq

/-- The name of a logging mode. -/
def Logging.name : Logging → String
  | .off => "None"
  | .info => "Info"

/-- The logging mode of a name. -/
def Logging.ofName? : String → Option Logging
  | "None" => some .off
  | "Info" => some .info
  | _ => none

theorem Logging.ofName?_name (l : Logging) : ofName? l.name = some l := by
  cases l <;> rfl

/-- Where results go. -/
structure OutputRules where
  folder : String := "./"
  logging : Logging := .off
deriving Repr, DecidableEq

/-- One module of a configuration. -/
inductive Module (α : Type) where
  | scenario (files : ScenarioFiles)
  | simulation (scaling : Scaling α)
  | lanes (use : LaneUse)
  | output (rules : OutputRules)
deriving Repr, DecidableEq

/-- Named modules, and the path of the file that they come from. -/
structure Config (α : Type) where
  modules : List (String × Module α) := []
  context : Option String := none
deriving Repr, DecidableEq

namespace Config

variable {α : Type}

/-- Puts a module under a name in a list of named modules, in place of the one
that is there. -/
def insert (name : String) (m : Module α) :
    List (String × Module α) → List (String × Module α)
  | [] => [(name, m)]
  | entry :: rest =>
    if entry.1 = name then (name, m) :: rest else entry :: insert name m rest

/-- The configuration with a module under a name, in place of the one that is
there. -/
def put (c : Config α) (name : String) (m : Module α) : Config α :=
  { c with modules := insert name m c.modules }

/-- The module under a name. -/
def find? (c : Config α) (name : String) : Option (Module α) :=
  c.modules.lookup name

theorem lookup_insert_self (name : String) (m : Module α)
    (ms : List (String × Module α)) :
    (insert name m ms).lookup name = some m := by
  induction ms with
  | nil => simp [insert]
  | cons entry rest ih =>
      obtain ⟨key, value⟩ := entry
      by_cases h : key = name
      · simp [insert, h]
      · have hne : (name == key) = false := by simpa using fun he => h he.symm
        simp only [insert, h, if_false, List.lookup_cons, hne, ih]

theorem lookup_insert_other {name key : String} (m : Module α)
    (ms : List (String × Module α))
    (h : key ≠ name) : (insert name m ms).lookup key = ms.lookup key := by
  induction ms with
  | nil =>
      have hne : (key == name) = false := by simpa using h
      simp [insert, List.lookup_cons, hne]
  | cons entry rest ih =>
      obtain ⟨other, value⟩ := entry
      by_cases he : other = name
      · subst he
        have hne : (key == other) = false := by simpa using h
        simp [insert, List.lookup_cons, hne]
      · simp only [insert, he, if_false, List.lookup_cons, ih]

theorem find?_put_self (c : Config α) (name : String) (m : Module α) :
    (c.put name m).find? name = some m := lookup_insert_self name m c.modules

theorem find?_put_other (c : Config α) {name key : String} (m : Module α)
    (h : key ≠ name) :
    (c.put name m).find? key = c.find? key := lookup_insert_other m c.modules h

/-! ## The four kinds -/

/-- The files of the scenario, if a scenario is configured. -/
def scenario? (c : Config α) : Option ScenarioFiles :=
  match c.find? "scenario" with
  | some (.scenario files) => some files
  | _ => none

/-- The scales of all capacities. -/
def simulation [Quantity α] (c : Config α) : Scaling α :=
  match c.find? "simulation" with
  | some (.simulation scaling) => scaling
  | _ => .unscaled

/-- How lanes are used. -/
def laneUse (c : Config α) : LaneUse :=
  match c.find? "lanes" with
  | some (.lanes use) => use
  | _ => {}

/-- Where results go. -/
def output (c : Config α) : OutputRules :=
  match c.find? "output" with
  | some (.output rules) => rules
  | _ => {}

/-- The configuration with other scales. -/
def putSimulation (c : Config α) (scaling : Scaling α) : Config α :=
  c.put "simulation" (.simulation scaling)

/-- The configuration with another use of lanes. -/
def putLaneUse (c : Config α) (use : LaneUse) : Config α :=
  c.put "lanes" (.lanes use)

/-- The configuration with another place for results. -/
def putOutput (c : Config α) (rules : OutputRules) : Config α :=
  c.put "output" (.output rules)

@[simp] theorem simulation_putSimulation [Quantity α] (c : Config α)
    (s : Scaling α) : (c.putSimulation s).simulation = s := by
  simp [simulation, putSimulation, find?_put_self]

@[simp] theorem laneUse_putLaneUse (c : Config α) (u : LaneUse) :
    (c.putLaneUse u).laneUse = u := by
  simp [laneUse, putLaneUse, find?_put_self]

@[simp] theorem output_putOutput (c : Config α) (r : OutputRules) :
    (c.putOutput r).output = r := by
  simp [output, putOutput, find?_put_self]

end Config

end LaneFlow
