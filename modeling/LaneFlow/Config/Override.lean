import LaneFlow.Config.Basic
import LaneFlow.Decimal.Reading

/-!
# Overrides

An override is a key and a value, written with an equals sign between them; the
first one counts. Some keys name a setting of the configuration, which the
override changes if its value can be read. Overrides are made one after the
other, so of two for one setting the later one counts.

## Main results

* `Override.ofText?_text`: a written override is read back if its key has no
  equals sign.
* `Setting.ofKey?_key`: the key of a setting names it.
-/

namespace LaneFlow

/-- A value for a key. -/
structure Override where
  key : String
  value : String
deriving Repr, DecidableEq

namespace Override

/-- An override as it is written. -/
def text (o : Override) : String :=
  String.ofList (o.key.toList ++ '=' :: o.value.toList)

/-- The override that a text stands for. -/
def ofText? (s : String) : Option Override :=
  match s.toList.dropWhile (· != '=') with
  | [] => none
  | _ :: value =>
    some ⟨String.ofList (s.toList.takeWhile (· != '=')), String.ofList value⟩

theorem ofText?_text {o : Override} (h : '=' ∉ o.key.toList) :
    ofText? o.text = some o := by
  have hkey : ∀ c ∈ o.key.toList, (c != '=') = true := by
    intro c hc
    simpa using fun he : c = '=' => h (he ▸ hc)
  simp [ofText?, text, List.dropWhile_append_of_pos hkey,
    List.takeWhile_append_of_pos hkey]

end Override

/-- What can be overridden. -/
inductive Setting where
  | flowFactor
  | storageFactor
  | useLanes
  | validation
  | outputFolder
deriving Repr, DecidableEq

namespace Setting

/-- The key of a setting. -/
def key : Setting → String
  | .flowFactor => "simulation.flow_capacity_factor"
  | .storageFactor => "simulation.storage_capacity_factor"
  | .useLanes => "lanes.use_lanes"
  | .validation => "lanes.validation"
  | .outputFolder => "output.output_dir"

/-- The setting of a key. -/
def ofKey? : String → Option Setting
  | "simulation.flow_capacity_factor" => some .flowFactor
  | "simulation.storage_capacity_factor" => some .storageFactor
  | "lanes.use_lanes" => some .useLanes
  | "lanes.validation" => some .validation
  | "output.output_dir" => some .outputFolder
  | _ => none

theorem ofKey?_key (s : Setting) : ofKey? s.key = some s := by
  cases s <;> rfl

end Setting

/-- A setting with its new value. -/
inductive Change (α : Type) where
  | flowFactor (x : α)
  | storageFactor (x : α)
  | useLanes (b : Bool)
  | validation (v : Validation)
  | outputFolder (path : String)
deriving Repr, DecidableEq

/-- The truth that a text stands for. -/
def flagOfText? : String → Option Bool
  | "true" => some true
  | "false" => some false
  | _ => none

/-- The change of a setting to the value that a text stands for. -/
def Setting.change? (s : Setting) (value : String) : Option (Change Float) :=
  match s with
  | .flowFactor => (Decimal.ofText? value).map .flowFactor
  | .storageFactor => (Decimal.ofText? value).map .storageFactor
  | .useLanes => (flagOfText? value).map .useLanes
  | .validation => (Validation.ofName? value).map .validation
  | .outputFolder => some (.outputFolder value)

/-- The configuration after a change. -/
def Config.change {α : Type} [Quantity α] (c : Config α) : Change α → Config α
  | .flowFactor x => c.putSimulation { c.simulation with flow := x }
  | .storageFactor x => c.putSimulation { c.simulation with storage := x }
  | .useLanes b => c.putLaneUse { c.laneUse with use := b }
  | .validation v => c.putLaneUse { c.laneUse with validation := v }
  | .outputFolder path => c.putOutput { c.output with folder := path }

end LaneFlow
