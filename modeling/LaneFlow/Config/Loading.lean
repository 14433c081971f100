import LaneFlow.Config.Document
import LaneFlow.Config.Override

/-!
# Loading a configuration

A configuration is a document of YAML, whatever the name of its file. It
remembers the path of the file. Overrides are made after it has been read. One
with an unknown key is reported and changes nothing; one whose value cannot be
read ends the loading.

## Main results

* `Config.override_unknown`: an unknown key changes nothing.
-/

namespace LaneFlow

open LaneFlow.Document

/-- Why a configuration cannot be loaded. -/
inductive ConfigFault where
  | cannotOpen (path : String)
  | cannotRead (path : String)
  | badValue (o : Override)
deriving Repr, DecidableEq

/-- What is said about a configuration that cannot be loaded. -/
def ConfigFault.message : ConfigFault → String
  | .cannotOpen path => s!"failed to open config file at {Text.quotedPath path}"
  | .cannotRead path => s!"failed to parse config at {Text.quotedPath path}"
  | .badValue o => s!"invalid value '{o.value}' for config key '{o.key}'"

namespace Config

/-- The configuration in the file at a path. -/
def readFile [Codec] (files : Files) (path : String) :
    Except ConfigFault (Config Float) :=
  match files.open? path with
  | none => .error (.cannotOpen path)
  | some file => match readYaml form file with
    | .ok c => .ok { c with context := some path }
    | .error _ => .error (.cannotRead path)

/-- Loads the configuration at a path. -/
def loadFile [Codec] (files : Files) (path : String) :
    Logged ConfigFault (Config Float) := do
  let c ← Logged.ofExcept (readFile files path)
  Logged.report .info s!"Loaded config from {Text.quotedPath path}"
  return c

/-- Makes an override. -/
def override (c : Config Float) (o : Override) :
    Logged ConfigFault (Config Float) :=
  match Setting.ofKey? o.key with
  | none => do
    Logged.report .warn s!"No override handler found for key: {o.key}"
    return c
  | some setting => match setting.change? o.value with
    | some change => return c.change change
    | none => Logged.fail (.badValue o)

/-- An unknown key changes nothing. -/
theorem override_unknown {o : Override} (h : Setting.ofKey? o.key = none)
    (c : Config Float) : (c.override o).outcome = .ok c := by
  simp only [override, h]
  rfl

/-- Makes overrides one after the other. -/
def overrideAll (c : Config Float) :
    List Override → Logged ConfigFault (Config Float)
  | [] => return c
  | o :: rest => do overrideAll (← c.override o) rest

/-- Reports some overrides and makes them. -/
def reportOverrides (c : Config Float) (os : List Override) :
    Logged ConfigFault (Config Float) := do
  if !os.isEmpty then
    let pairs := Text.quotedPairs (os.map fun o => (o.key, o.value))
    Logged.report .info s!"Applying overrides: {pairs}"
  c.overrideAll os

/-- Loads the configuration at a path and overrides it. -/
def load [Codec] (files : Files) (path : String) (os : List Override) :
    Logged ConfigFault (Config Float) := do
  (← loadFile files path).reportOverrides os

end Config

end LaneFlow
