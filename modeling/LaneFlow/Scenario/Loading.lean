import LaneFlow.Config.Basic
import LaneFlow.Document.File
import LaneFlow.Scenario.LaneDocument
import LaneFlow.Scenario.NetworkDocument

/-!
# Loading a scenario

A scenario is a network and, if the configuration has lanes and uses them, the
lanes of its links. Its files are looked for from the folder of the
configuration.

## Main results

* `Scenario.load_of_missing`: without files there is no scenario.
-/

namespace LaneFlow

open LaneFlow.Document

/-- A network, and its lanes if they are used. -/
structure Scenario where
  network : Network Float
  lanes : Option (LaneRegistry Float)

/-- Why a scenario cannot be loaded. -/
inductive LoadFault where
  | notConfigured
  | file (fault : FileFault)
  | contents (fault : ScenarioFault)
deriving Repr, DecidableEq

/-- What is said about a scenario that cannot be loaded. -/
def LoadFault.message : LoadFault → String
  | .notConfigured =>
    "the config has no scenario module, so there is no network to load"
  | .file fault => fault.message
  | .contents fault => fault.message

/-- Loads the network file at a path. -/
def NetworkFile.load [Codec] (files : Files) (path : String) :
    Logged FileFault (NetworkFile Float) := do
  let f ← loadFile (fun _ => form) files path
  Logged.report .info ("IONetwork:: Finished reading network. " ++
    s!"It contains {f.nodes.length} nodes and {f.links.length} links.")
  return f

/-- Loads the lane file at a path. -/
def LaneFile.load [Codec] (files : Files) (path : String) :
    Logged FileFault (LaneFile Float) := do
  let f ← loadFile (fun _ => form) files path
  Logged.report .info ("IOLanes:: Finished reading lanes. " ++
    s!"They contain {f.laneCount} lanes on {f.assignments.length} links.")
  return f

namespace Scenario

/-- Loads the network of a scenario. -/
def loadNetwork [Codec] (files : Files) (context : Option String)
    (name : String) (s : IdStore) :
    Logged LoadFault (Network Float × IdStore) := do
  let f ←
    (NetworkFile.load files (Path.resolve context name)).mapError LoadFault.file
  Logged.ofExcept ((f.toNetwork s).mapError LoadFault.contents)

/-- Loads the lanes of a scenario. -/
def loadLanes [Codec] (files : Files) (context : Option String)
    (name : String) (n : Network Float) (s : IdStore) :
    Logged LoadFault (LaneRegistry Float × IdStore) := do
  let f ←
    (LaneFile.load files (Path.resolve context name)).mapError LoadFault.file
  Logged.ofExcept ((f.toLanes n s).mapError LoadFault.contents)

/-- The line about a scenario that was loaded. -/
def loadedText (sc : Scenario) : String :=
  let links := (sc.lanes.map (·.size)).getD 0
  s!"Loaded scenario with {sc.network.nodes.length} nodes, " ++
    s!"{sc.network.links.length} links and lanes on {links} links."

/-- Loads the scenario of a configuration. -/
def load [Codec] (files : Files) (config : Config Float) (s : IdStore) :
    Logged LoadFault (Scenario × IdStore) :=
  match config.scenario? with
  | none => Logged.fail .notConfigured
  | some names => do
    let (network, s) ← loadNetwork files config.context names.network s
    let (lanes, s) ← match names.lanes.filter fun _ => config.laneUse.use with
      | none => pure (none, s)
      | some name => do
        let (lanes, s) ← loadLanes files config.context name network s
        pure (some lanes, s)
    let sc : Scenario := ⟨network, lanes⟩
    Logged.report .info sc.loadedText
    return (sc, s)

theorem load_of_missing [Codec] {files : Files} {config : Config Float}
    (h : config.scenario? = none) (s : IdStore) :
    load files config s = Logged.fail .notConfigured := by
  simp [load, h]

end Scenario

end LaneFlow
