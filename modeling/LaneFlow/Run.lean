import LaneFlow.Capacity.Document
import LaneFlow.Config.Loading
import LaneFlow.Scenario.Loading

/-!
# Runs

A run loads the scenario of a configuration, computes the capacities of its
links, and saves them in the output folder. What goes wrong in one stage ends
the run.

## Main results

* `Run.resultPath_of_fixed`: an output folder that says where it starts is taken
  as it is.
-/

namespace LaneFlow

open LaneFlow.Document

/-- Why a run ends early. -/
inductive RunFault where
  | config (fault : ConfigFault)
  | scenario (fault : LoadFault)
  | lanes (found : List (Finding Float))
  | output (fault : FileFault)
deriving Repr, DecidableEq

/-- What is said about a run that ends early. -/
def RunFault.message : RunFault → String
  | .config fault => fault.message
  | .scenario fault => fault.message
  | .lanes found => CapacityTable.objectionMessage found
  | .output fault => fault.message

/-- What a run computes. -/
structure Run where
  scenario : Scenario
  table : CapacityTable Float
  store : IdStore

namespace Run

/-- The folder of the output. -/
def outputFolder (config : Config Float) : String :=
  Path.resolve config.context config.output.folder

/-- The path of the file for the capacities. -/
def resultPath (config : Config Float) : String :=
  Path.join (outputFolder config) "link_capacities.json"

theorem resultPath_of_fixed {config : Config Float}
    (h : Path.isAbsolute config.output.folder ||
      Path.isExplicit config.output.folder) :
    resultPath config =
      Path.join config.output.folder "link_capacities.json" := by
  rw [resultPath, outputFolder, Path.resolve_of_fixed _ h]

/-- Loads the scenario and computes the capacities. -/
def compute [Codec] (files : Files) (config : Config Float) :
    Logged RunFault Run := do
  let (scenario, store) ←
    (Scenario.load files config {}).mapError RunFault.scenario
  let table ←
    (CapacityTable.report scenario.network scenario.lanes config).mapError
      RunFault.lanes
  return ⟨scenario, table, store⟩

/-- Saves the capacities. -/
def save [Codec] (run : Run) (files : Files) (config : Config Float) :
    Logged RunFault Files :=
  (saveFile run.table.write files (resultPath config)).mapError RunFault.output

/-! ## What is reported in the end -/

/-- The text about one lane. -/
def laneText (c : LaneCapacity Float) : String :=
  c.lane.external ++ " (" ++ Decimal.text c.segment.flow ++ " veh/s, " ++
    Decimal.text c.segment.storage ++ " veh)"

/-- The text about one link with its lanes. -/
def linkText (c : LinkCapacity Float) : String :=
  "Link " ++ c.link.external ++ ": " ++ Decimal.text c.flow ++ " veh/s, " ++
    Decimal.text c.space ++ " veh storage. Lanes: " ++
    String.intercalate ", " (c.lanes.map laneText)

/-- The lines about the links with lanes, and about the whole network. -/
def summary (t : CapacityTable Float) : List LogLine :=
  (t.entries.filter (·.hasLanes)).map (fun c => ⟨.info, linkText c⟩) ++
    [⟨.info, "Total storage capacity of the network: " ++
      Decimal.text t.totalStorage ++ " veh"⟩]

/-- Computes the capacities, reports them and saves them. -/
def complete [Codec] (files : Files) (config : Config Float) :
    Logged RunFault Files := do
  let run ← compute files config
  Logged.reportAll (summary run.table)
  run.save files config

end Run

end LaneFlow
