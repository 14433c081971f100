import LaneFlow.Program
import LaneFlow.Proofs.Capacity.Tabulation
import LaneFlow.Proofs.Path

/-!
# All files of a configuration in one folder

The paths in a configuration are taken from the folder of the configuration,
except those that say themselves where they start.  So a configuration and its
files can be kept in one folder, and be named from anywhere.

A path that has been resolved is again a text, and may come back in a place
where paths are resolved.  If the path of the configuration is absolute,
explicit or a bare name, then it stays what it is: a configuration in which all
paths are put in resolved (`Config.resolvePaths`) runs the same.

## Main results

* `Scenario.load_resolvePaths`, `Run.complete_resolvePaths` — the same is loaded
  and saved.
* `Config.runs_from_one_folder` — a configuration with resolved paths runs the
  same.
* `paths_from_one_folder` — where the paths of any configuration lead.
-/

namespace LaneFlow

open LaneFlow.Document

/-! ## Configurations with resolved paths -/

/-- The files of a scenario with the paths at which they are looked for. -/
def ScenarioFiles.resolve (names : ScenarioFiles) (context : Option String) :
    ScenarioFiles :=
  ⟨Path.resolve context names.network, names.lanes.map (Path.resolve context)⟩

namespace Config

variable {α : Type}

/-- The configuration with a scenario whose paths are resolved. -/
def resolveScenario (c : Config α) : Config α :=
  match c.scenario? with
  | some names => c.put "scenario" (.scenario (names.resolve c.context))
  | none => c

/-- The configuration with all its paths resolved. -/
def resolvePaths (c : Config α) : Config α :=
  c.resolveScenario.putOutput
    { c.output with folder := Path.resolve c.context c.output.folder }

theorem find?_resolveScenario (c : Config α) {key : String}
    (h : key ≠ "scenario") :
    c.resolveScenario.find? key = c.find? key := by
  unfold resolveScenario
  split
  · exact find?_put_other c _ h
  · rfl

theorem find?_resolvePaths (c : Config α) {key : String}
    (hscenario : key ≠ "scenario")
    (houtput : key ≠ "output") : c.resolvePaths.find? key = c.find? key :=
  (find?_put_other _ _ houtput).trans (c.find?_resolveScenario hscenario)

theorem scenario?_resolvePaths (c : Config α) :
    c.resolvePaths.scenario? = c.scenario?.map (·.resolve c.context) := by
  have hfind :
      c.resolvePaths.find? "scenario" = c.resolveScenario.find? "scenario" :=
    find?_put_other _ _ (by decide)
  rw [scenario?, hfind]
  change c.resolveScenario.scenario? = _
  unfold resolveScenario
  cases h : c.scenario? with
  | none => exact h
  | some names => simp [scenario?, find?_put_self]

@[simp] theorem context_resolvePaths (c : Config α) :
    c.resolvePaths.context = c.context := by
  change c.resolveScenario.context = c.context
  unfold resolveScenario
  split <;> rfl

@[simp] theorem laneUse_resolvePaths (c : Config α) :
    c.resolvePaths.laneUse = c.laneUse := by
  rw [laneUse, laneUse, c.find?_resolvePaths (by decide) (by decide)]

@[simp] theorem simulation_resolvePaths [Quantity α] (c : Config α) :
    c.resolvePaths.simulation = c.simulation := by
  rw [simulation, simulation, c.find?_resolvePaths (by decide) (by decide)]

@[simp] theorem output_resolvePaths (c : Config α) :
    c.resolvePaths.output =
      { c.output with folder := Path.resolve c.context c.output.folder } :=
  output_putOutput _ _

end Config

/-! ## Running them -/

section Anchored

variable {config : Config Float} (h : Path.Anchored config.context)
include h

/-- The same files are loaded. -/
theorem Scenario.load_resolvePaths [Codec] (files : Files) (s : IdStore) :
    load files config.resolvePaths s = load files config s := by
  have hresolve := Path.resolve_resolve_of_anchored h
  have hnetwork : ∀ name, loadNetwork files config.context
      (Path.resolve config.context name) s =
        loadNetwork files config.context name s := by
    intro name
    unfold loadNetwork
    rw [hresolve name]
  have hlanes : ∀ name, loadLanes files config.context
      (Path.resolve config.context name) =
        loadLanes files config.context name := by
    intro name
    unfold loadLanes
    rw [hresolve name]
  unfold load
  rw [Config.scenario?_resolvePaths]
  cases config.scenario? with
  | none => rfl
  | some names =>
      simp only [Option.map_some, ScenarioFiles.resolve, hnetwork,
        Config.context_resolvePaths, Config.laneUse_resolvePaths]
      obtain ⟨network, _ | lanes⟩ := names
      · rfl
      · cases config.laneUse.use with
        | false => rfl
        | true => simp only [Option.map_some, Option.filter_some_pos, hlanes]

theorem Run.outputFolder_resolvePaths :
    outputFolder config.resolvePaths = outputFolder config := by
  rw [outputFolder, Config.output_resolvePaths, Config.context_resolvePaths,
    Path.resolve_resolve_of_anchored h, outputFolder]

/-- The same is computed, reported and saved. -/
theorem Run.complete_resolvePaths [Codec] (files : Files) :
    complete files config.resolvePaths = complete files config := by
  have hreport := CapacityTable.report_congr config.laneUse_resolvePaths
    config.simulation_resolvePaths
  simp only [complete, compute, save, resultPath, Scenario.load_resolvePaths h,
    hreport, Run.outputFolder_resolvePaths h]

/-- The whole run is the same, with its log. -/
theorem Program.runConfig_resolvePaths [Codec] (earlier : List LogLine)
    (files : Files) :
    runConfig config.resolvePaths earlier files =
      runConfig config earlier files := by
  have hlog : ∀ files lines, appendLog? config.resolvePaths files lines =
      appendLog? config files lines := by
    intro files lines
    simp only [appendLog?, logPath, Config.output_resolvePaths,
      Run.outputFolder_resolvePaths h]
  simp only [runConfig, hlog, Run.complete_resolvePaths h]

end Anchored

/-- If the path of a configuration is absolute, explicit or a bare name, then
the configuration runs the same with all its paths resolved. -/
theorem Config.runs_from_one_folder [Codec] {c : Config Float}
    (h : ∀ path ∈ c.context,
      Path.isAbsolute path ∨ Path.isExplicit path ∨ '/' ∉ path.toList)
    (earlier : List LogLine) (files : Files) :
    Program.runConfig c.resolvePaths earlier files =
      Program.runConfig c earlier files :=
  Program.runConfig_resolvePaths (Path.anchored_of_forms h) earlier files

/-! ## Where the paths lead -/

/-- **The paths of a configuration lead to one folder.**  A path that says
itself where it starts is taken as it is, and so is every path if the
configuration has no path or its path has no folder.  Any other path continues
the way to that folder, which is the path of the configuration without its last
component.  If the configuration's path is absolute, explicit or a bare name,
then a path that is resolved again stays what it is and still leads there. -/
theorem paths_from_one_folder (context : Option String) :
    (∀ file, Path.IsFixed file → Path.resolve context file = file) ∧
    (context.bind Path.parent? = none →
      ∀ file, Path.resolve context file = file) ∧
    (∀ folder, context.bind Path.parent? = some folder →
      Path.components folder = Path.folderOf context ∧
      ∀ file, ¬ Path.IsFixed file →
        Path.components (Path.resolve context file) =
          Path.components folder ++ Path.components file) ∧
    ((∀ path ∈ context,
        Path.isAbsolute path ∨ Path.isExplicit path ∨ '/' ∉ path.toList) →
      (∀ file, Path.resolve context (Path.resolve context file) =
        Path.resolve context file) ∧
      ∀ file, ¬ Path.IsFixed file →
        Path.components (Path.resolve context (Path.resolve context file)) =
          Path.folderOf context ++ Path.components file) := by
  refine ⟨fun _ => Path.resolve_of_isFixed context, Path.resolve_of_folderless,
    ?_, ?_⟩
  · intro folder hfolder
    have hway := Path.components_eq_folderOf hfolder
    refine ⟨hway, fun file hfile => ?_⟩
    rw [Path.components_resolve context hfile, hway]
  · intro hforms
    have htwice :=
      Path.resolve_resolve_of_anchored (Path.anchored_of_forms hforms)
    refine ⟨htwice, fun file hfile => ?_⟩
    rw [htwice, Path.components_resolve context hfile]

/-- A configuration that is reached up and down from where one is. -/
def windingConfig : Config Float where
  modules :=
    [("scenario", .scenario
      { network := "data/.//net.yml/", lanes := some "/lanes.yml" })]
  context := some "./in/../city//plan.yml"

/-- The network is looked for next to the configuration, also if its path is
resolved twice, and the lanes where they are said to be.  A configuration at the
root has no folder. -/
theorem paths_from_one_folder_winding :
    Path.IsFixed "/lanes.yml" ∧
    Path.resolve windingConfig.context "/lanes.yml" = "/lanes.yml" ∧
    (some "/").bind Path.parent? = none ∧
    Path.resolve (some "/") "net.yml" = "net.yml" ∧
    windingConfig.context.bind Path.parent? = some "./in/../city" ∧
    ¬ Path.IsFixed "data/.//net.yml/" ∧
    Path.components (Path.resolve windingConfig.context "data/.//net.yml/") =
      [.here, .name ['i', 'n'], .up, .name ['c', 'i', 't', 'y'],
        .name ['d', 'a', 't', 'a'], .name ['n', 'e', 't', '.', 'y', 'm', 'l']] ∧
    Path.isExplicit "./in/../city//plan.yml" ∧
    Path.resolve windingConfig.context
        (Path.resolve windingConfig.context "data/.//net.yml/") =
      Path.resolve windingConfig.context "data/.//net.yml/" := by
  have hlanes : Path.IsFixed "/lanes.yml" := by decide +kernel
  have hroot : (some "/").bind Path.parent? = none := by decide +kernel
  have hfolder :
      windingConfig.context.bind Path.parent? = some "./in/../city" := by
    decide +kernel
  have hnetwork : ¬ Path.IsFixed "data/.//net.yml/" := by decide +kernel
  have hexplicit : Path.isExplicit "./in/../city//plan.yml" := by decide +kernel
  obtain ⟨hfixed, -, hway, hagain⟩ :=
    paths_from_one_folder windingConfig.context
  have hforms : ∀ path ∈ windingConfig.context,
      Path.isAbsolute path ∨ Path.isExplicit path ∨ '/' ∉ path.toList := by
    rintro path ⟨⟩
    exact .inr (.inl hexplicit)
  obtain ⟨htwice, -⟩ := hagain hforms
  refine ⟨hlanes, hfixed _ hlanes, hroot,
    (paths_from_one_folder (some "/")).2.1 hroot _, hfolder, hnetwork, ?_,
    hexplicit, htwice _⟩
  rw [(hway _ hfolder).2 _ hnetwork]
  decide +kernel

end LaneFlow
