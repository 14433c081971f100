import LaneFlow.Document.Standard
import LaneFlow.Proofs.Capacity.Tabulation
import LaneFlow.Proofs.Files
import LaneFlow.Run

/-!
# Lanes that are not used

A configuration may switch lanes off.  Then nothing is made of the file that it
names for them: the file is not read, no id is created for what it holds, and
no finding about it stops the computation.  Lanes that are given anyway are not
looked at either.

Two runs are compared.  Their configurations differ in the file that they name
for the lanes (`Config.nameLanes`), and their files in anything but what is read
for the network (`Scenario.SameNetworkFile`).  The file that is named for the
lanes may have other parts to play.  It may be that of the network, and where it
stands no folder can be created for the result (`lane_file_in_the_way`).

## Main results

* `CapacityTable.compute_of_off` — lanes that are given are not looked at.
* `Scenario.load_of_off`, `Run.compute_of_off` — of all files only that of the
  network is read.
* `Run.complete_of_off` — what is saved does not depend on the lane file.
* `lanes_off_irrelevant` — all of this for any configuration without lanes.
* `lane_file_in_the_way` — the parts that a lane file still plays.
-/

namespace LaneFlow

open LaneFlow.Document

/-! ## Configurations that name another lane file -/

namespace Config

variable {α : Type}

/-- The configuration with another name for the file of the lanes, or none. -/
def nameLanes (c : Config α) (name : Option String) : Config α :=
  match c.scenario? with
  | some names => c.put "scenario" (.scenario { names with lanes := name })
  | none => c

theorem scenario?_nameLanes (c : Config α) (name : Option String) :
    (c.nameLanes name).scenario? =
      c.scenario?.map fun names => { names with lanes := name } := by
  unfold nameLanes
  cases h : c.scenario? with
  | none => exact h
  | some names => simp [scenario?, find?_put_self]

theorem find?_nameLanes (c : Config α) (name : Option String) {key : String}
    (h : key ≠ "scenario") : (c.nameLanes name).find? key = c.find? key := by
  unfold nameLanes
  split
  · exact find?_put_other c _ h
  · rfl

@[simp] theorem context_nameLanes (c : Config α) (name : Option String) :
    (c.nameLanes name).context = c.context := by
  unfold nameLanes
  split <;> rfl

@[simp] theorem laneUse_nameLanes (c : Config α) (name : Option String) :
    (c.nameLanes name).laneUse = c.laneUse := by
  rw [laneUse, laneUse, find?_nameLanes c name (by decide)]

@[simp] theorem simulation_nameLanes [Quantity α] (c : Config α)
    (name : Option String) : (c.nameLanes name).simulation = c.simulation := by
  rw [simulation, simulation, find?_nameLanes c name (by decide)]

@[simp] theorem output_nameLanes (c : Config α) (name : Option String) :
    (c.nameLanes name).output = c.output := by
  rw [output, output, find?_nameLanes c name (by decide)]

end Config

/-! ## Computing -/

namespace CapacityTable

variable {α : Type} [Quantity α] {config : Config α}

/-- Lanes that are given are not looked at. -/
theorem compute_of_off (hoff : config.laneUse.use = false) (n : Network α)
    (lanes : Option (LaneRegistry α)) :
    compute n lanes config = compute n none config := by
  have hunused : lanesInUse lanes config = lanesInUse none config := by
    cases lanes <;> simp [lanesInUse, hoff]
  simp only [compute, objections, allocate, hunused]

theorem report_nameLanes (n : Network Float)
    (lanes : Option (LaneRegistry Float)) (config : Config Float)
    (name : Option String) :
    report n lanes (config.nameLanes name) = report n lanes config :=
  report_congr (config.laneUse_nameLanes name) (config.simulation_nameLanes name)
    n lanes

end CapacityTable

/-! ## Loading -/

variable {config : Config Float} {files other : Files}

theorem Document.loadFile_congr [Codec] {ρ : Type} {path : String}
    (h : other.open? path = files.open? path) (form : AnyForm ρ) :
    loadFile form other path = loadFile form files path := by
  have hread : readFile form other path = readFile form files path := by
    unfold readFile
    rw [h]
  unfold loadFile
  rw [hread]

namespace Scenario

/-- Of the files of a network only its own is read. -/
theorem loadNetwork_congr [Codec] {context : Option String} {name : String}
    (h : other.open? (Path.resolve context name) =
      files.open? (Path.resolve context name)) (s : IdStore) :
    loadNetwork other context name s = loadNetwork files context name s := by
  unfold loadNetwork NetworkFile.load
  rw [Document.loadFile_congr h]

/-- Two states of the files in which the network of a configuration reads the
same. -/
def SameNetworkFile (config : Config Float) (files other : Files) : Prop :=
  ∀ names, config.scenario? = some names →
    other.open? (Path.resolve config.context names.network) =
      files.open? (Path.resolve config.context names.network)

/-- A network that is read from another file reads the same. -/
theorem sameNetworkFile_of_sameElsewhere {at_ : Spot}
    (h : files.SameElsewhere at_ other)
    (hspot : ∀ names ∈ config.scenario?,
      files.spot? (Path.resolve config.context names.network) ≠ some at_) :
    SameNetworkFile config files other :=
  fun names hnames => (h.open?_eq (hspot names hnames)).symm

/-- Without lanes only the file of the network is read. -/
theorem load_of_off [Codec] (hoff : config.laneUse.use = false)
    (hsame : SameNetworkFile config files other) (name : Option String)
    (s : IdStore) :
    load other (config.nameLanes name) s = load files config s := by
  have hunread : ∀ lanes : Option String,
      (lanes.filter fun _ => config.laneUse.use) = none := by
    intro lanes
    rw [hoff]
    cases lanes <;> rfl
  unfold load
  rw [Config.scenario?_nameLanes]
  cases hnames : config.scenario? with
  | none => rfl
  | some names =>
      have hnetwork := loadNetwork_congr (hsame names hnames) s
      simp only [Option.map_some, Config.context_nameLanes,
        Config.laneUse_nameLanes, hunread, hnetwork]

end Scenario

/-! ## Running -/

namespace Run

theorem compute_of_off [Codec] (hoff : config.laneUse.use = false)
    (hsame : Scenario.SameNetworkFile config files other)
    (name : Option String) :
    compute other (config.nameLanes name) = compute files config := by
  unfold compute
  rw [Scenario.load_of_off hoff hsame name]
  simp only [CapacityTable.report_nameLanes]

@[simp] theorem resultPath_nameLanes (config : Config Float)
    (name : Option String) :
    resultPath (config.nameLanes name) = resultPath config := by
  unfold resultPath outputFolder
  rw [Config.context_nameLanes, Config.output_nameLanes]

@[simp] theorem save_nameLanes [Codec] (run : Run) (files : Files)
    (config : Config Float) (name : Option String) :
    run.save files (config.nameLanes name) = run.save files config := by
  unfold save
  rw [resultPath_nameLanes]

/-- Nothing depends on which file is named for the lanes. -/
theorem complete_nameLanes [Codec] (hoff : config.laneUse.use = false)
    (files : Files) (name : Option String) :
    complete files (config.nameLanes name) = complete files config := by
  have hsame : Scenario.SameNetworkFile config files files := fun _ _ => rfl
  simp only [complete, compute_of_off hoff hsame name, save_nameLanes]

/-- Two runs that end the same: with the same fault, or with the same document
at the path of the result, and with files that agree except at one spot. -/
inductive SameEnd (at_ : Spot) (path : String) :
    Except RunFault Files → Except RunFault Files → Prop where
  | failed (fault : RunFault) : SameEnd at_ path (.error fault) (.error fault)
  | saved {f g : Files} (document : List UInt8) (hsame : f.SameElsewhere at_ g)
      (hf : f.open? path = some ⟨document, true⟩)
      (hg : g.open? path = some ⟨document, true⟩) :
      SameEnd at_ path (.ok f) (.ok g)

variable {at_ : Spot}

/-- A run is saved in the same way next to another lane file. -/
theorem save_sameElsewhere [Codec] (hfiles : files.SameElsewhere at_ other)
    (hway : at_ ∉ Files.foldersFor (resultPath config)) (run : Run) :
    (run.save other config).lines = (run.save files config).lines ∧
      SameEnd at_ (resultPath config) (run.save files config).outcome
        (run.save other config).outcome := by
  have hsaved := hfiles.save? hway (Codec.writeJson run.table.write)
  generalize hf : files.save? _ _ = f, hg : other.save? _ _ = g at hsaved
  simp only [save, saveFile, hf, hg]
  cases hsaved with
  | none => exact ⟨rfl, .failed _⟩
  | some hsame =>
      exact ⟨rfl, .saved _ hsame (Files.open?_save? hf) (Files.open?_save? hg)⟩

/-- Whether there is a lane file and what it holds does not matter to a run. -/
theorem complete_of_off [Codec] (hoff : config.laneUse.use = false)
    (hnetwork : Scenario.SameNetworkFile config files other)
    (hfiles : files.SameElsewhere at_ other)
    (hway : at_ ∉ Files.foldersFor (resultPath config)) (name : Option String) :
    (complete other (config.nameLanes name)).lines =
        (complete files config).lines ∧
      SameEnd at_ (resultPath config) (complete files config).outcome
        (complete other (config.nameLanes name)).outcome := by
  simp only [complete, compute_of_off hoff hnetwork name, save_nameLanes]
  obtain ⟨lines, fault | run⟩ := compute files config
  · exact ⟨rfl, .failed fault⟩
  · obtain ⟨hlines, hend⟩ := save_sameElsewhere hfiles hway run
    simp only [Logged.reportAll, Logged.lines_bind_ok, Logged.outcome_bind_ok,
      hlines, true_and]
    exact hend

end Run

/-- **Lanes that are not used make no difference.**  Let a configuration not
use lanes, whatever its validation mode.  Then tables are computed as if no
lanes were given, and a run is the same whichever file is named for the lanes,
or none.  In two states of the files in which that of the network reads the
same, the same is loaded and computed, with the same fault if there is one, and
saved in the same way.  So on two disks that differ in the lane file the run
ends the same, unless that file stands where the result needs a folder. -/
theorem lanes_off_irrelevant [Codec] {config : Config Float}
    (hoff : config.laneUse.use = false) :
    (∀ n lanes, CapacityTable.compute n lanes config =
      CapacityTable.compute n none config) ∧
    (∀ files name, Run.complete files (config.nameLanes name) =
      Run.complete files config) ∧
    ∀ files other name, Scenario.SameNetworkFile config files other →
      (∀ s, Scenario.load other (config.nameLanes name) s =
        Scenario.load files config s) ∧
      Run.compute other (config.nameLanes name) = Run.compute files config ∧
      (∀ (run : Run) disk, run.save disk (config.nameLanes name) =
        run.save disk config) ∧
      ∀ at_, files.SameElsewhere at_ other →
        at_ ∉ Files.foldersFor (Run.resultPath config) →
        (Run.complete other (config.nameLanes name)).lines =
          (Run.complete files config).lines ∧
        Run.SameEnd at_ (Run.resultPath config)
          (Run.complete files config).outcome
          (Run.complete other (config.nameLanes name)).outcome := by
  refine ⟨CapacityTable.compute_of_off hoff, Run.complete_nameLanes hoff, ?_⟩
  intro files other name hnetwork
  refine ⟨Scenario.load_of_off hoff hnetwork name,
    Run.compute_of_off hoff hnetwork name,
    fun run disk => run.save_nameLanes disk config name, ?_⟩
  intro at_ hfiles hway
  exact Run.complete_of_off hoff hnetwork hfiles hway name

/-! ## A strict check that is not made -/

/-- A network of one road. -/
def roadFile : String :=
  "\x7b\"nodes\": [\x7b\"id\": \"a\", \"x\": 0, \"y\": 0\x7d, " ++
    "\x7b\"id\": \"b\", \"x\": 100, \"y\": 0\x7d], " ++
    "\"links\": [\x7b\"id\": \"ab\", \"from\": \"a\", \"to\": \"b\", " ++
    "\"length\": 75, \"capacity\": 3600, \"freespeed\": 10, " ++
    "\"permlanes\": 2\x7d]\x7d"

/-- The file of that network. -/
def roadFiles : Files where
  files := [(["net.json"], Utf8.encode roadFile)]

/-- Lanes that have to fit their links. -/
def strictScenario (lanes : String) : Config Float where
  modules :=
    [("scenario", .scenario { network := "net.json", lanes := some lanes }),
      ("lanes", .lanes { validation := .strict }),
      ("output", .output { folder := "out" })]

/-- The same configuration with lanes switched off. -/
def laxScenario (lanes : String) : Config Float :=
  (strictScenario lanes).change (.useLanes false)

/-- The files with a lane file that nobody can read. -/
def strayFiles : Files := roadFiles.put ["lanes.xml"] [60, 47, 62]

/-- Flow and storage of the links that a run has computed. -/
def Run.capacities? (run : Logged RunFault Run) :
    Option (List (Float × Float)) :=
  run.outcome.toOption.map fun run =>
    run.table.entries.map fun c => (c.flow, c.space)

/-- Once lanes are switched off, a lane file of an unknown format ends a run no
other than if it were missing and no file were named. The capacities of the road
are computed and saved all the same. -/
theorem lanes_off_irrelevant_strict :
    (laxScenario "lanes.xml").laneUse = ⟨false, .strict⟩ ∧
    Run.capacities? (Run.compute roadFiles (laxScenario "lanes.xml")) =
      some [(1.0, 20.0)] ∧
    Run.compute strayFiles ((laxScenario "lanes.xml").nameLanes none) =
      Run.compute roadFiles (laxScenario "lanes.xml") ∧
    (Run.complete roadFiles (laxScenario "lanes.xml")).outcome.isOk = true ∧
    Run.SameEnd ["lanes.xml"] "out/link_capacities.json"
      (Run.complete roadFiles (laxScenario "lanes.xml")).outcome
      (Run.complete strayFiles
        ((laxScenario "lanes.xml").nameLanes none)).outcome := by
  have huse : (laxScenario "lanes.xml").laneUse = ⟨false, .strict⟩ := rfl
  have hfiles : roadFiles.SameElsewhere ["lanes.xml"] strayFiles :=
    Files.sameElsewhere_put (by decide +kernel) _
  have hnetwork :
      Scenario.SameNetworkFile (laxScenario "lanes.xml") roadFiles strayFiles :=
    Scenario.sameNetworkFile_of_sameElsewhere hfiles (by decide +kernel)
  have hpath :
      Run.resultPath (laxScenario "lanes.xml") =
        "out/link_capacities.json" := by
    decide +kernel
  obtain ⟨-, -, hrun⟩ := lanes_off_irrelevant (by rw [huse])
  obtain ⟨-, hcompute, -, hend⟩ := hrun _ _ none hnetwork
  have hsaved := hend _ hfiles (by rw [hpath]; decide +kernel)
  rw [hpath] at hsaved
  exact ⟨huse, by decide +kernel, hcompute, by decide +kernel, hsaved.2⟩

/-- What a lane file is besides lanes still counts. It may stand where the
folder of the result has to be, and it may be the file of the network. -/
theorem lane_file_in_the_way :
    (laxScenario "out").laneUse = ⟨false, .strict⟩ ∧
    (Run.complete roadFiles (laxScenario "out")).outcome.isOk = true ∧
    (Run.complete (roadFiles.put ["out"] []) (laxScenario "out")).outcome =
      .error (.output (.cannotWrite "out/link_capacities.json")) ∧
    (laxScenario "net.json").laneUse = ⟨false, .strict⟩ ∧
    (Run.complete roadFiles (laxScenario "net.json")).outcome.isOk = true ∧
    (Run.complete (roadFiles.put ["net.json"] [])
        (laxScenario "net.json")).outcome =
      .error (.scenario (.file (.cannotRead "net.json" []))) := by
  refine ⟨rfl, ?_, ?_, rfl, ?_, ?_⟩ <;> decide +kernel

end LaneFlow
