import LaneFlow.CommandLine
import LaneFlow.Document.Standard
import LaneFlow.Run

/-!
# The program

The program is a function of its arguments and the files that it finds: it tells
how it ends, which lines it prints, and which files there are then. Lines that
matter little are not printed. If the configuration asks for it, the lines after
the loading of the configuration also go to a file, as one document each. Files
are read and written with any codec, and with the standard one if none is named.

## Main results

* `Program.execute_of_stop`: a command line that cannot be run leaves all files
  as they are.
-/

namespace LaneFlow

open LaneFlow.Document

/-- How the program ends. -/
inductive Ending where
  | done
  | stopped (reason : Stop)
  | failed (fault : RunFault)
  /-- The file for the log cannot be opened. -/
  | noLog
deriving Repr, DecidableEq

namespace Ending

/-- The code of an ending without an answer. -/
def crashCode : Nat := 101

/-- The code that the program ends with. What a scenario does not take in counts
as a crash. -/
def code : Ending → Nat
  | .done => 0
  | .stopped .help => 0
  | .stopped .version => 0
  | .stopped _ => 2
  | .failed (.scenario (.contents (.refused _))) => crashCode
  | .failed _ => 1
  | .noLog => crashCode

end Ending

/-- What the program does. -/
structure Program where
  ending : Ending
  lines : List LogLine := []
  files : Files

namespace Program

/-- Whether a line is printed. -/
def isShown (line : LogLine) : Bool := line.level != .debug

/-- A line as a document. -/
def lineDocument (line : LogLine) : Document.Tree (Value Float) :=
  .ofFields
    [("level", .ofText line.level.name),
     ("fields", .ofFields [("message", .ofText line.text)])]

/-- Lines as they stand in a file. -/
def logText [Codec] (lines : List LogLine) : List UInt8 :=
  lines.flatMap fun line =>
    Codec.writeJsonLine (lineDocument line) ++ Utf8.encode "\n"

/-- The path of the file for the log. -/
def logPath (config : Config Float) : String :=
  Path.join (Run.outputFolder config) "log.json"

/-- The files after some lines have been written to the end of the log. -/
def appendLog? [Codec] (config : Config Float) (files : Files)
    (lines : List LogLine) : Option Files :=
  match config.output.logging with
  | .off => some files
  | .info =>
    let path := logPath config
    let earlier := (files.open? path).elim [] (·.bytes)
    files.save? path (earlier ++ logText lines)

/-- Runs a configuration, after some lines. -/
def runConfig [Codec] (config : Config Float) (earlier : List LogLine)
    (files : Files) : Program :=
  match appendLog? config files [] with
  | none => ⟨.noLog, earlier, files⟩
  | some files =>
    let run := Run.complete files config
    let lines := run.lines.filter isShown
    let (ending, files) := match run.outcome with
      | .ok files => (Ending.done, files)
      | .error fault => (.failed fault, files)
    ⟨ending, earlier ++ lines, (appendLog? config files lines).getD files⟩

/-- Runs a command line. -/
def runLine [Codec] (line : CommandLine) (files : Files) : Program :=
  let loaded := Config.load files line.config line.overrides
  let lines :=
    ⟨.info, "Started with args: " ++ line.text⟩ :: loaded.lines.filter isShown
  match loaded.outcome with
  | .ok config => runConfig config lines files
  | .error fault => ⟨.failed (.config fault), lines, files⟩

/-- Runs the program. -/
def execute [Codec] (args : List String) (files : Files) : Program :=
  match CommandLine.read args with
  | .ok line => runLine line files
  | .error reason => { ending := .stopped reason, files }

/-- A command line that cannot be run leaves all files as they are. -/
theorem execute_of_stop [Codec] {args : List String} {reason : Stop}
    (h : CommandLine.read args = .error reason) (files : Files) :
    (execute args files).files = files := by
  simp [execute, h]

end Program

end LaneFlow
