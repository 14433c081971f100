import LaneFlow.Program

/-!
# The command line program

Fetches the files that a run may read, runs the program on them, prints its
lines, and puts the files that have changed in their places.
-/

namespace LaneFlow.Console

/-- What is printed for help. -/
def usage : String :=
  "Computes flow and storage capacities of all links and their lanes.\n\n" ++
    "Usage: lane_flow --config <CONFIG> [--set <KEY=VALUE>]...\n\n" ++
    "Options:\n" ++
    "  -c, --config <CONFIG>\n" ++
    "      --set <KEY=VALUE>\n" ++
    "  -h, --help     Print help\n" ++
    "  -V, --version  Print version"

/-- What is said about a command line that cannot be run. -/
def stopText : Stop → String
  | .help => usage
  | .version => "lane_flow 0.1.0"
  | .unknownArgument => "error: unexpected argument found"
  | .missingValue =>
    "error: a value is required for an option but none was supplied"
  | .badValue => "error: invalid KEY=VALUE: no \x60=\x60 found"
  | .repeated => "error: an option cannot be used multiple times"
  | .excessValue => "error: unexpected value for an option"
  | .missingConfig => "error: the option --config is required"

/-- The bytes of the file at a path, if there is one. -/
def fetchBytes (path : String) : IO (Option (List UInt8)) := do
  try
    let bytes ← IO.FS.readBinFile path
    return some bytes.toList
  catch _ => return none

/-- The files with those at a path, if there are any. -/
def fetch (files : Files) (path : String) : IO Files := do
  match ← fetchBytes path with
  | some bytes => return (files.save? path bytes).getD files
  | none => return files

/-- The files that a run of a command line may read. -/
def fetchAll (line : CommandLine) : IO Files := do
  let files ← fetch {} line.config
  match (Config.load files line.config line.overrides).outcome with
  | .error _ => return files
  | .ok config =>
    let files ← fetch files (Program.logPath config)
    match config.scenario? with
    | none => return files
    | some names =>
      let files ← fetch files (Path.resolve config.context names.network)
      match names.lanes with
      | none => return files
      | some lanes => fetch files (Path.resolve config.context lanes)

/-- Puts a file that has changed in its place. -/
def putFile (spot : Spot) (bytes : List UInt8) : IO Unit := do
  match Path.parent? spot.path with
  | some "" => pure ()
  | some folder => IO.FS.createDirAll folder
  | none => pure ()
  IO.FS.writeBinFile spot.path ⟨bytes.toArray⟩

/-- Says how the program ended. -/
def printEnding : Ending → IO Unit
  | .done => pure ()
  | .stopped .help => IO.println (stopText .help)
  | .stopped .version => IO.println (stopText .version)
  | .stopped reason => IO.eprintln (stopText reason)
  | .failed fault => IO.eprintln ("Error: " ++ fault.message)
  | .noLog => IO.eprintln "Error: the log file cannot be opened"

/-- Runs the program on the files of the file system. -/
def run (args : List String) : IO UInt32 := do
  let files ← match CommandLine.read args with
    | .ok line => fetchAll line
    | .error _ => pure {}
  let program := Program.execute args files
  for line in program.lines do
    IO.println (line.level.name ++ " " ++ line.text)
  for file in program.files.files do
    if files.file? file.1 != some file.2 then putFile file.1 file.2
  printEnding program.ending
  return UInt32.ofNat program.ending.code

end LaneFlow.Console

def main (args : List String) : IO UInt32 := LaneFlow.Console.run args
