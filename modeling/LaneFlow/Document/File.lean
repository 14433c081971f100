import LaneFlow.Document.Codec
import LaneFlow.Document.Form
import LaneFlow.Files
import LaneFlow.Log
import LaneFlow.Text.Quoted

/-!
# Documents in files

The name of a file tells the format of the document in it and whether it is
compressed. What the bytes say is a matter of the codec. A document in JSON ends
where it ends, whatever follows. A document in YAML must be all that is in its
file, so the whole file is read before anything is made of it.

Documents are written in JSON.

## Main results

* `Format.ofPath?_compressed`: compression is told by the end of a name, the
  format by what is before.
-/

namespace LaneFlow.Document

/-- The format of a document in a file. -/
inductive Format where
  | json
  | yaml
deriving Repr, DecidableEq

/-- What goes wrong with a file. -/
inductive FileFault where
  | unsupported (path : String)
  | cannotOpen (path : String)
  | cannotRead (path : String) (location : Location)
  | cannotWrite (path : String)
deriving Repr, DecidableEq

/-- What is said about a file. -/
def FileFault.message : FileFault → String
  | .unsupported path =>
    s!"unsupported file format of {Text.quotedPath path}. " ++
      "Expected .yml, .yaml or .json, optionally .gz"
  | .cannotOpen path => s!"could not open {Text.quotedPath path}"
  | .cannotRead path location =>
    let place := (Location.text? location).getD "?"
    s!"could not parse {Text.quotedPath path} at '{place}'"
  | .cannotWrite path => s!"could not write {Text.quotedPath path}"

/-- A text without an ending that it may have. -/
def dropEnding? (name ending : List Char) : Option (List Char) :=
  if ending.isSuffixOf name then some (name.take (name.length - ending.length))
  else none

/-- The format that the end of a name tells. -/
def Format.ofName? (name : List Char) : Option Format :=
  if ".yml".toList.isSuffixOf name || ".yaml".toList.isSuffixOf name then
    some .yaml
  else if ".json".toList.isSuffixOf name then some .json
  else none

/-- The format of the document at a path, and whether the file is compressed. -/
def Format.ofPath? (path : String) : Option (Format × Bool) :=
  match dropEnding? path.toList ".gz".toList with
  | some name => (ofName? name).map (·, true)
  | none => (ofName? path.toList).map (·, false)

@[simp] theorem dropEnding?_append (name ending : List Char) :
    dropEnding? (name ++ ending) ending = some name := by
  simp [dropEnding?]

/-- A compressed file has the format that its name tells without the ending. -/
theorem Format.ofPath?_compressed (name : String) :
    ofPath? (name ++ ".gz") = (ofName? name.toList).map (·, true) := by
  rw [ofPath?, String.toList_append, dropEnding?_append]

example : Format.ofPath? "n.yml.gz" = some (.yaml, true) := by decide

/-- A form that can be used for documents of all formats. -/
abbrev AnyForm (ρ : Type) := (σ : Type) → [Leaf σ Float] → Form σ ρ

variable [Codec] {ρ : Type}

/-- A record in a document of YAML that is all there is in its file. -/
def readYaml (form : Form Codec.YamlValue ρ) (file : Contents) : Reading ρ :=
  let whole := Codec.readYaml file
  match form.read whole.tree with
  | .ok r => if whole.isAlone then .ok r else .error []
  | .error l => .error l

/-- A record in a document of JSON. -/
def readJson (form : Form Codec.JsonValue ρ) (file : Contents) : Reading ρ :=
  form.read (Codec.readJson file)

/-- A record in a document of some format. -/
def Format.read (format : Format) (form : AnyForm ρ) (file : Contents) :
    Reading ρ :=
  match format with
  | .json => readJson (form Codec.JsonValue) file
  | .yaml => readYaml (form Codec.YamlValue) file

/-- A record in the document at a path. -/
def readFile (form : AnyForm ρ) (files : Files) (path : String) :
    Except FileFault ρ :=
  match Format.ofPath? path with
  | none => .error (.unsupported path)
  | some (format, isCompressed) =>
    match files.open? path with
    | none => .error (.cannotOpen path)
    | some file =>
      let file := if isCompressed then Codec.unpack file else file
      match format.read form file with
      | .ok r => .ok r
      | .error location => .error (.cannotRead path location)

/-- Reads the document at a path and reports on it. -/
def loadFile (form : AnyForm ρ) (files : Files) (path : String) :
    Logged FileFault ρ := do
  Logged.report .info ("file_reader::read: Starting to read file at: " ++
    s!"{Text.quotedPath path}")
  Logged.ofExcept (readFile form files path)

/-- Writes a document to a path and reports on it. -/
def saveFile (t : Tree (Value Float)) (files : Files) (path : String) :
    Logged FileFault Files := do
  match files.save? path (Codec.writeJson t) with
  | none => Logged.fail (.cannotWrite path)
  | some files =>
    Logged.report .info ("file_reader::write_json: Finished writing " ++
      s!"{Text.quotedPath path}")
    return files

end LaneFlow.Document
