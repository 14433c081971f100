import LaneFlow.Contents
import LaneFlow.Path

/-!
# Files

Files and folders as data. A `Spot` is where a path leads to, seen from the
working folder: the names of the folders on the way, and the name at the end.
Each folder on the way must exist. What lies outside the working folder is
empty, except for what is written there.

A folder can be opened like a file, but nothing can be read from it.

## Main results

* `Files.open?_empty`: the empty path leads nowhere.
-/

namespace LaneFlow

/-- Where a path leads to: names, some of which may lead up or start at the
root. -/
abbrev Spot := List String

/-- Files with their bytes, and folders that exist besides those of the
files. -/
structure Files where
  files : List (Spot × List UInt8) := []
  folders : List Spot := []
deriving Repr, DecidableEq

/-- A path that leads to a spot. -/
def Spot.path : Spot → String
  | "/" :: names => "/" ++ String.intercalate "/" names
  | names => String.intercalate "/" names

namespace Files

/-- The spot one folder up. -/
def up (at_ : Spot) : Spot :=
  match at_.getLast? with
  | none => [".."]
  | some ".." => at_ ++ [".."]
  | some "/" => at_
  | some _ => at_.dropLast

/-- Whether a spot lies outside the working folder and exists without having
been written. -/
def isOuter (at_ : Spot) : Bool := at_.all (· == "..") || at_ == ["/"]

/-- The bytes at a spot, if there is a file. -/
def file? (f : Files) (at_ : Spot) : Option (List UInt8) := f.files.lookup at_

/-- Whether there is a folder at a spot. -/
def isFolder (f : Files) (at_ : Spot) : Bool :=
  isOuter at_ || f.folders.any (at_.isPrefixOf ·) ||
    f.files.any fun file => at_.isPrefixOf file.1.dropLast

/-- Where some pieces lead to from a spot. -/
def walk? (f : Files) (at_ : Spot) : List (List Char) → Option Spot
  | [] => some at_
  | piece :: rest =>
    if !f.isFolder at_ then none
    else if Path.isIdle piece then f.walk? at_ rest
    else if piece = ['.', '.'] then f.walk? (up at_) rest
    else f.walk? (at_ ++ [String.ofList piece]) rest

/-- Where a path starts. -/
def start (path : String) : Spot := if Path.isAbsolute path then ["/"] else []

/-- Where a path leads to. -/
def spot? (f : Files) (path : String) : Option Spot :=
  if path = "" then none else f.walk? (start path) (Path.pieces path.toList)

/-- What a reader gets at a path, if there is something to open. -/
def open? (f : Files) (path : String) : Option Contents := do
  let at_ ← f.spot? path
  match f.file? at_ with
  | some bytes => some ⟨bytes, true⟩
  | none => if f.isFolder at_ then some .nothing else none

theorem open?_empty (f : Files) : f.open? "" = none := rfl

/-- The files with one more folder, unless there is a file. -/
def addFolder? (f : Files) (at_ : Spot) : Option Files :=
  if f.isFolder at_ then some f
  else if (f.file? at_).isSome then none
  else some { f with folders := f.folders ++ [at_] }

/-- The files with all folders that some pieces lead through. -/
def addFolders? (f : Files) (at_ : Spot) : List (List Char) → Option Files
  | [] => some f
  | piece :: rest =>
    if Path.isIdle piece then f.addFolders? at_ rest
    else if piece = ['.', '.'] then f.addFolders? (up at_) rest
    else
      let at_ := at_ ++ [String.ofList piece]
      match f.addFolder? at_ with
      | some f => f.addFolders? at_ rest
      | none => none

/-- The files with all folders on a path, unless a file is in the way. -/
def createFolders? (f : Files) (path : String) : Option Files :=
  f.addFolders? (start path) (Path.pieces path.toList)

/-- The files with other bytes at a spot. -/
def put (f : Files) (at_ : Spot) (bytes : List UInt8) : Files :=
  { f with files := f.files.filter (·.1 != at_) ++ [(at_, bytes)] }

/-- The files with other bytes at a path, in a folder that exists. -/
def write? (f : Files) (path : String) (bytes : List UInt8) : Option Files := do
  let at_ ← f.spot? path
  if f.isFolder at_ then none else some (f.put at_ bytes)

/-- The files with some bytes at a path, and with the folders on the way. -/
def save? (f : Files) (path : String) (bytes : List UInt8) : Option Files := do
  let f ← match Path.parent? path with
    | some folder => f.createFolders? folder
    | none => some f
  f.write? path bytes

end Files

end LaneFlow
