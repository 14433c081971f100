/-!
# Paths

A path is a text whose pieces stand between slashes. It names a chain of
`Component`s: a slash at the start is the root, a single dot at the start is the
folder where one is, and neither empty pieces nor dots elsewhere mean anything.
The text of a path is kept as it was given, since messages show it.

Paths in a configuration are taken from the folder of the configuration, unless
they say themselves where they start.

## Main results

* `Path.glue_pieces`: a path is its pieces with slashes between them.
* `Path.resolve_of_fixed`: a path that says where it starts is taken as it is.
-/

namespace LaneFlow.Path

/-- What a piece of a path means. -/
inductive Component where
  | root
  | here
  | up
  | name (text : List Char)
deriving Repr, DecidableEq

/-- The pieces of a path, between its slashes. There is at least one. -/
def pieces : List Char → List (List Char)
  | [] => [[]]
  | c :: rest =>
    if c = '/' then [] :: pieces rest
    else match pieces rest with
      | [] => [[c]]
      | piece :: more => (c :: piece) :: more

/-- Pieces with slashes between them. -/
def glue : List (List Char) → List Char
  | [] => []
  | [piece] => piece
  | piece :: rest => piece ++ '/' :: glue rest

theorem pieces_ne_nil (cs : List Char) : pieces cs ≠ [] := by
  cases cs with
  | nil => simp [pieces]
  | cons c rest =>
      simp only [pieces]
      split
      · simp
      · split <;> simp

/-- A path is its pieces with slashes between them. -/
theorem glue_pieces (cs : List Char) : glue (pieces cs) = cs := by
  induction cs with
  | nil => rfl
  | cons c rest ih =>
      simp only [pieces]
      split
      · rename_i hc
        cases h : pieces rest with
        | nil => exact absurd h (pieces_ne_nil rest)
        | cons piece more => simp [glue, ← h, ih, hc]
      · cases h : pieces rest with
        | nil => exact absurd h (pieces_ne_nil rest)
        | cons piece more =>
            cases more with
            | nil => simp_all [glue]
            | cons next more => simp_all [glue]

/-- Whether a piece has no meaning inside a path. -/
def isIdle (piece : List Char) : Bool := piece = [] || piece = ['.']

/-- The components of pieces inside a path. -/
def innerComponents (ps : List (List Char)) : List Component :=
  (ps.filter (!isIdle ·)).map fun p => if p = ['.', '.'] then .up else .name p

/-- The components of a path. -/
def components (path : String) : List Component :=
  match pieces path.toList with
  | [] :: [] => []
  | [] :: inner => .root :: innerComponents inner
  | ['.'] :: inner => .here :: innerComponents inner
  | ps => innerComponents ps

/-- Whether a path starts at the root. -/
def isAbsolute (path : String) : Bool := (components path).head? = some .root

/-- Whether a path starts at the folder where one is. -/
def isExplicit (path : String) : Bool := (components path).head? = some .here

/-- Pieces without those at the end that mean nothing. -/
def trimEnd (ps : List (List Char)) : List (List Char) :=
  (ps.reverse.dropWhile isIdle).reverse

/-- The pieces inside a path that lead to the folder of what it names; none if
it names nothing. -/
def innerParent? (inner : List (List Char)) : Option (List (List Char)) :=
  match trimEnd inner with
  | [] => none
  | ps => some (trimEnd ps.dropLast)

/-- The folder of what a path names. The root and the empty path have none. -/
def parent? (path : String) : Option String :=
  match pieces path.toList with
  | [] :: [] => none
  | [] :: inner =>
    (innerParent? inner).map fun ps => String.ofList ('/' :: glue ps)
  | ['.'] :: inner =>
    match innerParent? inner with
    | none => some ""
    | some ps => some (String.ofList (glue (['.'] :: ps)))
  | ps => (innerParent? ps).map fun ps => String.ofList (glue ps)

/-- A path taken from a folder. -/
def join (folder path : String) : String :=
  if isAbsolute path then path
  else if folder = "" then path
  else if folder.toList.getLast? = some '/' then folder ++ path
  else folder ++ "/" ++ path

/-- A path of a configuration, taken from the folder of the configuration's own
path. -/
def resolve (config : Option String) (path : String) : String :=
  if isAbsolute path || isExplicit path then path
  else match config.bind parent? with
    | some folder => join folder path
    | none => path

theorem resolve_of_fixed (config : Option String) {path : String}
    (h : isAbsolute path || isExplicit path) : resolve config path = path := by
  simp [resolve, h]

end LaneFlow.Path
