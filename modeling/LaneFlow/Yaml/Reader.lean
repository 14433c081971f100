import LaneFlow.Document.Codec
import LaneFlow.Yaml.Found
import LaneFlow.Yaml.Source
import LaneFlow.Yaml.Token

/-!
# Reading YAML

A document is put together from tokens. A repetition stands for what its anchor
was set to, which is always something before it; inside of that itself it is
`endless`, which is trouble only for those who look at it. Where the rules are
broken, and where the tokens end, the tree ends in a `broken` scalar: in place
of a value, or in place of a key and its value.
-/

namespace LaneFlow.Yaml

open LaneFlow.Document

/-- What is left to be read, and what the anchors were set to. -/
structure Rest where
  tokens : List Token
  anchors : List (String × Document.Tree Found) := []

/-- A document that was read, and what is left unless the rules were broken. -/
structure Part where
  tree : Document.Tree Found
  rest : Option Rest

/-- The place where the rules are broken. -/
def brokenTree : Document.Tree Found := .scalar .broken

/-- The end of reading. -/
def brokenPart : Part := ⟨brokenTree, none⟩

/-- A scalar that is not there. -/
def emptyTree : Document.Tree Found := .scalar (.scalar "" true none)

namespace Rest

/-- What is left after the first tokens. -/
def drop (r : Rest) (n : Nat) : Rest := { r with tokens := r.tokens.drop n }

/-- Nothing was read. -/
def empty (r : Rest) : Part := ⟨emptyTree, some r⟩

end Rest

/-! ## Anchors and tags -/

/-- What may come before a node. -/
structure Marks where
  anchor : Option String := none
  tag : Option (String × String) := none

/-- The marks before a node, and what follows them. -/
def takeMarks (r : Rest) : Marks × Rest :=
  match r.tokens with
  | .anchor a :: .tag h s :: _ =>
    ({ anchor := some a, tag := some (h, s) }, r.drop 2)
  | .tag h s :: .anchor a :: _ =>
    ({ anchor := some a, tag := some (h, s) }, r.drop 2)
  | .anchor a :: _ => ({ anchor := some a }, r.drop 1)
  | .tag h s :: _ => ({ tag := some (h, s) }, r.drop 1)
  | _ => ({}, r)

/-- What tag handles stand for. -/
abbrev Handles := List (String × String)

/-- The handles that every document has. -/
def standardHandles : Handles := [("!", "!"), ("!!", "tag:yaml.org,2002:")]

/-- A tag with its handle replaced; none if the handle is not known. -/
def resolveTag? (handles : Handles) (handle suffix : String) : Option String :=
  if handle.isEmpty then some suffix
  else (handles.lookup handle).map (· ++ suffix)

/-- A scalar with its tag. The tag that is a single mark says nothing. -/
def scalarTree (text : String) (isPlain : Bool) (tag : Option String) :
    Document.Tree Found :=
  .scalar (.scalar text isPlain (tag.filter (· != "!")))

/-- Whether the next token is one of those that leave an empty place before
them. -/
def isNext (r : Rest) (ends : List Token) : Bool :=
  r.tokens.head?.any (ends.contains ·)

/-- Tokens that end a key or value of a block. -/
def blockEnds : List Token := [.key, .value, .blockEnd]

/-! ## Nodes -/

mutual

/--
A node. A block may start here only if that is allowed, and the items of a list
may stand without a block of their own only in an entry of a block. The first
argument bounds the number of steps.
-/
def readNode (handles : Handles) : Nat → Bool → Bool → Rest → Part
  | 0, _, _, _ => brokenPart
  | steps + 1, inBlock, inEntry, r =>
    match r.tokens with
    | .alias name :: _ => match r.anchors.lookup name with
      | some t => ⟨t, some (r.drop 1)⟩
      | none => brokenPart
    | _ =>
      let (marks, r) := takeMarks r
      let tag? : Option (Option String) := match marks.tag with
        | none => some none
        | some (h, s) => (resolveTag? handles h s).map some
      match tag? with
      | none => brokenPart
      | some tag =>
        let r := match marks.anchor with
          | some a => { r with anchors := (a, .scalar .endless) :: r.anchors }
          | none => r
        let part := readContent handles steps inBlock inEntry marks tag r
        match marks.anchor, part.rest with
        | some a, some r =>
          ⟨part.tree, some { r with anchors := (a, part.tree) :: r.anchors }⟩
        | _, _ => part

/-- A node after its marks. -/
def readContent (handles : Handles) :
    Nat → Bool → Bool → Marks → Option String → Rest → Part
  | 0, _, _, _, _, _ => brokenPart
  | steps + 1, inBlock, inEntry, marks, tag, r =>
    let list (p : List (Document.Tree Found) × Option Rest) : Part :=
      ⟨.list p.1, p.2⟩
    let record
        (p : List (Document.Tree Found × Document.Tree Found) × Option Rest) :
        Part :=
      ⟨.record p.1, p.2⟩
    let nothing : Part :=
      if marks.anchor.isSome || marks.tag.isSome then
        ⟨.scalar (.scalar "" true tag), some r⟩
      else brokenPart
    match r.tokens with
    | .blockItem :: _ =>
      if inEntry then list (readBareItems handles steps r) else nothing
    | .scalar text isPlain :: _ =>
      ⟨scalarTree text isPlain tag, some (r.drop 1)⟩
    | .flowList :: _ => list (readFlowItems handles steps true (r.drop 1))
    | .flowRecord :: _ => record (readFlowEntries handles steps true (r.drop 1))
    | .blockList :: _ =>
      if inBlock then list (readBlockItems handles steps (r.drop 1))
      else nothing
    | .blockRecord :: _ =>
      if inBlock then record (readBlockEntries handles steps (r.drop 1))
      else nothing
    | [] => brokenPart
    | _ => nothing

/-- A node, unless one of some tokens comes next. -/
def readNodeBut (handles : Handles) :
    Nat → List Token → Bool → Bool → Rest → Part
  | 0, _, _, _, _ => brokenPart
  | steps + 1, ends, inBlock, inEntry, r =>
    if isNext r ends then r.empty else readNode handles steps inBlock inEntry r

/-- The items of a block. -/
def readBlockItems (handles : Handles) :
    Nat → Rest → List (Document.Tree Found) × Option Rest
  | 0, _ => ([brokenTree], none)
  | steps + 1, r =>
    match r.tokens with
    | .blockItem :: _ =>
      let item :=
        readNodeBut handles steps [.blockItem, .blockEnd] true false (r.drop 1)
      match item.rest with
      | none => ([item.tree], none)
      | some r =>
        let (items, rest) := readBlockItems handles steps r
        (item.tree :: items, rest)
    | .blockEnd :: _ => ([], some (r.drop 1))
    | _ => ([brokenTree], none)

/-- Items without a block of their own. -/
def readBareItems (handles : Handles) :
    Nat → Rest → List (Document.Tree Found) × Option Rest
  | 0, _ => ([brokenTree], none)
  | steps + 1, r =>
    match r.tokens with
    | .blockItem :: _ =>
      let item := readNodeBut handles steps (.blockItem :: blockEnds) true false
        (r.drop 1)
      match item.rest with
      | none => ([item.tree], none)
      | some r =>
        let (items, rest) := readBareItems handles steps r
        (item.tree :: items, rest)
    | [] => ([brokenTree], none)
    | _ => ([], some r)

/-- The entries of a block. -/
def readBlockEntries (handles : Handles) :
    Nat → Rest → List (Document.Tree Found × Document.Tree Found) × Option Rest
  | 0, _ => ([(brokenTree, brokenTree)], none)
  | steps + 1, r =>
    match r.tokens with
    | .key :: _ =>
      let key := readNodeBut handles steps blockEnds true true (r.drop 1)
      match key.rest with
      | none => ([(key.tree, brokenTree)], none)
      | some r =>
        let value := readValue handles steps blockEnds true r
        match value.rest with
        | none => ([(key.tree, value.tree)], none)
        | some r =>
          let (entries, rest) := readBlockEntries handles steps r
          ((key.tree, value.tree) :: entries, rest)
    | .blockEnd :: _ => ([], some (r.drop 1))
    | _ => ([(brokenTree, brokenTree)], none)

/-- The value of an entry, which may be missing. -/
def readValue (handles : Handles) : Nat → List Token → Bool → Rest → Part
  | 0, _, _, _ => brokenPart
  | steps + 1, ends, inBlock, r =>
    match r.tokens with
    | .value :: _ => readNodeBut handles steps ends inBlock inBlock (r.drop 1)
    | [] => brokenPart
    | _ => r.empty

/-- The items between brackets. A comma stands before each item but the
first. -/
def readFlowItems (handles : Handles) :
    Nat → Bool → Rest → List (Document.Tree Found) × Option Rest
  | 0, _, _ => ([brokenTree], none)
  | steps + 1, isFirst, r =>
    let item (r : Rest) : List (Document.Tree Found) × Option Rest :=
      if isNext r [.flowListEnd] then ([], some (r.drop 1))
      else
        let item :=
          if isNext r [.key] then readPair handles steps (r.drop 1)
          else readNode handles steps false false r
        match item.rest with
        | none => ([item.tree], none)
        | some r =>
          let (items, rest) := readFlowItems handles steps false r
          (item.tree :: items, rest)
    match r.tokens with
    | .flowListEnd :: _ => ([], some (r.drop 1))
    | .flowItem :: _ => item (if isFirst then r else r.drop 1)
    | _ => if isFirst then item r else ([brokenTree], none)

/-- A record of one entry as an item between brackets. -/
def readPair (handles : Handles) : Nat → Rest → Part
  | 0, _ => brokenPart
  | steps + 1, r =>
    let key :=
      if isNext r [.value, .flowItem, .flowListEnd] then (r.drop 1).empty
      else readNode handles steps false false r
    match key.rest with
    | none => ⟨.record [(key.tree, brokenTree)], none⟩
    | some r =>
      let value := readValue handles steps [.flowItem, .flowListEnd] false r
      ⟨.record [(key.tree, value.tree)], value.rest⟩

/-- The entries between braces. A comma stands before each entry but the
first. -/
def readFlowEntries (handles : Handles) :
    Nat → Bool → Rest →
      List (Document.Tree Found × Document.Tree Found) × Option Rest
  | 0, _, _ => ([(brokenTree, brokenTree)], none)
  | steps + 1, isFirst, r =>
    let ends : List Token := [.flowItem, .flowRecordEnd]
    let entry (r : Rest) :
        List (Document.Tree Found × Document.Tree Found) × Option Rest :=
      if isNext r [.flowRecordEnd] then ([], some (r.drop 1))
      else
        let marked := isNext r [.key]
        let key :=
          if marked then
            readNodeBut handles steps (.value :: ends) false false (r.drop 1)
          else readNode handles steps false false r
        match key.rest with
        | none => ([(key.tree, brokenTree)], none)
        | some r =>
          let value :=
            if marked then readValue handles steps ends false r
            else if r.tokens.isEmpty then brokenPart
            else r.empty
          match value.rest with
          | none => ([(key.tree, value.tree)], none)
          | some r =>
            let (entries, rest) := readFlowEntries handles steps false r
            ((key.tree, value.tree) :: entries, rest)
    match r.tokens with
    | .flowRecordEnd :: _ => ([], some (r.drop 1))
    | .flowItem :: _ => entry (if isFirst then r else r.drop 1)
    | _ => if isFirst then entry r else ([(brokenTree, brokenTree)], none)

end

/-! ## Documents -/

/-- The directives before a document. -/
structure Directives where
  handles : Handles := []
  hasVersion : Bool := false

/-- The directives before a document, and what follows them. None of them may
come twice. -/
def takeDirectives? (d : Directives) :
    List Token → Option (Directives × List Token)
  | .version major minor :: rest =>
    if d.hasVersion || major != 1 || (minor != 1 && minor != 2) then none
    else takeDirectives? { d with hasVersion := true } rest
  | .tagHandle handle stem :: rest =>
    if (d.handles.lookup handle).isSome then none
    else
      takeDirectives? { d with handles := d.handles ++ [(handle, stem)] } rest
  | tokens => some (d, tokens)

/-- The root of a document, unless the document is empty. -/
def readRoot (handles : Handles) (tokens : List Token) : Part :=
  let r : Rest := { tokens }
  match tokens with
  | .version .. :: _ => r.empty
  | .tagHandle .. :: _ => r.empty
  | .documentStart :: _ => r.empty
  | .documentEnd :: _ => r.empty
  | .streamEnd :: _ => r.empty
  | _ =>
    readNode (handles ++ standardHandles) (4 * tokens.length + 4) true false r

/-- A document whose start is marked, after its directives. -/
def readMarked (tokens : List Token) : Part :=
  match takeDirectives? {} tokens with
  | some (d, .documentStart :: rest) => readRoot d.handles rest
  | _ => brokenPart

/-- The first document of some tokens. -/
def readFirst (tokens : List Token) : Part :=
  match tokens with
  | .version .. :: _ => readMarked tokens
  | .tagHandle .. :: _ => readMarked tokens
  | .documentStart :: _ => readMarked tokens
  | .documentEnd :: _ => brokenPart
  | _ => readRoot [] tokens

/-- Whether a text ends here, apart from marks that end documents. -/
def isAtEnd : List Token → Bool
  | .documentEnd :: rest => isAtEnd rest
  | [.streamEnd] => true
  | _ => false

/-- The document of a text. -/
def read (cs : List Char) : Whole Found :=
  let part := readFirst (tokens cs)
  ⟨part.tree, part.rest.any fun r => isAtEnd r.tokens⟩

/-- The document of a file. -/
def readBytes (bytes : List UInt8) : Whole Found :=
  match source? bytes with
  | some cs => read cs
  | none => ⟨brokenTree, false⟩

end LaneFlow.Yaml
