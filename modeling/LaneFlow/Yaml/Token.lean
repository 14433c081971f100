import LaneFlow.Yaml.Scalar

/-!
# Tokens

A text is cut into tokens: marks, names, scalars, and the starts and ends of
blocks, which follow from the indentation. Whether something is the key of an
entry shows only later, at a colon. Until then its token is a *candidate*: if
the colon comes, a key mark is put in front of the token, and possibly the start
of a block. A candidate is given up after its line or after 1024 characters, and
that is an error if it stands where only a key can stand.

A reader of tokens never gets a candidate before it is settled. So if the text
breaks the rules, only the tokens before the first candidate have been read.

## Main results

* `Yaml.Scanner.unroll_inFlow`: inside brackets the indentation does not matter.
-/

namespace LaneFlow.Yaml

/-- A part of a text. -/
inductive Token where
  | streamEnd
  | version (major minor : Nat)
  | tagHandle (handle stem : String)
  | documentStart
  | documentEnd
  | blockList
  | blockRecord
  | blockEnd
  | flowList
  | flowListEnd
  | flowRecord
  | flowRecordEnd
  | blockItem
  | flowItem
  | key
  | value
  | alias (name : String)
  | anchor (name : String)
  | tag (handle suffix : String)
  | scalar (text : String) (isPlain : Bool)
deriving Repr, DecidableEq

/-- Something that may turn out to be a key. -/
structure Candidate where
  /-- How many tokens come before it. -/
  token : Nat
  /-- Only a key can stand here. -/
  required : Bool
  index : Nat
  line : Nat
  column : Nat
deriving Repr

/-- The state between two tokens. -/
structure Scanner where
  cursor : Cursor
  /-- The tokens so far, the last one first, and their number. -/
  tokens : List Token := []
  count : Nat := 0
  /-- The column of the innermost block, and those of the blocks around it. -/
  indent : Int := -1
  outer : List Int := []
  /-- The candidate on each level of brackets, the innermost first, and then
  outside all of them. -/
  inner : List (Option Candidate) := []
  outside : Option Candidate := none
  keyAllowed : Bool := true

namespace Scanner

/-- Whether the place is inside brackets. -/
def inFlow (s : Scanner) : Bool := !s.inner.isEmpty

/-- The candidate on the innermost level. -/
def candidate (s : Scanner) : Option Candidate :=
  match s.inner with
  | c :: _ => c
  | [] => s.outside

/-- The state with another candidate on the innermost level. -/
def setCandidate (s : Scanner) (c : Option Candidate) : Scanner :=
  match s.inner with
  | _ :: rest => { s with inner := c :: rest }
  | [] => { s with outside := c }

/-- All candidates. -/
def candidates (s : Scanner) : List Candidate :=
  (s.outside :: s.inner).filterMap id

/-- The state with one more token. -/
def add (s : Scanner) (t : Token) : Scanner :=
  { s with tokens := t :: s.tokens, count := s.count + 1 }

/-- The state with one more token after the first tokens. -/
def insert (s : Scanner) (n : Nat) (t : Token) : Scanner :=
  let later := s.count - n
  { s with
    tokens := s.tokens.take later ++ t :: s.tokens.drop later
    count := s.count + 1 }

/-- The state after some characters of the same line. -/
def skip (s : Scanner) (n : Nat) : Scanner :=
  { s with cursor := s.cursor.skip n }

/-- The farthest that a key may be from its colon. -/
def longestKey : Nat := 1024

/-- Whether a candidate is too far away to be a key. -/
def isStale (s : Scanner) (c : Candidate) : Bool :=
  c.line < s.cursor.line || c.index + longestKey < s.cursor.index

/-- The state without the candidates that are too far away. -/
def dropStale? (s : Scanner) : Option Scanner :=
  if s.candidates.any fun c => s.isStale c && c.required then none
  else
    let keep (c : Option Candidate) : Option Candidate :=
      c.filter (!s.isStale ·)
    some { s with outside := keep s.outside, inner := s.inner.map keep }

/-- The state without the candidate on the innermost level. -/
def dropCandidate? (s : Scanner) : Option Scanner :=
  if s.candidate.any (·.required) then none else some (s.setCandidate none)

/-- The state in which the next token is a candidate, if keys are allowed. -/
def saveCandidate? (s : Scanner) : Option Scanner :=
  if s.keyAllowed then do
    let c : Candidate :=
      { token := s.count
        required := !s.inFlow && s.indent == s.cursor.column
        index := s.cursor.index
        line := s.cursor.line
        column := s.cursor.column }
    return (← s.dropCandidate?).setCandidate (some c)
  else some s

/-- The state after the start of a block, if a column lies beyond the innermost
one. -/
def roll (s : Scanner) (column : Nat) (at? : Option Nat) (start : Token) :
    Scanner :=
  if !s.inFlow && s.indent < column then
    let s := { s with indent := column, outer := s.indent :: s.outer }
    match at? with
    | some n => s.insert n start
    | none => s.add start
  else s

/-- The state after the ends of all blocks that lie beyond a column. -/
def unrollFrom (column : Int) (s : Scanner) : List Int → Scanner
  | [] => s
  | i :: outer =>
    if column < s.indent then
      unrollFrom column { s.add .blockEnd with indent := i, outer } outer
    else s

/-- The state after the ends of all blocks that lie beyond a column. -/
def unroll (s : Scanner) (column : Int) : Scanner :=
  if s.inFlow then s else unrollFrom column s s.outer

theorem unroll_inFlow {s : Scanner} (h : s.inFlow) (column : Int) :
    s.unroll column = s := by
  simp [unroll, h]

/-- The state at the next token. The first argument bounds the number of
lines. -/
def toNextToken : Nat → Scanner → Scanner
  | 0, s => s
  | lines + 1, s =>
    let isSpace (b : Char) : Bool :=
      b == ' ' || (b == '\t' && (s.inFlow || !s.keyAllowed))
    let c := (s.cursor.skipWhile isSpace).skipComment
    match c.takeBreak? with
    | some (_, c) =>
      toNextToken lines
        { s with cursor := c, keyAllowed := s.keyAllowed || !s.inFlow }
    | none => { s with cursor := c }

/-! ## Directives -/

/-- A number of at most nine digits, and what follows it. -/
def takeVersionPart? (c : Cursor) : Option (Nat × Cursor) :=
  let (ds, c) := c.takeWhile Char.isDigit
  if ds.isEmpty || 9 < ds.length then none
  else some (ds.foldl (fun n d => 10 * n + (d.toNat - '0'.toNat)) 0, c)

/-- A tag handle. Unless it may be followed by more, it must be a single mark or
end in one. -/
def takeHandle? (directive : Bool) (c : Cursor) : Option (List Char × Cursor) :=
  if c.rest.head? != some '!' then none
  else
    let (name, c) := (c.skip 1).takeWhile isNameChar
    if c.rest.head? == some '!' then some ('!' :: name ++ ['!'], c.skip 1)
    else if directive && !name.isEmpty then none
    else some ('!' :: name, c)

/-- Whether a character may stand in a tag. -/
def isTagChar (withFlowMarks : Bool) (c : Char) : Bool :=
  isNameChar c || ";/?:@&=+$.%!~*'()".toList.contains c ||
    (withFlowMarks && (c == ',' || c == '[' || c == ']'))

/-- The byte that a percent sign and two hexadecimal digits stand for. -/
def percentByte? : List Char → Option UInt8
  | '%' :: a :: b :: _ => (hexNumber? 2 [a, b]).map (·.toUInt8)
  | _ => none

/-- How many bytes a character has that starts with some byte. -/
def byteCount? (b : UInt8) : Option Nat :=
  if b < 0x80 then some 1
  else if b &&& 0xe0 == 0xc0 then some 2
  else if b &&& 0xf0 == 0xe0 then some 3
  else if b &&& 0xf8 == 0xf0 then some 4
  else none

/-- The character that percent signs stand for, and how many characters they
take. -/
def percentChar? (cs : List Char) : Option (Char × Nat) := do
  let first ← percentByte? cs
  let count ← byteCount? first
  let bytes ← (List.range count).mapM fun i => percentByte? (cs.drop (3 * i))
  let text ← String.fromUTF8? ⟨bytes.toArray⟩
  return (← text.toList.head?, 3 * count)

/-- The rest of a tag. The first argument bounds the number of characters. -/
def takeTagText? (withFlowMarks : Bool) :
    Nat → List Char → Cursor → Option (List Char × Cursor)
  | 0, text, c => some (text, c)
  | steps + 1, text, c =>
    match c.rest with
    | [] => some (text, c)
    | b :: _ =>
      if !isTagChar withFlowMarks b then some (text, c)
      else if b == '%' then
        match percentChar? c.rest with
        | some (d, n) =>
          takeTagText? withFlowMarks steps (text ++ [d]) (c.skip n)
        | none => none
      else takeTagText? withFlowMarks steps (text ++ [b]) (c.skip 1)

/-- The contents of a directive, and the place after them. -/
def takeDirective? (c : Cursor) : Option (Token × Cursor) := do
  let (name, c) := (c.skip 1).takeWhile isNameChar
  if name.isEmpty || !endsWord c.rest then failure
  let c := c.skipWhile isBlank
  match String.ofList name with
  | "YAML" =>
    let (major, c) ← takeVersionPart? c
    if c.rest.head? != some '.' then failure
    let (minor, c) ← takeVersionPart? (c.skip 1)
    return (.version major minor, c)
  | "TAG" =>
    let (handle, c) ← takeHandle? true c
    if !(c.rest.head?.any isBlank) then failure
    let (stem, c) ← takeTagText? true c.bound [] (c.skipWhile isBlank)
    if stem.isEmpty || !endsWord c.rest then failure
    return (.tagHandle (String.ofList handle) (String.ofList stem), c)
  | _ => failure

/-- A directive with the rest of its line, and the place after it. -/
def takeDirectiveLine? (c : Cursor) : Option (Token × Cursor) := do
  let (t, c) ← takeDirective? c
  let c := (c.skipWhile isBlank).skipComment
  if endsLine c.rest then return (t, c.skipBreak) else failure

/-! ## Names and tags -/

/-- The name of an anchor or alias, and the place after it. -/
def takeName? (c : Cursor) : Option (String × Cursor) :=
  let (name, c) := (c.skip 1).takeWhile isNameChar
  let ends :=
    endsWord c.rest || c.rest.head?.any ("?:,]\x7d%@\x60".toList.contains ·)
  if name.isEmpty || !ends then none else some (String.ofList name, c)

/-- A tag without a handle of its own, which may be a single mark. -/
def takeLocalTag? (head : List Char) (c : Cursor) :
    Option (Token × Cursor) := do
  let (text, c) ← takeTagText? false c.bound (head.drop 1) c
  if text.isEmpty then return (.tag "" "!", c)
  else return (.tag "!" (String.ofList text), c)

/-- A tag, and the place after it. -/
def takeTag? (inFlow : Bool) (c : Cursor) : Option (Token × Cursor) := do
  let (t, c) ←
    if (c.rest.drop 1).head? == some '<' then do
      let (text, c) ← takeTagText? true c.bound [] (c.skip 2)
      if text.isEmpty || c.rest.head? != some '>' then failure
      pure (Token.tag "" (String.ofList text), c.skip 1)
    else do
      let (handle, c) ← takeHandle? false c
      if 2 ≤ handle.length && handle.getLast? == some '!' then do
        let (text, c) ← takeTagText? false c.bound [] c
        if text.isEmpty then failure
        pure (Token.tag (String.ofList handle) (String.ofList text), c)
      else takeLocalTag? handle c
  if endsWord c.rest || (inFlow && c.rest.head? == some ',') then return (t, c)
  else failure

/-! ## One token -/

/-- A mark after which a key may or may not stand. -/
def mark (s : Scanner) (t : Token) (length : Nat) (keyAllowed : Bool) :
    Scanner :=
  ({ s with keyAllowed }.skip length).add t

/-- A mark that ends all blocks. -/
def endAll? (s : Scanner) : Option Scanner := do
  let s ← (s.unroll (-1)).dropCandidate?
  return { s with keyAllowed := false }

/-- The end of the text. -/
def fetchEnd? (s : Scanner) : Option Scanner := do
  let c := s.cursor
  let s := if c.column = 0 then s
    else { s with cursor := { c with column := 0, line := c.line + 1 } }
  return (← s.endAll?).add .streamEnd

/-- A directive. -/
def fetchDirective? (s : Scanner) : Option Scanner := do
  let s ← s.endAll?
  let (t, c) ← takeDirectiveLine? s.cursor
  return { s with cursor := c }.add t

/-- The start or end of a document. -/
def fetchBoundary? (s : Scanner) (t : Token) : Option Scanner := do
  return (← s.endAll?).mark t 3 false

/-- An opening bracket. -/
def fetchOpen? (s : Scanner) (t : Token) : Option Scanner := do
  let s ← s.saveCandidate?
  return { s with inner := none :: s.inner }.mark t 1 true

/-- A closing bracket. -/
def fetchClose? (s : Scanner) (t : Token) : Option Scanner := do
  let s ← s.dropCandidate?
  return { s with inner := s.inner.drop 1 }.mark t 1 false

/-- A comma. -/
def fetchComma? (s : Scanner) : Option Scanner := do
  return (← s.dropCandidate?).mark .flowItem 1 true

/-- The mark of an item of a block. -/
def fetchItem? (s : Scanner) : Option Scanner := do
  if !s.inFlow && !s.keyAllowed then failure
  let s := s.roll s.cursor.column none .blockList
  return (← s.dropCandidate?).mark .blockItem 1 true

/-- The mark of a key. -/
def fetchKey? (s : Scanner) : Option Scanner := do
  if !s.inFlow && !s.keyAllowed then failure
  let s := s.roll s.cursor.column none .blockRecord
  return (← s.dropCandidate?).mark .key 1 (!s.inFlow)

/-- The mark of a value. A candidate now is a key. -/
def fetchValue? (s : Scanner) : Option Scanner :=
  match s.candidate with
  | some c =>
    let s := (s.insert c.token .key).roll c.column (some c.token) .blockRecord
    some ((s.setCandidate none).mark .value 1 false)
  | none =>
    if !s.inFlow && !s.keyAllowed then none
    else
      some
        ((s.roll s.cursor.column none .blockRecord).mark .value 1 (!s.inFlow))

/-- A name after its mark. -/
def fetchName? (s : Scanner) (t : String → Token) : Option Scanner := do
  let s ← s.saveCandidate?
  let (name, c) ← takeName? s.cursor
  return { s with cursor := c, keyAllowed := false }.add (t name)

/-- A tag. -/
def fetchTag? (s : Scanner) : Option Scanner := do
  let s ← s.saveCandidate?
  let (t, c) ← takeTag? s.inFlow s.cursor
  return { s with cursor := c, keyAllowed := false }.add t

/-- A block scalar. -/
def fetchBlock? (s : Scanner) (literal : Bool) : Option Scanner := do
  let s ← s.dropCandidate?
  let (text, c) ← takeBlock? literal s.indent (s.cursor.skip 1)
  return { s with cursor := c, keyAllowed := true }.add
    (.scalar (String.ofList text) false)

/-- A scalar in quotation marks. -/
def fetchQuoted? (s : Scanner) (single : Bool) : Option Scanner := do
  let s ← s.saveCandidate?
  let (text, c) ← takeQuoted? single s.cursor.bound [] (s.cursor.skip 1)
  return { s with cursor := c, keyAllowed := false }.add
    (.scalar (String.ofList text) false)

/-- A plain scalar. -/
def fetchPlain? (s : Scanner) : Option Scanner := do
  let s ← s.saveCandidate?
  let p ← takePlain? s.inFlow (s.indent + 1).toNat s.cursor.bound [] {} s.cursor
  return { s with cursor := p.cursor, keyAllowed := p.newLine }.add
    (.scalar (String.ofList p.text) true)

/-- Whether a plain scalar starts here. -/
def startsPlain (inFlow : Bool) (b : Char) (rest : List Char) : Bool :=
  if b == '-' then !rest.head?.any isBlank
  else if b == '?' || b == ':' then !inFlow && !endsWord rest
  else
    !(isBlank b || isBreak b || ",[]\x7b\x7d#&*!|>'\"%@\x60".toList.contains b)

/-- The token that starts with a character. -/
def fetchAt? (s : Scanner) (b : Char) (rest : List Char) : Option Scanner :=
  if s.cursor.column == 0 && b == '%' then s.fetchDirective?
  else if s.cursor.isAtMarker '-' then s.fetchBoundary? .documentStart
  else if s.cursor.isAtMarker '.' then s.fetchBoundary? .documentEnd
  else if b == '[' then s.fetchOpen? .flowList
  else if b == '{' then s.fetchOpen? .flowRecord
  else if b == ']' then s.fetchClose? .flowListEnd
  else if b == '}' then s.fetchClose? .flowRecordEnd
  else if b == ',' then s.fetchComma?
  else if b == '-' && endsWord rest then s.fetchItem?
  else if b == '?' && (s.inFlow || endsWord rest) then s.fetchKey?
  else if b == ':' && (s.inFlow || endsWord rest) then s.fetchValue?
  else if b == '*' then s.fetchName? .alias
  else if b == '&' then s.fetchName? .anchor
  else if b == '!' then s.fetchTag?
  else if b == '|' && !s.inFlow then s.fetchBlock? true
  else if b == '>' && !s.inFlow then s.fetchBlock? false
  else if b == '\'' then s.fetchQuoted? true
  else if b == '"' then s.fetchQuoted? false
  else if startsPlain s.inFlow b rest then s.fetchPlain?
  else none

/-- The state after the next token. -/
def fetch? (s : Scanner) : Option Scanner := do
  let s := toNextToken s.cursor.bound s
  let s ← s.dropStale?
  let s := s.unroll s.cursor.column
  match s.cursor.rest with
  | [] => s.fetchEnd?
  | b :: rest => s.fetchAt? b rest

/-! ## All tokens -/

/-- The tokens before the first candidate. -/
def settled (s : Scanner) : List Token :=
  let settled := s.candidates.foldl (fun n c => min n c.token) s.count
  (s.tokens.drop (s.count - settled)).reverse

/-- The tokens up to the end, or up to trouble. The first argument bounds their
number. -/
def scan : Nat → Scanner → List Token
  | 0, s => s.settled
  | steps + 1, s =>
    match s.dropStale? with
    | none => s.settled
    | some s =>
      match s.fetch? with
      | none => s.settled
      | some next =>
        if next.tokens.head? = some .streamEnd then next.tokens.reverse
        else scan steps next

end Scanner

/-- The tokens of a text, up to its end or up to the first candidate before
trouble. -/
def tokens (cs : List Char) : List Token :=
  Scanner.scan (cs.length + 2) { cursor := .ofText cs }

end LaneFlow.Yaml
