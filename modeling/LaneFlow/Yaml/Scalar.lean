import LaneFlow.Yaml.Cursor

/-!
# Scalars

A scalar is plain, in quotation marks, or a block. A plain one ends where a
comment, a key, a line that is not indented enough or, inside brackets, a mark
of these starts. One in quotation marks ends at the next mark. A block ends at
the first line that is not indented enough; it keeps its line breaks or folds
them, and its first line tells how it is indented and what becomes of the line
breaks at its end.

All functions fail where the text breaks the rules.
-/

namespace LaneFlow.Yaml

/-! ## Plain scalars -/

/-- Marks that have a meaning inside brackets. -/
def isFlowMark (c : Char) : Bool :=
  c == ',' || c == '[' || c == ']' || c == '{' || c == '}'

/-- Whether a plain word ends here. -/
def endsPlain (inFlow : Bool) (cs : List Char) : Bool :=
  endsWord cs || match cs with
    | ':' :: rest => endsWord rest
    | c :: _ => inFlow && isFlowMark c
    | [] => true

/-- Whether there is a colon here that is neither the end of a key nor a part of
a word. -/
def isOddColon (inFlow : Bool) (cs : List Char) : Bool :=
  match cs with
  | ':' :: c :: _ => inFlow && (isFlowMark c || c == '?')
  | _ => false

/-- The word at the start of a text. -/
def plainWord? (inFlow : Bool) : List Char → Option (List Char)
  | [] => some []
  | c :: rest =>
    if isOddColon inFlow (c :: rest) then none
    else if endsPlain inFlow (c :: rest) then some []
    else (plainWord? inFlow rest).map (c :: ·)

/-- A plain scalar, whether the cursor has reached another line after it, and
the place there. -/
structure PlainEnd where
  text : List Char
  newLine : Bool
  cursor : Cursor

/--
The rest of a plain scalar, given its text so far and the gap after that. The
first argument bounds the number of words.
-/
def takePlain? (inFlow : Bool) (indent : Nat) :
    Nat → List Char → Gap → Cursor → Option PlainEnd
  | 0, _, _, _ => none
  | words + 1, text, gap, c => do
    let stop : PlainEnd := ⟨text, gap.crosses, c⟩
    if c.isAtBoundary || c.rest.head? == some '#' then return stop
    let word ← plainWord? inFlow c.rest
    if word.isEmpty then return stop
    let text := text ++ gap.text ++ word
    let c := c.skip word.length
    let (gap, c) ← Gap.take (some indent) c.bound {} c
    if gap.blanks.isEmpty && !gap.crosses then return ⟨text, false, c⟩
    if !inFlow && c.column < indent then return ⟨text, gap.crosses, c⟩
    takePlain? inFlow indent words text gap c

/-! ## Scalars in quotation marks -/

/-- The character that a letter after a backslash stands for. -/
def escape? : Char → Option Char
  | '0' => some '\x00'
  | 'a' => some '\x07'
  | 'b' => some '\x08'
  | 't' => some '\t'
  | '\t' => some '\t'
  | 'n' => some '\n'
  | 'v' => some '\x0b'
  | 'f' => some '\x0c'
  | 'r' => some '\r'
  | 'e' => some '\x1b'
  | ' ' => some ' '
  | '"' => some '"'
  | '/' => some '/'
  | '\\' => some '\\'
  | 'N' => some '\u0085'
  | '_' => some '\u00a0'
  | 'L' => some '\u2028'
  | 'P' => some '\u2029'
  | _ => none

/-- How many hexadecimal digits follow a letter after a backslash. -/
def escapeDigits? : Char → Option Nat
  | 'x' => some 2
  | 'u' => some 4
  | 'U' => some 8
  | _ => none

/-- The value of a hexadecimal digit. -/
def hexValue? (c : Char) : Option Nat :=
  if c.isDigit then some (c.toNat - '0'.toNat)
  else if 'a' ≤ c ∧ c ≤ 'f' then some (c.toNat - 'a'.toNat + 10)
  else if 'A' ≤ c ∧ c ≤ 'F' then some (c.toNat - 'A'.toNat + 10)
  else none

/-- The number that hexadecimal digits stand for, if there are as many as there
should be. -/
def hexNumber? (count : Nat) (digits : List Char) : Option Nat :=
  if digits.length = count then
    digits.foldlM (fun n c => (hexValue? c).map (16 * n + ·)) 0
  else none

/-- The character of a number, unless it is half of a pair or too large. -/
def charOf? (n : Nat) : Option Char :=
  if (0xd800 ≤ n ∧ n ≤ 0xdfff) ∨ 0x10ffff < n then none else some (Char.ofNat n)

/-- What a backslash and what follows it stand for, and how many characters they
take. -/
def escapeAt? : List Char → Option (Char × Nat)
  | '\\' :: e :: rest =>
    match escapeDigits? e with
    | some count =>
      do return (← charOf? (← hexNumber? count (rest.take count)), count + 2)
    | none => (escape? e).map (·, 2)
  | _ => none

/--
The characters up to a blank, a line break or the closing mark, and whether a
backslash hides the line break. The first argument bounds the number of
characters.
-/
def takeQuotedWord? (single : Bool) :
    Nat → List Char → Cursor → Option (List Char × Bool × Cursor)
  | 0, text, c => some (text, false, c)
  | steps + 1, text, c =>
    match c.rest with
    | '\'' :: '\'' :: _ =>
      if single then takeQuotedWord? single steps (text ++ ['\'']) (c.skip 2)
      else takeQuotedWord? single steps (text ++ ['\'']) (c.skip 1)
    | cs =>
      if endsWord cs || cs.head? == some (if single then '\'' else '"') then
        some (text, false, c)
      else if !single && cs.head? == some '\\' then
        if (cs.drop 1).head?.any isBreak then
          some (text, true, (c.skip 1).skipBreak)
        else match escapeAt? cs with
          | some (e, n) => takeQuotedWord? single steps (text ++ [e]) (c.skip n)
          | none => none
      else takeQuotedWord? single steps (text ++ cs.take 1) (c.skip 1)

/--
The rest of a scalar in quotation marks, and the place after it. The first
argument bounds the number of words.
-/
def takeQuoted? (single : Bool) :
    Nat → List Char → Cursor → Option (List Char × Cursor)
  | 0, _, _ => none
  | words + 1, text, c => do
    if c.isAtBoundary || c.rest.isEmpty then failure
    let (word, hidden, c) ← takeQuotedWord? single c.bound [] c
    let text := text ++ word
    if c.rest.head? == some (if single then '\'' else '"') then
      return (text, c.skip 1)
    let (gap, c) ← Gap.take none c.bound { crosses := hidden } c
    takeQuoted? single words (text ++ gap.text) c

/-! ## Blocks -/

/-- What becomes of the line breaks at the end of a block. -/
inductive Chomping where
  | strip
  | clip
  | keep
deriving DecidableEq, Repr

/-- The chomping that a mark in the first line of a block asks for. -/
def chomping? : Char → Option Chomping
  | '+' => some .keep
  | '-' => some .strip
  | _ => none

/-- The first line of a block after its mark. -/
structure BlockHeader where
  chomping : Chomping := .clip
  /-- How far the block is indented beyond what it belongs to, if that is
  given. -/
  increment : Option Nat := none

/-- The first line of a block, and the place after its marks. The increment may
not be zero. -/
def takeHeader? (c : Cursor) : Option (BlockHeader × Cursor) :=
  let digit? (d : Char) : Option Nat :=
    if d.isDigit then some (d.toNat - '0'.toNat) else none
  let read : BlockHeader × Cursor :=
    match c.rest with
    | [] => ({}, c)
    | a :: rest =>
      match chomping? a, digit? a with
      | some chomping, _ => match rest.head?.bind digit? with
        | some n => ({ chomping, increment := some n }, c.skip 2)
        | none => ({ chomping }, c.skip 1)
      | none, some n => match rest.head?.bind chomping? with
        | some chomping => ({ chomping, increment := some n }, c.skip 2)
        | none => ({ increment := some n }, c.skip 1)
      | none, none => ({}, c)
  if read.1.increment = some 0 then none else some read

/--
The empty lines at a place, and the place after them and after the indentation
of the next line. The largest column that was reached on the way is `widest`. If
the indentation is not known yet, blanks are skipped as far as they go. The
first argument bounds the number of lines.
-/
def takeEmptyLines? (indent : Option Nat) :
    Nat → List Char → Nat → Cursor → Option (List Char × Nat × Cursor)
  | 0, breaks, widest, c => some (breaks, widest, c)
  | lines + 1, breaks, widest, c =>
    let blanks := (c.takeWhile (· == ' ')).1.length
    let c := c.skip (match indent with
      | some n => min blanks (n - c.column)
      | none => blanks)
    let widest := max widest c.column
    if c.rest.head? == some '\t' && indent.all (c.column < ·) then none
    else match c.takeBreak? with
      | some (b, c) => takeEmptyLines? indent lines (breaks ++ [b]) widest c
      | none => some (breaks, widest, c)

/--
The rest of a block, its text so far ending in the line break `last` and the
empty lines `breaks`. A folded block joins two lines unless one of them starts
with a blank. The first argument bounds the number of lines.
-/
def takeLines? (literal : Bool) (indent : Nat) :
    Nat → List Char → Option Char → List Char → Bool → Cursor →
      Option (List Char × Option Char × List Char × Cursor)
  | 0, _, _, _, _, _ => none
  | lines + 1, text, last, breaks, afterBlank, c => do
    if c.column != indent || c.rest.isEmpty then return (text, last, breaks, c)
    let startsBlank := c.rest.head?.any isBlank
    let joint : List Char :=
      if !literal && last == some '\n' && !afterBlank && !startsBlank then
        if breaks.isEmpty then [' '] else breaks
      else last.toList ++ breaks
    let (line, c) := c.takeWhile (!isBreak ·)
    let (last, c) := match c.takeBreak? with
      | some (b, c) => (some b, c)
      | none => (none, c)
    let (breaks, _, c) ← takeEmptyLines? (some indent) c.bound [] 0 c
    takeLines? literal indent lines (text ++ joint ++ line) last breaks
      startsBlank c

/-- A block after its mark, and the place after it. What it belongs to is
indented to `outer`. -/
def takeBlock? (literal : Bool) (outer : Int) (c : Cursor) :
    Option (List Char × Cursor) := do
  let (header, c) ← takeHeader? c
  let c := (c.skipWhile isBlank).skipComment
  if !endsLine c.rest then failure
  let c := c.skipBreak
  let given := header.increment.map fun n => (max outer 0).toNat + n
  let (breaks, widest, c) ← takeEmptyLines? given c.bound [] 0 c
  let indent := given.getD (max widest (max (outer + 1).toNat 1))
  let (text, last, breaks, c) ←
    takeLines? literal indent (c.bound + 1) [] none breaks false c
  let ending := match header.chomping with
    | .strip => []
    | .clip => last.toList
    | .keep => last.toList ++ breaks
  return (text ++ ending, c)

end LaneFlow.Yaml
