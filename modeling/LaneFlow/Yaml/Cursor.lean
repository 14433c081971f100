/-!
# Moving through a text

A `Cursor` is a place in a text: what follows it, and how far it is from the
start of the text and of its line. Lines end in a line feed, a carriage return,
both, or one of three rarer characters. The rare ones that separate lines and
paragraphs stand for themselves in a scalar, and all others for a line feed.

A *gap* is a stretch of blanks and line breaks inside a scalar. Within a line
its blanks count. Across lines they do not: one line feed is a blank, and of
several line breaks the first one is left out.

## Main results

* `Yaml.Gap.text_of_blanks`: a gap within a line is its blanks.
-/

namespace LaneFlow.Yaml

/-- A place in a text. -/
structure Cursor where
  rest : List Char
  /-- How many characters the whole text has. -/
  total : Nat
  index : Nat := 0
  line : Nat := 0
  column : Nat := 0
deriving Repr

/-- Whether a character is a blank or a tabulator. -/
def isBlank (c : Char) : Bool := c == ' ' || c == '\t'

/-- Whether a character ends a line. -/
def isBreak (c : Char) : Bool :=
  c == '\n' || c == '\r' || c == '\u0085' || c == '\u2028' || c == '\u2029'

/-- Whether nothing but a blank or the end of a line may stand here. -/
def endsWord : List Char → Bool
  | [] => true
  | c :: _ => isBlank c || isBreak c

/-- Whether a line ends here. -/
def endsLine : List Char → Bool
  | [] => true
  | c :: _ => isBreak c

/-- Whether a character may stand in the name of an anchor. -/
def isNameChar (c : Char) : Bool := c.isAlphanum || c == '_' || c == '-'

namespace Cursor

/-- The start of a text. -/
def ofText (cs : List Char) : Cursor := { rest := cs, total := cs.length }

/-- More than the number of characters, words or lines that can still come. -/
def bound (c : Cursor) : Nat := c.total + 1

/-- The place after some characters of the same line. -/
def skip (c : Cursor) (n : Nat) : Cursor :=
  { c with rest := c.rest.drop n, index := c.index + n, column := c.column + n }

/-- The place at the start of the next line, after an end of a line of some
length. -/
def nextLine (c : Cursor) (n : Nat) : Cursor :=
  { c with
    rest := c.rest.drop n
    index := c.index + n
    line := c.line + 1
    column := 0 }

/-- The character that a line break here stands for, and the place after it. -/
def takeBreak? (c : Cursor) : Option (Char × Cursor) :=
  match c.rest with
  | '\r' :: '\n' :: _ => some ('\n', c.nextLine 2)
  | b :: _ =>
    if b == '\u2028' || b == '\u2029' then some (b, c.nextLine 1)
    else if isBreak b then some ('\n', c.nextLine 1)
    else none
  | [] => none

/-- The place after the line break here, if there is one. -/
def skipBreak (c : Cursor) : Cursor := (c.takeBreak?.map (·.2)).getD c

/-- Takes the characters of one line for which a test holds. -/
def takeWhile (c : Cursor) (p : Char → Bool) : List Char × Cursor :=
  let taken := c.rest.takeWhile p
  (taken, c.skip taken.length)

/-- The place after the characters of one line for which a test holds. -/
def skipWhile (c : Cursor) (p : Char → Bool) : Cursor := (c.takeWhile p).2

/-- The place at the end of the line. -/
def skipLine (c : Cursor) : Cursor := c.skipWhile (!isBreak ·)

/-- The place after a comment, if one starts here. -/
def skipComment (c : Cursor) : Cursor :=
  if c.rest.head? = some '#' then c.skipLine else c

/-- Whether a line starts here with three characters that stand alone. -/
def isAtMarker (c : Cursor) (mark : Char) : Bool :=
  c.column == 0 && c.rest.take 3 == [mark, mark, mark] &&
    endsWord (c.rest.drop 3)

/-- Whether a document starts or ends here. -/
def isAtBoundary (c : Cursor) : Bool := c.isAtMarker '-' || c.isAtMarker '.'

end Cursor

/-- A stretch of blanks and line breaks inside a scalar. -/
structure Gap where
  blanks : List Char := []
  /-- Whether the gap reaches into another line. -/
  crosses : Bool := false
  first : Option Char := none
  more : List Char := []

namespace Gap

/-- What a gap stands for. -/
def text (g : Gap) : List Char :=
  if g.crosses then
    match g.first with
    | some '\n' => if g.more.isEmpty then [' '] else g.more
    | some b => b :: g.more
    | none => g.more
  else g.blanks

theorem text_of_blanks (blanks : List Char) :
    ({ blanks } : Gap).text = blanks := rfl

/-- The gap with one more line break. -/
def addBreak (g : Gap) (b : Char) : Gap :=
  if g.crosses then { g with more := g.more ++ [b] }
  else { crosses := true, first := some b }

/--
The gap at a place, and the place after it. Where a scalar must be indented to
some column, a tabulator may not stand in for the indentation. The first
argument bounds the number of characters.
-/
def take (indent : Option Nat) : Nat → Gap → Cursor → Option (Gap × Cursor)
  | 0, g, c => some (g, c)
  | steps + 1, g, c =>
    match c.rest with
    | [] => some (g, c)
    | b :: _ =>
      if isBlank b then
        if g.crosses then
          if b == '\t' && indent.any (c.column < ·) then none
          else take indent steps g (c.skip 1)
        else take indent steps { g with blanks := g.blanks ++ [b] } (c.skip 1)
      else match c.takeBreak? with
        | some (b, c) => take indent steps (g.addBreak b) c
        | none => some (g, c)

end Gap

end LaneFlow.Yaml
