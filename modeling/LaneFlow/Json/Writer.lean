import LaneFlow.Decimal.Layout
import LaneFlow.Document.Value

/-!
# Writing JSON

A document is written in one line without blanks, or spread over lines with two
blanks for each level. Texts are written with the characters that JSON wants
escaped, and no others, escaped. An empty list and an empty record stay on their
line.

## Main results

* `Json.writeItems_eq`: a list is written item by item.
-/

namespace LaneFlow.Json

open LaneFlow.Document

/-- A character by its number, in four hexadecimal digits. -/
def byNumber (c : Char) : List Char :=
  let ds := Nat.toDigits 16 c.toNat
  '\\' :: 'u' :: (List.replicate (4 - ds.length) '0' ++ ds)

/-- A character inside a text. -/
def textChar (c : Char) : List Char :=
  match c with
  | '"' => ['\\', '"']
  | '\\' => ['\\', '\\']
  | '\x08' => ['\\', 'b']
  | '\x0c' => ['\\', 'f']
  | '\n' => ['\\', 'n']
  | '\r' => ['\\', 'r']
  | '\t' => ['\\', 't']
  | c => if c < ' ' then byNumber c else [c]

/-- A text between quotation marks. -/
def ofText (s : String) : String :=
  String.ofList ('"' :: s.toList.flatMap textChar ++ ['"'])

/-- A single value. -/
def ofValue : Value Float → String
  | .null => "null"
  | .flag b => if b then "true" else "false"
  | .number x => Decimal.documentText x
  | .text s => ofText s

/-- A break of a line, followed by the blanks of a level. -/
def newLine (level : Nat) : String :=
  String.ofList ('\n' :: List.replicate (2 * level) ' ')

/-- How the parts of a list or record are set apart. -/
structure Spacing where
  /-- What stands before each part at some level, and before the closing
  bracket. -/
  breaks : Nat → String
  colon : String

/-- No spaces at all. -/
def Spacing.none : Spacing := ⟨fun _ => "", ":"⟩

/-- One part a line. -/
def Spacing.lines : Spacing := ⟨newLine, ": "⟩

/-- Parts between brackets. -/
def enclose (s : Spacing) (level : Nat) (left right : String)
    (parts : List String) : String :=
  if parts.isEmpty then left ++ right
  else
    left ++ s.breaks (level + 1) ++
      String.intercalate ("," ++ s.breaks (level + 1)) parts ++
      s.breaks level ++ right

mutual

/-- A document at some level. -/
def write (s : Spacing) (level : Nat) : Document.Tree (Value Float) → String
  | .scalar v => ofValue v
  | .list items => enclose s level "[" "]" (writeItems s (level + 1) items)
  | .record entries =>
    enclose s level "\x7b" "\x7d" (writeEntries s (level + 1) entries)

/-- The items of a list. -/
def writeItems (s : Spacing) (level : Nat) :
    List (Document.Tree (Value Float)) → List String
  | [] => []
  | item :: rest => write s level item :: writeItems s level rest

/-- The entries of a record. -/
def writeEntries (s : Spacing) (level : Nat) :
    List (Document.Tree (Value Float) × Document.Tree (Value Float)) →
      List String
  | [] => []
  | (key, value) :: rest =>
    (write s level key ++ s.colon ++ write s level value) ::
      writeEntries s level rest

end

/-- A document in one line. -/
def compact (t : Document.Tree (Value Float)) : String := write .none 0 t

/-- A document spread over lines. -/
def pretty (t : Document.Tree (Value Float)) : String := write .lines 0 t

theorem writeItems_eq {s : Spacing} (level : Nat)
    (items : List (Document.Tree (Value Float))) :
    writeItems s level items = items.map (write s level) := by
  induction items with
  | nil => rfl
  | cons t items ih => rw [writeItems, ih, List.map_cons]

example : pretty (.list []) = "[]" := rfl

end LaneFlow.Json
