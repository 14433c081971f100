import LaneFlow.Text.Printable

/-!
# Quoted texts

Messages show texts between quotation marks. Inside them a quotation mark and a
backslash are written with a backslash in front, line breaks, tabs and the
character zero by letters, and whatever cannot be printed by its number. In a
path an apostrophe also has a backslash in front.

## Main results

* `quoted_eq`: a quoted text is its characters one by one, between quotation
  marks.
* `quotedPath_eq_quoted`: without apostrophes a path is quoted like any text.
-/

namespace LaneFlow.Text

/-- The number of a character in hexadecimal digits. -/
def hexadecimal (c : Char) : List Char := Nat.toDigits 16 c.toNat

/-- A character by its number. -/
def byNumber (c : Char) : List Char :=
  ['\\', 'u', '{'] ++ hexadecimal c ++ ['}']

/-- A character as it stands between quotation marks. -/
def quotedChar (c : Char) : List Char :=
  match c with
  | '"' => ['\\', '"']
  | '\\' => ['\\', '\\']
  | '\n' => ['\\', 'n']
  | '\r' => ['\\', 'r']
  | '\t' => ['\\', 't']
  | '\x00' => ['\\', '0']
  | c => if isPrintable c then [c] else byNumber c

/-- A text between quotation marks. -/
def quoted (text : String) : String :=
  String.ofList ('"' :: text.toList.flatMap quotedChar ++ ['"'])

theorem quoted_eq (text : String) :
    (quoted text).toList = '"' :: text.toList.flatMap quotedChar ++ ['"'] := by
  simp [quoted]

/-- A character of a path as it stands between quotation marks. -/
def quotedPathChar (c : Char) : List Char :=
  if c = '\x27' then ['\\', '\x27'] else quotedChar c

/-- A path between quotation marks. -/
def quotedPath (path : String) : String :=
  String.ofList ('"' :: path.toList.flatMap quotedPathChar ++ ['"'])

theorem quotedPath_eq_quoted {path : String} (h : '\x27' ∉ path.toList) :
    quotedPath path = quoted path := by
  have hchars : ∀ cs : List Char, '\x27' ∉ cs → cs.flatMap quotedPathChar =
    cs.flatMap quotedChar := by
    intro cs hcs
    induction cs with
    | nil => rfl
    | cons c rest ih =>
        simp only [List.mem_cons, not_or] at hcs
        rw [List.flatMap_cons, List.flatMap_cons, ih hcs.2, quotedPathChar,
          if_neg (Ne.symm hcs.1)]
  rw [quotedPath, quoted, hchars _ h]

/-- Quoted texts in pairs, as a list in brackets. -/
def quotedPairs (pairs : List (String × String)) : String :=
  "[" ++ String.intercalate ", "
    (pairs.map fun p => "(" ++ quoted p.1 ++ ", " ++ quoted p.2 ++ ")") ++ "]"

end LaneFlow.Text
