import LaneFlow.Document.Value
import LaneFlow.Json.Number

/-!
# Reading JSON

A document is read from characters and from bytes that belong to none. Only the
first document of a text is read; what follows it does not matter.

Where the text breaks the rules of JSON, the tree ends in a `broken` value: in
place of a value, or in place of a key and its value. Some texts and numbers
keep the rules but have no meaning: a text with a byte that belongs to no
character or with half of a surrogate pair, and a number beyond the range. They
are `unreadable`, which is trouble only for those who want to know them.
-/

namespace LaneFlow.Json

open LaneFlow.Document LaneFlow.Decimal

/-- A single value as it was found in a text. -/
inductive Found where
  | value (v : Value Float)
  | unreadable
  | broken
deriving Repr

instance : Leaf Found Float where
  text?
    | .value v => Leaf.text? v
    | _ => none
  number?
    | .value v => Leaf.number? v
    | _ => none
  flag?
    | .value v => Leaf.flag? v
    | _ => none
  choice?
    | .value v => Leaf.choice? v
    | _ => none
  isUnset
    | .value v => Leaf.isUnset v
    | _ => false
  isVoid _ := false
  isIntact
    | .broken => false
    | _ => true
  recordsInOrder := true
  choicesAsRecords := true

/-- A text: characters, and places of bytes that belong to none. -/
abbrev Source := List (Option Char)

/-- A document that was read, and what follows it unless the text broke the
rules. -/
structure Part where
  tree : Document.Tree Found
  rest : Option Source

/-- The place where a text breaks the rules. -/
def brokenTree : Document.Tree Found := .scalar .broken

/-- The end of reading. -/
def brokenPart : Part := ⟨brokenTree, none⟩

/-- A text without the blanks in front of it. -/
def skipBlanks : Source → Source
  | some ' ' :: rest => skipBlanks rest
  | some '\t' :: rest => skipBlanks rest
  | some '\n' :: rest => skipBlanks rest
  | some '\r' :: rest => skipBlanks rest
  | s => s

/-! ## Texts -/

/-- The value of a hexadecimal digit. -/
def hexValue? (c : Char) : Option Nat :=
  if c.isDigit then some (c.toNat - '0'.toNat)
  else if 'a' ≤ c ∧ c ≤ 'f' then some (c.toNat - 'a'.toNat + 10)
  else if 'A' ≤ c ∧ c ≤ 'F' then some (c.toNat - 'A'.toNat + 10)
  else none

/-- The number that some hexadecimal digits stand for. -/
def hexNumber? (digits : List (Option Char)) : Option Nat :=
  digits.foldlM (fun n c => do return 16 * n + (← hexValue? (← c))) 0

/-- The character that a letter after a backslash stands for. -/
def escaped? : Char → Option Char
  | '"' => some '"'
  | '\\' => some '\\'
  | '/' => some '/'
  | 'b' => some '\x08'
  | 'f' => some '\x0c'
  | 'n' => some '\n'
  | 'r' => some '\r'
  | 't' => some '\t'
  | _ => none

/-- A 16 bit unit that a text names by number, or a character. -/
inductive Unit16 where
  | char (c : Char)
  | unit (n : Nat)
  | stray

/-- A unit in front of others, and what follows them. -/
def addUnit (u : Unit16) (p : List Unit16 × Source) : List Unit16 × Source :=
  (u :: p.1, p.2)

/--
The inside of a text, up to its closing quotation mark, and what follows that.
None if the text breaks the rules before it ends.
-/
def units : Source → Option (List Unit16 × Source)
  | some '"' :: rest => some ([], rest)
  | some '\\' :: some 'u' :: a :: b :: c :: d :: rest =>
    (hexNumber? [a, b, c, d]).bind fun n => (units rest).map (addUnit (.unit n))
  | some '\\' :: some e :: rest =>
    (escaped? e).bind fun c => (units rest).map (addUnit (.char c))
  | some c :: rest =>
    if c < ' ' ∨ c = '\\' then none else (units rest).map (addUnit (.char c))
  | none :: rest => (units rest).map (addUnit .stray)
  | [] => none

/-- The text that units make up, unless one of them is half of a pair or belongs
to no character. -/
def join? : List Unit16 → Option (List Char)
  | [] => some []
  | .char c :: rest => (join? rest).map (c :: ·)
  | .stray :: _ => none
  | .unit n :: rest =>
    if n < 0xd800 ∨ 0xdfff < n then (join? rest).map (Char.ofNat n :: ·)
    else match rest with
      | .unit m :: rest =>
        if n < 0xdc00 ∧ 0xdc00 ≤ m ∧ m ≤ 0xdfff then
          (join? rest).map
          (Char.ofNat (0x10000 + (n - 0xd800) * 0x400 + (m - 0xdc00)) :: ·)
        else none
      | _ => none

/-- A text after its opening quotation mark. -/
def readText (s : Source) : Part :=
  match units s with
  | none => brokenPart
  | some (us, rest) => match join? us with
    | some cs => ⟨.scalar (.value (.text (String.ofList cs))), some rest⟩
    | none => ⟨.scalar .unreadable, some rest⟩

/-! ## Numbers and names -/

/-- The digits that a text starts with, and what follows them. -/
def takeDigits : Source → List Char × Source
  | some c :: rest =>
    if c.isDigit then
      let (ds, rest) := takeDigits rest
      (c :: ds, rest)
    else ([], some c :: rest)
  | s => ([], s)

/-- The digits before the point. A zero in front stands alone. -/
def takeWhole? (s : Source) : Option (List Char × Source) :=
  match takeDigits s with
  | ([], _) => none
  | ('0' :: _ :: _, _) => none
  | parts => some parts

/-- The digits after the point, if there is a point. -/
def takeFraction? (s : Source) : Option (List Char × Source) :=
  match s with
  | some '.' :: rest => match takeDigits rest with
    | ([], _) => none
    | parts => some parts
  | s => some ([], s)

/-- The exponent, if there is one. -/
def takeExponent? (s : Source) : Option (Int × Source) :=
  let digits (negative : Bool) (s : Source) : Option (Int × Source) :=
    match takeDigits s with
    | ([], _) => none
    | (ds, rest) =>
      some (if negative then -(wholeNumber ds : Int) else wholeNumber ds, rest)
  let sign : Source → Option (Int × Source)
    | some '-' :: rest => digits true rest
    | some '+' :: rest => digits false rest
    | rest => digits false rest
  match s with
  | some 'e' :: rest => sign rest
  | some 'E' :: rest => sign rest
  | s => some (0, s)

/-- A number after its sign. -/
def readNumber (negative : Bool) (s : Source) : Part :=
  let parts : Option (Option Float × Source) := do
    let (whole, s) ← takeWhole? s
    let (fraction, s) ← takeFraction? s
    let (exponent, s) ← takeExponent? s
    return (magnitude? whole fraction exponent, s)
  match parts with
  | none => brokenPart
  | some (none, rest) => ⟨.scalar .unreadable, some rest⟩
  | some (some x, rest) =>
    ⟨.scalar (.value (.number (if negative then -x else x))), some rest⟩

/-- A value with a name of its own, after the first letter of it. -/
def readName (name : String) (v : Value Float) (s : Source) : Part :=
  let n := name.length
  if s.take n = name.toList.map some then ⟨.scalar (.value v), some (s.drop n)⟩
  else brokenPart

/-! ## Lists and records -/

mutual

/-- A document at the start of a text. The first argument bounds the number of
steps. -/
def readPart : Nat → Source → Part
  | 0, _ => brokenPart
  | steps + 1, s =>
    match skipBlanks s with
    | some '"' :: rest => readText rest
    | some '[' :: rest =>
      let (items, rest) := readItems steps true rest
      ⟨.list items, rest⟩
    | some '{' :: rest =>
      let (entries, rest) := readEntries steps true rest
      ⟨.record entries, rest⟩
    | some '-' :: rest => readNumber true rest
    | some 'n' :: rest => readName "ull" .null rest
    | some 't' :: rest => readName "rue" (.flag true) rest
    | some 'f' :: rest => readName "alse" (.flag false) rest
    | s => readNumber false s

/-- Items up to the closing bracket. A comma stands before each item but the
first. -/
def readItems : Nat → Bool → Source → List (Document.Tree Found) × Option Source
  | 0, _, _ => ([brokenTree], none)
  | steps + 1, isFirst, s =>
    let item (s : Source) : List (Document.Tree Found) × Option Source :=
      let part := readPart steps s
      match part.rest with
      | none => ([part.tree], none)
      | some rest =>
        let (items, rest) := readItems steps false rest
        (part.tree :: items, rest)
    match skipBlanks s with
    | some ']' :: rest => ([], some rest)
    | some ',' :: rest => if isFirst then ([brokenTree], none) else item rest
    | s => if isFirst then item s else ([brokenTree], none)

/-- Entries up to the closing brace. A comma stands before each entry but the
first. -/
def readEntries : Nat → Bool → Source →
    List (Document.Tree Found × Document.Tree Found) × Option Source
  | 0, _, _ => ([(brokenTree, brokenTree)], none)
  | steps + 1, isFirst, s =>
    let entry (s : Source) :
        List (Document.Tree Found × Document.Tree Found) × Option Source :=
      match skipBlanks s with
      | some '"' :: rest =>
        let key := readText rest
        match key.rest.map skipBlanks with
        | some (some ':' :: rest) =>
          let value := readPart steps rest
          match value.rest with
          | none => ([(key.tree, value.tree)], none)
          | some rest =>
            let (entries, rest) := readEntries steps false rest
            ((key.tree, value.tree) :: entries, rest)
        | _ => ([(key.tree, brokenTree)], none)
      | _ => ([(brokenTree, brokenTree)], none)
    match skipBlanks s with
    | some '}' :: rest => ([], some rest)
    | some ',' :: rest =>
      if isFirst then ([(brokenTree, brokenTree)], none) else entry rest
    | s => if isFirst then entry s else ([(brokenTree, brokenTree)], none)

end

/-- The first document of a text. -/
def read (s : Source) : Document.Tree Found :=
  (readPart (2 * s.length + 2) s).tree

end LaneFlow.Json
