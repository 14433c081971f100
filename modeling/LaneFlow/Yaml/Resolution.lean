import LaneFlow.Document.Value
import LaneFlow.Yaml.Found

/-!
# What a document of YAML says by itself

Mostly it is asked of a scalar whether it is a text, a number and so on. Where
nothing is asked yet, its own look decides. A plain scalar is nothing, true or
false, a whole number, a decimal number, or else a text; a scalar in quotes is a
text; a standard tag says what its scalar must be.

A run of digits that starts with a zero is a text. Whole numbers may also be
written to the bases 16, 8 and 2. Those that need more than a machine word, but
not more than two, are refused.

## Main results

* `Yaml.resolveItems?_eq_mapM`: what a list says is said by its items.
-/

namespace LaneFlow.Yaml

open LaneFlow.Document

/-! ## Whole numbers -/

/-- The value of a digit to a base of at most sixteen. -/
def digit? (base : Nat) (c : Char) : Option Nat :=
  let value :=
    if c.isDigit then c.toNat - '0'.toNat
    else if 'a' ≤ c && c ≤ 'f' then c.toNat - 'a'.toNat + 10
    else if 'A' ≤ c && c ≤ 'F' then c.toNat - 'A'.toNat + 10
    else base
  if value < base then some value else none

/-- The number that one or more digits to some base stand for. -/
def digits? (base : Nat) : List Char → Option Nat
  | [] => none
  | cs => cs.foldlM (fun n c => (digit? base c).map (base * n + ·)) 0

/-- Whether digits are more than one and start with a zero. -/
def isPadded : List Char → Bool
  | '0' :: c :: rest => (c :: rest).all Char.isDigit
  | _ => false

/-- A whole number without its sign. -/
def magnitude? : List Char → Option Nat
  | '0' :: 'x' :: rest => digits? 16 rest
  | '0' :: 'o' :: rest => digits? 8 rest
  | '0' :: 'b' :: rest => digits? 2 rest
  | cs => if isPadded cs then none else digits? 10 cs

/-- A whole number with an optional sign. -/
def integer? : List Char → Option Int
  | '-' :: rest => (magnitude? rest).map fun n => -(n : Int)
  | '+' :: rest => (magnitude? rest).map fun n => (n : Int)
  | cs => (magnitude? cs).map fun n => (n : Int)

/-- Whether a whole number fits into one machine word. -/
def isWord (n : Int) : Bool :=
  -0x8000000000000000 ≤ n && n < 0x10000000000000000

/-- Whether a whole number fits into two machine words. -/
def isDoubleWord (n : Int) : Bool :=
  -0x80000000000000000000000000000000 ≤ n &&
    n < 0x100000000000000000000000000000000

/-- The number nearest to a whole number. -/
def wholeFloat (n : Int) : Float :=
  let x := Decimal.nearest n.natAbs 0
  if n < 0 then -x else x

/-! ## Scalars -/

/-- A text without its sign. -/
def dropSign : List Char → List Char
  | '-' :: rest => rest
  | '+' :: rest => rest
  | cs => cs

/-- What a text says that is no whole number. -/
def decimalMeaning (s : String) : Value Float :=
  if isPadded (dropSign s.toList) then .text s
  else match number? s with
    | some x => .number x
    | none => .text s

/-- What a plain scalar says. -/
def plainMeaning? (s : String) : Option (Value Float) :=
  if s.isEmpty || isNull s then some .null
  else match flag? s, integer? s.toList with
    | some b, _ => some (.flag b)
    | none, some n =>
      if isWord n then some (.number (wholeFloat n))
      else if isDoubleWord n then none
      else some (decimalMeaning s)
    | none, none => some (decimalMeaning s)

/-- What a scalar says that has a tag. Tags of one's own say nothing here. -/
def taggedMeaning? (s tag : String) : Option (Value Float) :=
  if (tagName? tag).isSome then none
  else if tag == "tag:yaml.org,2002:bool" then (flag? s).map .flag
  else if tag == "tag:yaml.org,2002:int" then
    ((integer? s.toList).filter isWord).map fun n => .number (wholeFloat n)
  else if tag == "tag:yaml.org,2002:float" then (number? s).map .number
  else if tag == nullTag then if isNull s then some .null else none
  else some (.text s)

/-- What a scalar says. -/
def Found.meaning? : Found → Option (Value Float)
  | .scalar s true none => plainMeaning? s
  | .scalar s false none => some (.text s)
  | .scalar s _ (some tag) => taggedMeaning? s tag
  | .endless => none
  | .broken => none

/-! ## Documents -/

mutual

/-- What a document says. -/
def resolve? : Document.Tree Found → Option (Document.Tree (Value Float))
  | .scalar value => value.meaning?.map .scalar
  | .list items => (resolveItems? items).map .list
  | .record entries => (resolveEntries? entries).map .record

/-- What the items of a list say. -/
def resolveItems? :
    List (Document.Tree Found) → Option (List (Document.Tree (Value Float)))
  | [] => some []
  | item :: rest => do return (← resolve? item) :: (← resolveItems? rest)

/-- What the entries of a record say. -/
def resolveEntries? :
    List (Document.Tree Found × Document.Tree Found) →
      Option (List (Document.Tree (Value Float) × Document.Tree (Value Float)))
  | [] => some []
  | (key, value) :: rest => do
    return (← resolve? key, ← resolve? value) :: (← resolveEntries? rest)

end

theorem resolveItems?_eq_mapM (items : List (Document.Tree Found)) :
    resolveItems? items = items.mapM resolve? := by
  induction items with
  | nil => rfl
  | cons item rest ih => rw [resolveItems?, List.mapM_cons, ih]

end LaneFlow.Yaml
