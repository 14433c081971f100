import LaneFlow.Decimal.Reading
import LaneFlow.Document.Tree

/-!
# Scalars of YAML

What a scalar says depends on what is asked of it. Any scalar is a text. Only a
plain one can be a number, true or false, or say that there is nothing. A choice
is a text or the name of a tag.

Numbers are finite or written as one of the names for infinity and for what is
not a number.

## Main results

* `Yaml.named_or_finite_of_number?`: a number has a name or is finite.
-/

namespace LaneFlow.Yaml

open LaneFlow.Document

/-- A scalar as it was found in a text. -/
inductive Found where
  | scalar (text : String) (isPlain : Bool) (tag : Option String)
  /-- A repetition of something that contains the repetition. -/
  | endless
  | broken
deriving Repr, DecidableEq

/-- Whether a text says that there is nothing. -/
def isNull (s : String) : Bool :=
  s == "null" || s == "Null" || s == "NULL" || s == "~"

/-- The truth that a text stands for. -/
def flag? : String → Option Bool
  | "true" => some true
  | "True" => some true
  | "TRUE" => some true
  | "false" => some false
  | "False" => some false
  | "FALSE" => some false
  | _ => none

/-- A text without a plus sign in front, unless a second sign follows. -/
def dropPlus? (s : String) : Option String :=
  match s.toList with
  | '+' :: '+' :: _ => none
  | '+' :: '-' :: _ => none
  | '+' :: rest => some (String.ofList rest)
  | _ => some s

/-- The number that a name stands for. -/
def namedNumber? (s unsigned : String) : Option Float :=
  if unsigned == ".inf" || unsigned == ".Inf" || unsigned == ".INF" then
    some (1.0 / 0.0)
  else if s == "-.inf" || s == "-.Inf" || s == "-.INF" then some (-(1.0 / 0.0))
  else if s == ".nan" || s == ".NaN" || s == ".NAN" then some (0.0 / 0.0)
  else none

/-- The number that a text stands for. -/
def number? (s : String) : Option Float := do
  let unsigned ← dropPlus? s
  Option.or (namedNumber? s unsigned)
    ((Decimal.ofText? unsigned).filter Float.isFinite)

theorem named_or_finite_of_number? {s : String} {x : Float}
    (h : number? s = some x) :
    (∃ unsigned, namedNumber? s unsigned = some x) ∨ x.isFinite = true := by
  obtain ⟨unsigned, -, h⟩ := Option.bind_eq_some_iff.1 h
  rcases Option.or_eq_some_iff.1 h with hnamed | ⟨-, hdigits⟩
  · exact .inl ⟨unsigned, hnamed⟩
  · exact .inr (Option.filter_eq_some_iff.1 hdigits).2

/-- The tag of what says that there is nothing. -/
def nullTag : String := "tag:yaml.org,2002:null"

/-- The name in a tag that is not one of the standard ones. -/
def tagName? (tag : String) : Option String :=
  match tag.toList with
  | ['!'] => some "!"
  | '!' :: rest => some (String.ofList rest)
  | _ => none

/-- The choice that a scalar makes. A tag that makes it stands in front of
nothing. -/
def choice? (text : String) (isPlain : Bool) (tag : Option String) :
    Option String :=
  match tag.bind tagName? with
  | some name =>
    if isPlain && (text.isEmpty || isNull text) then some name else none
  | none => some text

instance : Leaf Found Float where
  text?
    | .scalar text _ _ => some text
    | _ => none
  number?
    | .scalar text true _ => number? text
    | _ => none
  flag?
    | .scalar text true _ => flag? text
    | _ => none
  choice?
    | .scalar text isPlain tag => choice? text isPlain tag
    | _ => none
  isUnset
    | .scalar text true none => text.isEmpty || isNull text
    | .scalar text true (some tag) => tag == nullTag && isNull text
    | _ => false
  isVoid
    | .scalar text true _ => text.isEmpty
    | _ => false
  isIntact f := f != .broken
  recordsInOrder := false
  choicesAsRecords := false

end LaneFlow.Yaml
