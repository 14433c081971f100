import LaneFlow.Text.Utf8

/-!
# The characters of a YAML text

A YAML text is a file of bytes. It is in UTF-8 unless it starts with the byte
order mark of one of the two 16 bit encodings. A mark is no part of the text.
Most control characters are not allowed anywhere, and neither are bytes that
belong to no character.

## Main results

* `Yaml.isAllowed_of_source?`: a text holds no character that is not allowed.
-/

namespace LaneFlow.Yaml

/-- Whether a character may stand in a text. -/
def isAllowed (c : Char) : Bool :=
  c == '\t' || c == '\n' || c == '\r' || (' ' ≤ c && c ≤ '~') ||
    c == '\u0085' ||
    ('\u00a0' ≤ c && c ≤ '\ufffd' && c != '\ufeff') || 0x10000 ≤ c.toNat

/-- The 16 bit units of some bytes, given how two bytes make a unit; none if a
byte is left over. -/
def units? (unit : UInt8 → UInt8 → Nat) : List UInt8 → Option (List Nat)
  | [] => some []
  | [_] => none
  | a :: b :: rest => (units? unit rest).map (unit a b :: ·)

/-- The characters of some 16 bit units; none if half of a pair is missing. -/
def ofUnits? : List Nat → Option (List Char)
  | [] => some []
  | [n] => if 0xd800 ≤ n ∧ n ≤ 0xdfff then none else some [Char.ofNat n]
  | n :: m :: rest =>
    if n < 0xd800 ∨ 0xdfff < n then
      (ofUnits? (m :: rest)).map (Char.ofNat n :: ·)
    else if n < 0xdc00 ∧ 0xdc00 ≤ m ∧ m ≤ 0xdfff then
      (ofUnits? rest).map
        (Char.ofNat (0x10000 + (n - 0xd800) * 0x400 + (m - 0xdc00)) :: ·)
    else none

/-- The characters of a file, whether they are allowed or not. -/
def characters? : List UInt8 → Option (List Char)
  | 0xef :: 0xbb :: 0xbf :: rest => (Utf8.decode rest).mapM id
  | 0xff :: 0xfe :: rest =>
    (units? (fun a b => a.toNat + 256 * b.toNat) rest).bind ofUnits?
  | 0xfe :: 0xff :: rest =>
    (units? (fun a b => 256 * a.toNat + b.toNat) rest).bind ofUnits?
  | bytes => (Utf8.decode bytes).mapM id

/-- The text of a file, unless it holds something that no text may hold. -/
def source? (bytes : List UInt8) : Option (List Char) :=
  (characters? bytes).filter (·.all isAllowed)

theorem isAllowed_of_source? {bytes : List UInt8} {cs : List Char}
    (h : source? bytes = some cs) : ∀ c ∈ cs, isAllowed c :=
  List.all_eq_true.1 (Option.filter_eq_some_iff.1 h).2

end LaneFlow.Yaml
