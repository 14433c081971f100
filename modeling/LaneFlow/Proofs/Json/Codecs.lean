import LaneFlow.Document.Standard
import LaneFlow.Proofs.Document.Characters
import LaneFlow.Proofs.Json.Rereading

/-!
# Faithful codecs of JSON

The standard codec finds every number that its reader takes for the number that
was written.  The reader rounds more than once, so a few numbers are not among
them.  A codec that keeps all numbers is a small change away: those few are
written as texts with all their bits, behind a mark.  Where there are none of
them, and no texts that start with the mark, both codecs write the same.

## Main results

* `faithful_standard` — what the standard codec keeps.
* `Marked.unmark_mark` — every value is told from its marked form.
* `faithful_marked` — the codec with marks keeps everything.
-/

namespace LaneFlow.Json

open LaneFlow.Document

/-- Values are found in JSON as they are. -/
theorem transcribes_value (keeps : Float → Prop) :
    Transcribes keeps Found.value where
  text?_eq _ := rfl
  number?_eq _ _ := rfl
  isUnset_null := rfl
  isUnset_text _ := rfl
  isUnset_number _ _ := rfl

/-- The standard codec keeps the numbers that it reads back. -/
theorem faithful_standard : Codec.Faithful NumberReadsBack Found.value where
  toTranscribes := transcribes_value NumberReadsBack
  readJson_writeJson t ht := by
    show read (Utf8.decode (Utf8.encode (pretty t))) = _
    rw [Utf8.decode_encode]
    exact read_write isBlank_lines ht 0

namespace Marked

/-- The character behind which a text is not meant as it stands. -/
def sign : Char := '#'

/-- A value as it is written: by its bits if it is a number that would not be
read back. -/
def mark : Value Float → Value Float
  | .number x =>
    if NumberReadsBack x then .number x
    else .text (String.ofList (sign :: Nat.toDigits 10 x.toBits.toNat))
  | .text s =>
    if s.toList.head? = some sign then .text (String.ofList (sign :: s.toList))
    else .text s
  | v => v

/-- The value that is meant by some characters. -/
def meaning : List Char → Value Float
  | '#' :: '#' :: rest => .text (String.ofList ('#' :: rest))
  | '#' :: digits =>
    .number (.ofBits (UInt64.ofNat (Nat.ofDigitChars 10 digits 0)))
  | cs => .text (String.ofList cs)

/-- A value as it is meant. -/
def unmark : Found → Found
  | .value (.text s) => .value (meaning s.toList)
  | v => v

theorem meaning_digits (x : Float) :
    meaning (sign :: Nat.toDigits 10 x.toBits.toNat) = .number x := by
  have hvalue := Nat.ofDigitChars_toDigits (b := 10) (n := x.toBits.toNat)
    (by decide) (by decide)
  have hdigits := fun c =>
    Nat.isDigit_of_mem_toDigits (b := 10) (n := x.toBits.toNat) (c := c)
      (by decide) (by decide)
  generalize Nat.toDigits 10 x.toBits.toNat = digits at hvalue hdigits
  unfold meaning
  split
  · -- No digit is the mark.
    rename_i rest h
    obtain ⟨-, rfl⟩ := List.cons.inj h
    exact absurd (hdigits '#' (by simp)) (by decide)
  · rename_i digits' _ h
    obtain ⟨-, rfl⟩ := List.cons.inj h
    rw [hvalue, UInt64.ofNat_toNat, Float.ofBits_toBits]
  · rename_i h
    exact absurd rfl (h digits)

theorem meaning_of_plain {cs : List Char} (h : cs.head? ≠ some sign) :
    meaning cs = .text (String.ofList cs) := by
  unfold meaning
  split
  · exact absurd rfl h
  · exact absurd rfl h
  · rfl

/-- Every value is told from its marked form. -/
theorem unmark_mark (v : Value Float) :
    unmark (.value (mark v)) = .value v := by
  cases v with
  | null => rfl
  | flag b => rfl
  | number x =>
      rw [mark]
      split
      · rfl
      · rw [unmark, String.toList_ofList, meaning_digits]
  | text s =>
      rw [mark]
      split
      · rename_i h
        rw [unmark, String.toList_ofList]
        cases hs : s.toList with
        | nil => rw [hs] at h; cases h
        | cons c cs =>
            rw [hs] at h
            obtain rfl : c = '#' := Option.some.inj h
            rw [sign, meaning, ← hs, String.ofList_toList]
      · rename_i h
        rw [unmark, meaning_of_plain h, String.ofList_toList]

theorem exists_mark_text (s : String) : ∃ s', mark (.text s) = .text s' := by
  rw [mark]
  split <;> exact ⟨_, rfl⟩

theorem numberReadsBack_of_mark {v : Value Float} {x : Float}
    (h : mark v = .number x) : NumberReadsBack x := by
  cases v with
  | null => cases h
  | flag b => cases h
  | number y =>
      rw [mark] at h
      split at h
      · cases h
        assumption
      · cases h
  | text s =>
      obtain ⟨s', hs'⟩ := exists_mark_text s
      rw [hs'] at h
      cases h

/-- What is marked is read back, whatever its numbers are. -/
theorem writable_mark {keeps : Float → Prop} {depth : Nat}
    {t : Document.Tree (Value Float)} (h : t.Writable keeps depth) :
    (t.map mark).Writable NumberReadsBack depth := by
  induction h with
  | scalar _ => exact .scalar fun x hx => numberReadsBack_of_mark hx
  | list _ ih =>
      rw [Document.Tree.map, Tree.mapItems_eq]
      refine .list fun t ht => ?_
      obtain ⟨u, hu, rfl⟩ := List.mem_map.1 ht
      exact ih u hu
  | record hkeys _ ih =>
      rw [Document.Tree.map, Tree.mapEntries_eq]
      refine .record (fun e he => ?_) fun e he => ?_
      · obtain ⟨entry, hentry, rfl⟩ := List.mem_map.1 he
        obtain ⟨name, hname⟩ := hkeys entry hentry
        obtain ⟨name', hname'⟩ := exists_mark_text name
        refine ⟨name', ?_⟩
        rw [hname, Tree.ofText, Document.Tree.map, hname']
        rfl
      · obtain ⟨entry, hentry, rfl⟩ := List.mem_map.1 he
        exact ih entry hentry

end Marked

open Marked

/-- The codec that marks the numbers which would not be read back. -/
@[reducible] def markedCodec : Codec :=
  { standardCodec with
    JsonValue := Found
    jsonLeaf := inferInstance
    readJson := fun file => (read (Utf8.decode file.bytes)).map unmark
    writeJson := fun t => Utf8.encode (pretty (t.map mark)) }

/-- The codec with marks keeps everything. -/
theorem faithful_marked (keeps : Float → Prop) :
    @Codec.Faithful markedCodec keeps Found.value :=
  @Codec.Faithful.mk markedCodec _ _ (transcribes_value keeps) fun t ht => by
    show (read (Utf8.decode (Utf8.encode (pretty (t.map mark))))).map unmark = _
    have hread : read (letters (pretty (t.map mark))) = found (t.map mark) :=
      read_write isBlank_lines (writable_mark ht) 0
    rw [Utf8.decode_encode]
    refine (congrArg (Document.Tree.map unmark) hread).trans ?_
    simp only [found, Tree.map_map, unmark_mark]

end LaneFlow.Json
