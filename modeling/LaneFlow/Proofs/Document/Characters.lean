import Mathlib
import LaneFlow.Text.Utf8

/-!
# Characters of a file

A text that is written to a file as UTF-8 is read off the bytes again, character
by character.  The first byte of a character tells how many more belong to it,
so what follows a character does not matter.

## Main results

* `Utf8.first?_encodeChar` — the bytes of a character stand for it.
* `Utf8.decode_encode` — the characters of a text come back.
-/

namespace LaneFlow.Utf8

/-- A byte inside a character holds six bits of its number. -/
theorem tail?_ofNat {low high n : Nat} (hlow : low ≤ n % 64 + 128)
    (hhigh : n % 64 + 128 ≤ high) :
    tail? low high (UInt8.ofNat (n % 64 + 128)) = some (n % 64) := by
  have hbyte : (UInt8.ofNat (n % 64 + 128)).toNat = n % 64 + 128 :=
    UInt8.toNat_ofNat_of_lt' (show _ < 256 by omega)
  rw [tail?, hbyte, if_pos ⟨hlow, hhigh⟩]
  congr 1
  omega

theorem ofNat_eq_iff {m n : Nat} (hm : m < 256) (hn : n < 256) :
    UInt8.ofNat m = UInt8.ofNat n ↔ m = n := by
  rw [← UInt8.toNat_inj, UInt8.toNat_ofNat_of_lt' hm, UInt8.toNat_ofNat_of_lt' hn]

theorem two?_ofNat {n : Nat} (hlow : 0x7f < n) (hhigh : n ≤ 0x7ff) :
    two? (UInt8.ofNat (n / 64 % 32 + 192)) (UInt8.ofNat (n % 64 + 128)) = some n := by
  have hbyte : (UInt8.ofNat (n / 64 % 32 + 192)).toNat = n / 64 % 32 + 192 :=
    UInt8.toNat_ofNat_of_lt' (show _ < 256 by omega)
  rw [two?, tail?_ofNat (by omega) (by omega)]
  simp only [hbyte, Option.bind_eq_bind, Option.bind_some]
  rw [if_pos (by omega)]
  congr 1
  omega

/-- The first byte of a longer character is that of no character of two. -/
theorem two?_eq_none {a : UInt8} (b : UInt8) (h : 0xdf < a.toNat) :
    two? a b = none := by
  rw [two?]
  cases tail? 0x80 0xbf b with
  | none => rfl
  | some x => exact if_neg (by omega)

theorem three?_ofNat {n : Nat} (hlow : 0x7ff < n) (hhigh : n ≤ 0xffff)
    (hwhole : n < 0xd800 ∨ 0xdfff < n) :
    three? (UInt8.ofNat (n / 4096 % 16 + 224)) (UInt8.ofNat (n / 64 % 64 + 128))
      (UInt8.ofNat (n % 64 + 128)) = some n := by
  have hbyte : (UInt8.ofNat (n / 4096 % 16 + 224)).toNat = n / 4096 % 16 + 224 :=
    UInt8.toNat_ofNat_of_lt' (show _ < 256 by omega)
  have hfirst : UInt8.ofNat (n / 4096 % 16 + 224) = 0xe0 ↔ n / 4096 % 16 + 224 = 0xe0 :=
    ofNat_eq_iff (n := 0xe0) (by omega) (by omega)
  have hlast : UInt8.ofNat (n / 4096 % 16 + 224) = 0xed ↔ n / 4096 % 16 + 224 = 0xed :=
    ofNat_eq_iff (n := 0xed) (by omega) (by omega)
  simp only [three?, hfirst, hlast, hbyte]
  rw [if_neg (by omega), tail?_ofNat (by split <;> omega) (by split <;> omega),
    tail?_ofNat (by omega) (by omega)]
  simp only [Option.bind_eq_bind, Option.bind_some]
  congr 1
  omega

theorem three?_eq_none {a : UInt8} (b c : UInt8) (h : 0xef < a.toNat) :
    three? a b c = none := by
  rw [three?, if_pos (.inr h)]
  rfl

theorem four?_ofNat {n : Nat} (hlow : 0xffff < n) (hhigh : n < 0x110000) :
    four? (UInt8.ofNat (n / 262144 % 8 + 240)) (UInt8.ofNat (n / 4096 % 64 + 128))
      (UInt8.ofNat (n / 64 % 64 + 128)) (UInt8.ofNat (n % 64 + 128)) = some n := by
  have hbyte : (UInt8.ofNat (n / 262144 % 8 + 240)).toNat = n / 262144 % 8 + 240 :=
    UInt8.toNat_ofNat_of_lt' (show _ < 256 by omega)
  have hfirst : UInt8.ofNat (n / 262144 % 8 + 240) = 0xf0 ↔ n / 262144 % 8 + 240 = 0xf0 :=
    ofNat_eq_iff (n := 0xf0) (by omega) (by omega)
  have hlast : UInt8.ofNat (n / 262144 % 8 + 240) = 0xf4 ↔ n / 262144 % 8 + 240 = 0xf4 :=
    ofNat_eq_iff (n := 0xf4) (by omega) (by omega)
  simp only [four?, hfirst, hlast, hbyte]
  rw [if_neg (by omega), tail?_ofNat (by split <;> omega) (by split <;> omega),
    tail?_ofNat (by omega) (by omega), tail?_ofNat (by omega) (by omega)]
  simp only [Option.bind_eq_bind, Option.bind_some]
  congr 1
  omega

/-- A byte that is more than a character begins one of several bytes. -/
theorem first?_ofNat {k : Nat} (hlow : 128 ≤ k) (hhigh : k < 256) (b : UInt8)
    (rest : List UInt8) :
    first? (UInt8.ofNat k) (b :: rest) =
      ((two? (UInt8.ofNat k) b).map (·, 1)).or (match rest with
        | [] => none
        | c :: rest => ((three? (UInt8.ofNat k) b c).map (·, 2)).or (match rest with
          | [] => none
          | d :: _ => (four? (UInt8.ofNat k) b c d).map (·, 3))) := by
  have hlong : ¬ UInt8.ofNat k < 0x80 := by
    rw [UInt8.lt_iff_toNat_lt, UInt8.toNat_ofNat_of_lt' hhigh]
    exact Nat.not_lt.2 hlow
  rw [first?.eq_def]
  exact if_neg hlong

/-- The bytes of a character stand for it, whatever follows them. -/
theorem first?_encodeChar (c : Char) (rest : List UInt8) :
    ∃ a more, String.utf8EncodeChar c = a :: more ∧
      first? a (more ++ rest) = some (c.toNat, more.length) := by
  have hvalid : c.toNat < 0xd800 ∨ 0xdfff < c.toNat ∧ c.toNat < 0x110000 := c.valid
  have htoNat : ∀ k : Nat, k < 256 → (UInt8.ofNat k).toNat = k :=
    fun k hk => UInt8.toNat_ofNat_of_lt' hk
  have heq := String.utf8EncodeChar.eq_def c
  simp only [Char.toNat_val] at heq
  generalize c.toNat = n at *
  -- The cases are those of the encoder: one byte, two, three and four.
  by_cases hone : n ≤ 0x7f
  · rw [if_pos hone] at heq
    refine ⟨_, [], heq, ?_⟩
    have hbyte := htoNat n (by omega)
    have hshort : UInt8.ofNat n < 0x80 := by
      rw [UInt8.lt_iff_toNat_lt, hbyte]
      exact Nat.lt_succ_of_le hone
    rw [first?.eq_def, if_pos hshort, hbyte]
    rfl
  rw [if_neg hone] at heq
  by_cases htwo : n ≤ 0x7ff
  · rw [if_pos htwo] at heq
    refine ⟨_, _, heq, ?_⟩
    rw [List.cons_append, first?_ofNat (by omega) (by omega),
      two?_ofNat (by omega) htwo]
    rfl
  rw [if_neg htwo] at heq
  by_cases hthree : n ≤ 0xffff
  · rw [if_pos hthree] at heq
    refine ⟨_, _, heq, ?_⟩
    have hbyte := htoNat (n / 4096 % 16 + 224) (by omega)
    rw [List.cons_append, first?_ofNat (by omega) (by omega),
      two?_eq_none _ (by omega)]
    simp only [List.cons_append]
    rw [three?_ofNat (by omega) hthree (by omega)]
    rfl
  · rw [if_neg hthree] at heq
    refine ⟨_, _, heq, ?_⟩
    have hbyte := htoNat (n / 262144 % 8 + 240) (by omega)
    rw [List.cons_append, first?_ofNat (by omega) (by omega),
      two?_eq_none _ (by omega)]
    simp only [List.cons_append]
    rw [three?_eq_none _ _ (by omega), four?_ofNat (by omega) (by omega)]
    rfl

theorem decodeFrom_append (skipped rest : List UInt8) :
    decodeFrom skipped.length (skipped ++ rest) = decodeFrom 0 rest := by
  induction skipped with
  | nil => rfl
  | cons b skipped ih => exact ih

/-- The characters of a text come back. -/
theorem decodeFrom_flatMap (cs : List Char) :
    decodeFrom 0 (cs.flatMap String.utf8EncodeChar) = cs.map some := by
  induction cs with
  | nil => rfl
  | cons c cs ih =>
      obtain ⟨a, more, hbytes, hfirst⟩ :=
        first?_encodeChar c (cs.flatMap String.utf8EncodeChar)
      rw [List.flatMap_cons, hbytes, List.cons_append, decodeFrom, hfirst]
      dsimp only
      rw [decodeFrom_append, ih, Char.ofNat_toNat, List.map_cons]

theorem encode_eq (s : String) : encode s = s.toList.flatMap String.utf8EncodeChar := by
  have hbytes : s.toByteArray = s.toList.utf8Encode := by
    rw [← String.toByteArray_ofList, String.ofList_toList]
  rw [encode, String.toUTF8_eq_toByteArray, hbytes, List.utf8Encode,
    List.toList_data_toByteArray]

/-- **A text is read off its bytes.** -/
theorem decode_encode (s : String) : decode (encode s) = s.toList.map some := by
  rw [encode_eq, decode, decodeFrom_flatMap]

end LaneFlow.Utf8
