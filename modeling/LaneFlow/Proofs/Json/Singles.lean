import Mathlib
import LaneFlow.Json.Reader
import LaneFlow.Json.Writer

/-!
# Single values read back

A text that is written between quotation marks is read as it was, whatever its
characters are and whatever follows the closing mark.  What is read as a number
stays the same when more text follows, as long as that does not go on with the
number.

## Main results

* `readText_written` — a text is read back.
* `readNumber_append`, `readPart_append` — a number is read in front of a text.
-/

namespace LaneFlow.Json

open LaneFlow.Document LaneFlow.Decimal

/-- A text as the reader meets it. -/
def letters (s : String) : Source := s.toList.map some

/-! ## Texts -/

/-- A character of a text stands for itself inside the text. -/
def Unit16.Means (u : Unit16) (c : Char) : Prop :=
  ∀ us, join? (u :: us) = (join? us).map (c :: ·)

theorem means_char (c : Char) : (Unit16.char c).Means c := fun _ => rfl

theorem means_unit {c : Char} (h : c < ' ') : (Unit16.unit c.toNat).Means c := by
  intro us
  have hlt : c.toNat < 0xd800 := Nat.lt_trans h (by decide)
  rw [join?.eq_def]
  simp only [hlt, true_or, if_true, Char.ofNat_toNat]

theorem byNumber_ofNat : ∀ n < 32, byNumber (Char.ofNat n) =
    ['\\', 'u', '0', '0', Nat.digitChar (n / 16), Nat.digitChar (n % 16)] := by
  decide +kernel

theorem hexNumber?_digitChar : ∀ n < 32, hexNumber? [some '0', some '0',
    some (Nat.digitChar (n / 16)), some (Nat.digitChar (n % 16))] = some n := by
  decide +kernel

theorem units_byNumber {c : Char} (h : c < ' ') (rest : Source) :
    units ((byNumber c).map some ++ rest) =
      (units rest).map (addUnit (.unit c.toNat)) := by
  have hlt : c.toNat < 32 := h
  have hnumber := byNumber_ofNat c.toNat hlt
  rw [Char.ofNat_toNat] at hnumber
  simp only [hnumber, List.map_cons, List.map_nil, List.cons_append, List.nil_append,
    units, hexNumber?_digitChar c.toNat hlt, Option.bind_some]

theorem units_plain {c : Char} (hquote : c ≠ '"') (hescape : c ≠ '\\') (h : ¬ c < ' ')
    (rest : Source) :
    units (some c :: rest) = (units rest).map (addUnit (.char c)) := by
  rw [units.eq_def]
  split <;> simp_all

theorem units_textChar (c : Char) (rest : Source) :
    ∃ u : Unit16, u.Means c ∧
      units ((textChar c).map some ++ rest) = (units rest).map (addUnit u) := by
  unfold textChar
  split
  case h_8 hquote hescape _ _ _ _ _ =>
    split
    · exact ⟨_, means_unit ‹_›, units_byNumber ‹_› rest⟩
    · exact ⟨_, means_char _, units_plain hquote hescape ‹_› rest⟩
  all_goals
    exact ⟨_, means_char _, rfl⟩

/-- The inside of a text holds its characters. -/
theorem units_written (cs : List Char) (rest : Source) :
    ∃ us, units ((cs.flatMap textChar).map some ++ some '"' :: rest) = some (us, rest) ∧
      join? us = some cs := by
  induction cs with
  | nil => exact ⟨[], rfl, rfl⟩
  | cons c cs ih =>
      obtain ⟨us, hunits, hjoin⟩ := ih
      obtain ⟨u, hmeans, hchar⟩ :=
        units_textChar c ((cs.flatMap textChar).map some ++ some '"' :: rest)
      refine ⟨u :: us, ?_, ?_⟩
      · rw [List.flatMap_cons, List.map_append, List.append_assoc, hchar, hunits]
        rfl
      · rw [hmeans, hjoin]
        rfl

/-- A text is read back. -/
theorem readText_written (s : String) (rest : Source) :
    readText ((s.toList.flatMap textChar).map some ++ some '"' :: rest) =
      ⟨.scalar (.value (.text s)), some rest⟩ := by
  obtain ⟨us, hunits, hjoin⟩ := units_written s.toList rest
  unfold readText
  rw [hunits]
  dsimp only
  rw [hjoin]
  dsimp only
  rw [String.ofList_toList]

theorem letters_ofText (s : String) :
    letters (ofText s) =
      some '"' :: ((s.toList.flatMap textChar).map some ++ [some '"']) := by
  simp [letters, ofText]

/-! ## Numbers -/

/-- A character that may go on a number that was begun. -/
def goesOn (c : Char) : Bool := c.isDigit || c ∈ ['.', 'e', 'E', '+', '-']

/-- No number goes on with a text. -/
def Ends (rest : Source) : Prop := ∀ c s, rest = some c :: s → goesOn c = false

theorem ends_cons {c : Char} (h : goesOn c = false) (s : Source) : Ends (some c :: s) := by
  rintro _ _ ⟨⟩
  exact h

variable {rest : Source}

theorem Ends.takeDigits_eq (h : Ends rest) : takeDigits rest = ([], rest) := by
  rw [takeDigits.eq_def]
  split
  · rename_i c s
    have hc := h c s rfl
    simp only [goesOn, Bool.or_eq_false_iff] at hc
    simp [hc.1]
  · rfl

theorem takeDigits_append (h : Ends rest) (s : Source) :
    takeDigits (s ++ rest) = ((takeDigits s).1, (takeDigits s).2 ++ rest) := by
  induction s with
  | nil => rw [List.nil_append, h.takeDigits_eq]; rfl
  | cons c s ih =>
      cases c with
      | none => rfl
      | some c =>
          simp only [List.cons_append, takeDigits, ih]
          split <;> rfl

theorem takeWhole?_append (h : Ends rest) {s t : Source} {ds : List Char}
    (hs : takeWhole? s = some (ds, t)) : takeWhole? (s ++ rest) = some (ds, t ++ rest) := by
  unfold takeWhole? at hs ⊢
  rw [takeDigits_append h]
  generalize takeDigits s = parts at hs
  obtain ⟨digits, after⟩ := parts
  split at hs
  · cases hs
  · cases hs
  · obtain ⟨rfl, rfl⟩ := Prod.mk.inj (Option.some.inj hs)
    split
    · simp_all
    · simp_all
    · rfl

theorem Ends.takeFraction?_eq (h : Ends rest) : takeFraction? rest = some ([], rest) := by
  unfold takeFraction?
  split
  · rename_i s
    exact absurd (h '.' s rfl) (by decide)
  · rfl

theorem takeFraction?_append (h : Ends rest) {s t : Source} {ds : List Char}
    (hs : takeFraction? s = some (ds, t)) :
    takeFraction? (s ++ rest) = some (ds, t ++ rest) := by
  unfold takeFraction? at hs
  split at hs
  · rename_i s
    rw [List.cons_append, takeFraction?]
    rw [takeDigits_append h]
    generalize takeDigits s = parts at hs
    obtain ⟨digits, after⟩ := parts
    split at hs
    · cases hs
    · obtain ⟨rfl, rfl⟩ := Prod.mk.inj (Option.some.inj hs)
      split
      · simp_all
      · rfl
  · rename_i hpoint
    obtain ⟨rfl, rfl⟩ := Prod.mk.inj (Option.some.inj hs)
    cases s with
    | nil => exact h.takeFraction?_eq
    | cons c s =>
        rw [List.cons_append]
        unfold takeFraction?
        split
        · rename_i heq
          cases heq
          exact absurd rfl (hpoint s)
        · rfl

/-- The digits of an exponent after its sign. -/
def exponentDigits? (negative : Bool) (s : Source) : Option (Int × Source) :=
  match takeDigits s with
  | ([], _) => none
  | (ds, rest) => some (if negative then -(wholeNumber ds : Int) else wholeNumber ds, rest)

/-- An exponent after its letter. -/
def exponentAfter? : Source → Option (Int × Source)
  | some '-' :: rest => exponentDigits? true rest
  | some '+' :: rest => exponentDigits? false rest
  | rest => exponentDigits? false rest

theorem takeExponent?_eq (s : Source) : takeExponent? s = match s with
    | some 'e' :: rest => exponentAfter? rest
    | some 'E' :: rest => exponentAfter? rest
    | s => some (0, s) := rfl

theorem exponentDigits?_append (h : Ends rest) {negative : Bool} {s t : Source} {e : Int}
    (hs : exponentDigits? negative s = some (e, t)) :
    exponentDigits? negative (s ++ rest) = some (e, t ++ rest) := by
  unfold exponentDigits? at hs ⊢
  rw [takeDigits_append h]
  generalize takeDigits s = parts at hs
  obtain ⟨digits, after⟩ := parts
  split at hs
  · cases hs
  · obtain ⟨rfl, rfl⟩ := Prod.mk.inj (Option.some.inj hs)
    split
    · simp_all
    · simp_all

theorem exponentAfter?_append (h : Ends rest) {s t : Source} {e : Int}
    (hs : exponentAfter? s = some (e, t)) :
    exponentAfter? (s ++ rest) = some (e, t ++ rest) := by
  unfold exponentAfter? at hs
  split at hs
  · exact exponentDigits?_append h hs
  · exact exponentDigits?_append h hs
  · rename_i hminus hplus
    cases s with
    | nil => simp [exponentDigits?, takeDigits] at hs
    | cons c s =>
        have hdigits := exponentDigits?_append h hs
        rw [List.cons_append] at hdigits ⊢
        unfold exponentAfter?
        split
        · rename_i heq
          cases heq
          exact absurd rfl (hminus s)
        · rename_i heq
          cases heq
          exact absurd rfl (hplus s)
        · exact hdigits

theorem Ends.takeExponent?_eq (h : Ends rest) : takeExponent? rest = some (0, rest) := by
  unfold takeExponent?
  split
  · rename_i s
    exact absurd (h 'e' s rfl) (by decide)
  · rename_i s
    exact absurd (h 'E' s rfl) (by decide)
  · rfl

theorem takeExponent?_append (h : Ends rest) {s t : Source} {e : Int}
    (hs : takeExponent? s = some (e, t)) :
    takeExponent? (s ++ rest) = some (e, t ++ rest) := by
  rw [Json.takeExponent?_eq] at hs
  split at hs
  · exact exponentAfter?_append h hs
  · exact exponentAfter?_append h hs
  · rename_i hlower hupper
    obtain ⟨rfl, rfl⟩ := Prod.mk.inj (Option.some.inj hs)
    cases s with
    | nil => exact h.takeExponent?_eq
    | cons c s =>
        rw [List.cons_append, Json.takeExponent?_eq]
        split
        · rename_i heq
          cases heq
          exact absurd rfl (hlower s)
        · rename_i heq
          cases heq
          exact absurd rfl (hupper s)
        · rfl

/-- What is read as a number does not depend on what follows, as long as it does
not go on with the number. -/
theorem readNumber_append (h : Ends rest) {negative : Bool} {s t : Source}
    (hs : (readNumber negative s).rest = some t) :
    readNumber negative (s ++ rest) = ⟨(readNumber negative s).tree, some (t ++ rest)⟩ := by
  unfold readNumber at hs ⊢
  cases hwhole : takeWhole? s with
  | none => simp [hwhole, brokenPart] at hs
  | some whole =>
      obtain ⟨ds, s⟩ := whole
      cases hfraction : takeFraction? s with
      | none => simp [hwhole, hfraction, brokenPart] at hs
      | some fraction =>
          obtain ⟨fs, s⟩ := fraction
          cases hexponent : takeExponent? s with
          | none => simp [hwhole, hfraction, hexponent, brokenPart] at hs
          | some exponent =>
              obtain ⟨e, s⟩ := exponent
              simp only [hwhole, hfraction, hexponent, takeWhole?_append h hwhole,
                takeFraction?_append h hfraction, takeExponent?_append h hexponent,
                Option.bind_eq_bind, Option.bind_some, pure] at hs ⊢
              cases hmagnitude : magnitude? ds fs e with
              | none =>
                  simp only [hmagnitude] at hs ⊢
                  rw [Option.some.inj hs]
              | some x =>
                  simp only [hmagnitude] at hs ⊢
                  rw [Option.some.inj hs]

/-! ## Where a value starts -/

theorem skipBlanks_append {s t : Source} {c : Option Char} (h : skipBlanks s = c :: t)
    (rest : Source) : skipBlanks (s ++ rest) = c :: (t ++ rest) := by
  fun_induction skipBlanks s with
  | case1 s ih => exact ih h
  | case2 s ih => exact ih h
  | case3 s ih => exact ih h
  | case4 s ih => exact ih h
  | case5 s h1 h2 h3 h4 =>
      subst h
      rw [List.cons_append, skipBlanks.eq_def]
      split <;> simp_all

theorem readText_ne_number (s : Source) (x : Float) (rest : Option Source) :
    readText s ≠ ⟨.scalar (.value (.number x)), rest⟩ := by
  intro h
  unfold readText at h
  split at h
  · cases h
  · split at h <;> cases h

theorem readName_ne_number {v : Value Float} (hv : ∀ x, v ≠ .number x) (name : String)
    (s : Source) (x : Float) (rest : Option Source) :
    readName name v s ≠ ⟨.scalar (.value (.number x)), rest⟩ := by
  intro h
  unfold readName at h
  dsimp only at h
  split at h
  · cases h
    exact hv x rfl
  · cases h

/-- What is read as a number is read in front of a text. -/
theorem readPart_append (h : Ends rest) {s t : Source} {x : Float} (steps : Nat)
    (hs : readPart 1 s = ⟨.scalar (.value (.number x)), some t⟩) :
    readPart (steps + 1) (s ++ rest) = ⟨.scalar (.value (.number x)), some (t ++ rest)⟩ := by
  rw [readPart.eq_def] at hs ⊢
  dsimp only at hs ⊢
  split at hs
  · exact (readText_ne_number _ _ _ hs).elim
  · cases hs
  · cases hs
  · rename_i r hr
    rw [skipBlanks_append hr]
    show readNumber true (r ++ rest) = _
    rw [readNumber_append h (congrArg Part.rest hs), hs]
  · exact (readName_ne_number (by simp) _ _ _ _ hs).elim
  · exact (readName_ne_number (by simp) _ _ _ _ hs).elim
  · exact (readName_ne_number (by simp) _ _ _ _ hs).elim
  · -- What starts like nothing else starts like a number.
    rename_i hne
    cases hr : skipBlanks s with
    | nil =>
      rw [hr] at hs
      cases hs
    | cons c r =>
      rw [hr] at hs
      rw [skipBlanks_append hr]
      simp only [hr] at hne
      have hnumber := readNumber_append h (congrArg Part.rest hs)
      rw [hs] at hnumber
      split <;> simp_all

end LaneFlow.Json
