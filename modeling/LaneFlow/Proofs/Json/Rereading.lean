import Mathlib
import LaneFlow.Proofs.Document.Faithful
import LaneFlow.Proofs.Json.Singles

/-!
# Documents read back

A document that is written is read back as it was, in one line or spread over
lines, if its keys are texts and the text of each of its numbers is read as that
number.

## Main results

* `readItem_eq`, `readEntry_eq` — how a part of a list or a record is read.
* `isBlank_none`, `isBlank_lines` — both ways to write set parts apart by
  blanks.
* `readPart_write` — a document is read back in front of a text.
* `read_write` — a document is read back.
-/

namespace LaneFlow.Json

open LaneFlow.Document LaneFlow.Decimal

/-! ## Blanks -/

/-- A character that sets parts of a document apart. -/
def isBlank (c : Char) : Bool := c ∈ [' ', '\t', '\n', '\r']

theorem skipBlanks_blank {c : Char} (h : isBlank c) (s : Source) :
    skipBlanks (some c :: s) = skipBlanks s := by
  simp only [isBlank, decide_eq_true_eq, List.mem_cons, List.not_mem_nil, or_false] at h
  rcases h with rfl | rfl | rfl | rfl <;> rfl

/-- A text of blanks. -/
def IsBlankText (blanks : String) : Prop := ∀ c ∈ blanks.toList, isBlank c

theorem skipBlanks_append_blanks {blanks : String} (h : IsBlankText blanks) (s : Source) :
    skipBlanks (letters blanks ++ s) = skipBlanks s := by
  unfold IsBlankText at h
  unfold letters
  generalize blanks.toList = cs at h
  induction cs with
  | nil => rfl
  | cons c cs ih =>
      rw [List.map_cons, List.cons_append, skipBlanks_blank (h c (by simp)),
        ih fun d hd => h d (List.mem_cons_of_mem c hd)]

theorem skipBlanks_skipBlanks (s : Source) : skipBlanks (skipBlanks s) = skipBlanks s := by
  fun_induction skipBlanks s with
  | case1 s ih => exact ih
  | case2 s ih => exact ih
  | case3 s ih => exact ih
  | case4 s ih => exact ih
  | case5 s => rw [skipBlanks.eq_def]; split <;> simp_all

/-- Blanks in front of a document do not count. -/
theorem readPart_congr {s t : Source} (h : skipBlanks s = skipBlanks t) (steps : Nat) :
    readPart steps s = readPart steps t := by
  cases steps with
  | zero => rfl
  | succ steps => rw [readPart.eq_def, readPart.eq_def]; simp only [h]

/-! ## Parts of a document -/

/-- The next item of a list, and what is left. -/
def readItem (steps : Nat) (s : Source) : List (Document.Tree Found) × Option Source :=
  let part := readPart steps s
  match part.rest with
  | none => ([part.tree], none)
  | some rest =>
    let (items, rest) := readItems steps false rest
    (part.tree :: items, rest)

theorem readItems_succ (steps : Nat) (isFirst : Bool) (s : Source) :
    readItems (steps + 1) isFirst s = match skipBlanks s with
      | some ']' :: rest => ([], some rest)
      | some ',' :: rest => if isFirst then ([brokenTree], none) else readItem steps rest
      | s => if isFirst then readItem steps s else ([brokenTree], none) := by
  rw [readItems.eq_def]
  rfl

theorem readItem_eq {steps : Nat} {s rest : Source} {t : Document.Tree Found}
    (h : readPart steps s = ⟨t, some rest⟩) :
    readItem steps s = (t :: (readItems steps false rest).1,
      (readItems steps false rest).2) := by
  rw [readItem, h]

/-- An item that can be read is no closing bracket and no comma. -/
theorem readPart_misfit {steps : Nat} {s rest : Source} {c : Char} (hc : c ∈ [']', ','])
    (h : skipBlanks s = some c :: rest) : readPart steps s = brokenPart := by
  cases steps with
  | zero => rfl
  | succ steps =>
      rw [readPart.eq_def]
      simp only [h]
      simp only [List.mem_cons, List.not_mem_nil, or_false] at hc
      rcases hc with rfl | rfl <;> rfl

/-- The first item of a list. -/
theorem readItems_first {steps : Nat} {s rest : Source} {t : Document.Tree Found}
    (h : readPart steps s = ⟨t, some rest⟩) :
    readItems (steps + 1) true s = (t :: (readItems steps false rest).1,
      (readItems steps false rest).2) := by
  rw [readItems_succ]
  split
  · rename_i hs
    rw [readPart_misfit (by simp) hs] at h
    cases h
  · rename_i hs
    rw [readPart_misfit (by simp) hs] at h
    cases h
  · rw [if_pos rfl, readItem_eq]
    rw [readPart_congr (skipBlanks_skipBlanks s), h]

/-- The next entry of a record, and what is left. -/
def readEntry (steps : Nat) (s : Source) :
    List (Document.Tree Found × Document.Tree Found) × Option Source :=
  match skipBlanks s with
  | some '"' :: rest =>
    let key := readText rest
    match key.rest.map skipBlanks with
    | some (some ':' :: rest) =>
      let value := readPart steps rest
      match value.rest with
      | none => ([(key.tree, value.tree)], none)
      | some rest =>
        let (entries, rest) := readEntries steps false rest
        ((key.tree, value.tree) :: entries, rest)
    | _ => ([(key.tree, brokenTree)], none)
  | _ => ([(brokenTree, brokenTree)], none)

theorem readEntries_succ (steps : Nat) (isFirst : Bool) (s : Source) :
    readEntries (steps + 1) isFirst s = match skipBlanks s with
      | some '\x7d' :: rest => ([], some rest)
      | some ',' :: rest =>
        if isFirst then ([(brokenTree, brokenTree)], none) else readEntry steps rest
      | s => if isFirst then readEntry steps s else ([(brokenTree, brokenTree)], none) := by
  rw [readEntries.eq_def]
  rfl

/-- The first entry of a record starts with the text of its key. -/
theorem readEntries_first {steps : Nat} {s after : Source} {name : String}
    (h : skipBlanks s = letters (ofText name) ++ after) :
    readEntries (steps + 1) true s = readEntry steps s := by
  rw [letters_ofText, List.cons_append] at h
  rw [readEntries_succ, h, readEntry.eq_def steps s, h]
  rfl

theorem readEntry_eq {steps : Nat} {s after value rest : Source} {name : String}
    {t : Document.Tree Found} (hs : skipBlanks s = letters (ofText name) ++ after)
    (hafter : skipBlanks after = some ':' :: value)
    (h : readPart steps value = ⟨t, some rest⟩) :
    readEntry steps s =
      ((.scalar (.value (.text name)), t) :: (readEntries steps false rest).1,
        (readEntries steps false rest).2) := by
  have hkey := readText_written name after
  rw [letters_ofText, List.cons_append, List.append_assoc, List.singleton_append] at hs
  simp only [readEntry, hs, hkey, Option.map_some, hafter, h]

/-! ## Written documents -/

@[simp] theorem letters_append (s t : String) : letters (s ++ t) = letters s ++ letters t := by
  simp [letters]

/-- What stands between brackets after the first part. -/
def further (breaks : String) (parts : List String) : Source :=
  parts.flatMap fun part => some ',' :: (letters breaks ++ letters part)

theorem further_cons (breaks part : String) (parts : List String) :
    further breaks (part :: parts) =
      some ',' :: (letters breaks ++ letters part ++ further breaks parts) := by
  rw [further, List.flatMap_cons, List.cons_append]
  rfl

theorem letters_intercalate (breaks part : String) (parts : List String) :
    letters (String.intercalate ("," ++ breaks) (part :: parts)) =
      letters part ++ further breaks parts := by
  induction parts generalizing part with
  | nil => simp [String.intercalate_singleton, further]
  | cons next parts ih =>
      rw [String.intercalate_cons_cons, letters_append, letters_append, ih]
      simp [further, letters]

variable {left right : String} {l r : Char}

theorem letters_enclose_nil (hleft : letters left = [some l])
    (hright : letters right = [some r]) (s : Spacing) (level : Nat) :
    letters (enclose s level left right []) = [some l, some r] := by
  rw [enclose, List.isEmpty_nil, if_pos rfl, letters_append, hleft, hright]
  rfl

theorem letters_enclose_cons (hleft : letters left = [some l])
    (hright : letters right = [some r]) (s : Spacing) (level : Nat) (part : String)
    (parts : List String) :
    letters (enclose s level left right (part :: parts)) =
      some l :: (letters (s.breaks (level + 1)) ++ (letters part ++
        (further (s.breaks (level + 1)) parts ++ (letters (s.breaks level) ++ [some r])))) := by
  simp only [enclose, List.isEmpty_cons, Bool.false_eq_true, if_false, letters_append,
    letters_intercalate, List.append_assoc, hleft, hright, List.cons_append,
    List.nil_append]

/-- A document as it is found in a text. -/
abbrev found : Document.Tree (Value Float) → Document.Tree Found :=
  Document.Tree.map .value

/-- The text of a number is read as that number, to its end. -/
def NumberReadsBack (x : Float) : Prop :=
  (readPart 1 (letters (documentText x))).tree.number = .ok x ∧
    (readPart 1 (letters (documentText x))).rest = some []

instance (x : Float) : Decidable (NumberReadsBack x) :=
  inferInstanceAs (Decidable (_ ∧ _))

theorem readPart_number {x : Float} (h : NumberReadsBack x) :
    readPart 1 (letters (documentText x)) = ⟨.scalar (.value (.number x)), some []⟩ := by
  obtain ⟨hnumber, hrest⟩ := h
  generalize readPart 1 (letters (documentText x)) = part at hnumber hrest
  obtain ⟨tree, rest⟩ := part
  obtain rfl : rest = some [] := hrest
  cases tree with
  | list items => cases hnumber
  | record entries => cases hnumber
  | scalar found =>
      cases found with
      | unreadable => cases hnumber
      | broken => cases hnumber
      | value v =>
          cases v with
          | number y =>
              obtain rfl : y = x := Except.ok.inj hnumber
              rfl
          | null => cases hnumber
          | flag b => cases hnumber
          | text s => cases hnumber

/-- The parts of a document are set apart by blanks. -/
structure Spacing.IsBlank (s : Spacing) : Prop where
  breaks : ∀ level, IsBlankText (s.breaks level)
  colon : ∃ blanks, s.colon = ":" ++ blanks ∧ IsBlankText blanks

theorem isBlank_none : Spacing.none.IsBlank :=
  ⟨fun _ _ hc => (List.not_mem_nil hc).elim, "", rfl,
    fun _ hc => (List.not_mem_nil hc).elim⟩

theorem isBlank_lines : Spacing.lines.IsBlank := by
  refine ⟨fun level c hc => ?_, " ", rfl, fun c hc => ?_⟩
  swap
  · obtain rfl := List.mem_singleton.1 hc
    rfl
  simp only [Spacing.lines, newLine, String.toList_ofList, List.mem_cons,
    List.mem_replicate] at hc
  rcases hc with rfl | ⟨-, rfl⟩ <;> rfl

/-- A document that is written is read back in front of a text, if enough steps
are allowed. -/
def Returns (s : Spacing) (t : Document.Tree (Value Float)) : Prop :=
  ∀ (level steps : Nat) (rest : Source), Ends rest →
    2 * (letters (write s level t)).length < steps →
    readPart steps (letters (write s level t) ++ rest) = ⟨found t, some rest⟩

theorem readName_written (name : String) (v : Value Float) (rest : Source) :
    readName name v (letters name ++ rest) = ⟨.scalar (.value v), some rest⟩ := by
  have hlength : (letters name).length = name.length := by
    rw [letters, List.length_map, String.length_toList]
  simp only [readName]
  rw [List.take_left' hlength, List.drop_left' hlength]
  exact if_pos rfl

theorem returns_scalar (s : Spacing) {v : Value Float}
    (h : ∀ x, v = .number x → NumberReadsBack x) : Returns s (.scalar v) := by
  intro level steps rest hends hsteps
  obtain ⟨steps, rfl⟩ := Nat.exists_eq_succ_of_ne_zero (Nat.ne_zero_of_lt hsteps)
  rw [write]
  cases v with
  | null => exact readName_written "ull" .null rest
  | flag b =>
      cases b with
      | true => exact readName_written "rue" (.flag true) rest
      | false => exact readName_written "alse" (.flag false) rest
  | number x => exact readPart_append hends steps (readPart_number (h x rfl))
  | text name =>
      rw [ofValue, letters_ofText, List.cons_append, List.append_assoc]
      exact readText_written name rest

theorem ends_blanks {blanks : String} (h : IsBlankText blanks) {c : Char}
    (hc : goesOn c = false) (rest : Source) : Ends (letters blanks ++ some c :: rest) := by
  unfold IsBlankText at h
  unfold letters
  generalize blanks.toList = bs at h
  cases bs with
  | nil => exact ends_cons hc rest
  | cons b bs =>
      refine ends_cons ?_ _
      have hb := h b (by simp)
      simp only [isBlank, decide_eq_true_eq, List.mem_cons, List.not_mem_nil, or_false] at hb
      rcases hb with rfl | rfl | rfl | rfl <;> rfl

theorem ends_further {close : String} (h : IsBlankText close) {c : Char}
    (hc : goesOn c = false) (breaks : String) (parts : List String) (rest : Source) :
    Ends (further breaks parts ++ (letters close ++ some c :: rest)) := by
  cases parts with
  | nil => exact ends_blanks h hc rest
  | cons part parts => exact ends_cons rfl _

variable {s : Spacing}

theorem readPart_blanks {breaks : String} (h : IsBlankText breaks)
    (steps : Nat) (s : Source) : readPart steps (letters breaks ++ s) = readPart steps s :=
  readPart_congr (skipBlanks_append_blanks h s) steps

/-- The items after the first one. -/
theorem readItems_further (hs : s.IsBlank) {items : List (Document.Tree (Value Float))}
    (h : ∀ t ∈ items, Returns s t) {close : String} (hclose : IsBlankText close)
    (level : Nat) (rest : Source) {steps : Nat}
    (hsteps : 2 * (further (s.breaks level) (items.map (write s level))).length < steps) :
    readItems steps false (further (s.breaks level) (items.map (write s level)) ++
      (letters close ++ some ']' :: rest)) = (Tree.mapItems .value items, some rest) := by
  induction items generalizing steps with
  | nil =>
      obtain ⟨steps, rfl⟩ := Nat.exists_eq_succ_of_ne_zero (Nat.ne_zero_of_lt hsteps)
      simp only [List.map_nil, further, List.flatMap_nil, List.nil_append]
      rw [readItems_succ, skipBlanks_append_blanks hclose]
      rfl
  | cons t items ih =>
      obtain ⟨steps, rfl⟩ := Nat.exists_eq_succ_of_ne_zero (Nat.ne_zero_of_lt hsteps)
      rw [List.map_cons, further_cons] at hsteps ⊢
      simp only [List.length_cons, List.length_append] at hsteps
      have hitems : readItems steps false _ = _ :=
        ih (fun u hu => h u (List.mem_cons_of_mem t hu)) (by omega)
      have hends := ends_further hclose (c := ']') rfl (s.breaks level)
        (items.map (write s level)) rest
      have ht := h t (by simp) level steps _ hends (by omega)
      rw [← readPart_blanks (hs.breaks level)] at ht
      rw [List.cons_append, List.append_assoc, List.append_assoc, readItems_succ]
      refine (readItem_eq ht).trans ?_
      rw [hitems]
      rfl

/-- An entry of a record as it is written. -/
def writtenEntry (s : Spacing) (level : Nat)
    (e : Document.Tree (Value Float) × Document.Tree (Value Float)) : String :=
  write s level e.1 ++ s.colon ++ write s level e.2

theorem skipBlanks_writtenEntry {breaks : String} (hbreaks : IsBlankText breaks)
    (name : String) (level : Nat) (t : Document.Tree (Value Float)) (rest : Source) :
    skipBlanks (letters breaks ++ (letters (writtenEntry s level (.ofText name, t)) ++ rest)) =
      letters (ofText name) ++ (letters s.colon ++ (letters (write s level t) ++ rest)) := by
  refine (skipBlanks_append_blanks hbreaks _).trans ?_
  simp only [writtenEntry, letters_append, List.append_assoc]
  show skipBlanks (letters (ofText name) ++ _) = _
  rw [letters_ofText]
  rfl

/-- An entry of a record. -/
theorem readEntry_written (hs : s.IsBlank) (name : String) {breaks : String}
    (hbreaks : IsBlankText breaks) {t : Document.Tree (Value Float)}
    (h : Returns s t) (level : Nat) {rest : Source} (hrest : Ends rest) {steps : Nat}
    (hsteps : 2 * (letters (write s level t)).length < steps) :
    readEntry steps (letters breaks ++
      (letters (writtenEntry s level (.ofText name, t)) ++ rest)) =
      ((found (.ofText name), found t) :: (readEntries steps false rest).1,
        (readEntries steps false rest).2) := by
  obtain ⟨blanks, hcolon, hblanks⟩ := hs.colon
  have hkey := skipBlanks_writtenEntry (s := s) hbreaks name level t rest
  have hafter : skipBlanks (letters s.colon ++ (letters (write s level t) ++ rest)) =
      some ':' :: (letters blanks ++ (letters (write s level t) ++ rest)) := by
    rw [hcolon, letters_append]
    rfl
  have hvalue : readPart steps (letters blanks ++ (letters (write s level t) ++ rest)) =
      ⟨found t, some rest⟩ :=
    (readPart_congr (skipBlanks_append_blanks hblanks _) steps).trans
      (h level steps rest hrest hsteps)
  exact readEntry_eq hkey hafter hvalue

theorem writeEntries_eq (level : Nat)
    (entries : List (Document.Tree (Value Float) × Document.Tree (Value Float))) :
    writeEntries s level entries = entries.map (writtenEntry s level) := by
  induction entries with
  | nil => rfl
  | cons e entries ih => rw [writeEntries, ih, List.map_cons]; rfl

/-- The entries after the first one. -/
theorem readEntries_further (hs : s.IsBlank)
    {entries : List (Document.Tree (Value Float) × Document.Tree (Value Float))}
    (hkeys : ∀ e ∈ entries, ∃ name, e.1 = .ofText name)
    (h : ∀ e ∈ entries, Returns s e.2) {close : String}
    (hclose : IsBlankText close) (level : Nat) (rest : Source) {steps : Nat}
    (hsteps : 2 * (further (s.breaks level)
      (entries.map (writtenEntry s level))).length < steps) :
    readEntries steps false (further (s.breaks level)
      (entries.map (writtenEntry s level)) ++ (letters close ++ some '\x7d' :: rest)) =
      (Tree.mapEntries .value entries, some rest) := by
  induction entries generalizing steps with
  | nil =>
      obtain ⟨steps, rfl⟩ := Nat.exists_eq_succ_of_ne_zero (Nat.ne_zero_of_lt hsteps)
      simp only [List.map_nil, further, List.flatMap_nil, List.nil_append]
      rw [readEntries_succ, skipBlanks_append_blanks hclose]
      rfl
  | cons e entries ih =>
      obtain ⟨steps, rfl⟩ := Nat.exists_eq_succ_of_ne_zero (Nat.ne_zero_of_lt hsteps)
      obtain ⟨key, t⟩ := e
      obtain ⟨name, rfl⟩ : ∃ name, key = .ofText name := hkeys (key, t) (by simp)
      rw [List.map_cons, further_cons] at hsteps ⊢
      simp only [List.length_cons, List.length_append, writtenEntry, letters_append] at hsteps
      have hentries : readEntries steps false _ = _ :=
        ih (fun e he => hkeys e (List.mem_cons_of_mem _ he))
          (fun e he => h e (List.mem_cons_of_mem _ he)) (by omega)
      have hends := ends_further hclose (c := '\x7d') rfl (s.breaks level)
        (entries.map (writtenEntry s level)) rest
      have ht : Returns s t := h (.ofText name, t) (by simp)
      have hentry : readEntry steps _ = _ := readEntry_written hs name (hs.breaks level) ht
        level hends (by omega)
      rw [List.cons_append, List.append_assoc, List.append_assoc, readEntries_succ]
      refine hentry.trans ?_
      rw [hentries]
      rfl

theorem readPart_list (steps : Nat) (s : Source) :
    readPart (steps + 1) (some '[' :: s) =
      ⟨.list (readItems steps true s).1, (readItems steps true s).2⟩ := rfl

theorem readPart_record (steps : Nat) (s : Source) :
    readPart (steps + 1) (some '\x7b' :: s) =
      ⟨.record (readEntries steps true s).1, (readEntries steps true s).2⟩ := rfl

theorem returns_list (hs : s.IsBlank) {items : List (Document.Tree (Value Float))}
    (h : ∀ t ∈ items, Returns s t) : Returns s (.list items) := by
  intro level steps rest hends hsteps
  -- The bracket takes one step and the first item another; the two brackets are two
  -- characters, for which four steps are allowed.
  rw [write, writeItems_eq] at hsteps ⊢
  obtain ⟨steps, rfl⟩ := Nat.exists_eq_succ_of_ne_zero (Nat.ne_zero_of_lt hsteps)
  cases items with
  | nil =>
      rw [List.map_nil, letters_enclose_nil (l := '[') (r := ']') rfl rfl] at hsteps ⊢
      obtain ⟨steps, rfl⟩ := Nat.exists_eq_succ_of_ne_zero
        (Nat.ne_zero_of_lt (Nat.lt_of_succ_lt_succ hsteps))
      rfl
  | cons t items =>
      rw [List.map_cons, letters_enclose_cons (l := '[') (r := ']') rfl rfl] at hsteps ⊢
      simp only [List.length_cons, List.length_append, List.length_nil] at hsteps
      obtain ⟨steps, rfl⟩ := Nat.exists_eq_succ_of_ne_zero
        (Nat.ne_zero_of_lt (Nat.lt_of_succ_lt_succ hsteps))
      have hitems : readItems steps false _ = _ := readItems_further hs
        (fun u hu => h u (List.mem_cons_of_mem t hu)) (hs.breaks level) (level + 1) rest
        (by omega)
      have hfurther := ends_further (hs.breaks level) (c := ']') rfl (s.breaks (level + 1))
        (items.map (write s (level + 1))) rest
      have ht := h t (by simp) (level + 1) steps _ hfurther (by omega)
      rw [← readPart_blanks (hs.breaks (level + 1))] at ht
      simp only [List.cons_append, List.append_assoc, List.nil_append]
      refine (readPart_list _ _).trans ?_
      rw [readItems_first ht, hitems]
      rfl

theorem returns_record (hs : s.IsBlank)
    {entries : List (Document.Tree (Value Float) × Document.Tree (Value Float))}
    (hkeys : ∀ e ∈ entries, ∃ name, e.1 = .ofText name)
    (h : ∀ e ∈ entries, Returns s e.2) : Returns s (.record entries) := by
  intro level steps rest hends hsteps
  rw [write, writeEntries_eq] at hsteps ⊢
  obtain ⟨steps, rfl⟩ := Nat.exists_eq_succ_of_ne_zero (Nat.ne_zero_of_lt hsteps)
  cases entries with
  | nil =>
      rw [List.map_nil, letters_enclose_nil (l := '\x7b') (r := '\x7d') rfl rfl] at hsteps ⊢
      obtain ⟨steps, rfl⟩ := Nat.exists_eq_succ_of_ne_zero
        (Nat.ne_zero_of_lt (Nat.lt_of_succ_lt_succ hsteps))
      rfl
  | cons e entries =>
      obtain ⟨key, t⟩ := e
      obtain ⟨name, rfl⟩ : ∃ name, key = .ofText name := hkeys (key, t) (by simp)
      rw [List.map_cons, letters_enclose_cons (l := '\x7b') (r := '\x7d') rfl rfl] at hsteps ⊢
      simp only [List.length_cons, List.length_append, List.length_nil, writtenEntry,
        letters_append] at hsteps
      obtain ⟨steps, rfl⟩ := Nat.exists_eq_succ_of_ne_zero
        (Nat.ne_zero_of_lt (Nat.lt_of_succ_lt_succ hsteps))
      have hentries : readEntries steps false _ = _ := readEntries_further hs
        (fun e he => hkeys e (List.mem_cons_of_mem _ he))
        (fun e he => h e (List.mem_cons_of_mem _ he)) (hs.breaks level) (level + 1) rest
        (by omega)
      have hfurther := ends_further (hs.breaks level) (c := '\x7d') rfl
        (s.breaks (level + 1)) (entries.map (writtenEntry s (level + 1))) rest
      have ht : Returns s t := h (.ofText name, t) (by simp)
      have hentry : readEntry steps _ = _ := readEntry_written hs name
        (hs.breaks (level + 1)) ht (level + 1) hfurther (by omega)
      simp only [List.cons_append, List.append_assoc, List.nil_append]
      refine (readPart_record _ _).trans ?_
      rw [readEntries_first (skipBlanks_writtenEntry (hs.breaks (level + 1)) name _ t _),
        hentry, hentries]
      rfl

/-- A document is read back in front of a text. -/
theorem readPart_write (hs : s.IsBlank) {depth : Nat} {t : Document.Tree (Value Float)}
    (h : t.Writable NumberReadsBack depth) : Returns s t := by
  induction h with
  | scalar h => exact returns_scalar s h
  | list _ ih => exact returns_list hs ih
  | record hkeys _ ih => exact returns_record hs hkeys ih

/-- **A document that is written is read back.** -/
theorem read_write (hs : s.IsBlank) {depth : Nat} {t : Document.Tree (Value Float)}
    (h : t.Writable NumberReadsBack depth) (level : Nat) :
    read (letters (write s level t)) = found t := by
  have hread := readPart_write hs h level (2 * (letters (write s level t)).length + 2) []
    (fun _ _ hnil => by cases hnil) (by omega)
  rw [List.append_nil] at hread
  rw [read, hread]

end LaneFlow.Json
