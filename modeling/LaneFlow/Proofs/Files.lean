import LaneFlow.Files
import Mathlib.Data.List.Basic

/-!
# What a file leaves alone

Two states of the files may differ in one file only: in what it holds, or in
whether it is there (`SameElsewhere`).  Then all paths lead to the same spots,
every other file reads the same, and what is saved is saved in both or in
neither, unless the file stands where a folder has to be created.

## Main results

* `SameElsewhere.open?_eq` — what is read at another spot.
* `SameElsewhere.save?` — what is saved.
* `open?_save?` — what was saved is read back.
* `sameElsewhere_put` — a file that is written makes no other difference.
-/

namespace LaneFlow.Files

/-- Two states of the files that are the same, except for what the file at one
spot holds and whether there is one. -/
structure SameElsewhere (at_ : Spot) (f g : Files) : Prop where
  file?_eq : ∀ spot, spot ≠ at_ → f.file? spot = g.file? spot
  isFolder_eq : ∀ spot, f.isFolder spot = g.isFolder spot

/-! ## Files and folders after a change -/

theorem lookup_filter_other {at_ spot : Spot} (h : spot ≠ at_)
    (files : List (Spot × List UInt8)) :
    (files.filter (·.1 != at_)).lookup spot = files.lookup spot := by
  induction files with
  | nil => rfl
  | cons file files ih =>
      obtain ⟨key, value⟩ := file
      by_cases hat : key = at_
      · have hdrop : (key != at_) = false := by simp [hat]
        have hother : (spot == key) = false := by simpa [hat] using h
        simp only [List.filter_cons, List.lookup_cons, hdrop, hother, ih,
          Bool.false_eq_true, if_false]
      · have hkeep : (key != at_) = true := by simp [hat]
        simp only [List.filter_cons, List.lookup_cons, hkeep, ih, if_true]

theorem lookup_filter_self (at_ : Spot) (files : List (Spot × List UInt8)) :
    (files.filter (·.1 != at_)).lookup at_ = none := by
  rw [List.lookup_eq_none_iff]
  intro file hfile
  have hne : file.1 ≠ at_ := bne_iff_ne.1 (List.mem_filter.1 hfile).2
  exact bne_iff_ne.2 hne.symm

theorem file?_put (f : Files) (at_ spot : Spot) (bytes : List UInt8) :
    (f.put at_ bytes).file? spot =
      if spot = at_ then some bytes else f.file? spot := by
  unfold file? put
  rw [List.lookup_append]
  by_cases hspot : spot = at_
  · rw [if_pos hspot, hspot, lookup_filter_self, List.lookup_cons_self]
    rfl
  · have hother : (spot == at_) = false := beq_eq_false_iff_ne.2 hspot
    rw [if_neg hspot, lookup_filter_other hspot, List.lookup_cons, hother]
    exact Option.or_none

theorem isFolder_put (f : Files) (at_ spot : Spot) (bytes : List UInt8) :
    (f.put at_ bytes).isFolder spot =
      (f.isFolder spot || spot.isPrefixOf at_.dropLast) := by
  rw [Bool.eq_iff_iff]
  simp only [isFolder, put, List.any_append, List.any_cons, List.any_nil,
    Bool.or_false, Bool.or_eq_true, List.any_eq_true, List.mem_filter,
    bne_iff_ne]
  constructor
  · rintro (h | ⟨file, ⟨hfile, -⟩, hspot⟩ | hspot)
    · exact .inl (.inl h)
    · exact .inl (.inr ⟨file, hfile, hspot⟩)
    · exact .inr hspot
  · rintro ((h | ⟨file, hfile, hspot⟩) | hspot)
    · exact .inl h
    · -- the file that is replaced stood in the folder of the new one
      by_cases hat : file.1 = at_
      · exact .inr (.inr (hat ▸ hspot))
      · exact .inr (.inl ⟨file, ⟨hfile, hat⟩, hspot⟩)
    · exact .inr (.inr hspot)

theorem isFolder_addFolder (f : Files) (at_ spot : Spot) :
    ({ f with folders := f.folders ++ [at_] } : Files).isFolder spot =
      (f.isFolder spot || spot.isPrefixOf at_) := by
  simp only [isFolder, List.any_append, List.any_cons, List.any_nil,
    Bool.or_false]
  cases isOuter spot <;> cases f.folders.any (spot.isPrefixOf ·) <;>
    cases spot.isPrefixOf at_ <;> simp

/-- What a folder lies in is a folder. -/
theorem isFolder_above {f : Files} {spot inner : Spot}
    (h : f.isFolder inner = true) (hspot : spot <+: inner) :
    f.isFolder spot = true := by
  simp only [isFolder, Bool.or_eq_true, List.any_eq_true,
    List.isPrefixOf_iff_prefix] at h ⊢
  rcases h with (h | ⟨folder, hfolder, hinner⟩) | ⟨file, hfile, hinner⟩
  · refine .inl (.inl ?_)
    simp only [isOuter, Bool.or_eq_true, beq_iff_eq] at h ⊢
    rcases h with h | rfl
    · rw [List.all_eq_true] at h ⊢
      exact .inl fun name hname => h name (hspot.subset hname)
    · rcases List.prefix_cons_iff.1 hspot with rfl | ⟨rest, rfl, hrest⟩
      · exact .inl rfl
      · exact .inr (by rw [List.prefix_nil.1 hrest])
  · exact .inl (.inr ⟨folder, hfolder, hspot.trans hinner⟩)
  · exact .inr ⟨file, hfile, hspot.trans hinner⟩

/-- A file that is written in a folder makes no other difference. -/
theorem sameElsewhere_put {f : Files} {at_ : Spot}
    (h : f.isFolder at_.dropLast = true) (bytes : List UInt8) :
    SameElsewhere at_ f (f.put at_ bytes) where
  file?_eq spot hne := by rw [file?_put, if_neg hne]
  isFolder_eq spot := by
    rw [isFolder_put]
    cases hprefix : spot.isPrefixOf at_.dropLast with
    | false => rw [Bool.or_false]
    | true =>
        rw [isFolder_above h (List.isPrefixOf_iff_prefix.1 hprefix)]
        rfl

/-! ## Reading -/

theorem walk?_mono {f g : Files}
    (h : ∀ spot, f.isFolder spot = true → g.isFolder spot = true)
    {ps : List (List Char)} {spot end_ : Spot}
    (hwalk : f.walk? spot ps = some end_) : g.walk? spot ps = some end_ := by
  induction ps generalizing spot with
  | nil => exact hwalk
  | cons piece rest ih =>
      simp only [walk?] at hwalk ⊢
      cases hfolder : f.isFolder spot with
      | false => simp [hfolder] at hwalk
      | true =>
          simp only [hfolder, h spot hfolder, Bool.not_true, Bool.false_eq_true,
            if_false] at hwalk ⊢
          by_cases hidle : Path.isIdle piece = true
          · rw [if_pos hidle] at hwalk ⊢
            exact ih hwalk
          · rw [if_neg hidle] at hwalk ⊢
            by_cases hup : piece = ['.', '.']
            · rw [if_pos hup] at hwalk ⊢
              exact ih hwalk
            · rw [if_neg hup] at hwalk ⊢
              exact ih hwalk

theorem spot?_mono {f g : Files}
    (h : ∀ spot, f.isFolder spot = true → g.isFolder spot = true)
    {path : String} {spot : Spot} (hspot : f.spot? path = some spot) :
    g.spot? path = some spot := by
  unfold spot? at hspot ⊢
  by_cases hempty : path = ""
  · rwa [if_pos hempty] at hspot ⊢
  · rw [if_neg hempty] at hspot ⊢
    exact walk?_mono h hspot

namespace SameElsewhere

variable {at_ : Spot} {f g : Files}

theorem spot?_eq (h : SameElsewhere at_ f g) (path : String) :
    f.spot? path = g.spot? path := by
  refine Option.ext fun spot => ⟨spot?_mono ?_, spot?_mono ?_⟩
  · intro spot hf
    rwa [← h.isFolder_eq]
  · intro spot hg
    rwa [h.isFolder_eq]

/-- What is read at another spot is the same. -/
theorem open?_eq (h : SameElsewhere at_ f g) {path : String}
    (hpath : f.spot? path ≠ some at_) : f.open? path = g.open? path := by
  unfold open?
  rw [← h.spot?_eq]
  cases hspot : f.spot? path with
  | none => rfl
  | some spot =>
      have hne : spot ≠ at_ := fun heq => hpath (heq ▸ hspot)
      simp only [Option.bind_eq_bind, Option.bind_some, h.file?_eq spot hne,
        h.isFolder_eq spot]

end SameElsewhere

/-! ## Writing -/

/-- The spots at which there have to be folders for some pieces of a path. -/
def foldersFrom (at_ : Spot) : List (List Char) → List Spot
  | [] => []
  | piece :: rest =>
    if Path.isIdle piece then foldersFrom at_ rest
    else if piece = ['.', '.'] then foldersFrom (up at_) rest
    else
      (at_ ++ [String.ofList piece]) ::
        foldersFrom (at_ ++ [String.ofList piece]) rest

/-- The spots at which there have to be folders for a file at a path. -/
def foldersFor (path : String) : List Spot :=
  match Path.parent? path with
  | some folder => foldersFrom (start folder) (Path.pieces folder.toList)
  | none => []

namespace SameElsewhere

variable {at_ : Spot} {f g : Files}

theorem put (h : SameElsewhere at_ f g) (spot : Spot) (bytes : List UInt8) :
    SameElsewhere at_ (f.put spot bytes) (g.put spot bytes) where
  file?_eq s hne := by rw [file?_put, file?_put, h.file?_eq s hne]
  isFolder_eq s := by rw [isFolder_put, isFolder_put, h.isFolder_eq s]

theorem addFolder? (h : SameElsewhere at_ f g) {spot : Spot}
    (hne : spot ≠ at_) :
    Option.Rel (SameElsewhere at_) (f.addFolder? spot) (g.addFolder? spot) := by
  unfold Files.addFolder?
  rw [← h.isFolder_eq spot, ← h.file?_eq spot hne]
  split
  · exact .some h
  · split
    · exact .none
    · refine .some ⟨fun s hs => h.file?_eq s hs, fun s => ?_⟩
      rw [isFolder_addFolder, isFolder_addFolder, h.isFolder_eq s]

theorem addFolders? {spot : Spot} {ps : List (List Char)}
    (h : SameElsewhere at_ f g) (hway : at_ ∉ foldersFrom spot ps) :
    Option.Rel (SameElsewhere at_) (f.addFolders? spot ps)
      (g.addFolders? spot ps) := by
  induction ps generalizing f g spot with
  | nil => exact .some h
  | cons piece rest ih =>
      simp only [Files.addFolders?, foldersFrom] at hway ⊢
      by_cases hidle : Path.isIdle piece = true
      · rw [if_pos hidle] at hway
        simp only [if_pos hidle]
        exact ih h hway
      · rw [if_neg hidle] at hway
        simp only [if_neg hidle]
        by_cases hup : piece = ['.', '.']
        · rw [if_pos hup] at hway
          simp only [if_pos hup]
          exact ih h hway
        · rw [if_neg hup, List.mem_cons, not_or] at hway
          simp only [if_neg hup]
          have hadded := h.addFolder? (Ne.symm hway.1)
          generalize f.addFolder? _ = x, g.addFolder? _ = y at hadded
          cases hadded with
          | none => exact .none
          | some hsame => exact ih hsame hway.2

theorem write? (h : SameElsewhere at_ f g) (path : String)
    (bytes : List UInt8) :
    Option.Rel (SameElsewhere at_) (f.write? path bytes)
      (g.write? path bytes) := by
  unfold Files.write?
  rw [← h.spot?_eq path]
  cases f.spot? path with
  | none => exact .none
  | some spot =>
      simp only [Option.bind_eq_bind, Option.bind_some, ← h.isFolder_eq spot]
      split
      · exact .none
      · exact .some (h.put spot bytes)

/-- What is saved is saved in both or in neither. -/
theorem save? (h : SameElsewhere at_ f g) {path : String}
    (hway : at_ ∉ foldersFor path) (bytes : List UInt8) :
    Option.Rel (SameElsewhere at_) (f.save? path bytes)
      (g.save? path bytes) := by
  unfold Files.save?
  unfold foldersFor at hway
  cases hparent : Path.parent? path with
  | none => exact h.write? path bytes
  | some folder =>
      rw [hparent] at hway
      have hfolders : Option.Rel (SameElsewhere at_) (f.createFolders? folder)
          (g.createFolders? folder) := h.addFolders? hway
      simp only [Option.bind_eq_bind]
      generalize f.createFolders? _ = x, g.createFolders? _ = y at hfolders
      cases hfolders with
      | none => exact .none
      | some hsame => exact hsame.write? path bytes

end SameElsewhere

theorem open?_write? {f g : Files} {path : String} {bytes : List UInt8}
    (h : f.write? path bytes = some g) : g.open? path = some ⟨bytes, true⟩ := by
  unfold write? at h
  obtain ⟨spot, hspot, h⟩ := Option.bind_eq_some_iff.1 h
  split at h
  · cases h
  · obtain rfl := Option.some.inj h
    have hfound : (f.put spot bytes).spot? path = some spot := by
      refine spot?_mono (fun s hs => ?_) hspot
      rw [isFolder_put, hs]
      rfl
    unfold open?
    rw [hfound]
    simp [file?_put]

/-- What was saved is read back. -/
theorem open?_save? {f g : Files} {path : String} {bytes : List UInt8}
    (h : f.save? path bytes = some g) : g.open? path = some ⟨bytes, true⟩ := by
  unfold save? at h
  split at h
  · obtain ⟨_, -, h⟩ := Option.bind_eq_some_iff.1 h
    exact open?_write? h
  · exact open?_write? h

end LaneFlow.Files
