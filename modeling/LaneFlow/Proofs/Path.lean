import Mathlib.Data.List.DropRight
import LaneFlow.Path

/-!
# Where paths lead

Paths are texts, and taking one from the folder of another is done on texts.
What a path means, though, is its chain of components.  This module says what
happens to the chain: a folder is the chain without its last component, and a
path that is taken from a folder continues the chain of the folder.

How a path starts decides how its other pieces are read, so the facts about
texts are proved along `Start`, the four ways in which the pieces of a path can
start.

A path of a configuration that has been resolved may be resolved once more.
That changes nothing if the configuration is `Anchored`: the way to its folder
starts at a fixed place, or there is no way to go.

## Main results

* `components_join` — a path taken from a folder.
* `components_parent?`, `parent?_eq_none_iff` — the folder of what a path names.
* `components_resolve` — where a path of a configuration leads.
* `resolve_resolve_iff` — which paths stay what they are once they are resolved.
-/

namespace LaneFlow.Path

/-! ## Pieces -/

theorem pieces_append_slash (cs ds : List Char) :
    pieces (cs ++ '/' :: ds) = pieces cs ++ pieces ds := by
  induction cs with
  | nil => simp [pieces]
  | cons c cs ih =>
      by_cases hc : c = '/'
      · simp [pieces, hc, ih]
      · cases h : pieces cs with
        | nil => exact absurd h (pieces_ne_nil cs)
        | cons piece more => simp [pieces, hc, ih, h]

theorem pieces_of_not_mem {cs : List Char} (h : '/' ∉ cs) : pieces cs = [cs] := by
  induction cs with
  | nil => rfl
  | cons c cs ih =>
      rw [List.mem_cons, not_or] at h
      simp [pieces, Ne.symm h.1, ih h.2]

theorem not_mem_of_mem_pieces {cs piece : List Char} (h : piece ∈ pieces cs) :
    '/' ∉ piece := by
  induction cs generalizing piece with
  | nil => simp_all [pieces]
  | cons c cs ih =>
      by_cases hc : c = '/'
      · simp only [pieces, if_pos hc, List.mem_cons] at h
        rcases h with rfl | h
        · exact List.not_mem_nil
        · exact ih h
      · cases hcs : pieces cs with
        | nil => exact absurd hcs (pieces_ne_nil cs)
        | cons first more =>
            rw [hcs] at ih
            simp only [pieces, if_neg hc, hcs, List.mem_cons] at h
            rcases h with rfl | h
            · have hfirst : '/' ∉ first := ih List.mem_cons_self
              simp [Ne.symm hc, hfirst]
            · exact ih (List.mem_cons_of_mem _ h)

/-- Pieces come back from the path that they make up. -/
theorem pieces_glue {ps : List (List Char)} (hne : ps ≠ [])
    (h : ∀ piece ∈ ps, '/' ∉ piece) : pieces (glue ps) = ps := by
  induction ps with
  | nil => exact absurd rfl hne
  | cons piece rest ih =>
      have hpiece := pieces_of_not_mem (h piece List.mem_cons_self)
      cases rest with
      | nil => exact hpiece
      | cons next more =>
          have hrest := ih (List.cons_ne_nil next more) fun p hp =>
            h p (List.mem_cons_of_mem _ hp)
          rw [glue, pieces_append_slash, hpiece, hrest, List.singleton_append]
          exact List.cons_ne_nil next more

/-! ## Components inside a path -/

/-- Whether a component can only stand at the start of a path. -/
def Component.isStart : Component → Bool
  | .root => true
  | .here => true
  | .up => false
  | .name _ => false

@[simp] theorem innerComponents_nil : innerComponents [] = [] := rfl

@[simp] theorem innerComponents_append (ps qs : List (List Char)) :
    innerComponents (ps ++ qs) = innerComponents ps ++ innerComponents qs := by
  simp [innerComponents]

/-- A piece that means nothing adds no component. -/
theorem innerComponents_idle {piece : List Char} (h : isIdle piece = true) :
    innerComponents [piece] = [] := by
  simp [innerComponents, h]

/-- Any other piece adds one component, which is no start of a path. -/
theorem innerComponents_busy {piece : List Char} (h : isIdle piece = false)
    (rest : List (List Char)) :
    ∃ component, innerComponents (piece :: rest) = component :: innerComponents rest ∧
      component.isStart = false := by
  by_cases hup : piece = ['.', '.']
  · exact ⟨.up, by simp [innerComponents, isIdle, hup], rfl⟩
  · exact ⟨.name piece, by simp [innerComponents, h, hup], rfl⟩

theorem trimEnd_isPrefix (ps : List (List Char)) : trimEnd ps <+: ps :=
  List.rdropWhile_prefix isIdle ps

/-- What is dropped at the end means nothing. -/
theorem innerComponents_trimEnd (ps : List (List Char)) :
    innerComponents (trimEnd ps) = innerComponents ps := by
  induction ps using List.reverseRecOn with
  | nil => rfl
  | append_singleton ps piece ih =>
      by_cases h : isIdle piece = true
      · have htrim : trimEnd (ps ++ [piece]) = trimEnd ps :=
          List.rdropWhile_concat_pos isIdle ps piece h
        rw [htrim, ih, innerComponents_append, innerComponents_idle h,
          List.append_nil]
      · have htrim : trimEnd (ps ++ [piece]) = ps ++ [piece] :=
          List.rdropWhile_concat_neg isIdle ps piece h
        rw [htrim]

/-- Pieces that mean something end, when trimmed, with one that does. -/
theorem trimEnd_cases (ps : List (List Char)) :
    trimEnd ps = [] ∨
      ∃ front piece, trimEnd ps = front ++ [piece] ∧ isIdle piece = false := by
  by_cases h : trimEnd ps = []
  · exact .inl h
  · have hlast : ¬ isIdle ((trimEnd ps).getLast h) = true :=
      List.rdropWhile_last_not isIdle ps h
    exact .inr ⟨(trimEnd ps).dropLast, (trimEnd ps).getLast h,
      (List.dropLast_concat_getLast h).symm, Bool.eq_false_iff.2 hlast⟩

/-- The two ways in which the folder of some pieces can be looked for. -/
theorem innerParent?_cases (inner : List (List Char)) :
    innerParent? inner = none ∧ innerComponents inner = [] ∨
      ∃ front component, innerParent? inner = some (trimEnd front) ∧
        front <+: inner ∧
        innerComponents inner = innerComponents (trimEnd front) ++ [component] := by
  rcases trimEnd_cases inner with hnil | ⟨front, piece, htrim, hbusy⟩
  · refine .inl ⟨by simp [innerParent?, hnil], ?_⟩
    rw [← innerComponents_trimEnd, hnil, innerComponents_nil]
  · obtain ⟨component, hcomponent, -⟩ := innerComponents_busy hbusy []
    refine .inr ⟨front, component, ?_, ?_, ?_⟩
    · simp [innerParent?, htrim]
    · exact (List.prefix_append front [piece]).trans (htrim ▸ trimEnd_isPrefix inner)
    · rw [← innerComponents_trimEnd inner, htrim, innerComponents_append,
        innerComponents_trimEnd, hcomponent, innerComponents_nil]

/-! ## How a path starts -/

/-- The components that pieces of a path stand for. -/
def ofPieces : List (List Char) → List Component
  | [] :: [] => []
  | [] :: inner => .root :: innerComponents inner
  | ['.'] :: inner => .here :: innerComponents inner
  | ps => innerComponents ps

theorem components_eq (path : String) :
    components path = ofPieces (pieces path.toList) := rfl

/-- The ways in which the pieces of a path start. -/
inductive Start : List (List Char) → Prop where
  | empty : Start [[]]
  | root (first : List Char) (inner : List (List Char)) :
      Start ([] :: first :: inner)
  | here (inner : List (List Char)) : Start (['.'] :: inner)
  | busy (piece : List Char) (inner : List (List Char))
      (h : isIdle piece = false) : Start (piece :: inner)

theorem start_of_ne_nil {ps : List (List Char)} (hne : ps ≠ []) : Start ps := by
  match ps with
  | [] => exact absurd rfl hne
  | [[]] => exact .empty
  | [] :: first :: inner => exact .root first inner
  | (c :: cs) :: inner =>
      by_cases hdot : c :: cs = ['.']
      · exact hdot ▸ .here inner
      · exact .busy (c :: cs) inner (by simp [isIdle, hdot])

theorem start_pieces (cs : List Char) : Start (pieces cs) :=
  start_of_ne_nil (pieces_ne_nil cs)

theorem ofPieces_busy {piece : List Char} (h : isIdle piece = false)
    (inner : List (List Char)) :
    ofPieces (piece :: inner) = innerComponents (piece :: inner) := by
  unfold ofPieces
  split <;> simp_all [isIdle]

/-! ## Paths that say where they start -/

/-- A path says itself where it starts: at the root, or where one is. -/
def IsFixed (path : String) : Prop := isAbsolute path ∨ isExplicit path

instance (path : String) : Decidable (IsFixed path) :=
  inferInstanceAs (Decidable (_ ∨ _))

theorem isFixed_iff {path : String} :
    IsFixed path ↔ (components path).head?.any (·.isStart) = true := by
  simp only [IsFixed, isAbsolute, isExplicit, decide_eq_true_eq]
  cases (components path).head? with
  | none => simp
  | some start => cases start <;> simp [Component.isStart]

/-- All pieces of any other path are read like those inside a path. -/
theorem innerComponents_pieces {path : String} (h : ¬ IsFixed path) :
    innerComponents (pieces path.toList) = components path := by
  rw [isFixed_iff, components_eq] at h
  rw [components_eq]
  have hstart := start_pieces path.toList
  generalize pieces path.toList = ps at h hstart ⊢
  cases hstart with
  | empty => rfl
  | root first inner => exact absurd rfl h
  | here inner => exact absurd rfl h
  | busy piece inner hbusy => exact (ofPieces_busy hbusy inner).symm

/-- Only the empty path has no components. -/
theorem components_eq_nil_iff {path : String} : components path = [] ↔ path = "" := by
  constructor
  · intro h
    have hglue := glue_pieces path.toList
    rw [components_eq] at h
    have hstart := start_pieces path.toList
    generalize pieces path.toList = ps at h hstart hglue
    cases hstart with
    | empty => exact String.toList_injective hglue.symm
    | root first inner => cases h
    | here inner => cases h
    | busy piece inner hbusy =>
        obtain ⟨component, hcomponent, -⟩ := innerComponents_busy hbusy inner
        rw [ofPieces_busy hbusy, hcomponent] at h
        cases h
  · rintro rfl
    rfl

/-! ## Taking a path from a folder -/

theorem ofPieces_root {inner : List (List Char)} (hne : inner ≠ []) :
    ofPieces ([] :: inner) = .root :: innerComponents inner := by
  cases inner with
  | nil => exact absurd rfl hne
  | cons first rest => rfl

/-- What follows a path continues it, unless the path is empty. -/
theorem ofPieces_append {ps : List (List Char)} (hstart : Start ps) (hne : ps ≠ [[]])
    (qs : List (List Char)) : ofPieces (ps ++ qs) = ofPieces ps ++ innerComponents qs := by
  cases hstart with
  | empty => exact absurd rfl hne
  | root first inner =>
      exact congrArg (Component.root :: ·) (innerComponents_append (first :: inner) qs)
  | here inner => exact congrArg (Component.here :: ·) (innerComponents_append inner qs)
  | busy piece inner hbusy =>
      simpa only [List.cons_append, ofPieces_busy hbusy] using
        innerComponents_append (piece :: inner) qs

/-- Only the empty path has a single empty piece. -/
theorem pieces_ne_empty {path : String} (h : path ≠ "") : pieces path.toList ≠ [[]] := by
  intro hpieces
  refine h (String.toList_injective ?_)
  rw [← glue_pieces path.toList, hpieces]
  rfl

/-- A path that is taken from a folder continues the way to the folder. -/
theorem components_join (folder : String) {path : String} (h : ¬ IsFixed path) :
    components (join folder path) = components folder ++ components path := by
  have habsolute : ¬ isAbsolute path = true := fun ha => h (.inl ha)
  have hpath := innerComponents_pieces h
  have hne := pieces_ne_nil path.toList
  unfold join
  rw [if_neg habsolute]
  split
  · rename_i hempty
    rw [hempty]
    rfl
  · rename_i hfolder
    split
    · rename_i hslash
      -- the slash at the end of the folder is the one between the two
      obtain ⟨cs, hcs⟩ := List.getLast?_eq_some_iff.1 hslash
      have hfirst : pieces folder.toList = pieces cs ++ [[]] := by
        rw [hcs, pieces_append_slash]
        rfl
      have hboth : pieces (folder ++ path).toList = pieces cs ++ pieces path.toList := by
        rw [String.toList_append, hcs, List.append_assoc, List.singleton_append,
          pieces_append_slash]
      rw [components_eq, components_eq folder, hboth, hfirst, ← hpath]
      by_cases hroot : pieces cs = [[]]
      · rw [hroot, List.singleton_append, List.singleton_append, ofPieces_root hne,
          ofPieces_root (List.cons_ne_nil [] [])]
        rfl
      · rw [ofPieces_append (start_pieces cs) hroot, ofPieces_append (start_pieces cs) hroot,
          innerComponents_idle rfl, List.append_nil]
    · have hboth : pieces (folder ++ "/" ++ path).toList =
          pieces folder.toList ++ pieces path.toList := by
        rw [String.toList_append, String.toList_append, List.append_assoc]
        exact pieces_append_slash folder.toList path.toList
      rw [components_eq, components_eq folder, hboth, ← hpath,
        ofPieces_append (start_pieces folder.toList) (pieces_ne_empty hfolder)]

/-! ## The folder of what a path names -/

/-- The pieces of the folder stand at the front of the path, and mean what the
path means without its last component. -/
theorem of_innerParent?_eq_some {inner ps : List (List Char)}
    (h : innerParent? inner = some ps) :
    ps <+: inner ∧ innerComponents inner ≠ [] ∧
      innerComponents ps = (innerComponents inner).dropLast := by
  rcases innerParent?_cases inner with
    ⟨hnone, -⟩ | ⟨front, component, hsome, hfront, hinner⟩
  · cases hnone.symm.trans h
  · cases hsome.symm.trans h
    refine ⟨(trimEnd_isPrefix front).trans hfront, ?_, ?_⟩
    · simp [hinner]
    · rw [hinner, List.dropLast_concat]

theorem innerParent?_eq_none_iff {inner : List (List Char)} :
    innerParent? inner = none ↔ innerComponents inner = [] := by
  rcases innerParent?_cases inner with
    ⟨hnone, hinner⟩ | ⟨front, component, hsome, -, hinner⟩
  · simp [hnone, hinner]
  · simp [hsome, hinner]

/-! The text of a folder is glued from clean pieces: none holds a slash. -/

section Glued

variable {ps : List (List Char)} (hclean : ∀ piece ∈ ps, '/' ∉ piece)
include hclean

theorem components_glue_root :
    components (String.ofList ('/' :: glue ps)) = .root :: innerComponents ps := by
  have hpieces : pieces ('/' :: glue ps) = [] :: pieces (glue ps) :=
    pieces_append_slash [] (glue ps)
  rw [components_eq, String.toList_ofList, hpieces, ofPieces_root (pieces_ne_nil _)]
  cases ps with
  | nil => rfl
  | cons piece rest => rw [pieces_glue (List.cons_ne_nil piece rest) hclean]

theorem components_glue_here :
    components (String.ofList (glue (['.'] :: ps))) = .here :: innerComponents ps := by
  have hall : ∀ piece ∈ ['.'] :: ps, '/' ∉ piece :=
    List.forall_mem_cons.2 ⟨by decide, hclean⟩
  rw [components_eq, String.toList_ofList, pieces_glue (List.cons_ne_nil _ ps) hall,
    ofPieces]

theorem components_glue_busy {piece : List Char} {inner : List (List Char)}
    (hbusy : isIdle piece = false) (hbegin : ps <+: piece :: inner) :
    components (String.ofList (glue ps)) = innerComponents ps := by
  rw [components_eq, String.toList_ofList]
  cases ps with
  | nil => rfl
  | cons first rest =>
      obtain rfl := (List.cons_prefix_cons.1 hbegin).1
      rw [pieces_glue (List.cons_ne_nil first rest) hclean, ofPieces_busy hbusy]

end Glued

section Texts

variable {path : String} {first piece : List Char} {inner : List (List Char)}

theorem parent?_of_empty (h : pieces path.toList = [[]]) : parent? path = none := by
  unfold parent?
  rw [h]

theorem parent?_of_root (h : pieces path.toList = [] :: first :: inner) :
    parent? path = (innerParent? (first :: inner)).map fun ps =>
      String.ofList ('/' :: glue ps) := by
  unfold parent?
  rw [h]

theorem parent?_of_here (h : pieces path.toList = ['.'] :: inner) :
    parent? path = some ((innerParent? inner).elim "" fun ps =>
      String.ofList (glue (['.'] :: ps))) := by
  unfold parent?
  rw [h]
  cases hinner : innerParent? inner <;> simp [hinner]

theorem parent?_of_busy (h : pieces path.toList = piece :: inner)
    (hbusy : isIdle piece = false) :
    parent? path = (innerParent? (piece :: inner)).map fun ps =>
      String.ofList (glue ps) := by
  unfold parent?
  rw [h]
  split <;> simp_all [isIdle]

end Texts

/-- The folder of what a path names is reached by all components but the
last. -/
theorem components_parent? {path folder : String} (h : parent? path = some folder) :
    components folder = (components path).dropLast := by
  have hslash : ∀ piece ∈ pieces path.toList, '/' ∉ piece :=
    fun _ => not_mem_of_mem_pieces
  have hstart := start_pieces path.toList
  rw [components_eq path]
  generalize hpieces : pieces path.toList = ps at hstart hslash ⊢
  cases hstart with
  | empty => cases (parent?_of_empty hpieces).symm.trans h
  | root first inner =>
      rw [parent?_of_root hpieces] at h
      obtain ⟨front, hfront, rfl⟩ := Option.map_eq_some_iff.1 h
      obtain ⟨hbegin, hne, hdrop⟩ := of_innerParent?_eq_some hfront
      have hclean : ∀ piece ∈ front, '/' ∉ piece := fun piece hmem =>
        hslash piece (List.mem_cons_of_mem _ (hbegin.subset hmem))
      rw [components_glue_root hclean, hdrop]
      exact (List.dropLast_cons_of_ne_nil hne).symm
  | here inner =>
      rw [parent?_of_here hpieces, Option.some.injEq] at h
      subst h
      cases hparent : innerParent? inner with
      | none =>
          rw [ofPieces, innerParent?_eq_none_iff.1 hparent]
          rfl
      | some front =>
          obtain ⟨hbegin, hne, hdrop⟩ := of_innerParent?_eq_some hparent
          have hclean : ∀ piece ∈ front, '/' ∉ piece := fun piece hmem =>
            hslash piece (List.mem_cons_of_mem _ (hbegin.subset hmem))
          rw [Option.elim_some, components_glue_here hclean, hdrop, ofPieces]
          exact (List.dropLast_cons_of_ne_nil hne).symm
  | busy piece inner hbusy =>
      rw [parent?_of_busy hpieces hbusy] at h
      obtain ⟨front, hfront, rfl⟩ := Option.map_eq_some_iff.1 h
      obtain ⟨hbegin, -, hdrop⟩ := of_innerParent?_eq_some hfront
      have hclean : ∀ piece ∈ front, '/' ∉ piece := fun piece hmem =>
        hslash piece (hbegin.subset hmem)
      rw [components_glue_busy hclean hbusy hbegin, hdrop, ofPieces_busy hbusy]

/-- Only the root and the empty path have no folder. -/
theorem parent?_eq_none_iff {path : String} :
    parent? path = none ↔ components path = [] ∨ components path = [.root] := by
  have hstart := start_pieces path.toList
  rw [components_eq path]
  generalize hpieces : pieces path.toList = ps at hstart ⊢
  cases hstart with
  | empty => simp [parent?_of_empty hpieces, ofPieces]
  | root first inner =>
      simp [parent?_of_root hpieces, innerParent?_eq_none_iff, ofPieces]
  | here inner => simp [parent?_of_here hpieces, ofPieces]
  | busy piece inner hbusy =>
      obtain ⟨component, hcomponent, hstart⟩ := innerComponents_busy hbusy inner
      have hroot : component ≠ .root := fun h => by simp [h, Component.isStart] at hstart
      simp [parent?_of_busy hpieces hbusy, innerParent?_eq_none_iff,
        ofPieces_busy hbusy, hcomponent, hroot]

/-! ## Paths of a configuration -/

/-- The way to the folder of a configuration: that of its own path without the
last component. -/
def folderOf (config : Option String) : List Component :=
  config.elim [] fun path => (components path).dropLast

section Resolving

variable {config : Option String} {file folder : String}

theorem resolve_of_isFixed (config : Option String) (h : IsFixed file) :
    resolve config file = file :=
  resolve_of_fixed config (Bool.or_eq_true_iff.2 h)

theorem resolve_of_folderless (h : config.bind parent? = none) (file : String) :
    resolve config file = file := by
  simp [resolve, h]

theorem resolve_of_folder (h : config.bind parent? = some folder)
    (hfile : ¬ IsFixed file) : resolve config file = join folder file := by
  have hfree : ¬ (isAbsolute file || isExplicit file) = true := fun hfixed =>
    hfile (Bool.or_eq_true_iff.1 hfixed)
  simp [resolve, h, hfree]

theorem components_eq_folderOf (h : config.bind parent? = some folder) :
    components folder = folderOf config := by
  obtain ⟨path, rfl, hpath⟩ := Option.bind_eq_some_iff.1 h
  exact components_parent? hpath

theorem folderOf_of_folderless (h : config.bind parent? = none) :
    folderOf config = [] := by
  cases config with
  | none => rfl
  | some path =>
      rcases parent?_eq_none_iff.1 h with hpath | hpath
      all_goals simp [folderOf, hpath]

/-- Where a path of a configuration leads. -/
theorem components_resolve (config : Option String) (h : ¬ IsFixed file) :
    components (resolve config file) = folderOf config ++ components file := by
  cases hfolder : config.bind parent? with
  | none =>
      rw [resolve_of_folderless hfolder, folderOf_of_folderless hfolder,
        List.nil_append]
  | some folder =>
      rw [resolve_of_folder hfolder h, components_join folder h,
        components_eq_folderOf hfolder]

theorem resolve_of_folderOf_eq_nil (h : folderOf config = []) (file : String) :
    resolve config file = file := by
  by_cases hfile : IsFixed file
  · exact resolve_of_isFixed config hfile
  · cases hfolder : config.bind parent? with
    | none => exact resolve_of_folderless hfolder file
    | some folder =>
        have hempty : folder = "" :=
          components_eq_nil_iff.1 ((components_eq_folderOf hfolder).trans h)
        rw [resolve_of_folder hfolder hfile, hempty]
        simp [join]

/-- The folder of a configuration is the one where one is, or the way to it says
where it starts. -/
def Anchored (config : Option String) : Prop :=
  ∀ path ∈ config, IsFixed path ∨ (components path).length ≤ 1

/-- A bare name of a file is looked up where one is. -/
theorem length_components_of_not_mem {path : String} (h : '/' ∉ path.toList) :
    (components path).length ≤ 1 := by
  rw [components_eq, pieces_of_not_mem h]
  have hstart := start_of_ne_nil (List.cons_ne_nil path.toList [])
  generalize path.toList = piece at hstart ⊢
  cases hstart with
  | empty => exact Nat.zero_le 1
  | here => exact Nat.le_refl 1
  | busy _ _ hbusy =>
      obtain ⟨component, hcomponent, -⟩ := innerComponents_busy hbusy []
      rw [ofPieces_busy hbusy, hcomponent]
      exact Nat.le_refl 1

theorem anchored_of_forms
    (h : ∀ path ∈ config, isAbsolute path ∨ isExplicit path ∨ '/' ∉ path.toList) :
    Anchored config := by
  intro path hpath
  rcases h path hpath with habsolute | hexplicit | hbare
  · exact .inl (.inl habsolute)
  · exact .inl (.inr hexplicit)
  · exact .inr (length_components_of_not_mem hbare)

theorem anchored_iff : Anchored config ↔
    ∀ start ∈ (folderOf config).head?, start.isStart = true := by
  cases config with
  | none => simp [Anchored, folderOf]
  | some path =>
      simp only [Anchored, Option.mem_some_iff, forall_eq', isFixed_iff, folderOf,
        Option.elim_some]
      match components path with
      | [] => simp
      | [start] => simp
      | start :: next :: rest => simp

/-- A path that was resolved stays what it is, if it said itself where it starts
or the configuration is anchored, and only then. -/
theorem resolve_resolve_iff :
    resolve config (resolve config file) = resolve config file ↔
      IsFixed file ∨ Anchored config := by
  by_cases hfile : IsFixed file
  · simp [resolve_of_isFixed config hfile, hfile]
  · rw [or_iff_right hfile, anchored_iff]
    have hresolved := components_resolve config hfile
    cases hfolder : folderOf config with
    | nil => simp [resolve_of_folderOf_eq_nil hfolder]
    | cons start rest =>
        rw [hfolder] at hresolved
        have hfixed : IsFixed (resolve config file) ↔ start.isStart = true := by
          rw [isFixed_iff, hresolved]
          simp
        simp only [List.head?_cons, Option.mem_some_iff, forall_eq']
        constructor
        · intro hsame
          by_contra hfree
          -- resolved again, the path would be longer by the way to the folder
          have htwice := components_resolve config (hfixed.not.2 hfree)
          rw [hsame, hfolder] at htwice
          have hlength := congrArg List.length htwice
          simp only [List.length_append, List.length_cons] at hlength
          omega
        · intro hstart
          exact resolve_of_isFixed config (hfixed.2 hstart)

/-- The way to a folder below the one where one is would be gone twice. -/
example : resolve (some "in/plan.yml") (resolve (some "in/plan.yml") "net.yml") =
    "in/in/net.yml" := by decide +kernel

theorem resolve_resolve_of_anchored (h : Anchored config) (file : String) :
    resolve config (resolve config file) = resolve config file :=
  resolve_resolve_iff.2 (.inr h)

end Resolving

end LaneFlow.Path
