import LaneFlow.Proofs.Capacity.Findings
import LaneFlow.Proofs.IdRequests
import LaneFlow.Proofs.Scenario.Agreement
import LaneFlow.Proofs.Scenario.LaneShapes

/-!
# Findings in the order of the files

Findings come in the order of the numbers of links.  If two files are read into
an empty store, the links of the network file get the first numbers, in the
order of the file, and the links that have only lanes get the next ones, in the
order of the lane file: nothing else that is read creates the id of a link.

So the lanes of the links of the network come first and in the order of the
network, whatever the order of their declaration, and the lanes of all other
links come after them (`LaneRegistry.inFileOrder`).

## Main results

* `loadedInOrder_toNetwork` — the links of a network that was read into an empty
  store are numbered in the order of the file.
* `texts_addAssignments` — which links get a number from a lane file.
* `ReadFirst.findings_eq`, `ReadFirst.named_findings_eq` — the order of
  findings.
* `findings_in_order` — what is found about lanes and in which order, for any
  network and lanes and for those of files.
-/

namespace LaneFlow

variable {α : Type}

/-! ## The numbers of links -/

namespace NetworkFile

variable {f : NetworkFile α} {n n' : Network α} {s s' : IdStore}

/-- A network holds what a file says, and the links that have ids are those of
the file in their order. -/
structure LoadedInOrder (f : NetworkFile α) (n : Network α) (s : IdStore) :
    Prop extends f.Loaded n s where
  linkTexts : s.texts .link = f.links.map (·.id)

/-- Nodes that are read have new names, and give no ids to links. -/
theorem LoadedInOrder.addNodes (h : f.LoadedInOrder n s)
    {rs : List (NodeRecord α)}
    (hread : NetworkFile.addNodes n s rs = .ok (n', s')) :
    ({ f with nodes := f.nodes ++ rs } : NetworkFile α).LoadedInOrder n' s' := by
  induction rs generalizing f n s with
  | nil =>
      cases hread
      simpa using h
  | cons r rs ih =>
      by_cases hold : r.id ∈ f.nodes.map (·.id)
      · have hlater := h.create .node r.id
        have hid := IdStore.knows_create h.distinct .node r.id
        have hsome := (hlater.isSome_node?_iff hid).2
          (by rwa [IdStore.create_external])
        simp [NetworkFile.addNodes, Network.addNode, hsome] at hread
      · obtain ⟨n₁, hadd, hloaded⟩ := h.addNode hold
        have htexts : (s.create .node r.id).2.texts .link = s.texts .link :=
          IdStore.texts_create_other s r.id (by decide)
        simp only [NetworkFile.addNodes, hadd] at hread
        simpa using ih ⟨hloaded, htexts.trans h.linkTexts⟩ hread

/-- A link that is read has a new name, and is the next to get an id. -/
theorem LoadedInOrder.addLink (h : f.LoadedInOrder n s) {r : LinkRecord α}
    (hread : NetworkFile.addLink f.capacityPeriod n s r = .ok (n', s')) :
    ({ f with links := f.links ++ [r] } : NetworkFile α).LoadedInOrder n' s' := by
  obtain ⟨source, target, hadd, rfl⟩ := addLink_eq_ok hread
  have hlater := h.create .link r.id
  have hid := IdStore.knows_create h.distinct .link r.id
  have hnew : r.id ∉ f.links.map (·.id) := by
    intro hold
    have hsome := (hlater.knownLinks.isSome_link?_iff hid).2
      (by rwa [IdStore.create_external, hlater.linkNames_eq])
    simp [Network.addLink, hsome] at hadd
  refine ⟨(h.settles_addLink hnew).of_ok hread, ?_⟩
  rw [← h.linkTexts] at hnew
  rw [IdStore.create_of_not_mem hnew, IdStore.texts_setTexts_self, h.linkTexts,
    List.map_append, List.map_singleton]

theorem LoadedInOrder.addLinks (h : f.LoadedInOrder n s)
    {rs : List (LinkRecord α)}
    (hread : NetworkFile.addLinks f.capacityPeriod n s rs = .ok (n', s')) :
    ({ f with links := f.links ++ rs } : NetworkFile α).LoadedInOrder n' s' := by
  induction rs generalizing f n s with
  | nil =>
      cases hread
      simpa using h
  | cons r rs ih =>
      rw [addLinks_cons] at hread
      obtain ⟨⟨n₁, s₁⟩, hlink, hread⟩ := exists_of_bind_eq_ok hread
      simpa using ih (h.addLink hlink) hread

/-- A network that was read into an empty store holds what its file says, and
its links are numbered in the order of the file. -/
theorem loadedInOrder_toNetwork (hread : f.toNetwork {} = .ok (n, s)) :
    f.LoadedInOrder n s := by
  have hempty : ({ f with nodes := [], links := [] } : NetworkFile α).LoadedInOrder
      ⟨[], [], f.capacityPeriod, f.cellSize⟩ {} :=
    ⟨loaded_empty f (IdStore.distinct_after []), rfl⟩
  rw [toNetwork] at hread
  split at hread
  · rename_i n₁ s₁ hnodes
    exact (hempty.addNodes hnodes).addLinks hread
  · cases hread

end NetworkFile

/-! ## The numbers of links that have only lanes -/

namespace LaneFile

variable {n : Network α} {s : IdStore}

theorem texts_lanesOf {a : AssignmentRecord α} {r : LaneRecord α}
    {names : List String} {p : List (Id .lane) × IdStore}
    (hread : lanesOf a r s names = .ok p) : p.2.texts .link = s.texts .link := by
  induction names generalizing s p with
  | nil =>
      cases hread
      rfl
  | cons name names ih =>
      have htexts : (s.create .lane name).2.texts .link = s.texts .link :=
        IdStore.texts_create_other s name (by decide)
      rw [lanesOf_cons] at hread
      split at hread
      · cases hrest : lanesOf a r (s.create .lane name).2 names with
        | error => simp [hrest, Except.map] at hread
        | ok q =>
            rw [hrest] at hread
            cases hread
            exact (ih hrest).trans htexts
      · cases hread

theorem texts_toLane {a : AssignmentRecord α} {r : LaneRecord α}
    {p : Lane α × IdStore} (hread : toLane n a r s = .ok p) :
    p.2.texts .link = s.texts .link := by
  obtain ⟨⟨toLanes, t⟩, hlanes, hread⟩ := exists_of_bind_eq_ok hread
  obtain ⟨toLinks, -, hread⟩ := exists_of_bind_eq_ok hread
  cases hread
  exact (IdStore.texts_create_other t r.id (by decide)).trans (texts_lanesOf hlanes)

/-- The lanes of a link give no id to a link. -/
theorem texts_addLanes {a : AssignmentRecord α} {result : LaneAssignment α}
    {rs : List (LaneRecord α)} {p : LaneAssignment α × IdStore}
    (hread : addLanes n a result s rs = .ok p) :
    p.2.texts .link = s.texts .link := by
  induction rs generalizing s result with
  | nil =>
      cases hread
      rfl
  | cons r rs ih =>
      obtain ⟨⟨lane, t⟩, hlane, hread⟩ := exists_of_bind_eq_ok hread
      obtain ⟨placed, -, hread⟩ := exists_of_bind_eq_ok hread
      exact (ih hread).trans (texts_toLane hlane)

/-- What the lanes of a link have gone through when those of all links have been
added. -/
theorem addAssignments_cons_eq_ok {registry : LaneRegistry α}
    {a : AssignmentRecord α} {rest : List (AssignmentRecord α)}
    {p : LaneRegistry α × IdStore}
    (hread : addAssignments n registry s (a :: rest) = .ok p) :
    ∃ result t next,
      addLanes n a { link := (s.create .link a.link).1 }
        (s.create .link a.link).2 a.lanes = .ok (result, t) ∧
      addAssignments n next t rest = .ok p := by
  rw [addAssignments] at hread
  dsimp only at hread
  split at hread
  · cases hread
  · obtain ⟨⟨result, t⟩, hlanes, hread⟩ := exists_of_bind_eq_ok hread
    dsimp only at hread
    split at hread
    · exact ⟨result, t, _, hlanes, hread⟩
    · cases hread

/-- The links of a lane file that have no id get the next ones, in the order of
the file. -/
theorem texts_addAssignments {registry : LaneRegistry α}
    {rest : List (AssignmentRecord α)} {p : LaneRegistry α × IdStore}
    (hnodup : (rest.map (·.link)).Nodup)
    (hread : addAssignments n registry s rest = .ok p) :
    p.2.texts .link =
      s.texts .link ++ (rest.map (·.link)).filter (· ∉ s.texts .link) := by
  induction rest generalizing registry s with
  | nil =>
      cases hread
      simp
  | cons a rest ih =>
      obtain ⟨result, t, next, hlanes, hread⟩ := addAssignments_cons_eq_ok hread
      have htexts := texts_addLanes hlanes
      obtain ⟨hfirst, hrest⟩ := List.nodup_cons.1 hnodup
      rw [ih hrest hread, htexts, IdStore.texts_create_self, List.map_cons]
      by_cases hmem : a.link ∈ s.texts .link
      · rw [if_pos (IdStore.number?_isSome_iff.2 hmem),
          List.filter_cons_of_neg (by simpa using hmem)]
      · rw [if_neg (by rwa [IdStore.number?_isSome_iff]),
          List.filter_cons_of_pos (by simpa using hmem), List.append_assoc,
          List.singleton_append]
        have hsame : (rest.map (·.link)).filter (· ∉ s.texts .link ++ [a.link]) =
            (rest.map (·.link)).filter (· ∉ s.texts .link) := by
          refine List.filter_congr fun x hx => ?_
          have hne : x ≠ a.link := by
            rintro rfl
            exact hfirst hx
          simp [hne]
        rw [hsame]

end LaneFile

/-! ## The order of links -/

section Filtered

variable {β γ : Type} {key : β → String} {key' : γ → String} {g : β → Option γ}

/-- What is picked for some things under their keys comes in the order of the
things. -/
theorem map_filterMap_sublist {xs : List β}
    (h : ∀ x ∈ xs, ∀ y, g x = some y → key' y = key x) :
    ((xs.filterMap g).map key').Sublist (xs.map key) := by
  induction xs with
  | nil => exact .slnil
  | cons x xs ih =>
      obtain ⟨hx, hxs⟩ := List.forall_mem_cons.1 h
      rw [List.filterMap_cons, List.map_cons]
      cases hg : g x with
      | none => exact (ih hxs).cons _
      | some y =>
          rw [List.map_cons, hx y hg]
          exact (ih hxs).cons_cons _

end Filtered

/-- The lanes of a network in the order of its links, and after them the lanes
of links that are not part of it, as the registry lists them. -/
def LaneRegistry.inFileOrder (r : LaneRegistry α) (n : Network α) :
    List (LaneAssignment α) :=
  n.links.filterMap (fun link => r.get? link.id) ++
    r.assignments.filter fun a => (n.link? a.link).isNone

theorem LaneRegistry.mem_inFileOrder_iff {r : LaneRegistry α} (h : r.Keyed)
    {n : Network α} {a : LaneAssignment α} :
    a ∈ r.inFileOrder n ↔ a ∈ r.assignments := by
  rw [inFileOrder, List.mem_append, List.mem_filterMap, List.mem_filter]
  constructor
  · rintro (⟨link, -, ha⟩ | ⟨ha, -⟩)
    · exact mem_of_get? ha
    · exact ha
  · intro ha
    cases hlink : n.link? a.link with
    | none => exact .inr ⟨ha, rfl⟩
    | some link =>
        have hsame : link.id.same a.link = true := by
          simpa using List.find?_some hlink
        refine .inl ⟨link, List.mem_of_find?_eq_some hlink, ?_⟩
        exact h.get?_eq_some_iff.2 ⟨ha, by rwa [Id.same_comm]⟩

/-- What is to be found about the lanes of two files: about the lanes of each
link of the network file in the order of the file, and then that there is no
link for other lanes, in the order of the lane file. -/
def NetworkFile.findingsInOrder [Quantity α] (f : NetworkFile α)
    (g : LaneFile α) : List (NamedFinding α) :=
  (f.links.flatMap fun r => (g.endLanes? r.id).elim [] r.findings) ++
    ((g.assignments.map (·.link)).filter (· ∉ f.links.map (·.id))).map
      .unknownLink

section Files

variable {f : NetworkFile α} {g : LaneFile α} {n : Network α} {s t : IdStore}
  {r : LaneRegistry α}

/-- A network and lanes hold what two files say, and the links that have ids are
those of the network in its order and then those that have only lanes, in the
order of the lane file. -/
structure ReadFirst (f : NetworkFile α) (g : LaneFile α) (n : Network α)
    (r : LaneRegistry α) (t : IdStore) : Prop where
  loaded : f.Loaded n t
  held : LaneFile.Held r g.assignments t
  distinct : (g.assignments.map (·.link)).Nodup
  linkTexts : t.texts .link = n.linkNames ++
    (g.assignments.map (·.link)).filter (· ∉ n.linkNames)

/-- This is so if the files were read into an empty store. -/
theorem readFirst_of_ok (hread : f.toNetwork {} = .ok (n, s))
    (hlanes : g.toLanes n s = .ok (r, t)) : ReadFirst f g n r t := by
  have hloaded := NetworkFile.loadedInOrder_toNetwork hread
  have htexts : s.texts .link = n.linkNames :=
    hloaded.linkTexts.trans hloaded.linkNames_eq.symm
  have hsettles := LaneFile.settles_toLanes g hloaded.knownLinks
  obtain ⟨hheld, hgrows⟩ := hsettles.of_ok hlanes
  have hsupported : g.Supported n.linkNames :=
    LaneFile.fault?_eq_none_iff.1 (hsettles.ok_iff.1 ⟨_, hlanes⟩)
  refine ⟨hloaded.toLoaded.mono hgrows, hheld, hsupported.distinct, ?_⟩
  rw [← htexts]
  exact LaneFile.texts_addAssignments hsupported.distinct hlanes

namespace ReadFirst

variable (h : ReadFirst f g n r t)

include h

theorem nodup_links : (n.links.map (·.id.internal)).Nodup := by
  refine (IdStore.nodup_internal_iff h.loaded.distinct h.loaded.linksKnown).2 ?_
  have hnodup := h.loaded.distinct .link
  rw [h.linkTexts, List.nodup_append] at hnodup
  exact hnodup.1

/-- The links with lanes have the names of the file, in its order. -/
theorem map_assignments : r.assignments.map (·.link.external) =
    g.assignments.map (·.link) := by
  have hnames := congrArg (List.map (·.link)) h.held.sorted
  rwa [List.map_map, List.map_map] at hnames

theorem keyed : r.Keyed := by
  refine (IdStore.nodup_internal_iff h.loaded.distinct
    fun a ha => (h.held.known a ha).link).2 ?_
  rw [h.map_assignments]
  exact h.distinct

/-- The links that are not part of the network have the names that are not among
those of its links. -/
theorem map_filter_isNone :
    (r.assignments.filter fun a => (n.link? a.link).isNone).map (·.link.external) =
      (g.assignments.map (·.link)).filter (· ∉ n.linkNames) := by
  rw [← h.map_assignments, List.filter_map]
  refine congrArg _ (List.filter_congr fun a ha => ?_)
  have hlink := h.loaded.knownLinks.isSome_link?_iff (h.held.known a ha).link
  rw [← Option.not_isSome, Bool.eq_iff_iff, Bool.not_eq_true', ← Bool.not_eq_true,
    hlink, Function.comp_apply, decide_eq_true_eq]

/-- The lanes of the network come in the order of the store. -/
theorem pairwise_inFileOrder : (r.inFileOrder n).Pairwise
    fun a b => a.link.internal < b.link.internal := by
  have hknown : ∀ a ∈ r.assignments, t.Knows a.link :=
    fun a ha => (h.held.known a ha).link
  have hpicked : ∀ link ∈ n.links, ∀ a, r.get? link.id = some a →
      a.link.external = link.id.external := by
    intro link hlink a ha
    obtain ⟨hmem, hsame⟩ := h.keyed.get?_eq_some_iff.1 ha
    exact (IdStore.same_iff_external_eq h.loaded.distinct (hknown a hmem)
      (h.loaded.linksKnown link hlink)).1 hsame
  have hids : ∀ id ∈ (r.inFileOrder n).map (·.link), t.Knows id := by
    rw [List.forall_mem_map]
    exact fun a ha => hknown a ((LaneRegistry.mem_inFileOrder_iff h.keyed).1 ha)
  have htexts : (((r.inFileOrder n).map (·.link)).map (·.external)).Sublist
      (t.texts .link) := by
    have hrest := h.map_filter_isNone
    rw [List.map_map, LaneRegistry.inFileOrder, List.map_append, h.linkTexts]
    exact hrest ▸ (map_filterMap_sublist hpicked).append_right _
  have hlt := IdStore.pairwise_internal_lt h.loaded.distinct hids htexts
  rwa [List.pairwise_map] at hlt

theorem inFileOrder_perm : (r.inFileOrder n).Perm r.assignments := by
  have hnumbers : ((r.inFileOrder n).map (·.link.internal)).Nodup :=
    List.pairwise_map.2 (h.pairwise_inFileOrder.imp Nat.ne_of_lt)
  exact (List.perm_ext_iff_of_nodup hnumbers.of_map h.keyed.of_map).2
    fun _ => LaneRegistry.mem_inFileOrder_iff h.keyed

variable [Quantity α]

/-- What is found comes in the order of the files. -/
theorem findings_eq : r.findings n =
    (r.inFileOrder n).flatMap (LaneRegistry.findingsOf n) :=
  LaneRegistry.findings_eq h.inFileOrder_perm h.pairwise_inFileOrder

/-- What is found about the lanes of a link that is not part of the network. -/
theorem named_unknown :
    ((r.assignments.filter fun a => (n.link? a.link).isNone).flatMap
        (LaneRegistry.findingsOf n)).map (·.named) =
      ((g.assignments.map (·.link)).filter (· ∉ n.linkNames)).map
        .unknownLink := by
  rw [← h.map_filter_isNone, List.map_map, List.map_flatMap, ← List.flatMap_pure_eq_map]
  refine List.flatMap_congr fun a ha => ?_
  have hnone := Option.isNone_iff_eq_none.1 (List.mem_filter.1 ha).2
  rw [LaneRegistry.findingsOf, hnone]
  rfl

/-- What is found about the lanes of a link of the network. -/
theorem named_known {link : Link α} (hlink : link ∈ n.links) :
    ((r.get? link.id).toList.flatMap (LaneRegistry.findingsOf n)).map (·.named) =
      (g.endLanes? link.id.external).elim []
        (NetworkFile.linkRecord link).findings := by
  rw [← h.held.endLanes?_eq h.loaded.distinct (h.loaded.linksKnown link hlink)]
  cases ha : r.get? link.id with
  | none => rfl
  | some a =>
      have hsame := (h.keyed.get?_eq_some_iff.1 ha).2
      rw [Id.same_comm] at hsame
      have hfound : n.link? a.link = some link :=
        (Id.find?_same_eq_some_iff h.nodup_links).2 ⟨hlink, hsame⟩
      rw [Option.toList_some, List.flatMap_singleton, LaneRegistry.findingsOf,
        hfound]
      exact named_findings a link

/-- By name, what is found is what the files say, in their order. -/
theorem named_findings_eq :
    (r.findings n).map (·.named) = f.findingsInOrder g := by
  have hlinks : ((n.links.filterMap fun link => r.get? link.id).flatMap
      (LaneRegistry.findingsOf n)).map (·.named) =
      n.links.flatMap fun link => (g.endLanes? link.id.external).elim []
        (NetworkFile.linkRecord link).findings := by
    rw [List.filterMap_eq_flatMap_toList, List.flatMap_assoc, List.map_flatMap]
    exact List.flatMap_congr fun link hlink => h.named_known hlink
  rw [h.findings_eq, LaneRegistry.inFileOrder, List.flatMap_append,
    List.map_append, hlinks, h.named_unknown, h.loaded.linkNames_eq,
    NetworkFile.findingsInOrder, ← h.loaded.links, List.flatMap_map]
  rfl

end ReadFirst

end Files

/-! ## From the outside -/

variable [Quantity α]

/-- What is reported about the lanes of a link: that the network has no such
link, or what there is to tell about them. -/
def Network.Reports (n : Network α) (a : LaneAssignment α)
    (found : List (Finding α)) : Prop :=
  (n.link? a.link = none ∧ found = [.unknownLink a.link]) ∨
    ∃ link, n.link? a.link = some link ∧ a.Tells link found

theorem Network.reports_iff {n : Network α} {a : LaneAssignment α}
    {found : List (Finding α)} :
    n.Reports a found ↔ LaneRegistry.findingsOf n a = found := by
  rw [Reports, LaneRegistry.findingsOf]
  cases n.link? a.link with
  | none => simp [eq_comm]
  | some link => simp [LaneAssignment.tells_iff]

/-- **What is found about lanes, and in which order.**  Let lanes be built by
any additions.  What is found for a network are the reports about the lanes of
each link, one after the other in the order of the links' ids.  It makes no
difference how the lanes are listed, nor, if no link has lanes twice, in which
order they were added.  If the network and the lanes were read from files into
an empty store, the links come in the order of the network file, and those that
are not part of the network follow in the order of the lane file. -/
theorem findings_in_order (n : Network α) (added : List (LaneAssignment α)) :
    let r := LaneRegistry.collected added
    (∃ as parts, as.Perm r.assignments ∧
      as.Pairwise (fun a b => a.link.internal < b.link.internal) ∧
      List.Forall₂ n.Reports as parts ∧ r.findings n = parts.flatten) ∧
    (∀ listed : LaneRegistry α, listed.assignments.Perm r.assignments →
      listed.findings n = r.findings n) ∧
    ((added.map (·.link.internal)).Nodup → ∀ other, other.Perm added →
      (LaneRegistry.collected other).findings n = r.findings n) ∧
    ∀ (f : NetworkFile α) (g : LaneFile α) (m : Network α) (s : IdStore)
      (lanes : LaneRegistry α) (t : IdStore), f.toNetwork {} = .ok (m, s) →
      g.toLanes m s = .ok (lanes, t) →
      (lanes.findings m).map (·.named) = f.findingsInOrder g := by
  intro r
  have hkeyed : r.Keyed := LaneRegistry.keyed_collected added
  refine ⟨⟨r.inOrder, r.inOrder.map (LaneRegistry.findingsOf n), r.inOrder_perm,
    LaneRegistry.pairwise_lt_inOrder hkeyed, ?_, ?_⟩,
    fun listed => LaneRegistry.findings_eq_of_perm hkeyed, ?_, ?_⟩
  · rw [List.forall₂_map_right_iff, List.forall₂_same]
    exact fun a _ => Network.reports_iff.2 rfl
  · rw [LaneRegistry.findings, List.flatMap_def]
  · intro hnodup other hother
    have hotherNodup := (hother.map (·.link.internal)).nodup_iff.2 hnodup
    refine LaneRegistry.findings_eq_of_perm hkeyed ?_
    rwa [LaneRegistry.assignments_collected hotherNodup,
      LaneRegistry.assignments_collected hnodup]
  · intro f g m s lanes t hread hlanes
    exact (readFirst_of_ok hread hlanes).named_findings_eq

/-- Lanes for a road that is not there, for the road that goes on and for the
one before it, a lane of which is longer than the road. -/
def wrongLanes : LaneFile Rat :=
  { assignments :=
      [{ link := "yz" },
        { link := "bc", lanes := [{ id := "3", start := 20, represented := some 2 }] },
        { link := "ab"
          lanes := [{ id := "1", start := 140 }, { id := "2", start := 30 }] }] }

/-- A lane of a road, and lanes of a road that is not there. -/
def wrongAssignments : List (LaneAssignment Rat) :=
  [{ link := ⟨2, "bc"⟩, lanes := [{ id := ⟨0, "1"⟩, start := 140 }] },
    { link := ⟨0, "xy"⟩ }]

/-- The road before the crossing comes first and the one that is not there last,
although the file has them the other way round.  Of lanes that are not read
from files the numbers decide, and not which are added first. -/
theorem findings_in_order_crossing :
    (∃ n s r t, crossing.toNetwork {} = .ok (n, s) ∧
      wrongLanes.toLanes n s = .ok (r, t) ∧
      (r.findings n).map (·.named) =
        [.laneExceedsLink "ab" "1" 140 100, .representedLanesMismatch "bc" 2 1,
          .unknownLink "yz"]) ∧
    (wrongAssignments.map (·.link.internal)).Nodup ∧
    (LaneRegistry.collected wrongAssignments.reverse).findings LaneFile.roads =
      (LaneRegistry.collected wrongAssignments).findings LaneFile.roads ∧
    (LaneRegistry.collected wrongAssignments).findings LaneFile.roads =
      [.unknownLink ⟨0, "xy"⟩,
        .laneExceedsLink ⟨2, "bc"⟩ ⟨0, "1"⟩ 140 100] := by
  have hnodup : (wrongAssignments.map (·.link.internal)).Nodup := by decide
  obtain ⟨-, -, hsame, hfiles⟩ :=
    findings_in_order LaneFile.roads wrongAssignments
  have hperm : wrongAssignments.reverse.Perm
      (LaneRegistry.collected wrongAssignments).assignments := by
    rw [LaneRegistry.assignments_collected hnodup]
    exact List.reverse_perm _
  have hfound : (LaneRegistry.collected wrongAssignments).findings LaneFile.roads =
      [.unknownLink ⟨0, "xy"⟩,
        .laneExceedsLink ⟨2, "bc"⟩ ⟨0, "1"⟩ 140 100] := by
    rw [LaneRegistry.findings_eq hperm (by decide)]
    decide +kernel
  refine ⟨?_, hnodup, hsame hnodup _ (List.reverse_perm _), hfound⟩
  have hnetwork := NetworkFile.settles_toNetwork crossing
    (IdStore.distinct_after []) (by decide) (by decide)
  obtain ⟨⟨n, s⟩, hread⟩ := hnetwork.ok_iff.2 (by decide +kernel)
  have hloaded := hnetwork.of_ok hread
  have hlanes := LaneFile.settles_toLanes wrongLanes hloaded.knownLinks
  rw [hloaded.linkNames_eq] at hlanes
  obtain ⟨⟨r, t⟩, hreadLanes⟩ := hlanes.ok_iff.2 (by decide +kernel)
  refine ⟨n, s, r, t, hread, hreadLanes, ?_⟩
  rw [hfiles crossing wrongLanes n s r t hread hreadLanes]
  decide +kernel

end LaneFlow
