import Mathlib.Data.List.Induction
import Mathlib.Data.List.TakeWhile
import LaneFlow.Config.Loading

/-!
# The last override of a key counts

Overrides are made one after the other, each on the configuration that the one
before it has left.  One that sets a single value reads its whole module, with
defaults for what is missing, and puts it back.  What comes out nevertheless
depends on each key alone.  A setting has the value of the last override for
its key, or keeps the value it had, and nothing else is touched.

`Settings` holds all that can be asked of a configuration.  One override changes
one field of it; the rest is about lists of overrides.

## Main results

* `Override.ofText?_eq_some_iff` — how a text is split.
* `Config.outcome_overrideAll` — the first override whose value is rejected ends
  it all.
* `Config.Governs.takesLast` — what a setting is after several overrides.
* `Config.settings_congr` — overrides of different keys commute.
* `Config.last_override_counts` — all of this for any configuration.
-/

namespace LaneFlow

/-! ## Splitting -/

namespace Override

theorem ofText?_of_not_mem {s : String} (h : '=' ∉ s.toList) : ofText? s = none := by
  have hdrop : s.toList.dropWhile (· != '=') = [] := by
    refine List.dropWhile_eq_nil_iff.2 fun c hc => ?_
    simpa using fun he : c = '=' => h (he ▸ hc)
  simp [ofText?, hdrop]

/-- A text with an equals sign is split at the first one. -/
theorem exists_text_eq {s : String} (h : '=' ∈ s.toList) :
    ∃ o : Override, s = o.text ∧ '=' ∉ o.key.toList := by
  obtain ⟨key, value, hs, hkey⟩ := List.eq_append_cons_of_mem h
  refine ⟨⟨String.ofList key, String.ofList value⟩, ?_, by simpa using hkey⟩
  simp [text, ← hs]

theorem ofText?_eq_none_iff {s : String} : ofText? s = none ↔ '=' ∉ s.toList := by
  refine ⟨fun hnone h => ?_, ofText?_of_not_mem⟩
  obtain ⟨o, rfl, hkey⟩ := exists_text_eq h
  simp [ofText?_text hkey] at hnone

/-- Key and value are what stands before and behind the first equals sign. -/
theorem ofText?_eq_some_iff {s : String} {o : Override} :
    ofText? s = some o ↔ s = o.text ∧ '=' ∉ o.key.toList := by
  constructor
  · intro hsome
    have h : '=' ∈ s.toList := by
      by_contra hnone
      simp [ofText?_of_not_mem hnone] at hsome
    obtain ⟨o', rfl, hkey⟩ := exists_text_eq h
    obtain rfl := Option.some.inj ((ofText?_text hkey).symm.trans hsome)
    exact ⟨rfl, hkey⟩
  · rintro ⟨rfl, hkey⟩
    exact ofText?_text hkey

/-! ## One override -/

/-- The key of an override is that of a setting. -/
def Known (o : Override) : Prop := ∃ setting : Setting, o.key = setting.key

/-- The value of an override is none that the setting of its key can have. -/
def Rejected (o : Override) : Prop :=
  (o.key = Setting.flowFactor.key ∨ o.key = Setting.storageFactor.key) ∧
      Decimal.ofText? o.value = none ∨
    o.key = Setting.useLanes.key ∧ flagOfText? o.value = none ∨
    o.key = Setting.validation.key ∧ Validation.ofName? o.value = none

/-- The change that an override makes, if its key is known and its value is
not rejected. -/
def change? (o : Override) : Option (Change Float) :=
  (Setting.ofKey? o.key).bind (·.change? o.value)

end Override

theorem Setting.key_of_ofKey? {key : String} {setting : Setting}
    (h : ofKey? key = some setting) : key = setting.key := by
  unfold ofKey? at h
  split at h
  all_goals cases h
  all_goals rfl

theorem Setting.ofKey?_eq_some_iff {key : String} {setting : Setting} :
    ofKey? key = some setting ↔ key = setting.key :=
  ⟨key_of_ofKey?, fun h => h ▸ ofKey?_key setting⟩

namespace Override

theorem known_iff {o : Override} : o.Known ↔ (Setting.ofKey? o.key).isSome := by
  simp only [Known, Option.isSome_iff_exists, Setting.ofKey?_eq_some_iff]

instance (o : Override) : Decidable o.Known := decidable_of_iff _ known_iff.symm

theorem rejected_iff {o : Override} :
    o.Rejected ↔ ∃ setting, Setting.ofKey? o.key = some setting ∧
      setting.change? o.value = none := by
  simp only [Setting.ofKey?_eq_some_iff]
  constructor
  · rintro (⟨hkey | hkey, hvalue⟩ | ⟨hkey, hvalue⟩ | ⟨hkey, hvalue⟩)
    all_goals exact ⟨_, hkey, by simp [Setting.change?, hvalue]⟩
  · rintro ⟨setting, hkey, hvalue⟩
    cases setting <;> simp [Rejected, hkey, Setting.change?] at hvalue ⊢
    all_goals simp [hvalue]

instance (o : Override) : Decidable o.Rejected :=
  inferInstanceAs (Decidable (_ ∨ _))

end Override

/-- The setting that a change is about. -/
def Change.setting {α : Type} : Change α → Setting
  | .flowFactor _ => .flowFactor
  | .storageFactor _ => .storageFactor
  | .useLanes _ => .useLanes
  | .validation _ => .validation
  | .outputFolder _ => .outputFolder

theorem Setting.setting_of_change? {setting : Setting} {value : String}
    {change : Change Float} (h : setting.change? value = some change) :
    change.setting = setting := by
  cases setting <;> simp [change?] at h
  all_goals grind [Change.setting]

theorem Override.key_of_change? {o : Override} {change : Change Float}
    (h : o.change? = some change) : o.key = change.setting.key := by
  obtain ⟨setting, hkey, hchange⟩ := Option.bind_eq_some_iff.1 h
  rw [Setting.setting_of_change? hchange, Setting.ofKey?_eq_some_iff.1 hkey]

/-! ## All that can be asked of a configuration -/

/-- What a configuration says, with defaults for what it does not. -/
@[ext]
structure Settings (α : Type) where
  scenario : Option ScenarioFiles
  scaling : Scaling α
  laneUse : LaneUse
  output : OutputRules

/-- The settings after a change. -/
def Settings.change {α : Type} (s : Settings α) : Change α → Settings α
  | .flowFactor x => { s with scaling := { s.scaling with flow := x } }
  | .storageFactor x => { s with scaling := { s.scaling with storage := x } }
  | .useLanes b => { s with laneUse := { s.laneUse with use := b } }
  | .validation v => { s with laneUse := { s.laneUse with validation := v } }
  | .outputFolder path => { s with output := { s.output with folder := path } }

/-- The settings after an override. -/
def Settings.apply (s : Settings Float) (o : Override) : Settings Float :=
  o.change?.elim s s.change

/-- No override is about the scenario or about logging. -/
theorem Settings.foldl_apply_kept (s : Settings Float) (os : List Override) :
    (os.foldl apply s).scenario = s.scenario ∧
      (os.foldl apply s).output.logging = s.output.logging := by
  induction os generalizing s with
  | nil => exact ⟨rfl, rfl⟩
  | cons o os ih =>
      have hstep : (s.apply o).scenario = s.scenario ∧
          (s.apply o).output.logging = s.output.logging := by
        unfold apply
        cases o.change? with
        | none => exact ⟨rfl, rfl⟩
        | some change => cases change <;> exact ⟨rfl, rfl⟩
      obtain ⟨hscenario, hlogging⟩ := ih (s.apply o)
      exact ⟨hscenario.trans hstep.1, hlogging.trans hstep.2⟩

namespace Config

/-- The settings of a configuration. -/
def settings {α : Type} [Quantity α] (c : Config α) : Settings α :=
  ⟨c.scenario?, c.simulation, c.laneUse, c.output⟩

/-- Where no module of the right kind has the name, the default is read. -/
structure FallsBack {α : Type} [Quantity α] (c : Config α) : Prop where
  scenario : (∀ files, c.find? "scenario" ≠ some (.scenario files)) →
    c.scenario? = none
  simulation : (∀ scaling, c.find? "simulation" ≠ some (.simulation scaling)) →
    c.simulation = .unscaled
  laneUse : (∀ use, c.find? "lanes" ≠ some (.lanes use)) → c.laneUse = {}
  output : (∀ rules, c.find? "output" ≠ some (.output rules)) → c.output = {}

theorem fallsBack {α : Type} [Quantity α] (c : Config α) : c.FallsBack := by
  constructor
  all_goals intro h
  · unfold scenario?
    split <;> simp_all
  · unfold simulation
    split <;> simp_all
  · unfold laneUse
    split <;> simp_all
  · unfold output
    split <;> simp_all

/-- The configuration after an override. -/
def apply (c : Config Float) (o : Override) : Config Float :=
  o.change?.elim c c.change

/-- Modules are read and put back as a whole, but only one field changes. -/
theorem settings_change {α : Type} [Quantity α] (c : Config α)
    (change : Change α) : (c.change change).settings = c.settings.change change := by
  cases change <;>
    simp [settings, Config.change, Settings.change, scenario?, simulation, laneUse,
      output, putSimulation, putLaneUse, putOutput, find?_put_self, find?_put_other]

theorem settings_apply (c : Config Float) (o : Override) :
    (c.apply o).settings = c.settings.apply o := by
  unfold apply Settings.apply
  cases o.change? with
  | none => rfl
  | some change => exact c.settings_change change

/-- What a list of overrides makes of the settings does not depend on how the
modules hold them. -/
theorem settings_foldl_apply (c : Config Float) (os : List Override) :
    (os.foldl apply c).settings = os.foldl Settings.apply c.settings := by
  induction os generalizing c with
  | nil => rfl
  | cons o os ih => rw [List.foldl_cons, List.foldl_cons, ih, settings_apply]

/-- The modules that overrides are about. -/
def overridable : List String := ["simulation", "lanes", "output"]

/-- Nothing else is touched: not the path of the configuration, and no module
under another name. -/
theorem apply_frame (c : Config Float) (o : Override) :
    (c.apply o).context = c.context ∧
      ∀ name ∉ overridable, (c.apply o).find? name = c.find? name := by
  unfold apply
  cases o.change? with
  | none => exact ⟨rfl, fun _ _ => rfl⟩
  | some change =>
      refine ⟨by cases change <;> rfl, fun name hname => ?_⟩
      simp only [overridable, List.mem_cons, List.not_mem_nil, or_false,
        not_or] at hname
      obtain ⟨hsimulation, hlanes, houtput⟩ := hname
      cases change with
      | flowFactor x => exact find?_put_other c _ hsimulation
      | storageFactor x => exact find?_put_other c _ hsimulation
      | useLanes b => exact find?_put_other c _ hlanes
      | validation v => exact find?_put_other c _ hlanes
      | outputFolder path => exact find?_put_other c _ houtput

theorem foldl_apply_frame (c : Config Float) (os : List Override) :
    (os.foldl apply c).context = c.context ∧
      ∀ name ∉ overridable, (os.foldl apply c).find? name = c.find? name := by
  induction os generalizing c with
  | nil => exact ⟨rfl, fun _ _ => rfl⟩
  | cons o os ih =>
      obtain ⟨hcontext, hfind⟩ := ih (c.apply o)
      obtain ⟨hcontext', hfind'⟩ := c.apply_frame o
      exact ⟨hcontext.trans hcontext',
        fun name hname => (hfind name hname).trans (hfind' name hname)⟩

/-! ## How a list of overrides ends -/

theorem outcome_override (c : Config Float) (o : Override) :
    (c.override o).outcome =
      if o.Rejected then .error (.badValue o) else .ok (c.apply o) := by
  rw [override, apply, Override.change?]
  simp only [Override.rejected_iff]
  cases Setting.ofKey? o.key with
  | none => simp [Logged.outcome_bind_ok, Logged.report]
  | some setting =>
      cases hchange : setting.change? o.value with
      | none => simp [hchange, Logged.fail]
      | some change => simp [hchange]

/-- The first override whose value is rejected is told, and without one all are
made. -/
theorem outcome_overrideAll (c : Config Float) (os : List Override) :
    (c.overrideAll os).outcome = match os.find? (·.Rejected) with
      | some o => .error (.badValue o)
      | none => .ok (os.foldl apply c) := by
  induction os generalizing c with
  | nil => rfl
  | cons o os ih =>
      rw [overrideAll, Logged.outcome_bind, outcome_override]
      by_cases hrejected : o.Rejected
      · simp [hrejected, Except.bind]
      · simp [hrejected, Except.bind, ih]

/-- What is reported beforehand changes nothing. -/
theorem outcome_reportOverrides (c : Config Float) (os : List Override) :
    (c.reportOverrides os).outcome = (c.overrideAll os).outcome := by
  cases os <;> rfl

theorem outcome_eq_error_iff {c : Config Float} {os : List Override}
    {fault : ConfigFault} :
    (c.overrideAll os).outcome = .error fault ↔
      ∃ o before after, os = before ++ o :: after ∧ o.Rejected ∧
        (∀ p ∈ before, ¬ p.Rejected) ∧ fault = .badValue o := by
  have hfirst : ∀ o, os.find? (·.Rejected) = some o ↔ o.Rejected ∧
      ∃ before after, os = before ++ o :: after ∧ ∀ p ∈ before, ¬ p.Rejected := by
    simp [List.find?_eq_some_iff_append]
  rw [outcome_overrideAll]
  constructor
  · intro h
    cases hfound : os.find? (·.Rejected) with
    | none => simp [hfound] at h
    | some o =>
        obtain ⟨hrejected, before, after, hos, hbefore⟩ := (hfirst o).1 hfound
        simp only [hfound, Except.error.injEq] at h
        exact ⟨o, before, after, hos, hrejected, hbefore, h.symm⟩
  · rintro ⟨o, before, after, hos, hrejected, hbefore, rfl⟩
    rw [(hfirst o).2 ⟨hrejected, before, after, hos, hbefore⟩]

theorem outcome_eq_ok {c : Config Float} {os : List Override}
    (h : ∀ o ∈ os, ¬ o.Rejected) :
    (c.overrideAll os).outcome = .ok (os.foldl apply c) := by
  have hnone : os.find? (·.Rejected) = none := by simpa using h
  rw [outcome_overrideAll, hnone]

theorem of_outcome_eq_ok {c c' : Config Float} {os : List Override}
    (h : (c.overrideAll os).outcome = .ok c') :
    (∀ o ∈ os, ¬ o.Rejected) ∧ c' = os.foldl apply c := by
  rw [outcome_overrideAll] at h
  cases hfound : os.find? (·.Rejected) with
  | some o => simp [hfound] at h
  | none =>
      simp only [hfound, Except.ok.injEq] at h
      exact ⟨by simpa using hfound, h.symm⟩

/-- Without the overrides whose key is unknown the same comes out. -/
theorem outcome_filter_known (c : Config Float) (os : List Override) :
    (c.overrideAll (os.filter (·.Known))).outcome = (c.overrideAll os).outcome := by
  induction os generalizing c with
  | nil => rfl
  | cons o os ih =>
      by_cases hknown : o.Known
      · simp only [List.filter_cons, hknown, decide_true, if_true, overrideAll,
          Logged.outcome_bind, ih]
      · have hskip : (c.override o).outcome = .ok c := by
          refine override_unknown ?_ c
          rwa [Override.known_iff, Option.not_isSome_iff_eq_none] at hknown
        simp [hknown, overrideAll, Logged.outcome_bind, hskip, Except.bind, ih]

end Config

/-! ## The last override of a key -/

namespace Override

/-- The value of the last override for a key. -/
def last? (key : String) (os : List Override) : Option String :=
  (os.filter (·.key = key)).getLast?.map (·.value)

theorem last?_concat (key : String) (os : List Override) (o : Override) :
    last? key (os ++ [o]) = if o.key = key then some o.value else last? key os := by
  by_cases h : o.key = key <;> simp [last?, List.filter_append, h]

/-- Two lists with the same overrides of each key, in the same order. -/
def SameByKey (os os' : List Override) : Prop :=
  ∀ key, os.filter (·.key = key) = os'.filter (·.key = key)

/-- Neighbours of different keys may be exchanged. -/
theorem sameByKey_swap {o p : Override} (h : o.key ≠ p.key)
    (before after : List Override) :
    SameByKey (before ++ o :: p :: after) (before ++ p :: o :: after) := by
  intro key
  by_cases ho : o.key = key <;> by_cases hp : p.key = key
  · exact absurd (ho.trans hp.symm) h
  all_goals simp [ho, hp]

theorem SameByKey.mem_iff {os os' : List Override} (h : SameByKey os os')
    (o : Override) : o ∈ os ↔ o ∈ os' := by
  have hkey : o ∈ os.filter (·.key = o.key) ↔ o ∈ os'.filter (·.key = o.key) := by
    rw [h]
  simpa using hkey

theorem SameByKey.last?_eq {os os' : List Override} (h : SameByKey os os')
    (key : String) : last? key os = last? key os' := by
  rw [last?, last?, h]

end Override

/-- A setting takes the value of the last override for its key, or keeps the one
that it had. -/
structure Setting.TakesLast {β : Type} (setting : Setting)
    (parse : String → Option β) (os : List Override) (before after : β) : Prop where
  parsed : ∀ value, Override.last? setting.key os = some value →
    parse value = some after
  kept : Override.last? setting.key os = none → after = before

theorem Setting.TakesLast.unique {β : Type} {setting : Setting}
    {parse : String → Option β} {os os' : List Override} {before after after' : β}
    (h : setting.TakesLast parse os before after)
    (h' : setting.TakesLast parse os' before after')
    (hlast : Override.last? setting.key os = Override.last? setting.key os') :
    after = after' := by
  cases hvalue : Override.last? setting.key os with
  | none => rw [h.kept hvalue, h'.kept (hlast ▸ hvalue)]
  | some value =>
      have heq := (h.parsed value hvalue).symm.trans (h'.parsed value (hlast ▸ hvalue))
      exact Option.some.inj heq

/-- A field of the settings is set by the overrides for one key, as their values
are parsed, and by no others. -/
structure Setting.Governs {β : Type} (setting : Setting)
    (parse : String → Option β) (get : Settings Float → β) : Prop where
  set : ∀ (s : Settings Float) (o : Override) (x : β), o.key = setting.key →
    parse o.value = some x → get (s.apply o) = x
  keep : ∀ (s : Settings Float) (o : Override), o.key ≠ setting.key →
    get (s.apply o) = get s

namespace Setting

variable {β : Type} {setting : Setting} {parse : String → Option β}
  {get : Settings Float → β}

/-- It is enough that the changes of the setting set the field and that no
others do. -/
theorem Governs.of_change {change : β → Change Float}
    (hparse : ∀ value, setting.change? value = (parse value).map change)
    (hset : ∀ (s : Settings Float) x, get (s.change (change x)) = x)
    (hkeep : ∀ (s : Settings Float) (c : Change Float), c.setting ≠ setting →
      get (s.change c) = get s) : setting.Governs parse get where
  set s o x hkey hvalue := by
    have hchange : o.change? = some (change x) := by
      rw [Override.change?, ofKey?_eq_some_iff.2 hkey, Option.bind_some, hparse,
        hvalue, Option.map_some]
    rw [Settings.apply, hchange]
    exact hset s x
  keep s o hkey := by
    unfold Settings.apply
    cases hchange : o.change? with
    | none => rfl
    | some c =>
        refine hkeep s c fun hsetting => hkey ?_
        rw [Override.key_of_change? hchange, hsetting]

/-- **The last override of a key counts.**  If no value for the key is rejected,
the field takes the last of them. -/
theorem Governs.takesLast (h : setting.Governs parse get) (s : Settings Float)
    {os : List Override}
    (hread : ∀ o ∈ os, o.key = setting.key → (parse o.value).isSome) :
    setting.TakesLast parse os (get s) (get (os.foldl Settings.apply s)) := by
  -- From the end, where the override stands that counts.
  induction os using List.reverseRecOn with
  | nil => exact ⟨fun _ hlast => by simp [Override.last?] at hlast, fun _ => rfl⟩
  | append_singleton os o ih =>
      have ih := ih fun p hp => hread p (List.mem_append_left _ hp)
      rw [List.foldl_append]
      by_cases hkey : o.key = setting.key
      · obtain ⟨x, hx⟩ := Option.isSome_iff_exists.1 (hread o (by simp) hkey)
        constructor
        · intro value hlast
          rw [Override.last?_concat, if_pos hkey] at hlast
          rw [← Option.some.inj hlast, hx]
          exact congrArg some (h.set _ o x hkey hx).symm
        · intro hlast
          simp [Override.last?_concat, hkey] at hlast
      · have hsame : get ([o].foldl Settings.apply (os.foldl Settings.apply s)) =
            get (os.foldl Settings.apply s) := h.keep _ o hkey
        have hlast : Override.last? setting.key (os ++ [o]) =
            Override.last? setting.key os := by
          rw [Override.last?_concat, if_neg hkey]
        rw [hsame]
        exact ⟨fun value hvalue => ih.parsed value (hlast ▸ hvalue),
          fun hnone => ih.kept (hlast ▸ hnone)⟩

theorem governs_flowFactor :
    flowFactor.Governs Decimal.ofText? (·.scaling.flow) :=
  .of_change (fun _ => rfl) (fun _ _ => rfl)
    fun _ c hc => by
      cases c with
      | flowFactor => exact absurd rfl hc
      | _ => rfl

theorem governs_storageFactor :
    storageFactor.Governs Decimal.ofText? (·.scaling.storage) :=
  .of_change (fun _ => rfl) (fun _ _ => rfl)
    fun _ c hc => by
      cases c with
      | storageFactor => exact absurd rfl hc
      | _ => rfl

theorem governs_useLanes : useLanes.Governs flagOfText? (·.laneUse.use) :=
  .of_change (fun _ => rfl) (fun _ _ => rfl)
    fun _ c hc => by
      cases c with
      | useLanes => exact absurd rfl hc
      | _ => rfl

theorem governs_validation :
    validation.Governs Validation.ofName? (·.laneUse.validation) :=
  .of_change (fun _ => rfl) (fun _ _ => rfl)
    fun _ c hc => by
      cases c with
      | validation => exact absurd rfl hc
      | _ => rfl

theorem governs_outputFolder : outputFolder.Governs some (·.output.folder) :=
  .of_change (fun _ => rfl) (fun _ _ => rfl)
    fun _ c hc => by
      cases c with
      | outputFolder => exact absurd rfl hc
      | _ => rfl

end Setting

namespace Config

/-- What several overrides make of a configuration: each setting takes its last
value, and all else is as it was. -/
structure Overridden (os : List Override) (c c' : Config Float) : Prop where
  flow : Setting.flowFactor.TakesLast Decimal.ofText? os c.simulation.flow
    c'.simulation.flow
  storage : Setting.storageFactor.TakesLast Decimal.ofText? os
    c.simulation.storage c'.simulation.storage
  use : Setting.useLanes.TakesLast flagOfText? os c.laneUse.use c'.laneUse.use
  validation : Setting.validation.TakesLast Validation.ofName? os
    c.laneUse.validation c'.laneUse.validation
  folder : Setting.outputFolder.TakesLast some os c.output.folder c'.output.folder
  logging : c'.output.logging = c.output.logging
  scenario : c'.scenario? = c.scenario?
  context : c'.context = c.context
  modules : ∀ name ∉ overridable, c'.find? name = c.find? name

theorem overridden_foldl (c : Config Float) {os : List Override}
    (h : ∀ o ∈ os, ¬ o.Rejected) : Overridden os c (os.foldl apply c) := by
  have hsettings := c.settings_foldl_apply os
  have hfloat : ∀ o ∈ os, o.key = Setting.flowFactor.key ∨
      o.key = Setting.storageFactor.key → (Decimal.ofText? o.value).isSome :=
    fun o ho hkey => Option.isSome_iff_ne_none.2 fun hnone =>
      h o ho (.inl ⟨hkey, hnone⟩)
  have hflow := Setting.governs_flowFactor.takesLast c.settings
    fun o ho hkey => hfloat o ho (.inl hkey)
  have hstorage := Setting.governs_storageFactor.takesLast c.settings
    fun o ho hkey => hfloat o ho (.inr hkey)
  have huse := Setting.governs_useLanes.takesLast c.settings fun o ho hkey =>
    Option.isSome_iff_ne_none.2 fun hnone => h o ho (.inr (.inl ⟨hkey, hnone⟩))
  have hvalidation := Setting.governs_validation.takesLast c.settings fun o ho hkey =>
    Option.isSome_iff_ne_none.2 fun hnone => h o ho (.inr (.inr ⟨hkey, hnone⟩))
  have hfolder := Setting.governs_outputFolder.takesLast c.settings
    fun o (_ : o ∈ os) _ => rfl
  rw [← hsettings] at hflow hstorage huse hvalidation hfolder
  obtain ⟨hcontext, hmodules⟩ := c.foldl_apply_frame os
  have hkept := Settings.foldl_apply_kept c.settings os
  rw [← hsettings] at hkept
  exact ⟨hflow, hstorage, huse, hvalidation, hfolder, hkept.2, hkept.1, hcontext,
    hmodules⟩

/-- Overrides of different keys commute. -/
theorem Overridden.settings_eq {os os' : List Override} {c c₁ c₂ : Config Float}
    (hsame : Override.SameByKey os os') (h₁ : Overridden os c c₁)
    (h₂ : Overridden os' c c₂) : c₁.settings = c₂.settings := by
  have hscaling : c₁.simulation = c₂.simulation := by
    rw [Scaling.mk.injEq]
    exact ⟨h₁.flow.unique h₂.flow (hsame.last?_eq _),
      h₁.storage.unique h₂.storage (hsame.last?_eq _)⟩
  have hlanes : c₁.laneUse = c₂.laneUse := by
    rw [LaneUse.mk.injEq]
    exact ⟨h₁.use.unique h₂.use (hsame.last?_eq _),
      h₁.validation.unique h₂.validation (hsame.last?_eq _)⟩
  have houtput : c₁.output = c₂.output := by
    rw [OutputRules.mk.injEq]
    exact ⟨h₁.folder.unique h₂.folder (hsame.last?_eq _),
      h₁.logging.trans h₂.logging.symm⟩
  exact Settings.ext (h₁.scenario.trans h₂.scenario.symm) hscaling hlanes houtput

/-- **The last override of a key counts, and nothing else is touched.**  A text
is split at its first equals sign, if it has one.  Overrides fail if and only if
the value of one is rejected, and the first such override is told.  Otherwise
each setting takes the value of the last override for its key, or keeps the
value it had, which is the default if its module is missing or of another kind,
and all else is as it was.  Overrides of unknown keys might as well be left out.
Lists that agree key by key end with the same settings, in whatever order
different keys come. -/
theorem last_override_counts (c : Config Float) :
    c.FallsBack ∧
    (∀ s, Override.ofText? s = none ↔ '=' ∉ s.toList) ∧
    (∀ s o, Override.ofText? s = some o ↔ s = o.text ∧ '=' ∉ o.key.toList) ∧
    ∀ os : List Override,
      (∀ fault, (c.reportOverrides os).outcome = .error fault ↔
        ∃ o before after, os = before ++ o :: after ∧ o.Rejected ∧
          (∀ p ∈ before, ¬ p.Rejected) ∧ fault = .badValue o) ∧
      ((∀ o ∈ os, ¬ o.Rejected) →
        ∃ c', (c.reportOverrides os).outcome = .ok c' ∧ Overridden os c c') ∧
      (c.reportOverrides (os.filter (·.Known))).outcome =
        (c.reportOverrides os).outcome ∧
      ∀ os' c', Override.SameByKey os os' →
        (c.reportOverrides os).outcome = .ok c' →
        ∃ c'', (c.reportOverrides os').outcome = .ok c'' ∧
          c''.settings = c'.settings := by
  simp only [outcome_reportOverrides]
  refine ⟨c.fallsBack, fun _ => Override.ofText?_eq_none_iff,
    fun _ _ => Override.ofText?_eq_some_iff, fun os =>
    ⟨fun _ => outcome_eq_error_iff,
      fun hread => ⟨_, outcome_eq_ok hread, c.overridden_foldl hread⟩,
      c.outcome_filter_known os, ?_⟩⟩
  intro os' c' hsame hok
  obtain ⟨hread, rfl⟩ := of_outcome_eq_ok hok
  have hread' : ∀ o ∈ os', ¬ o.Rejected :=
    fun o ho => hread o ((hsame.mem_iff o).2 ho)
  exact ⟨_, outcome_eq_ok hread', ((c.overridden_foldl hread).settings_eq hsame
    (c.overridden_foldl hread')).symm⟩

/-- A configuration in which a module of another kind stands where the scales
should be. -/
def misnamed : Config Float where
  modules := [("simulation", .lanes {}), ("output", .output { logging := .info })]

/-- Two overrides for the flow and two for the validation, with others between
them. -/
def mixedOverrides : List Override :=
  [⟨"simulation.flow_capacity_factor", "0.5"⟩, ⟨"lanes.use_lanes", "false"⟩,
    ⟨"lanes.validation", "Warn"⟩, ⟨"unknown", "1"⟩,
    ⟨"simulation.flow_capacity_factor", "0.25"⟩, ⟨"lanes.validation", "Strict"⟩]

/-- The later override for a key counts, the storage has its default, and it does
not matter whether lanes are switched off before or after.  Of two values that
are rejected the first one ends it all. -/
theorem last_override_counts_mixed :
    (∀ o ∈ mixedOverrides, ¬ o.Rejected) ∧
    (∃ c', (misnamed.reportOverrides mixedOverrides).outcome = .ok c' ∧
      c'.simulation = ⟨0.25, 1.0⟩ ∧ c'.laneUse = ⟨false, .strict⟩ ∧
      c'.output = ⟨"./", .info⟩ ∧
      ∃ c'', (misnamed.reportOverrides
          (⟨"lanes.use_lanes", "false"⟩ :: ⟨"simulation.flow_capacity_factor", "0.5"⟩ ::
            mixedOverrides.drop 2)).outcome = .ok c'' ∧
        c''.settings = c'.settings) ∧
    (misnamed.reportOverrides (mixedOverrides ++
        [⟨"lanes.validation", "Loud"⟩, ⟨"simulation.storage_capacity_factor", "half"⟩])).outcome =
      .error (.badValue ⟨"lanes.validation", "Loud"⟩) := by
  have hread : ∀ o ∈ mixedOverrides, ¬ o.Rejected := by decide +kernel
  obtain ⟨hback, -, -, hall⟩ := last_override_counts misnamed
  obtain ⟨-, hok, -, hsame⟩ := hall mixedOverrides
  obtain ⟨c', hc', h⟩ := hok hread
  have hflow := h.flow.parsed "0.25" (by decide +kernel)
  have hparse : Decimal.ofText? "0.25" = some 0.25 := by decide +kernel
  have hdefault : misnamed.simulation = .unscaled :=
    hback.simulation fun _ hfound => nomatch Option.some.inj hfound
  have hscaling : c'.simulation = ⟨0.25, 1.0⟩ := by
    have hstorage := h.storage.kept (by decide +kernel)
    rw [hdefault] at hstorage
    rw [Scaling.mk.injEq]
    exact ⟨Option.some.inj (hflow.symm.trans hparse), hstorage⟩
  have huse := h.use.parsed "false" (by decide +kernel)
  have hvalidation := h.validation.parsed "Strict" (by decide +kernel)
  refine ⟨hread, ⟨c', hc', hscaling, ?_, ?_, ?_⟩, ?_⟩
  · rw [LaneUse.mk.injEq]
    exact ⟨(Option.some.inj huse).symm, (Option.some.inj hvalidation).symm⟩
  · rw [OutputRules.mk.injEq]
    exact ⟨h.folder.kept (by decide +kernel), h.logging⟩
  · exact hsame _ c' (Override.sameByKey_swap (by decide) [] _) hc'
  · refine ((hall _).1 _).2 ⟨_, mixedOverrides, _, rfl, ?_, hread, rfl⟩
    decide +kernel

end Config

end LaneFlow
