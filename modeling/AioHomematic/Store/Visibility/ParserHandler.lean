import AioHomematic.Store.Visibility.RuleContainers
import AioHomematic.Store.Visibility.Rules

/-!
# Parsing the un-ignore configuration

`UnIgnoreRuleParser` of `store/visibility/parser_handler.py`: the static rules first, and then the
lines of the user in the order in which their set is iterated. What comes out depends on this
order in one place only, which is the order of the models in `relevantMasterChannels`.
-/

namespace AioHomematic.Store.Visibility

open Lib

/-- The channels whose MASTER paramsets are fetched, by model. -/
abbrev MasterChannels := Dict String (List (Option Int))

namespace MasterChannels

def addChannel (d : MasterChannels) (model : String) (channelNo : Option Int) : MasterChannels :=
  d.modifyD model [] (List.insert channelNo)

def channels (d : MasterChannels) (model : String) : List (Option Int) := (d.get? model).getD []

end MasterChannels

structure ParsedUnIgnoreRules where
  customUnIgnoreRules : ModelRules := {}
  customUnIgnoreValuesParameters : List String := []
  deviceUnIgnoreRules : ModelRules := {}
  relevantMasterChannels : MasterChannels := Dict.empty

variable (py : PyUnicode)

def addStaticRule (model : String) (parameters : List String) (rules : ParsedUnIgnoreRules)
    (channelNo : Option Int) : ParsedUnIgnoreRules :=
  { rules with
    relevantMasterChannels := rules.relevantMasterChannels.addChannel model channelNo
    deviceUnIgnoreRules :=
      rules.deviceUnIgnoreRules.updateParameters model (.no channelNo) .master parameters }

def parseStaticDeviceRules : ParsedUnIgnoreRules :=
  relevantMasterParamsetsByDevice.foldl (fun rules e =>
    (if e.2.1 = [] then [none] else e.2.1).foldl (addStaticRule (py.lower e.1) e.2.2) rules) {}

def addEntry (rules : ParsedUnIgnoreRules) (entry : UnIgnoreEntry) : ParsedUnIgnoreRules :=
  { rules with
    relevantMasterChannels := match entry.paramsetKey, entry.channelNo with
      | .master, .no channelNo => rules.relevantMasterChannels.addChannel entry.model channelNo
      | _, _ => rules.relevantMasterChannels
    customUnIgnoreRules := rules.customUnIgnoreRules.addParameter entry.model entry.channelNo
      entry.paramsetKey entry.parameter }

/-- A line with an error is logged. -/
def processLine (rules : ParsedUnIgnoreRules) (line : String) : Option ParsedUnIgnoreRules :=
  if strip line.toList = [] then some rules
  else do
    let parsed ← parseUnIgnoreLine py line
    if parsed.isError then return rules
    else match parsed.simpleParameter, parsed.entry with
      | some parameter, _ =>
        return { rules with customUnIgnoreValuesParameters :=
          rules.customUnIgnoreValuesParameters.insert parameter }
      | none, some entry => return addEntry rules entry
      | none, none => return rules

def parseUserConfigEntries (rules : ParsedUnIgnoreRules) (lines : List String) :
    Option ParsedUnIgnoreRules :=
  lines.foldlM (processLine py) rules

def parseEntries (lines : List String) : Option ParsedUnIgnoreRules :=
  parseUserConfigEntries py (parseStaticDeviceRules py) lines

variable {py}

/-! ## What the lines of the user add -/

/-- The result of one line. -/
def addParsed (rules : ParsedUnIgnoreRules) (parsed : ParsedUnIgnoreLine) : ParsedUnIgnoreRules :=
  match parsed.simpleParameter, parsed.entry with
  | some parameter, _ =>
    { rules with customUnIgnoreValuesParameters :=
      rules.customUnIgnoreValuesParameters.insert parameter }
  | none, some entry => addEntry rules entry
  | none, none => rules

theorem processLine_eq (rules : ParsedUnIgnoreRules) (line : String) :
    processLine py rules line = (parseUnIgnoreLine py line).map (addParsed rules) := by
  unfold processLine
  split
  next hblank =>
    rw [parseUnIgnoreLine_blank hblank]
    rfl
  next =>
    cases hparsed : parseUnIgnoreLine py line with
    | none => rfl
    | some parsed =>
      obtain ⟨e, rfl⟩ | ⟨s, rfl⟩ | ⟨e, rfl⟩ := parseUnIgnoreLine_cases hparsed <;> rfl

def HasEntry (py : PyUnicode) (line : String) (entry : UnIgnoreEntry) : Prop :=
  ∃ parsed, parseUnIgnoreLine py line = some parsed ∧ parsed.entry = some entry

def HasSimpleParameter (py : PyUnicode) (line parameter : String) : Prop :=
  ∃ parsed, parseUnIgnoreLine py line = some parsed ∧ parsed.simpleParameter = some parameter

/-- What a line that is an error, a simple parameter or an entry does to the rules. -/
theorem processLine_cases {rules rules' : ParsedUnIgnoreRules} {line : String}
    (h : processLine py rules line = some rules') :
    (rules' = rules ∧ (∀ e, ¬HasEntry py line e) ∧ ∀ s, ¬HasSimpleParameter py line s) ∨
    (∃ s, rules' = { rules with customUnIgnoreValuesParameters :=
        rules.customUnIgnoreValuesParameters.insert s } ∧ (∀ e, ¬HasEntry py line e) ∧
      ∀ s', HasSimpleParameter py line s' ↔ s' = s) ∨
    (∃ e, rules' = addEntry rules e ∧ (∀ e', HasEntry py line e' ↔ e' = e) ∧
      ∀ s, ¬HasSimpleParameter py line s) := by
  rw [processLine_eq] at h
  obtain ⟨parsed, hparsed, rfl⟩ := Option.map_eq_some_iff.mp h
  unfold HasEntry HasSimpleParameter
  rw [hparsed]
  obtain ⟨e, rfl⟩ | ⟨s, rfl⟩ | ⟨e, rfl⟩ := parseUnIgnoreLine_cases hparsed
  · exact .inl ⟨rfl, by simp, by simp⟩
  · exact .inr (.inl ⟨s, rfl, by simp, by simp [eq_comm]⟩)
  · exact .inr (.inr ⟨e, rfl, by simp [eq_comm], by simp⟩)

theorem parseUserConfigEntries_cons {rules rules' : ParsedUnIgnoreRules} {line : String}
    {lines : List String} :
    parseUserConfigEntries py rules (line :: lines) = some rules' ↔
      ∃ rules₁, processLine py rules line = some rules₁ ∧
        parseUserConfigEntries py rules₁ lines = some rules' := by
  rw [parseUserConfigEntries, List.foldlM_cons, Option.bind_eq_bind, Option.bind_eq_some_iff]
  rfl

/-- What holds of the rules after the lines, as it holds of them before or a line says so. -/
theorem parseUserConfigEntries_iff {P : ParsedUnIgnoreRules → Prop} {A : String → Prop}
    (hstep : ∀ {rules rules' line}, processLine py rules line = some rules' →
      (P rules' ↔ A line ∨ P rules))
    {lines : List String} {rules rules' : ParsedUnIgnoreRules}
    (h : parseUserConfigEntries py rules lines = some rules') :
    P rules' ↔ (∃ line ∈ lines, A line) ∨ P rules := by
  induction lines generalizing rules with
  | nil =>
    cases h
    simp
  | cons line lines ih =>
    obtain ⟨rules₁, hline, hlines⟩ := parseUserConfigEntries_cons.mp h
    rw [ih hlines, hstep hline, List.exists_mem_cons_iff, or_left_comm, or_assoc]

theorem exists_parseUserConfigEntries {rules : ParsedUnIgnoreRules} {lines : List String} :
    (∃ rules', parseUserConfigEntries py rules lines = some rules') ↔
      ∀ line ∈ lines, parseUnIgnoreLine py line ≠ none := by
  induction lines generalizing rules with
  | nil => exact ⟨by simp, fun _ => ⟨rules, rfl⟩⟩
  | cons line lines ih =>
    rw [List.forall_mem_cons]
    constructor
    · rintro ⟨rules', h⟩
      obtain ⟨rules₁, hline, hlines⟩ := parseUserConfigEntries_cons.mp h
      rw [processLine_eq] at hline
      obtain ⟨parsed, hparsed, -⟩ := Option.map_eq_some_iff.mp hline
      exact ⟨by rw [hparsed]; simp, ih.mp ⟨rules', hlines⟩⟩
    · rintro ⟨hline, hlines⟩
      obtain ⟨parsed, hparsed⟩ := Option.ne_none_iff_exists'.mp hline
      obtain ⟨rules', h⟩ := ih.mpr hlines
      refine ⟨rules', parseUserConfigEntries_cons.mpr ⟨addParsed rules parsed, ?_, h⟩⟩
      rw [processLine_eq, hparsed, Option.map_some]

theorem mem_channels_addChannel {d : MasterChannels} {model model' : String}
    {channelNo channelNo' : Option Int} :
    channelNo' ∈ (d.addChannel model channelNo).channels model' ↔
      (model, channelNo) = (model', channelNo') ∨ channelNo' ∈ d.channels model' := by
  rw [MasterChannels.channels, MasterChannels.addChannel, Dict.getD_get?_modifyD, Prod.mk.injEq]
  split
  next hmodel =>
    subst hmodel
    rw [List.mem_insert_iff]
    simp [MasterChannels.channels, eq_comm]
  next hmodel => simp [MasterChannels.channels, hmodel]

variable {rules rules' : ParsedUnIgnoreRules} {lines : List String}

theorem contains_customUnIgnoreRules (h : parseUserConfigEntries py rules lines = some rules')
    (e : UnIgnoreEntry) :
    rules'.customUnIgnoreRules.contains e.model e.channelNo e.paramsetKey e.parameter = true ↔
      (∃ line ∈ lines, HasEntry py line e) ∨ rules.customUnIgnoreRules.contains e.model
        e.channelNo e.paramsetKey e.parameter = true := by
  refine parseUserConfigEntries_iff (P := fun rules =>
    rules.customUnIgnoreRules.contains e.model e.channelNo e.paramsetKey e.parameter = true) ?_ h
  intro rules rules' line hline
  obtain ⟨rfl, hentry, -⟩ | ⟨s, rfl, hentry, -⟩ | ⟨e', rfl, hentry, -⟩ := processLine_cases hline
  · simp [hentry]
  · simp [hentry]
  · rw [hentry, addEntry, ModelRules.contains_addParameter]
    have heq : (e'.model, e'.channelNo, e'.paramsetKey, e'.parameter) =
        (e.model, e.channelNo, e.paramsetKey, e.parameter) ↔ e = e' := by
      cases e
      cases e'
      simp [eq_comm]
    rw [heq]

theorem mem_customUnIgnoreValuesParameters
    (h : parseUserConfigEntries py rules lines = some rules') (parameter : String) :
    parameter ∈ rules'.customUnIgnoreValuesParameters ↔
      (∃ line ∈ lines, HasSimpleParameter py line parameter) ∨
        parameter ∈ rules.customUnIgnoreValuesParameters := by
  refine parseUserConfigEntries_iff (P := fun rules =>
    parameter ∈ rules.customUnIgnoreValuesParameters) ?_ h
  intro rules rules' line hline
  obtain ⟨rfl, -, hsimple⟩ | ⟨s, rfl, -, hsimple⟩ | ⟨e, rfl, -, hsimple⟩ := processLine_cases hline
  · simp [hsimple]
  · simp [hsimple, List.mem_insert_iff]
  · simp [hsimple, addEntry]

theorem deviceUnIgnoreRules_eq (h : parseUserConfigEntries py rules lines = some rules') :
    rules'.deviceUnIgnoreRules = rules.deviceUnIgnoreRules := by
  induction lines generalizing rules with
  | nil =>
    cases h
    rfl
  | cons line lines ih =>
    obtain ⟨rules₁, hline, hlines⟩ := parseUserConfigEntries_cons.mp h
    rw [ih hlines]
    obtain ⟨rfl, -⟩ | ⟨s, rfl, -⟩ | ⟨e, rfl, -⟩ := processLine_cases hline <;> rfl

/-- A line for the MASTER paramset of this channel of the model, which is in lower case. -/
def UserChannel (py : PyUnicode) (lines : List String) (model : String) (channelNo : Option Int) :
    Prop :=
  ∃ line ∈ lines, ∃ parameter, HasEntry py line ⟨model, .no channelNo, .master, parameter⟩

theorem mem_channels_addEntry {e : UnIgnoreEntry} {model : String} {channelNo : Option Int} :
    channelNo ∈ (addEntry rules e).relevantMasterChannels.channels model ↔
      (∃ parameter, (⟨model, .no channelNo, .master, parameter⟩ : UnIgnoreEntry) = e) ∨
        channelNo ∈ rules.relevantMasterChannels.channels model := by
  unfold addEntry
  dsimp only
  split
  next channelNo' hkey hno =>
    rw [mem_channels_addChannel]
    cases e
    cases hkey
    cases hno
    simp [eq_comm]
  next hother =>
    refine (or_iff_right ?_).symm
    rintro ⟨parameter, rfl⟩
    exact hother channelNo rfl rfl

theorem mem_channels (h : parseUserConfigEntries py rules lines = some rules') (model : String)
    (channelNo : Option Int) :
    channelNo ∈ rules'.relevantMasterChannels.channels model ↔
      UserChannel py lines model channelNo ∨
        channelNo ∈ rules.relevantMasterChannels.channels model := by
  refine parseUserConfigEntries_iff (P := fun rules =>
    channelNo ∈ rules.relevantMasterChannels.channels model) ?_ h
  intro rules rules' line hline
  obtain ⟨rfl, hentry, -⟩ | ⟨s, rfl, hentry, -⟩ | ⟨e, rfl, hentry, -⟩ := processLine_cases hline
  · simp [hentry]
  · simp [hentry]
  · simp only [mem_channels_addEntry, hentry]

theorem keys_addEntry (e : UnIgnoreEntry) :
    ∃ models, (addEntry rules e).relevantMasterChannels.keys =
        rules.relevantMasterChannels.keys ++ models ∧
      ∀ model ∈ models, ∃ channelNo parameter, e = ⟨model, .no channelNo, .master, parameter⟩ := by
  unfold addEntry
  dsimp only
  split
  next channelNo hkey hno =>
    rw [MasterChannels.addChannel, Dict.modifyD, Dict.keys_set]
    split
    · exact ⟨[], (List.append_nil _).symm, by simp⟩
    · refine ⟨[e.model], rfl, ?_⟩
      intro model hmodel
      rw [List.mem_singleton.mp hmodel]
      exact ⟨channelNo, e.parameter, by rw [← hkey, ← hno]⟩
  next => exact ⟨[], (List.append_nil _).symm, by simp⟩

theorem keys_processLine {line : String} (h : processLine py rules line = some rules') :
    ∃ models, rules'.relevantMasterChannels.keys = rules.relevantMasterChannels.keys ++ models ∧
      ∀ model ∈ models, ∃ channelNo parameter,
        HasEntry py line ⟨model, .no channelNo, .master, parameter⟩ := by
  obtain ⟨rfl, -⟩ | ⟨s, rfl, -⟩ | ⟨e, rfl, hentry, -⟩ := processLine_cases h
  · exact ⟨[], (List.append_nil _).symm, by simp⟩
  · exact ⟨[], (List.append_nil _).symm, by simp⟩
  · obtain ⟨models, hkeys, hmodels⟩ := keys_addEntry e
    refine ⟨models, hkeys, fun model hmodel => ?_⟩
    obtain ⟨channelNo, parameter, rfl⟩ := hmodels model hmodel
    exact ⟨channelNo, parameter, (hentry _).mpr rfl⟩

/-- The models of the user come after those that are there. -/
theorem keys_relevantMasterChannels (h : parseUserConfigEntries py rules lines = some rules') :
    ∃ models, rules'.relevantMasterChannels.keys = rules.relevantMasterChannels.keys ++ models ∧
      ∀ model ∈ models, ∃ channelNo, UserChannel py lines model channelNo := by
  induction lines generalizing rules with
  | nil =>
    cases h
    exact ⟨[], (List.append_nil _).symm, by simp⟩
  | cons line lines ih =>
    obtain ⟨rules₁, hline, hlines⟩ := parseUserConfigEntries_cons.mp h
    obtain ⟨models, hkeys, hmodels⟩ := ih hlines
    obtain ⟨models₁, hkeys₁, hmodels₁⟩ := keys_processLine hline
    refine ⟨models₁ ++ models, by rw [hkeys, hkeys₁, List.append_assoc], ?_⟩
    intro model hmodel
    obtain hmodel | hmodel := List.mem_append.mp hmodel
    · obtain ⟨channelNo, parameter, hentry⟩ := hmodels₁ model hmodel
      exact ⟨channelNo, line, List.mem_cons_self, parameter, hentry⟩
    · obtain ⟨channelNo, line', hline', hentry⟩ := hmodels model hmodel
      exact ⟨channelNo, line', List.mem_cons_of_mem _ hline', hentry⟩

/-! ## The rules of a configuration -/

/-- The user has no rules before the first line. -/
theorem parseStaticDeviceRules_custom (py : PyUnicode) :
    (parseStaticDeviceRules py).customUnIgnoreRules = {} ∧
      (parseStaticDeviceRules py).customUnIgnoreValuesParameters = [] := by
  have hchannels : ∀ (model : String) (parameters : List String) (channels : List (Option Int))
      (rules : ParsedUnIgnoreRules),
      (channels.foldl (addStaticRule model parameters) rules).customUnIgnoreRules =
          rules.customUnIgnoreRules ∧
        (channels.foldl (addStaticRule model parameters) rules).customUnIgnoreValuesParameters =
          rules.customUnIgnoreValuesParameters := by
    intro model parameters channels
    induction channels with
    | nil => exact fun _ => ⟨rfl, rfl⟩
    | cons channel channels ih =>
      exact fun rules => ih (addStaticRule model parameters rules channel)
  refine List.foldlRecOn (motive := fun rules : ParsedUnIgnoreRules =>
    rules.customUnIgnoreRules = {} ∧ rules.customUnIgnoreValuesParameters = []) _ _ ⟨rfl, rfl⟩ ?_
  intro rules hrules e _
  obtain ⟨hcustom, hvalues⟩ := hchannels (py.lower e.1) e.2.2
    (if e.2.1 = [] then [none] else e.2.1) rules
  exact ⟨hcustom.trans hrules.1, hvalues.trans hrules.2⟩

/-- What the rules say, whichever order the lines came in. -/
structure RulesOf (py : PyUnicode) (lines : List String) (rules : ParsedUnIgnoreRules) : Prop where
  custom : ∀ e : UnIgnoreEntry,
    rules.customUnIgnoreRules.contains e.model e.channelNo e.paramsetKey e.parameter = true ↔
      ∃ line ∈ lines, HasEntry py line e
  customValues : ∀ parameter, parameter ∈ rules.customUnIgnoreValuesParameters ↔
    ∃ line ∈ lines, HasSimpleParameter py line parameter
  device : rules.deviceUnIgnoreRules = (parseStaticDeviceRules py).deviceUnIgnoreRules
  channels : ∀ model channelNo, channelNo ∈ rules.relevantMasterChannels.channels model ↔
    UserChannel py lines model channelNo ∨
      channelNo ∈ (parseStaticDeviceRules py).relevantMasterChannels.channels model

theorem rulesOf_parseEntries (h : parseEntries py lines = some rules) :
    RulesOf py lines rules := by
  obtain ⟨hcustom, hvalues⟩ := parseStaticDeviceRules_custom py
  refine ⟨fun e => ?_, fun parameter => ?_, deviceUnIgnoreRules_eq h, mem_channels h⟩
  · rw [contains_customUnIgnoreRules h, hcustom]
    exact or_iff_left Bool.false_ne_true
  · rw [mem_customUnIgnoreValuesParameters h, hvalues]
    exact or_iff_left List.not_mem_nil

end AioHomematic.Store.Visibility
