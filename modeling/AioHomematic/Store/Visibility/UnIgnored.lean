import AioHomematic.Store.Visibility.Registry

/-!
# Un-ignored MASTER parameters

A line `PARAM:MASTER@MODEL:CH` makes its parameter visible on its channel, unless another model
that is a prefix of `MODEL` decides about its channels. A static one always does, and one of the
user does when the set of lines happens to be iterated so. `unIgnoresMaster_iff_unshadowed` says
for which sets of lines neither of this happens.
-/

namespace AioHomematic.Store.Visibility

open Lib

variable {py : PyUnicode}

/-! ## Prefixes -/

theorem startsWith_iff {s p : String} : startsWith s p = true ↔ p.toList <+: s.toList :=
  List.isPrefixOf_iff_prefix

theorem startsWith_self (s : String) : startsWith s s = true :=
  startsWith_iff.mpr List.prefix_rfl

theorem startsWith_trans {s p q : String} (h : startsWith s p = true)
    (h' : startsWith p q = true) : startsWith s q = true :=
  startsWith_iff.mpr ((startsWith_iff.mp h').trans (startsWith_iff.mp h))

/-- Of two prefixes one is a prefix of the other. -/
theorem startsWith_or {s p q : String} (h : startsWith s p = true) (h' : startsWith s q = true) :
    startsWith p q = true ∨ startsWith q p = true := by
  rw [startsWith_iff] at h h'
  rw [startsWith_iff, startsWith_iff]
  exact (List.prefix_or_prefix_of_prefix h h').symm

theorem prefixKey_eq_none {models : List String} {s : String} :
    prefixKey models s = none ↔ ∀ k ∈ models, startsWith s k = false := by
  rw [prefixKey, List.find?_eq_none]
  simp only [Bool.not_eq_true]

theorem prefixKey_eq_some {models : List String} {s k : String} (h : prefixKey models s = some k) :
    k ∈ models ∧ startsWith s k = true :=
  ⟨List.mem_of_find?_eq_some h, List.find?_some h⟩

theorem prefixKey_append (models models' : List String) (s : String) :
    prefixKey (models ++ models') s = (prefixKey models s).or (prefixKey models' s) :=
  List.find?_append

/-! ## The model that decides about the MASTER paramset -/

/-- The static model that decides about the MASTER paramset of a model. -/
def staticPrefix (py : PyUnicode) (modelL : String) : Option String :=
  prefixKey (parseStaticDeviceRules py).relevantMasterChannels.keys modelL

def staticChannels (py : PyUnicode) (model : String) : List (Option Int) :=
  (parseStaticDeviceRules py).relevantMasterChannels.channels model

/-- The channels whose MASTER paramset is relevant for every model. -/
def AlwaysRelevant (no : Option Int) : Prop := no = none ∨ no = some 0

instance (no : Option Int) : Decidable (AlwaysRelevant no) :=
  inferInstanceAs (Decidable (no = none ∨ no = some 0))

theorem lookup_relevantMasterParamsetsByChannel (no : Option Int) :
    (relevantMasterParamsetsByChannel.lookup no).isSome = true ↔ AlwaysRelevant no := by
  cases no with
  | none => decide
  | some n =>
    by_cases hn : n = 0
    · subst hn
      decide
    · have hbeq : (n == 0) = false := beq_eq_false_iff_ne.mpr hn
      simp [relevantMasterParamsetsByChannel, List.lookup_cons, AlwaysRelevant, hn, hbeq]

theorem mem_keys_of_mem_channels {d : MasterChannels} {model : String} {no : Option Int}
    (h : no ∈ d.channels model) : model ∈ d.keys := by
  by_contra hmodel
  rw [MasterChannels.channels, Dict.get?_eq_none.mpr hmodel] at h
  exact List.not_mem_nil h

variable {lines : List String} {rules : ParsedUnIgnoreRules}

theorem mem_channels_addStaticRules {model model' : String} {parameters : List String}
    {channels : List (Option Int)} {no : Option Int} :
    no ∈ (channels.foldl (addStaticRule model parameters) rules).relevantMasterChannels.channels
        model' ↔
      (model = model' ∧ no ∈ channels) ∨ no ∈ rules.relevantMasterChannels.channels model' := by
  induction channels generalizing rules with
  | nil => simp
  | cons channel channels ih =>
    rw [List.foldl_cons, ih]
    unfold addStaticRule
    rw [mem_channels_addChannel, Prod.mk.injEq, List.mem_cons]
    tauto

/-- The static channels of a model are those of its entries in the table. -/
theorem mem_staticChannels {model : String} {no : Option Int} :
    no ∈ staticChannels py model ↔ ∃ e ∈ relevantMasterParamsetsByDevice,
      py.lower e.1 = model ∧ no ∈ if e.2.1 = [] then [none] else e.2.1 := by
  have htable : ∀ (table : List (String × List (Option Int) × List String))
      (rules : ParsedUnIgnoreRules),
      no ∈ (table.foldl (fun rules e => (if e.2.1 = [] then [none] else e.2.1).foldl
          (addStaticRule (py.lower e.1) e.2.2) rules) rules).relevantMasterChannels.channels model ↔
        (∃ e ∈ table, py.lower e.1 = model ∧ no ∈ if e.2.1 = [] then [none] else e.2.1) ∨
          no ∈ rules.relevantMasterChannels.channels model := by
    intro table
    induction table with
    | nil => simp
    | cons e table ih =>
      intro rules
      rw [List.foldl_cons, ih, mem_channels_addStaticRules]
      simp only [List.mem_cons, exists_eq_or_imp]
      exact or_left_comm.trans or_assoc.symm
  exact (htable _ {}).trans (or_iff_left List.not_mem_nil)

theorem exists_of_mem_staticKeys {model : String}
    (h : model ∈ (parseStaticDeviceRules py).relevantMasterChannels.keys) :
    ∃ e ∈ relevantMasterParamsetsByDevice, py.lower e.1 = model := by
  revert model
  refine List.foldlRecOn (motive := fun rules : ParsedUnIgnoreRules =>
    ∀ {model}, model ∈ rules.relevantMasterChannels.keys →
      ∃ e ∈ relevantMasterParamsetsByDevice, py.lower e.1 = model) _ _
    (fun hmodel => absurd hmodel List.not_mem_nil) ?_
  intro rules hrules e he
  refine List.foldlRecOn (motive := fun rules : ParsedUnIgnoreRules =>
    ∀ {model}, model ∈ rules.relevantMasterChannels.keys →
      ∃ e ∈ relevantMasterParamsetsByDevice, py.lower e.1 = model) _ _ hrules ?_
  intro rules hrules channel _ model hmodel
  unfold addStaticRule MasterChannels.addChannel Dict.modifyD at hmodel
  rw [Dict.keys_set] at hmodel
  split at hmodel
  · exact hrules hmodel
  · obtain hmodel | hmodel := List.mem_append.mp hmodel
    · exact hrules hmodel
    · exact ⟨e, he, (List.mem_singleton.mp hmodel).symm⟩

/-- The models of `relevantMasterChannels`: the static ones, and then those of the user. -/
theorem keys_parseEntries (h : parseEntries py lines = some rules) :
    ∃ models, rules.relevantMasterChannels.keys =
        (parseStaticDeviceRules py).relevantMasterChannels.keys ++ models ∧
      ∀ model ∈ models, ∃ no, UserChannel py lines model no :=
  keys_relevantMasterChannels h

theorem prefixKey_of_staticPrefix (h : parseEntries py lines = some rules) {modelL k : String}
    (hk : staticPrefix py modelL = some k) :
    prefixKey rules.relevantMasterChannels.keys modelL = some k := by
  obtain ⟨models, hkeys, -⟩ := keys_parseEntries h
  rw [hkeys, prefixKey_append, ← staticPrefix, hk]
  rfl

/-- Without a static model, one of the user decides if there is one. -/
theorem prefixKey_of_user (h : parseEntries py lines = some rules) {modelL : String}
    (hstatic : staticPrefix py modelL = none) {k : String}
    (hk : prefixKey rules.relevantMasterChannels.keys modelL = some k) :
    startsWith modelL k = true ∧ ∃ no, UserChannel py lines k no := by
  obtain ⟨models, hkeys, hmodels⟩ := keys_parseEntries h
  rw [hkeys, prefixKey_append, ← staticPrefix, hstatic, Option.none_or] at hk
  obtain ⟨hmem, hprefixed⟩ := prefixKey_eq_some hk
  exact ⟨hprefixed, hmodels k hmem⟩

theorem exists_prefixKey_of_user (h : parseEntries py lines = some rules) {modelL k : String}
    {no : Option Int} (huser : UserChannel py lines k no) (hk : startsWith modelL k = true) :
    ∃ k', prefixKey rules.relevantMasterChannels.keys modelL = some k' := by
  have hchannel := ((rulesOf_parseEntries h).channels k no).mpr (.inl huser)
  rw [← Option.ne_none_iff_exists']
  intro hnone
  have hfalse := prefixKey_eq_none.mp hnone k (mem_keys_of_mem_channels hchannel)
  exact Bool.false_ne_true (hfalse.symm.trans hk)

/-- A model of the first line decides, if no static one does. -/
theorem prefixKey_of_first {line : String} {model parameter : String} {no : Option Int}
    (h : parseEntries py (line :: lines) = some rules) {modelL : String}
    (hstatic : staticPrefix py modelL = none)
    (hentry : HasEntry py line ⟨model, .no no, .master, parameter⟩)
    (hmodel : startsWith modelL model = true) :
    prefixKey rules.relevantMasterChannels.keys modelL = some model := by
  obtain ⟨rules₁, hline, hlines⟩ := parseUserConfigEntries_cons.mp h
  obtain ⟨models, hkeys, -⟩ := keys_relevantMasterChannels hlines
  have hrules₁ : rules₁.relevantMasterChannels =
      (parseStaticDeviceRules py).relevantMasterChannels.addChannel model no := by
    obtain ⟨-, hno, -⟩ | ⟨-, -, hno, -⟩ | ⟨e, rfl, hall, -⟩ := processLine_cases hline
    · exact absurd hentry (hno _)
    · exact absurd hentry (hno _)
    · rw [← (hall _).mp hentry]
      rfl
  have hnew : model ∉ (parseStaticDeviceRules py).relevantMasterChannels.keys := by
    intro hmem
    exact Bool.false_ne_true ((prefixKey_eq_none.mp hstatic model hmem).symm.trans hmodel)
  have hfirst : prefixKey [model] modelL = some model := by
    simp [prefixKey, hmodel]
  rw [hkeys, hrules₁, MasterChannels.addChannel, Dict.modifyD, Dict.keys_set, if_neg hnew,
    prefixKey_append, prefixKey_append, ← staticPrefix, hstatic, hfirst]
  rfl

theorem relevant_master_iff {config : Config} (h : parseEntries config.py lines = some rules)
    {modelL : String} {no : Option Int} :
    (config.withRules rules).relevant modelL no .master = true ↔
      AlwaysRelevant no ∨ ∃ k, prefixKey rules.relevantMasterChannels.keys modelL = some k ∧
        (UserChannel config.py lines k no ∨ no ∈ staticChannels config.py k) := by
  have hchannels := (rulesOf_parseEntries h).channels
  have hmaster : ParamsetKey.master ≠ .values := by decide
  rw [Registry.relevant, if_neg hmaster, if_pos rfl]
  split
  next halways =>
    rw [lookup_relevantMasterParamsetsByChannel] at halways
    exact iff_of_true rfl (.inl halways)
  next halways =>
    rw [lookup_relevantMasterParamsetsByChannel] at halways
    rw [or_iff_right halways, Option.any_eq_true]
    refine exists_congr fun k => and_congr_right fun _ => ?_
    rw [decide_eq_true_iff]
    exact hchannels k no

/-! ## The parameter is not skipped -/

theorem skipped_eq_false {config : Config} (h : parseEntries config.py lines = some rules)
    {line model parameter : String} {no : Option Int} (hline : line ∈ lines)
    (hentry : HasEntry config.py line ⟨model, .no no, .master, parameter⟩) :
    (config.withRules rules).skipped model no .master parameter
      ((config.withRules rules).unIgnored model no .master parameter false) = false := by
  have hcontains : rules.customUnIgnoreRules.contains model (.no no) .master parameter = true :=
    ((rulesOf_parseEntries h).custom ⟨model, .no no, .master, parameter⟩).mpr ⟨line, hline, hentry⟩
  have hignored : (config.withRules rules).ignored ⟨model, no, .master, parameter⟩ = false := by
    simp [Registry.ignored, Config.withRules, hcontains]
  have hlisted : (config.withRules rules).listed model no .master parameter false = true := by
    simp [Registry.listed, Registry.checkParameterIsUnIgnored,
      Registry.checkParameterIsUnIgnoredIn, Registry.searchPatterns, Config.withRules, hcontains]
  have hunIgnored :
      (config.withRules rules).unIgnored model no .master parameter false = true := by
    simp [Registry.unIgnored, hlisted]
  rw [Registry.skipped, hignored, hunIgnored]
  simp

/-! ## Orders of the lines -/

theorem hasEntry_perm {lines lines' : List String} (h : lines'.Perm lines) {A : String → Prop} :
    (∃ line ∈ lines', A line) ↔ ∃ line ∈ lines, A line :=
  exists_congr fun _ => and_congr_left fun _ => h.mem_iff

theorem userChannel_perm {lines lines' : List String} (h : lines'.Perm lines) (model : String)
    (no : Option Int) : UserChannel py lines' model no ↔ UserChannel py lines model no :=
  hasEntry_perm h

theorem exists_parseEntries {lines : List String} :
    (∃ rules, parseEntries py lines = some rules) ↔
      ∀ line ∈ lines, parseUnIgnoreLine py line ≠ none :=
  exists_parseUserConfigEntries

theorem exists_parseEntries_perm {lines lines' : List String} (h : lines'.Perm lines) :
    (∃ rules, parseEntries py lines' = some rules) ↔
      ∃ rules, parseEntries py lines = some rules := by
  rw [exists_parseEntries, exists_parseEntries]
  exact forall_congr' fun _ => imp_congr_left h.mem_iff

/-- Two orders of the same lines differ in nothing but the order of the relevant models. -/
structure SameRules (rules rules' : ParsedUnIgnoreRules) : Prop where
  custom : ∀ model channelNo paramsetKey parameter,
    rules.customUnIgnoreRules.contains model channelNo paramsetKey parameter =
      rules'.customUnIgnoreRules.contains model channelNo paramsetKey parameter
  customValues : ∀ parameter, parameter ∈ rules.customUnIgnoreValuesParameters ↔
    parameter ∈ rules'.customUnIgnoreValuesParameters
  device : rules.deviceUnIgnoreRules = rules'.deviceUnIgnoreRules

theorem RulesOf.same {lines lines' : List String} {rules rules' : ParsedUnIgnoreRules}
    (hperm : lines'.Perm lines) (h' : RulesOf py lines' rules') (h : RulesOf py lines rules) :
    SameRules rules' rules where
  custom model channelNo paramsetKey parameter := by
    rw [Bool.eq_iff_iff, h'.custom ⟨model, channelNo, paramsetKey, parameter⟩,
      h.custom ⟨model, channelNo, paramsetKey, parameter⟩, hasEntry_perm hperm]
  customValues parameter := by
    rw [h'.customValues, h.customValues, hasEntry_perm hperm]
  device := h'.device.trans h.device.symm

namespace SameRules

variable {rules rules' : ParsedUnIgnoreRules} (h : SameRules rules rules') (config : Config)

include h

theorem listed (modelL : String) (no : Option Int) (paramsetKey : ParamsetKey) (parameter : String)
    (customOnly : Bool) :
    (config.withRules rules).listed modelL no paramsetKey parameter customOnly =
      (config.withRules rules').listed modelL no paramsetKey parameter customOnly := by
  have hcheck : ∀ key, (config.withRules rules).checkParameterIsUnIgnored key =
      (config.withRules rules').checkParameterIsUnIgnored key := by
    intro key
    simp only [Registry.checkParameterIsUnIgnored, Registry.checkParameterIsUnIgnoredIn,
      Config.withRules, h.custom, Registry.getParametersForModelPrefix]
  exact if_congr (and_congr_right' (h.customValues parameter)) rfl (hcheck _)

theorem onDeviceList (modelL : String) (no : Option Int) (paramsetKey : ParamsetKey)
    (parameter : String) :
    (config.withRules rules).onDeviceList
        (prefixKey rules.deviceUnIgnoreRules.getModels modelL) no paramsetKey parameter =
      (config.withRules rules').onDeviceList
        (prefixKey rules'.deviceUnIgnoreRules.getModels modelL) no paramsetKey parameter := by
  simp only [Registry.onDeviceList, Config.withRules, h.device]

theorem unIgnored (modelL : String) (no : Option Int) (paramsetKey : ParamsetKey)
    (parameter : String) (customOnly : Bool) :
    (config.withRules rules).unIgnored modelL no paramsetKey parameter customOnly =
      (config.withRules rules').unIgnored modelL no paramsetKey parameter customOnly := by
  have hdevice := h.onDeviceList config modelL no paramsetKey parameter
  unfold Registry.unIgnored
  rw [h.listed config]
  exact congrArg (fun b : Bool => if customOnly then _ else if b then true else _) hdevice

theorem ignored (key : IgnoreCacheKey) :
    (config.withRules rules).ignored key = (config.withRules rules').ignored key := by
  unfold Registry.ignored
  by_cases hvalues : key.paramsetKey = .values
  · rw [if_pos hvalues, if_pos hvalues, h.unIgnored config]
    rfl
  · rw [if_neg hvalues, if_neg hvalues]
    refine if_congr Iff.rfl (if_congr Iff.rfl rfl (if_congr ?_ rfl ?_)) rfl
    · exact Bool.eq_iff_iff.mp (h.custom _ _ _ _)
    · simp only [Registry.onDeviceList, Config.withRules, h.device]

theorem decision (q : Query)
    (hrelevant : ∀ modelL no, (config.withRules rules).relevant modelL no .master =
      (config.withRules rules').relevant modelL no .master) :
    (config.withRules rules).decision q = (config.withRules rules').decision q := by
  cases q with
  | isRelevantParamset channel paramsetKey =>
    by_cases hmaster : paramsetKey = .master
    · subst hmaster
      exact hrelevant _ _
    · simp only [Registry.decision, Registry.relevant, if_neg hmaster]
  | modelIsIgnored model => rfl
  | parameterIsHidden channel paramsetKey parameter =>
    simp only [Registry.decision, Registry.hidden]
    rw [h.listed config]
    rfl
  | parameterIsIgnored channel paramsetKey parameter => exact h.ignored config _
  | parameterIsUnIgnored channel paramsetKey parameter customOnly =>
    exact h.unIgnored config _ _ _ _ _
  | shouldSkipParameter channel paramsetKey parameter parameterIsUnIgnored =>
    simp only [Registry.decision, Registry.skipped]
    rw [h.ignored config]
    rfl

end SameRules

/-! ## Sets of lines that the source handles as their lines say -/

/-- The answer of a registry after a history, if the registry could be made. -/
def Config.answerAfter (config : Config) (lines : List String) (history : List Operation)
    (q : Query) : Option Bool :=
  (config.registry lines).map fun reg => (reg.answer q (reg.after history)).1

/-- Whether the parameter is skipped when the data points of the channel are made. -/
def Config.skippedAfter (config : Config) (lines : List String) (history : List Operation)
    (channel : Channel) (paramsetKey : ParamsetKey) (parameter : String) : Option Bool :=
  (config.registry lines).map fun reg =>
    (reg.parameterIsSkipped channel paramsetKey parameter (reg.after history)).1

/-- What the lines of a set promise, in whatever order it is iterated. -/
structure UnIgnoresMaster (config : Config) (lines : List String) : Prop where
  relevant : ∀ line ∈ lines, ∀ parameter model no, MasterLine config.py line parameter model no →
    ∀ channel : Channel, channel.no = no → config.py.lower channel.model = config.py.lower model →
    ∀ lines', lines'.Perm lines → ∀ history,
      config.answerAfter lines' history (.isRelevantParamset channel .master) = some true
  notSkipped : ∀ line ∈ lines, ∀ parameter model no, MasterLine config.py line parameter model no →
    ∀ channel : Channel, channel.no = no → config.py.lower channel.model = config.py.lower model →
    ∀ lines', lines'.Perm lines → ∀ history,
      config.skippedAfter lines' history channel .master parameter = some false
  steady : ∀ lines', lines'.Perm lines → ∀ history history' q,
    config.answerAfter lines' history q = config.answerAfter lines history' q

/-- A line of the set names this channel of the model, which is in lower case. -/
def Named (py : PyUnicode) (lines : List String) (modelL : String) (no : Option Int) : Prop :=
  ∃ line ∈ lines, ∃ parameter model, MasterLine py line parameter model no ∧ py.lower model = modelL

/-- No model decides about the channels of another one that it is a prefix of. -/
structure Unshadowed (py : PyUnicode) (lines : List String) : Prop where
  parses : (∃ modelL no, Named py lines modelL no) →
    ∀ line ∈ lines, parseUnIgnoreLine py line ≠ none
  ofStatic : ∀ {modelL no k}, Named py lines modelL no → staticPrefix py modelL = some k →
    AlwaysRelevant no ∨ no ∈ staticChannels py k ∨ Named py lines k no
  ofUser : ∀ {modelL modelL' no no'}, Named py lines modelL no → Named py lines modelL' no' →
    startsWith modelL' modelL = true → staticPrefix py modelL' = none →
    ∀ n, AlwaysRelevant n ∨ (Named py lines modelL n ↔ Named py lines modelL' n)

theorem userChannel_iff_named {lines : List String} {modelL : String} {no : Option Int} :
    UserChannel py lines modelL no ↔ Named py lines modelL no := by
  refine exists_congr fun line => and_congr_right fun _ => ?_
  constructor
  · rintro ⟨parameter, parsed, hparsed, hentry⟩
    obtain ⟨parameter', model, no', hmaster, heq⟩ := parseUnIgnoreLine_master hparsed hentry rfl
    cases heq
    exact ⟨parameter, model, hmaster, rfl⟩
  · rintro ⟨parameter, model, hmaster, rfl⟩
    exact ⟨parameter, _, parseUnIgnoreLine_of_masterLine hmaster, rfl⟩

theorem answerAfter_of_parseEntries {config : Config} {lines : List String}
    {rules : ParsedUnIgnoreRules} (h : parseEntries config.py lines = some rules)
    (history : List Operation) (q : Query) :
    config.answerAfter lines history q = some ((config.withRules rules).decision q) := by
  rw [Config.answerAfter, Config.registry, h, Option.map_some, Option.map_some,
    Registry.answer_eq]

theorem answerAfter_eq_none {config : Config} {lines : List String}
    (h : parseEntries config.py lines = none) (history : List Operation) (q : Query) :
    config.answerAfter lines history q = none := by
  rw [Config.answerAfter, Config.registry, h]
  rfl

theorem staticPrefix_eq_none {modelL k : String} (hstatic : staticPrefix py modelL = none)
    (hk : startsWith modelL k = true) :
    staticPrefix py k = none ∧ ∀ no, no ∉ staticChannels py k := by
  have hnot := prefixKey_eq_none.mp hstatic
  constructor
  · refine prefixKey_eq_none.mpr fun m hm => Bool.eq_false_iff.mpr fun hkm => ?_
    exact Bool.false_ne_true ((hnot m hm).symm.trans (startsWith_trans hk hkm))
  · intro no hno
    exact Bool.false_ne_true ((hnot k (mem_keys_of_mem_channels hno)).symm.trans hk)

/-- With no static model, all models of the user that are a prefix say the same. -/
theorem Unshadowed.agree {lines : List String} (h : Unshadowed py lines) {modelL k k' : String}
    {no no' : Option Int} (hstatic : staticPrefix py modelL = none) (hk : Named py lines k no)
    (hk' : Named py lines k' no') (hprefixed : startsWith modelL k = true)
    (hprefixed' : startsWith modelL k' = true) {n : Option Int} (hn : ¬AlwaysRelevant n) :
    Named py lines k n ↔ Named py lines k' n := by
  obtain hor | hor := startsWith_or hprefixed hprefixed'
  · have hnone := (staticPrefix_eq_none hstatic hprefixed).1
    exact ((h.ofUser hk' hk hor hnone n).resolve_left hn).symm
  · have hnone := (staticPrefix_eq_none hstatic hprefixed').1
    exact (h.ofUser hk hk' hor hnone n).resolve_left hn

/-- Which MASTER paramsets are relevant, with nothing that depends on an order. -/
def RelevantMaster (py : PyUnicode) (lines : List String) (modelL : String) (no : Option Int) :
    Prop :=
  AlwaysRelevant no ∨ match staticPrefix py modelL with
    | some k => Named py lines k no ∨ no ∈ staticChannels py k
    | none => ∃ k, startsWith modelL k = true ∧ Named py lines k no

theorem Unshadowed.relevant_iff {config : Config} {lines lines' : List String}
    {rules' : ParsedUnIgnoreRules} (h : Unshadowed config.py lines) (hperm : lines'.Perm lines)
    (hrules' : parseEntries config.py lines' = some rules') (modelL : String) (no : Option Int) :
    (config.withRules rules').relevant modelL no .master = true ↔
      RelevantMaster config.py lines modelL no := by
  rw [relevant_master_iff hrules', RelevantMaster]
  by_cases halways : AlwaysRelevant no
  · exact iff_of_true (.inl halways) (.inl halways)
  rw [or_iff_right halways, or_iff_right halways]
  have huser : ∀ k n, UserChannel config.py lines' k n ↔ Named config.py lines k n := fun k n =>
    (userChannel_perm hperm k n).trans userChannel_iff_named
  split
  next k hstatic =>
    rw [prefixKey_of_staticPrefix hrules' hstatic]
    simp [huser]
  next hstatic =>
    constructor
    · rintro ⟨k, hk, hno⟩
      have hprefixed := (prefixKey_of_user hrules' hstatic hk).1
      have hno := hno.resolve_right ((staticPrefix_eq_none hstatic hprefixed).2 no)
      exact ⟨k, hprefixed, (huser k no).mp hno⟩
    · rintro ⟨k, hprefixed, hno⟩
      obtain ⟨k', hk'⟩ := exists_prefixKey_of_user hrules' ((huser k no).mpr hno) hprefixed
      obtain ⟨hprefixed', no', hno'⟩ := prefixKey_of_user hrules' hstatic hk'
      have hagree := h.agree hstatic hno ((huser k' no').mp hno') hprefixed hprefixed' halways
      exact ⟨k', hk', .inl ((huser k' no).mpr (hagree.mp hno))⟩

/-- The model of a line is decided by its own channels. -/
theorem Unshadowed.relevant_of_named {lines : List String} (h : Unshadowed py lines)
    {modelL : String} {no : Option Int} (hnamed : Named py lines modelL no) :
    RelevantMaster py lines modelL no := by
  unfold RelevantMaster
  split
  next k hstatic =>
    obtain halways | hchannel | hk := h.ofStatic hnamed hstatic
    · exact .inl halways
    · exact .inr (.inr hchannel)
    · exact .inr (.inl hk)
  next => exact .inr ⟨modelL, startsWith_self modelL, hnamed⟩

theorem unIgnoresMaster_of_unshadowed {config : Config} {lines : List String}
    (h : Unshadowed config.py lines) : UnIgnoresMaster config lines := by
  have hparses : ∀ modelL no, Named config.py lines modelL no → ∀ lines', lines'.Perm lines →
      ∃ rules, parseEntries config.py lines' = some rules := by
    intro modelL no hnamed lines' hperm
    exact (exists_parseEntries_perm hperm).mpr (exists_parseEntries.mpr (h.parses ⟨_, _, hnamed⟩))
  constructor
  case relevant =>
    rintro line hline parameter model no hmaster channel rfl hmodel lines' hperm history
    have hnamed : Named config.py lines (config.py.lower model) channel.no :=
      ⟨line, hline, parameter, model, hmaster, rfl⟩
    obtain ⟨rules', hrules'⟩ := hparses _ _ hnamed lines' hperm
    rw [answerAfter_of_parseEntries hrules']
    refine congrArg some ?_
    show (config.withRules rules').relevant (config.py.lower channel.model) channel.no .master = _
    rw [hmodel]
    exact (h.relevant_iff hperm hrules' _ _).mpr (h.relevant_of_named hnamed)
  case notSkipped =>
    rintro line hline parameter model no hmaster channel rfl hmodel lines' hperm history
    have hnamed : Named config.py lines (config.py.lower model) channel.no :=
      ⟨line, hline, parameter, model, hmaster, rfl⟩
    obtain ⟨rules', hrules'⟩ := hparses _ _ hnamed lines' hperm
    rw [Config.skippedAfter, Config.registry, hrules', Option.map_some, Option.map_some,
      Registry.parameterIsSkipped_eq]
    refine congrArg some ?_
    show (config.withRules rules').skipped (config.py.lower channel.model) channel.no .master
      parameter ((config.withRules rules').unIgnored (config.py.lower channel.model) channel.no
        .master parameter false) = false
    rw [hmodel]
    exact skipped_eq_false hrules' (hperm.mem_iff.mpr hline)
      ⟨_, parseUnIgnoreLine_of_masterLine hmaster, rfl⟩
  case steady =>
    intro lines' hperm history history' q
    cases hrules : parseEntries config.py lines with
    | none =>
      have hnone : parseEntries config.py lines' = none := by
        by_contra hsome
        obtain ⟨rules, hrules'⟩ := (exists_parseEntries_perm hperm).mp
          (Option.ne_none_iff_exists'.mp hsome)
        cases hrules.symm.trans hrules'
      rw [answerAfter_eq_none hrules, answerAfter_eq_none hnone]
    | some rules =>
      obtain ⟨rules', hrules'⟩ := (exists_parseEntries_perm hperm).mpr ⟨rules, hrules⟩
      rw [answerAfter_of_parseEntries hrules, answerAfter_of_parseEntries hrules']
      have hsame := (rulesOf_parseEntries hrules').same hperm (rulesOf_parseEntries hrules)
      refine congrArg some (hsame.decision config q fun modelL no => ?_)
      rw [Bool.eq_iff_iff, h.relevant_iff hperm hrules', h.relevant_iff (List.Perm.refl _) hrules]

/-- A model of the first line decides alone, if no static one does. -/
theorem relevant_of_first {config : Config} {lines lines' : List String} {line : String}
    {parameter modelL k : String} {no : Option Int} {rules : ParsedUnIgnoreRules}
    (hperm : (line :: lines').Perm lines)
    (hrules : parseEntries config.py (line :: lines') = some rules)
    (hstatic : staticPrefix config.py modelL = none)
    (hentry : HasEntry config.py line ⟨k, .no no, .master, parameter⟩)
    (hk : startsWith modelL k = true) {n : Option Int} (hn : ¬AlwaysRelevant n) :
    (config.withRules rules).relevant modelL n .master = true ↔ Named config.py lines k n := by
  rw [relevant_master_iff hrules, or_iff_right hn,
    prefixKey_of_first hrules hstatic hentry hk, ← userChannel_iff_named,
    ← userChannel_perm hperm]
  constructor
  · rintro ⟨k', hk', hno⟩
    cases hk'
    exact hno.resolve_right ((staticPrefix_eq_none hstatic hk).2 n)
  · intro hno
    exact ⟨k, rfl, .inl hno⟩

theorem unshadowed_of_unIgnoresMaster {config : Config} {lines : List String}
    (h : UnIgnoresMaster config lines) : Unshadowed config.py lines := by
  have hrelevant : ∀ {modelL no}, Named config.py lines modelL no →
      ∃ rules, parseEntries config.py lines = some rules ∧
        (config.withRules rules).relevant modelL no .master = true := by
    rintro modelL no ⟨line, hline, parameter, model, hmaster, rfl⟩
    have htrue := h.relevant line hline parameter model no hmaster ⟨no, model⟩ rfl rfl lines
      (List.Perm.refl _) []
    cases hrules : parseEntries config.py lines with
    | none => cases (answerAfter_eq_none hrules _ _).symm.trans htrue
    | some rules =>
      rw [answerAfter_of_parseEntries hrules] at htrue
      exact ⟨rules, rfl, Option.some.inj htrue⟩
  have hparses : ∀ {modelL no}, Named config.py lines modelL no → ∀ {lines'},
      lines'.Perm lines → ∃ rules, parseEntries config.py lines' = some rules := by
    intro modelL no hnamed lines' hperm
    obtain ⟨rules, hrules, -⟩ := hrelevant hnamed
    exact (exists_parseEntries_perm hperm).mpr ⟨rules, hrules⟩
  constructor
  case parses =>
    rintro ⟨modelL, no, hnamed⟩
    obtain ⟨rules, hrules, -⟩ := hrelevant hnamed
    exact exists_parseEntries.mp ⟨rules, hrules⟩
  case ofStatic =>
    intro modelL no k hnamed hstatic
    obtain ⟨rules, hrules, htrue⟩ := hrelevant hnamed
    obtain halways | ⟨k', hk', hno⟩ := (relevant_master_iff hrules).mp htrue
    · exact .inl halways
    · rw [prefixKey_of_staticPrefix hrules hstatic] at hk'
      cases hk'
      exact .inr (hno.symm.imp_right userChannel_iff_named.mp)
  case ofUser =>
    intro modelL modelL' no no' hnamed hnamed' hprefixed hstatic n
    by_cases hn : AlwaysRelevant n
    · exact .inl hn
    obtain ⟨line, hline, parameter, model, hmaster, rfl⟩ := hnamed
    obtain ⟨line', hline', parameter', model', hmaster', rfl⟩ := hnamed'
    have hperm := (List.perm_cons_erase hline).symm
    have hperm' := (List.perm_cons_erase hline').symm
    obtain ⟨rules, hrules⟩ := hparses ⟨line, hline, parameter, model, hmaster, rfl⟩ hperm
    obtain ⟨rules', hrules'⟩ := hparses ⟨line, hline, parameter, model, hmaster, rfl⟩ hperm'
    -- The same channel, asked for with either line first.
    have hsteady := (h.steady _ hperm [] [] (.isRelevantParamset ⟨n, model'⟩ .master)).trans
      (h.steady _ hperm' [] [] (.isRelevantParamset ⟨n, model'⟩ .master)).symm
    rw [answerAfter_of_parseEntries hrules, answerAfter_of_parseEntries hrules'] at hsteady
    have hfirst := relevant_of_first hperm hrules hstatic
      ⟨_, parseUnIgnoreLine_of_masterLine hmaster, rfl⟩ hprefixed hn
    have hfirst' := relevant_of_first hperm' hrules' hstatic
      ⟨_, parseUnIgnoreLine_of_masterLine hmaster', rfl⟩ (startsWith_self _) hn
    refine .inr ?_
    rw [← hfirst, ← hfirst']
    exact Bool.eq_iff_iff.mp (Option.some.inj hsteady)

/-- The lines of a set do what they say if and only if no model shadows another one. -/
theorem unIgnoresMaster_iff_unshadowed (config : Config) (lines : List String) :
    UnIgnoresMaster config lines ↔ Unshadowed config.py lines :=
  ⟨unshadowed_of_unIgnoresMaster, unIgnoresMaster_of_unshadowed⟩

/-! ## A static prefix, and a prefix of the user -/

theorem MasterLine.unique {line parameter parameter' model model' : String} {no no' : Option Int}
    (h : MasterLine py line parameter model no) (h' : MasterLine py line parameter' model' no') :
    py.lower model = py.lower model' ∧ no = no' := by
  have heq := (parseUnIgnoreLine_of_masterLine h).symm.trans (parseUnIgnoreLine_of_masterLine h')
  simp only [Option.some.injEq, ParsedUnIgnoreLine.mk.injEq, UnIgnoreEntry.mk.injEq,
    UnIgnoreChannelNo.no.injEq] at heq
  exact ⟨heq.1.1, heq.1.2.1⟩

/-- The lower case of ASCII text. -/
def asciiLower : PyUnicode := ⟨fun s => String.ofList (s.toList.map Char.toLower), fun _ => false⟩

theorem toList_asciiLower (s : String) :
    (asciiLower.lower s).toList = s.toList.map Char.toLower := String.toList_ofList

def offsetOfChannel2 : String := "TEMPERATURE_OFFSET:MASTER@HmIP-eTRV-2:2"

def modeOfChannel4 : String := "CHANNEL_OPERATION_MODE:MASTER@HmIP-BSM:4"

def modeOfChannel3 : String := "CHANNEL_OPERATION_MODE:MASTER@HmIP-BSM-I:3"

theorem masterLine_offsetOfChannel2 :
    MasterLine asciiLower offsetOfChannel2 "TEMPERATURE_OFFSET" "HmIP-eTRV-2" (some 2) where
  text := ⟨['2'], .number (by decide) (Support.forall_mem_of_all (by decide)) (by decide),
    by decide⟩
  parameterText := ⟨by decide, Support.forall_mem_of_all (by decide)⟩
  modelText := by decide
  named := by decide

theorem masterLine_modeOfChannel4 :
    MasterLine asciiLower modeOfChannel4 "CHANNEL_OPERATION_MODE" "HmIP-BSM" (some 4) where
  text := ⟨['4'], .number (by decide) (Support.forall_mem_of_all (by decide)) (by decide),
    by decide⟩
  parameterText := ⟨by decide, Support.forall_mem_of_all (by decide)⟩
  modelText := by decide
  named := by decide

theorem masterLine_modeOfChannel3 :
    MasterLine asciiLower modeOfChannel3 "CHANNEL_OPERATION_MODE" "HmIP-BSM-I" (some 3) where
  text := ⟨['3'], .number (by decide) (Support.forall_mem_of_all (by decide)) (by decide),
    by decide⟩
  parameterText := ⟨by decide, Support.forall_mem_of_all (by decide)⟩
  modelText := by decide
  named := by decide

/-- Of the static models only HmIP-eTRV is a prefix of HmIP-eTRV-2, and none is one of HmIP-BSM-I. -/
theorem staticModels_checked :
    ∀ e ∈ relevantMasterParamsetsByDevice.map fun e => (e.1.toList.map Char.toLower, e.2.1),
      ¬e.1 <+: "hmip-bsm-i".toList ∧
        (e.1 <+: "hmip-etrv-2".toList → e = ("hmip-etrv".toList, [some 1])) := by
  -- The models are taken apart first, for the kernel is slow at decoding strings.
  unfold relevantMasterParamsetsByDevice
  iterate 28 rw [List.map_cons]
  repeat rw [String.toList_ofList]
  decide +kernel

theorem mem_eTRV :
    ("HmIP-eTRV", [some 1], climateMasterParameters) ∈ relevantMasterParamsetsByDevice := by
  unfold relevantMasterParamsetsByDevice
  repeat first | exact List.mem_cons_self | apply List.mem_cons_of_mem

theorem lower_eTRV : asciiLower.lower "HmIP-eTRV" = "hmip-etrv" := by decide +kernel

theorem startsWith_eTRV_2 : startsWith "hmip-etrv-2" "hmip-etrv" = true := by decide +kernel

theorem staticPrefix_eTRV_2 : staticPrefix asciiLower "hmip-etrv-2" = some "hmip-etrv" := by
  have hkey : "hmip-etrv" ∈ (parseStaticDeviceRules asciiLower).relevantMasterChannels.keys :=
    mem_keys_of_mem_channels (mem_staticChannels.mpr
      ⟨_, mem_eTRV, lower_eTRV, List.mem_singleton.mpr rfl⟩)
  cases hprefix : staticPrefix asciiLower "hmip-etrv-2" with
  | none => exact absurd ((prefixKey_eq_none.mp hprefix _ hkey).symm.trans startsWith_eTRV_2) nofun
  | some model =>
    obtain ⟨hmem, hstarts⟩ := prefixKey_eq_some hprefix
    obtain ⟨e, he, rfl⟩ := exists_of_mem_staticKeys hmem
    rw [startsWith_iff, toList_asciiLower] at hstarts
    have heq := (staticModels_checked _ (List.mem_map_of_mem he)).2 hstarts
    rw [← toList_asciiLower, Prod.mk.injEq] at heq
    rw [String.toList_injective heq.1]

theorem staticPrefix_BSM_I : staticPrefix asciiLower "hmip-bsm-i" = none := by
  refine prefixKey_eq_none.mpr fun model hmem => ?_
  obtain ⟨e, he, rfl⟩ := exists_of_mem_staticKeys hmem
  rw [← Bool.not_eq_true, startsWith_iff, toList_asciiLower]
  exact (staticModels_checked _ (List.mem_map_of_mem he)).1

theorem channel2_not_static : some 2 ∉ staticChannels asciiLower "hmip-etrv" := by
  rw [mem_staticChannels]
  rintro ⟨e, he, hmodel, hchannel⟩
  have hstarts : e.1.toList.map Char.toLower <+: "hmip-etrv-2".toList := by
    rw [← toList_asciiLower, hmodel]
    exact startsWith_iff.mp startsWith_eTRV_2
  have heq := (staticModels_checked _ (List.mem_map_of_mem he)).2 hstarts
  rw [Prod.mk.injEq] at heq
  rw [heq.2] at hchannel
  exact absurd hchannel (by decide)

/-- The static rule of `HmIP-eTRV` hides the line for `HmIP-eTRV-2`, and of two lines for
`HmIP-BSM` and `HmIP-BSM-I` the one that comes first decides about a `HmIP-BSM-I`. -/
theorem not_unIgnoresMaster :
    ¬UnIgnoresMaster ⟨asciiLower, [], []⟩ [offsetOfChannel2] ∧
      ¬UnIgnoresMaster ⟨asciiLower, [], []⟩ [modeOfChannel4, modeOfChannel3] := by
  constructor
  · intro h
    have hnamed : Named asciiLower [offsetOfChannel2] "hmip-etrv-2" (some 2) :=
      ⟨_, List.mem_singleton.mpr rfl, _, _, masterLine_offsetOfChannel2, by decide⟩
    obtain halways | hchannel | ⟨line, hline, parameter, model, hmaster, hmodel⟩ :=
      (unshadowed_of_unIgnoresMaster h).ofStatic hnamed staticPrefix_eTRV_2
    · exact absurd halways (by decide)
    · exact channel2_not_static hchannel
    · cases List.mem_singleton.mp hline
      have hlower := (hmaster.unique masterLine_offsetOfChannel2).1
      rw [hmodel] at hlower
      exact absurd hlower (by decide)
  · intro h
    have hnamed : Named asciiLower [modeOfChannel4, modeOfChannel3] "hmip-bsm" (some 4) :=
      ⟨_, List.mem_cons_self, _, _, masterLine_modeOfChannel4, by decide⟩
    have hnamed' : Named asciiLower [modeOfChannel4, modeOfChannel3] "hmip-bsm-i" (some 3) :=
      ⟨_, List.mem_cons_of_mem _ List.mem_cons_self, _, _, masterLine_modeOfChannel3, by decide⟩
    obtain halways | hagree := (unshadowed_of_unIgnoresMaster h).ofUser hnamed hnamed' (by decide)
      staticPrefix_BSM_I (some 4)
    · exact absurd halways (by decide)
    · obtain ⟨line, hline, parameter, model, hmaster, hmodel⟩ := hagree.mp hnamed
      obtain rfl | hline := List.mem_cons.mp hline
      · have hlower := (hmaster.unique masterLine_modeOfChannel4).1
        rw [hmodel] at hlower
        exact absurd hlower (by decide)
      · cases List.mem_singleton.mp hline
        exact absurd (hmaster.unique masterLine_modeOfChannel3).2 (by decide)

end AioHomematic.Store.Visibility
