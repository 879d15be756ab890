import AioHomematic.Store.Visibility.ParameterDecider

/-!
# The visibility registry

The registry of a configuration, the decisions that it is asked for, and the operations that empty
its caches. `answer_eq` is what the rest uses: whatever was asked before, an answer is the decision
without caches.
-/

namespace AioHomematic.Store.Visibility

open Lib

structure Config where
  py : PyUnicode
  ignoreCustomDeviceDefinitionModels : List String
  requiredParameters : List String

def Config.withRules (config : Config) (rules : ParsedUnIgnoreRules) : Registry :=
  ⟨config.py, rules, config.ignoreCustomDeviceDefinitionModels, config.requiredParameters⟩

/-- `__init__`, where `lines` are the un-ignore list as its set is iterated. -/
def Config.registry (config : Config) (lines : List String) : Option Registry :=
  (parseEntries config.py lines).map config.withRules

inductive Query where
  | isRelevantParamset (channel : Channel) (paramsetKey : ParamsetKey)
  | modelIsIgnored (model : String)
  | parameterIsHidden (channel : Channel) (paramsetKey : ParamsetKey) (parameter : String)
  | parameterIsIgnored (channel : Channel) (paramsetKey : ParamsetKey) (parameter : String)
  | parameterIsUnIgnored (channel : Channel) (paramsetKey : ParamsetKey) (parameter : String)
      (customOnly : Bool)
  | shouldSkipParameter (channel : Channel) (paramsetKey : ParamsetKey) (parameter : String)
      (parameterIsUnIgnored : Bool)

inductive Operation where
  | query (q : Query)
  | clearMemoizationCaches
  | invalidateAllCaches

namespace Registry

variable (reg : Registry)

def answer : Query → StateM VisibilityCaches Bool
  | .isRelevantParamset channel paramsetKey => reg.isRelevantParamset channel paramsetKey
  | .modelIsIgnored model => return reg.modelIsIgnored model
  | .parameterIsHidden channel paramsetKey parameter =>
    reg.parameterIsHidden channel paramsetKey parameter
  | .parameterIsIgnored channel paramsetKey parameter =>
    reg.parameterIsIgnored channel paramsetKey parameter
  | .parameterIsUnIgnored channel paramsetKey parameter customOnly =>
    reg.parameterIsUnIgnored channel paramsetKey parameter customOnly
  | .shouldSkipParameter channel paramsetKey parameter parameterIsUnIgnored =>
    reg.shouldSkipParameter channel paramsetKey parameter parameterIsUnIgnored

def clearMemoizationCaches (s : VisibilityCaches) : VisibilityCaches :=
  { s with paramIgnoredCache := Dict.empty, paramUnIgnoredCache := Dict.empty }

def invalidateAllCaches (s : VisibilityCaches) : VisibilityCaches :=
  { clearMemoizationCaches s with
    unIgnorePrefixCache := Dict.empty, relevantPrefixCache := Dict.empty }

def run : Operation → StateM VisibilityCaches PUnit
  | .query q => do let _ ← reg.answer q
  | .clearMemoizationCaches => modify clearMemoizationCaches
  | .invalidateAllCaches => modify invalidateAllCaches

/-- The caches after a history of operations. -/
def after (history : List Operation) : VisibilityCaches :=
  history.foldl (fun s op => (reg.run op s).2) {}

/-- As `create_data_points_and_events` asks for a parameter. -/
def parameterIsSkipped (channel : Channel) (paramsetKey : ParamsetKey) (parameter : String) :
    StateM VisibilityCaches Bool := do
  let parameterIsUnIgnored ← reg.parameterIsUnIgnored channel paramsetKey parameter false
  reg.shouldSkipParameter channel paramsetKey parameter parameterIsUnIgnored

/-! ## Answers without caches -/

/-- What a query is answered without caches. -/
def decision : Query → Bool
  | .isRelevantParamset channel paramsetKey =>
    reg.relevant (reg.py.lower channel.model) channel.no paramsetKey
  | .modelIsIgnored model => reg.modelIsIgnored model
  | .parameterIsHidden channel paramsetKey parameter =>
    reg.hidden (reg.py.lower channel.model) channel.no paramsetKey parameter
  | .parameterIsIgnored channel paramsetKey parameter =>
    reg.ignored ⟨reg.py.lower channel.model, channel.no, paramsetKey, parameter⟩
  | .parameterIsUnIgnored channel paramsetKey parameter customOnly =>
    reg.unIgnored (reg.py.lower channel.model) channel.no paramsetKey parameter customOnly
  | .shouldSkipParameter channel paramsetKey parameter parameterIsUnIgnored =>
    reg.skipped (reg.py.lower channel.model) channel.no paramsetKey parameter parameterIsUnIgnored

/-- Each cache has only what would be computed again. -/
structure CachesSound (s : VisibilityCaches) : Prop where
  relevantPrefix : CacheOf (prefixKey reg.rules.relevantMasterChannels.keys) s.relevantPrefixCache
  unIgnorePrefix : CacheOf (prefixKey reg.rules.deviceUnIgnoreRules.getModels) s.unIgnorePrefixCache
  paramIgnored : CacheOf reg.ignored s.paramIgnoredCache
  paramUnIgnored : CacheOf reg.checkParameterIsUnIgnored s.paramUnIgnoredCache

variable {reg}

theorem cachesSound_empty : reg.CachesSound {} :=
  ⟨cacheOf_empty _, cacheOf_empty _, cacheOf_empty _, cacheOf_empty _⟩

theorem yields_resolveRelevantPrefix (modelL : String) :
    Yields reg.CachesSound (reg.resolveRelevantPrefix modelL)
      (prefixKey reg.rules.relevantMasterChannels.keys modelL) := by
  apply yields_memo (fun _ hs => hs.relevantPrefix)
  · intro s d hs hd
    exact { hs with relevantPrefix := hd }
  · exact Yields.pure _

theorem yields_resolveUnIgnorePrefix (modelL : String) :
    Yields reg.CachesSound (reg.resolveUnIgnorePrefix modelL)
      (prefixKey reg.rules.deviceUnIgnoreRules.getModels modelL) := by
  apply yields_memo (fun _ hs => hs.unIgnorePrefix)
  · intro s d hs hd
    exact { hs with unIgnorePrefix := hd }
  · exact Yields.pure _

theorem yields_isRelevantParamset (channel : Channel) (paramsetKey : ParamsetKey) :
    Yields reg.CachesSound (reg.isRelevantParamset channel paramsetKey)
      (reg.relevant (reg.py.lower channel.model) channel.no paramsetKey) := by
  refine Yields.ite (fun _ => Yields.pure _) fun _ => Yields.ite (fun _ => ?_) fun _ =>
    Yields.pure _
  refine Yields.ite (fun _ => Yields.pure _) fun _ => ?_
  exact (yields_resolveRelevantPrefix _).bind (Yields.pure _)

theorem yields_parameterIsListed (channel : Channel) (paramsetKey : ParamsetKey)
    (parameter : String) (customOnly : Bool) :
    Yields reg.CachesSound (reg.parameterIsListed channel paramsetKey parameter customOnly)
      (reg.listed (reg.py.lower channel.model) channel.no paramsetKey parameter customOnly) := by
  refine Yields.ite (fun _ => Yields.pure _) fun _ => ?_
  apply yields_memo (fun _ hs => hs.paramUnIgnored)
  · intro s d hs hd
    exact { hs with paramUnIgnored := hd }
  · exact Yields.pure _

theorem yields_parameterIsUnIgnored (channel : Channel) (paramsetKey : ParamsetKey)
    (parameter : String) (customOnly : Bool) :
    Yields reg.CachesSound (reg.parameterIsUnIgnored channel paramsetKey parameter customOnly)
      (reg.unIgnored (reg.py.lower channel.model) channel.no paramsetKey parameter
        customOnly) := by
  have hlisted : Yields reg.CachesSound
      (reg.parameterIsListed channel paramsetKey parameter customOnly)
      (reg.listed (reg.py.lower channel.model) channel.no paramsetKey parameter customOnly) :=
    yields_parameterIsListed channel paramsetKey parameter customOnly
  refine Yields.ite (fun _ => hlisted) fun _ => ?_
  refine (yields_resolveUnIgnorePrefix _).bind ?_
  exact Yields.ite (fun _ => Yields.pure _) fun _ => hlisted

theorem yields_checkParameterIsIgnored (channel : Channel) (paramsetKey : ParamsetKey)
    (parameter : String) :
    Yields reg.CachesSound (reg.checkParameterIsIgnored channel paramsetKey parameter)
      (reg.ignored ⟨reg.py.lower channel.model, channel.no, paramsetKey, parameter⟩) := by
  refine Yields.ite (fun _ => ?_) fun _ => Yields.ite (fun _ => ?_) fun _ => Yields.pure _
  · refine (yields_parameterIsUnIgnored channel .values parameter false).bind ?_
    exact Yields.ite (fun _ => Yields.pure _) fun _ => Yields.pure _
  · refine Yields.ite (fun _ => Yields.pure _) fun _ => Yields.ite (fun _ => Yields.pure _) fun _ =>
      ?_
    exact (yields_resolveUnIgnorePrefix _).bind (Yields.pure _)

theorem yields_parameterIsIgnored (channel : Channel) (paramsetKey : ParamsetKey)
    (parameter : String) :
    Yields reg.CachesSound (reg.parameterIsIgnored channel paramsetKey parameter)
      (reg.ignored ⟨reg.py.lower channel.model, channel.no, paramsetKey, parameter⟩) := by
  apply yields_memo (fun _ hs => hs.paramIgnored)
  · intro s d hs hd
    exact { hs with paramIgnored := hd }
  · exact yields_checkParameterIsIgnored channel paramsetKey parameter

theorem yields_shouldSkipParameter (channel : Channel) (paramsetKey : ParamsetKey)
    (parameter : String) (parameterIsUnIgnored : Bool) :
    Yields reg.CachesSound
      (reg.shouldSkipParameter channel paramsetKey parameter parameterIsUnIgnored)
      (reg.skipped (reg.py.lower channel.model) channel.no paramsetKey parameter
        parameterIsUnIgnored) := by
  refine (yields_parameterIsIgnored channel paramsetKey parameter).bind ?_
  exact Yields.ite (fun _ => Yields.pure _) fun _ => Yields.ite (fun _ => Yields.pure _) fun _ =>
    Yields.pure _

theorem yields_answer (q : Query) : Yields reg.CachesSound (reg.answer q) (reg.decision q) := by
  cases q with
  | isRelevantParamset channel paramsetKey => exact yields_isRelevantParamset channel paramsetKey
  | modelIsIgnored model => exact Yields.pure _
  | parameterIsHidden channel paramsetKey parameter =>
    refine Yields.ite (fun _ => ?_) fun _ => Yields.pure _
    exact (yields_parameterIsListed channel paramsetKey parameter false).bind (Yields.pure _)
  | parameterIsIgnored channel paramsetKey parameter =>
    exact yields_parameterIsIgnored channel paramsetKey parameter
  | parameterIsUnIgnored channel paramsetKey parameter customOnly =>
    exact yields_parameterIsUnIgnored channel paramsetKey parameter customOnly
  | shouldSkipParameter channel paramsetKey parameter parameterIsUnIgnored =>
    exact yields_shouldSkipParameter channel paramsetKey parameter parameterIsUnIgnored

theorem yields_run (op : Operation) : Yields reg.CachesSound (reg.run op) ⟨⟩ := by
  cases op with
  | query q => exact (yields_answer q).bind (Yields.pure _)
  | clearMemoizationCaches =>
    exact Yields.update fun s hs =>
      { hs with paramIgnored := cacheOf_empty _, paramUnIgnored := cacheOf_empty _ }
  | invalidateAllCaches => exact Yields.update fun s _ => cachesSound_empty

/-- An answer does not depend on what the registry was asked before. -/
theorem answer_eq (history : List Operation) (q : Query) :
    (reg.answer q (reg.after history)).1 = reg.decision q :=
  (yields_answer q).after (fun op => ⟨⟨⟩, yields_run op⟩) history cachesSound_empty

theorem parameterIsSkipped_eq (history : List Operation) (channel : Channel)
    (paramsetKey : ParamsetKey) (parameter : String) :
    (reg.parameterIsSkipped channel paramsetKey parameter (reg.after history)).1 =
      reg.skipped (reg.py.lower channel.model) channel.no paramsetKey parameter
        (reg.unIgnored (reg.py.lower channel.model) channel.no paramsetKey parameter false) :=
  ((yields_parameterIsUnIgnored channel paramsetKey parameter false).bind
    (yields_shouldSkipParameter channel paramsetKey parameter _)).after
      (fun op => ⟨⟨⟩, yields_run op⟩) history cachesSound_empty

end Registry

end AioHomematic.Store.Visibility
