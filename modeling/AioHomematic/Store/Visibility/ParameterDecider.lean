import AioHomematic.Lib.Memo
import AioHomematic.Store.Visibility.ParserHandler

/-!
# Visibility decisions

`ModelVisibilityValidator` and `ParameterVisibilityDecider`, which the registry puts together. The
state is their four caches. Beside each decision that reads or fills a cache stands the same
decision without caches, of the model in lower case and the number of the channel: `relevant`,
`unIgnored`, `listed`, `ignored`, `hidden` and `skipped`.
-/

namespace AioHomematic.Store.Visibility

open Lib

structure Channel where
  no : Option Int
  model : String

structure IgnoreCacheKey where
  model : String
  channelNo : Option Int
  paramsetKey : ParamsetKey
  parameter : String
deriving DecidableEq

structure UnIgnoreCacheKey where
  model : String
  channelNo : Option Int
  paramsetKey : ParamsetKey
  parameter : String
  customOnly : Bool
deriving DecidableEq

structure VisibilityCaches where
  relevantPrefixCache : Dict String (Option String) := Dict.empty
  unIgnorePrefixCache : Dict String (Option String) := Dict.empty
  paramIgnoredCache : Dict IgnoreCacheKey Bool := Dict.empty
  paramUnIgnoredCache : Dict UnIgnoreCacheKey Bool := Dict.empty

structure Registry where
  py : PyUnicode
  rules : ParsedUnIgnoreRules
  ignoreCustomDeviceDefinitionModels : List String
  requiredParameters : List String

/-- `element_matches_key` of a collection. -/
def elementMatchesKey (py : PyUnicode) (searchElements : List String) (compareWith : String)
    (doRightWildcardSearch : Bool) : Bool :=
  searchElements.any fun item =>
    if doRightWildcardSearch then startsWith (py.lower compareWith) (py.lower item)
    else py.lower compareWith == py.lower item

/-- `element_matches_key` of a dictionary, which is searched for the key first. -/
def elementMatchesKeyOf (py : PyUnicode) (searchElements : Dict String (List String))
    (compareWith searchKey : String) : Bool :=
  if searchKey = "" then elementMatchesKey py searchElements.keys compareWith false
  else match searchElements.keys.find? (startsWith searchKey) with
    | none => false
    | some matchKey => matchKey ≠ "" &&
      elementMatchesKey py ((searchElements.get? matchKey).getD []) compareWith false

/-- A table of the source with its models in lower case. -/
def modelsLower (py : PyUnicode) (table : List (String × List String)) :
    Dict String (List String) :=
  table.foldl (fun d e => d.set (py.lower e.1) e.2) Dict.empty

def parameterIsWildcardIgnored (parameter : String) : Bool :=
  let s := parameter.toList
  let line := if s.getLast? = some '\n' then s.dropLast else s
  ('\n' ∉ line && ignoredParametersEnd.any fun e => e.toList.isSuffixOf line) ||
    ignoredParametersStart.any (startsWith parameter)

/-- The first model key that is a prefix. -/
def prefixKey (models : List String) (modelL : String) : Option String :=
  models.find? (startsWith modelL)

/-- `_resolve_prefix_key`, which both classes have. -/
def resolvePrefixKey (cache : VisibilityCaches → Dict String (Option String))
    (store : Dict String (Option String) → VisibilityCaches → VisibilityCaches)
    (models : List String) (modelL : String) : StateM VisibilityCaches (Option String) :=
  memo cache store modelL (pure (prefixKey models modelL))

namespace Registry

variable (reg : Registry)

/-! ## Relevant paramsets and ignored models -/

def resolveRelevantPrefix (modelL : String) : StateM VisibilityCaches (Option String) :=
  resolvePrefixKey (·.relevantPrefixCache) (fun d s => { s with relevantPrefixCache := d })
    reg.rules.relevantMasterChannels.keys modelL

def isRelevantParamset (channel : Channel) (paramsetKey : ParamsetKey) :
    StateM VisibilityCaches Bool :=
  if paramsetKey = .values then return true
  else if paramsetKey = .master then
    if (relevantMasterParamsetsByChannel.lookup channel.no).isSome then return true
    else do
      let dtShortKey ← reg.resolveRelevantPrefix (reg.py.lower channel.model)
      return dtShortKey.any (channel.no ∈ reg.rules.relevantMasterChannels.channels ·)
  else return false

def relevant (modelL : String) (no : Option Int) (paramsetKey : ParamsetKey) : Bool :=
  if paramsetKey = .values then true
  else if paramsetKey = .master then
    if (relevantMasterParamsetsByChannel.lookup no).isSome then true
    else (prefixKey reg.rules.relevantMasterChannels.keys modelL).any
      (no ∈ reg.rules.relevantMasterChannels.channels ·)
  else false

def modelIsIgnored (model : String) : Bool :=
  elementMatchesKey reg.py reg.ignoreCustomDeviceDefinitionModels model true

/-! ## Parameters on an un-ignore list -/

/-- `_get_parameters_for_model_prefix` of a table of predefined rules. -/
def getParametersForModelPrefix (table : List (String × List String)) (modelPrefix : String) :
    Option (List String) :=
  ((modelsLower reg.py table).entries.find? (startsWith ·.1 modelPrefix)).map Prod.snd

def searchPatterns (modelL : String) (no : Option Int) :
    ParamsetKey → List (String × UnIgnoreChannelNo)
  | .values => [(modelL, .no no), (modelL, .text unIgnoreWildcard), (unIgnoreWildcard, .no no),
      (unIgnoreWildcard, .text unIgnoreWildcard)]
  | _ => [(modelL, .no no)]

/-- `_check_parameter_is_un_ignored` with a table of predefined rules. -/
def checkParameterIsUnIgnoredIn (table : List (String × List String)) (key : UnIgnoreCacheKey) :
    Bool :=
  (searchPatterns key.model key.channelNo key.paramsetKey).any (fun pattern =>
    reg.rules.customUnIgnoreRules.contains pattern.1 pattern.2 key.paramsetKey key.parameter) ||
  !key.customOnly && (reg.getParametersForModelPrefix table key.model).any (key.parameter ∈ ·)

def checkParameterIsUnIgnored (key : UnIgnoreCacheKey) : Bool :=
  reg.checkParameterIsUnIgnoredIn unIgnoreParametersByDevice key

/-- `_parameter_is_un_ignored`: the lists of the user and the predefined ones. -/
def parameterIsListed (channel : Channel) (paramsetKey : ParamsetKey) (parameter : String)
    (customOnly : Bool) : StateM VisibilityCaches Bool :=
  if paramsetKey = .values ∧ parameter ∈ reg.rules.customUnIgnoreValuesParameters then return true
  else
    let key := ⟨reg.py.lower channel.model, channel.no, paramsetKey, parameter, customOnly⟩
    memo (·.paramUnIgnoredCache) (fun d s => { s with paramUnIgnoredCache := d }) key
      (pure (reg.checkParameterIsUnIgnored key))

def listed (modelL : String) (no : Option Int) (paramsetKey : ParamsetKey) (parameter : String)
    (customOnly : Bool) : Bool :=
  if paramsetKey = .values ∧ parameter ∈ reg.rules.customUnIgnoreValuesParameters then true
  else reg.checkParameterIsUnIgnored ⟨modelL, no, paramsetKey, parameter, customOnly⟩

def resolveUnIgnorePrefix (modelL : String) : StateM VisibilityCaches (Option String) :=
  resolvePrefixKey (·.unIgnorePrefixCache) (fun d s => { s with unIgnorePrefixCache := d })
    reg.rules.deviceUnIgnoreRules.getModels modelL

def onDeviceList (dtShortKey : Option String) (no : Option Int) (paramsetKey : ParamsetKey)
    (parameter : String) : Bool :=
  dtShortKey.any (reg.rules.deviceUnIgnoreRules.contains · (.no no) paramsetKey parameter)

def parameterIsUnIgnored (channel : Channel) (paramsetKey : ParamsetKey) (parameter : String)
    (customOnly : Bool) : StateM VisibilityCaches Bool :=
  if customOnly then reg.parameterIsListed channel paramsetKey parameter customOnly
  else do
    let dtShortKey ← reg.resolveUnIgnorePrefix (reg.py.lower channel.model)
    if reg.onDeviceList dtShortKey channel.no paramsetKey parameter then return true
    else reg.parameterIsListed channel paramsetKey parameter customOnly

def unIgnored (modelL : String) (no : Option Int) (paramsetKey : ParamsetKey)
    (parameter : String) (customOnly : Bool) : Bool :=
  if customOnly then reg.listed modelL no paramsetKey parameter customOnly
  else if reg.onDeviceList (prefixKey reg.rules.deviceUnIgnoreRules.getModels modelL) no paramsetKey
      parameter then true
  else reg.listed modelL no paramsetKey parameter customOnly

/-! ## Hidden, ignored and skipped parameters -/

def parameterIsHidden (channel : Channel) (paramsetKey : ParamsetKey) (parameter : String) :
    StateM VisibilityCaches Bool :=
  if parameter ∈ hiddenParameters then do
    return !(← reg.parameterIsListed channel paramsetKey parameter false)
  else return false

def hidden (modelL : String) (no : Option Int) (paramsetKey : ParamsetKey) (parameter : String) :
    Bool :=
  if parameter ∈ hiddenParameters then !reg.listed modelL no paramsetKey parameter false else false

def parametersOfChannel (no : Option Int) : List String :=
  (relevantMasterParamsetsByChannel.lookup no).getD []

/-- The lists of ignored VALUES parameters. -/
def onIgnoreList (modelL : String) (no : Option Int) (parameter : String) : Bool :=
  (parameter ∈ ignoredParameters || parameterIsWildcardIgnored parameter) &&
      parameter ∉ reg.requiredParameters ||
    elementMatchesKey reg.py
      (((ignoreParametersByDevice.lookup parameter).getD []).map reg.py.lower) modelL true ||
    elementMatchesKeyOf reg.py (modelsLower reg.py ignoreDevicesForDataPointEvents) parameter
      modelL ||
    (acceptParameterOnlyOnChannel.lookup parameter).any (some · ≠ no)

def checkValuesParameterIsIgnored (channel : Channel) (parameter : String) :
    StateM VisibilityCaches Bool := do
  if ← reg.parameterIsUnIgnored channel .values parameter false then return false
  else return reg.onIgnoreList (reg.py.lower channel.model) channel.no parameter

def checkMasterParameterIsIgnored (channel : Channel) (parameter : String) :
    StateM VisibilityCaches Bool :=
  let modelL := reg.py.lower channel.model
  if parameter ∈ parametersOfChannel channel.no then return false
  else if reg.rules.customUnIgnoreRules.contains modelL (.no channel.no) .master parameter then
    return false
  else do
    let dtShortKey ← reg.resolveUnIgnorePrefix modelL
    return dtShortKey.isSome && !reg.onDeviceList dtShortKey channel.no .master parameter

def checkParameterIsIgnored (channel : Channel) (paramsetKey : ParamsetKey) (parameter : String) :
    StateM VisibilityCaches Bool :=
  if paramsetKey = .values then reg.checkValuesParameterIsIgnored channel parameter
  else if paramsetKey = .master then reg.checkMasterParameterIsIgnored channel parameter
  else return false

def parameterIsIgnored (channel : Channel) (paramsetKey : ParamsetKey) (parameter : String) :
    StateM VisibilityCaches Bool :=
  memo (·.paramIgnoredCache) (fun d s => { s with paramIgnoredCache := d })
    ⟨reg.py.lower channel.model, channel.no, paramsetKey, parameter⟩
    (reg.checkParameterIsIgnored channel paramsetKey parameter)

def ignored (key : IgnoreCacheKey) : Bool :=
  if key.paramsetKey = .values then
    if reg.unIgnored key.model key.channelNo .values key.parameter false then false
    else reg.onIgnoreList key.model key.channelNo key.parameter
  else if key.paramsetKey = .master then
    if key.parameter ∈ parametersOfChannel key.channelNo then false
    else if reg.rules.customUnIgnoreRules.contains key.model (.no key.channelNo) .master
        key.parameter then false
    else
      let dtShortKey := prefixKey reg.rules.deviceUnIgnoreRules.getModels key.model
      dtShortKey.isSome && !reg.onDeviceList dtShortKey key.channelNo .master key.parameter
  else false

def shouldSkipParameter (channel : Channel) (paramsetKey : ParamsetKey) (parameter : String)
    (parameterIsUnIgnored : Bool) : StateM VisibilityCaches Bool := do
  if ← reg.parameterIsIgnored channel paramsetKey parameter then return true
  else if paramsetKey = .master ∧ parameter ∈ parametersOfChannel channel.no then return false
  else return paramsetKey = .master && !parameterIsUnIgnored

def skipped (modelL : String) (no : Option Int) (paramsetKey : ParamsetKey) (parameter : String)
    (parameterIsUnIgnored : Bool) : Bool :=
  if reg.ignored ⟨modelL, no, paramsetKey, parameter⟩ then true
  else if paramsetKey = .master ∧ parameter ∈ parametersOfChannel no then false
  else paramsetKey = .master && !parameterIsUnIgnored

end Registry

end AioHomematic.Store.Visibility
