import AioHomematic.Lib.Dict
import AioHomematic.Store.Visibility.Parser

/-!
# Rule containers

Which parameters there are rules for, by model, channel and paramset: the two classes of
`store/visibility/rule_containers.py`. Sets are lists, in which only membership counts. The
channels that `ModelRules` could keep beside its rules are used by no one and left out.
-/

namespace AioHomematic.Store.Visibility

open Lib

abbrev ChannelParamsetRules := Dict (UnIgnoreChannelNo × ParamsetKey) (List String)

namespace ChannelParamsetRules

variable (rules : ChannelParamsetRules) (channelNo : UnIgnoreChannelNo) (paramsetKey : ParamsetKey)

def getParameters : List String := (rules.get? (channelNo, paramsetKey)).getD []

def add (parameter : String) : ChannelParamsetRules :=
  rules.modifyD (channelNo, paramsetKey) [] (List.insert parameter)

def update (parameters : List String) : ChannelParamsetRules :=
  rules.modifyD (channelNo, paramsetKey) [] (parameters ∪ ·)

def contains (parameter : String) : Bool := parameter ∈ rules.getParameters channelNo paramsetKey

end ChannelParamsetRules

structure ModelRules where
  channelRules : Dict String ChannelParamsetRules := Dict.empty

namespace ModelRules

variable (rules : ModelRules) (model : String) (channelNo : UnIgnoreChannelNo)
  (paramsetKey : ParamsetKey)

def addParameter (parameter : String) : ModelRules :=
  ⟨rules.channelRules.modifyD model Dict.empty (·.add channelNo paramsetKey parameter)⟩

def updateParameters (parameters : List String) : ModelRules :=
  ⟨rules.channelRules.modifyD model Dict.empty (·.update channelNo paramsetKey parameters)⟩

def contains (parameter : String) : Bool :=
  match rules.channelRules.get? model with
  | some channelRules => channelRules.contains channelNo paramsetKey parameter
  | none => false

def getModels : List String := rules.channelRules.keys

variable {rules model channelNo paramsetKey}

theorem contains_iff {parameter : String} :
    rules.contains model channelNo paramsetKey parameter = true ↔
      parameter ∈ ((rules.channelRules.get? model).getD Dict.empty).getParameters channelNo
        paramsetKey := by
  unfold contains
  split
  next channelRules hsome =>
    rw [hsome]
    exact decide_eq_true_iff
  next hnone =>
    rw [hnone]
    simp [ChannelParamsetRules.getParameters]

theorem contains_addParameter {model' : String} {channelNo' : UnIgnoreChannelNo}
    {paramsetKey' : ParamsetKey} {parameter parameter' : String} :
    (rules.addParameter model channelNo paramsetKey parameter).contains model' channelNo'
        paramsetKey' parameter' = true ↔
      (model, channelNo, paramsetKey, parameter) =
        (model', channelNo', paramsetKey', parameter') ∨
      rules.contains model' channelNo' paramsetKey' parameter' = true := by
  rw [contains_iff, contains_iff, addParameter, Dict.getD_get?_modifyD]
  split
  next hmodel =>
    subst hmodel
    rw [ChannelParamsetRules.getParameters, ChannelParamsetRules.add, Dict.getD_get?_modifyD]
    split
    next hkey =>
      cases hkey
      rw [List.mem_insert_iff, Prod.mk.injEq, Prod.mk.injEq, Prod.mk.injEq]
      simp [ChannelParamsetRules.getParameters, eq_comm]
    next hkey =>
      refine (or_iff_right ?_).symm
      rintro heq
      cases heq
      exact hkey rfl
  next hmodel =>
    refine (or_iff_right ?_).symm
    rintro heq
    cases heq
    exact hmodel rfl

end ModelRules

end AioHomematic.Store.Visibility
