import AioHomematic.Exceptions
import AioHomematic.Lib.Dict

/-!
# The custom data points of a device

`create_custom_data_points`: for each channel of a device, and each configuration of its model, the
channels are put into groups and a data point is made where the configuration asks for one. The
groups of a configuration are added with the first channel, before those of the next configuration,
so what a channel gets could depend on the order of the channels;
`createCustomDataPoints_any_order` says that it does not. Where no two groups claim a channel, every
data point of a numbered channel is in a group of its own configuration, and the one of the device
itself is in none (`createCustomDataPoints_own_group`).

The fields of a profile, the additional data points of a channel and what else a configuration has
are of any type. `build` says whether an instance has data points, or that making it raises.
-/

namespace AioHomematic.Model

open Lib

/-- `ChannelGroupConfig`; the channel numbers are relative, except for the fixed ones. -/
structure ChannelGroupConfig (F : Type*) where
  primaryChannel : Option Int := some 0
  secondaryChannels : List Int := []
  stateChannelOffset : Option Int := none
  allowUndefinedGenericDataPoints : Bool := false
  fields : F
  channelFields : Dict (Option Int) F := .empty
  fixedChannelFields : Dict Int F := .empty

structure ProfileConfig (F P : Type*) where
  channelGroup : ChannelGroupConfig F
  additionalDataPoints : Dict Int P := .empty

/-- `DeviceConfig` with the profile of its type; `rest` is the class, `extended` and the channel of
the schedule. -/
structure DeviceConfig (F P K : Type*) where
  profile : ProfileConfig F P
  channels : List (Option Int) := [some 1]
  rest : K

/-- `RebasedChannelGroupConfig`, with the channel numbers of the device. -/
structure RebasedChannelGroupConfig (F : Type*) where
  primaryChannel : Option Int
  secondaryChannels : List Int
  stateChannel : Option Int
  allowUndefinedGenericDataPoints : Bool
  fields : F
  channelFields : Dict (Option Int) F
  fixedChannelFields : Dict Int F

variable {F P K : Type*}

def rebaseChannelGroup (cg : ChannelGroupConfig F) (groupNo : Option Int) :
    RebasedChannelGroupConfig F :=
  let offset := groupNo.getD 0
  { primaryChannel := cg.primaryChannel.map (· + offset)
    secondaryChannels := cg.secondaryChannels.map (· + offset)
    stateChannel := cg.stateChannelOffset.map (· + offset)
    allowUndefinedGenericDataPoints := cg.allowUndefinedGenericDataPoints
    fields := cg.fields
    channelFields := Dict.empty.assign
      (cg.channelFields.entries.map fun e => (e.1.map (· + offset), e.2))
    fixedChannelFields := cg.fixedChannelFields }

/-- An instance of the class that the configuration names, as far as it is passed on. -/
structure CustomDataPoint (F P K : Type*) where
  channelNo : Option Int
  deviceConfig : DeviceConfig F P K
  channelGroup : RebasedChannelGroupConfig F
  customDataPointDef : Dict Int P
  groupNo : Option Int

/-- What a device keeps of its groups and of its custom data points. -/
structure CustomDevice (F P K : Type*) where
  channelToGroup : Dict (Option Int) Int := .empty
  customDataPoints : Dict (Option Int) (CustomDataPoint F P K) := .empty

namespace DeviceConfig

variable (config : DeviceConfig F P K)

/-- `_get_relevant_channels`. -/
def relevantChannels : List (Option Int) :=
  let cg := config.profile.channelGroup
  (cg.primaryChannel :: cg.secondaryChannels.map some).flatMap fun defCh =>
    config.channels.map fun confCh => defCh.bind fun d => confCh.map fun c => d + c

/-- `_rebase_device_config_channels`. -/
def rebaseChannels : DeviceConfig F P K :=
  match config.profile.channelGroup.primaryChannel with
  | none => config
  | some primaryChannel =>
    let rebasedChannels := config.channels.filterMap fun ch => ch.map (· + primaryChannel)
    { config with
      channels := if rebasedChannels = [] then config.channels else rebasedChannels.map some }

/-- `_rebase_additional_data_points`. -/
def rebaseAdditionalDataPoints (groupNo : Option Int) : Dict Int P :=
  let additionalDps := config.profile.additionalDataPoints
  match groupNo with
  | none | some 0 => additionalDps
  | some n => Dict.empty.assign (additionalDps.entries.map fun e => (e.1 + n, e.2))

end DeviceConfig

namespace CustomDevice

variable (d : CustomDevice F P K)

def addChannelToGroup (groupNo channelNo : Int) : CustomDevice F P K :=
  { d with
    channelToGroup :=
      (d.channelToGroup.setDefault (some groupNo) groupNo).setDefault (some channelNo) groupNo }

/-- The group of one of the channels of a configuration. -/
def addChannelGroup (cg : ChannelGroupConfig F) (primaryChannel confChannel : Int) :
    CustomDevice F P K :=
  let groupNo := confChannel + primaryChannel
  let d := d.addChannelToGroup groupNo groupNo
  let d := match cg.stateChannelOffset with
    | some offset => d.addChannelToGroup groupNo (confChannel + offset)
    | none => d
  cg.secondaryChannels.foldl (fun d secChannel =>
    d.addChannelToGroup groupNo (confChannel + secChannel)) d

/-- `_add_channel_groups_to_device`. -/
def addChannelGroups (config : DeviceConfig F P K) : CustomDevice F P K :=
  let cg := config.profile.channelGroup
  match cg.primaryChannel with
  | none => d
  | some primaryChannel =>
    config.channels.foldl (fun d confChannel =>
      match confChannel with
      | none => d
      | some confChannel => d.addChannelGroup cg primaryChannel confChannel) d

end CustomDevice

/-- The arguments of the class. -/
def instantiate (channelNo groupNo : Option Int) (config : DeviceConfig F P K) :
    CustomDataPoint F P K where
  channelNo := channelNo
  deviceConfig := config.rebaseChannels
  channelGroup := rebaseChannelGroup config.profile.channelGroup groupNo
  customDataPointDef := config.rebaseAdditionalDataPoints groupNo
  groupNo := groupNo

section Create

variable (build : CustomDataPoint F P K → Option Bool)

def createCustomDataPoint (channelNo : Option Int) (d : CustomDevice F P K)
    (config : DeviceConfig F P K) : Except PyException (CustomDevice F P K) :=
  let d := d.addChannelGroups config
  let groupNo := d.channelToGroup.get? channelNo
  if config.relevantChannels.contains channelNo then
    let dp := instantiate channelNo groupNo config
    match build dp with
    | none => .error { cls := .aioHomematicException }
    | some true => .ok { d with customDataPoints := d.customDataPoints.set channelNo dp }
    | some false => .ok d
  else .ok d

/-- `create_custom_data_points` of a channel. -/
def createChannelDataPoints (configs : List (DeviceConfig F P K)) (d : CustomDevice F P K)
    (channelNo : Option Int) : Except PyException (CustomDevice F P K) :=
  configs.foldlM (createCustomDataPoint build channelNo) d

/-- `create_custom_data_points` of a device with these channels. -/
def createCustomDataPoints (configs : List (DeviceConfig F P K)) (channels : List (Option Int)) :
    Except PyException (CustomDevice F P K) :=
  channels.foldlM (createChannelDataPoints build configs) {}

end Create

/-! ## The groups of a configuration -/

/-- A channel is assigned to a group, after the channel that the group is named by. -/
def assigned (groupNo channelNo : Int) : List (Option Int × Int) :=
  [(some groupNo, groupNo), (some channelNo, groupNo)]

/-- The channels of a group. -/
def ChannelGroupConfig.members (cg : ChannelGroupConfig F) (primaryChannel confChannel : Int) :
    List Int :=
  (confChannel + primaryChannel) :: (cg.stateChannelOffset.toList.map (confChannel + ·) ++
    cg.secondaryChannels.map (confChannel + ·))

/-- What a configuration assigns, in its order. -/
def DeviceConfig.groups (config : DeviceConfig F P K) : List (Option Int × Int) :=
  config.profile.channelGroup.primaryChannel.elim [] fun primaryChannel =>
    config.channels.flatMap fun confChannel => confChannel.elim [] fun c =>
      (config.profile.channelGroup.members primaryChannel c).flatMap (assigned (c + primaryChannel))

namespace CustomDevice

def assignGroups (d : CustomDevice F P K) (l : List (Option Int × Int)) : CustomDevice F P K :=
  { d with channelToGroup := d.channelToGroup.assignNew l }

theorem foldl_assignGroups {α : Type*} {f : CustomDevice F P K → α → CustomDevice F P K}
    {g : α → List (Option Int × Int)} (hf : ∀ d x, f d x = d.assignGroups (g x)) (l : List α)
    (d : CustomDevice F P K) : l.foldl f d = d.assignGroups (l.flatMap g) := by
  induction l generalizing d with
  | nil => rfl
  | cons x l ih =>
    rw [List.foldl_cons, ih, hf, List.flatMap_cons, assignGroups, assignGroups, assignGroups,
      Dict.assignNew_append]

theorem addChannelToGroup_eq (d : CustomDevice F P K) (groupNo channelNo : Int) :
    d.addChannelToGroup groupNo channelNo = d.assignGroups (assigned groupNo channelNo) := rfl

theorem addChannelGroup_eq (d : CustomDevice F P K) (cg : ChannelGroupConfig F)
    (primaryChannel confChannel : Int) : d.addChannelGroup cg primaryChannel confChannel =
      d.assignGroups ((cg.members primaryChannel confChannel).flatMap
        (assigned (confChannel + primaryChannel))) := by
  unfold addChannelGroup ChannelGroupConfig.members
  dsimp only
  rw [foldl_assignGroups (fun d x => addChannelToGroup_eq d _ (confChannel + x))]
  cases cg.stateChannelOffset with
  | none => simp [addChannelToGroup_eq, assignGroups, ← Dict.assignNew_append, List.flatMap_map]
  | some offset =>
    simp [addChannelToGroup_eq, assignGroups, ← Dict.assignNew_append, List.flatMap_map]

theorem addChannelGroups_eq (d : CustomDevice F P K) (config : DeviceConfig F P K) :
    d.addChannelGroups config = d.assignGroups config.groups := by
  unfold addChannelGroups DeviceConfig.groups
  dsimp only
  cases config.profile.channelGroup.primaryChannel with
  | none => rfl
  | some primaryChannel =>
    refine foldl_assignGroups (fun d confChannel => ?_) config.channels d
    cases confChannel with
    | none => rfl
    | some confChannel => exact addChannelGroup_eq d _ primaryChannel confChannel

end CustomDevice

namespace DeviceConfig

variable {config : DeviceConfig F P K} {n g : Int}

theorem mem_groups {c : Option Int} : (c, g) ∈ config.groups ↔
    ∃ primaryChannel confChannel,
      config.profile.channelGroup.primaryChannel = some primaryChannel ∧
        some confChannel ∈ config.channels ∧ g = confChannel + primaryChannel ∧
        ∃ n ∈ config.profile.channelGroup.members primaryChannel confChannel, c = some n := by
  unfold groups
  cases config.profile.channelGroup.primaryChannel with
  | none => simp
  | some primaryChannel =>
    simp only [Option.elim_some, List.mem_flatMap]
    constructor
    · rintro ⟨conf, hconf, hmem⟩
      cases conf with
      | none => cases hmem
      | some confChannel =>
        obtain ⟨n, hn, hassigned⟩ := List.mem_flatMap.mp hmem
        refine ⟨primaryChannel, confChannel, rfl, hconf, ?_⟩
        rcases List.mem_cons.mp hassigned with heq | hassigned
        · cases heq
          exact ⟨rfl, _, List.mem_cons_self, rfl⟩
        · cases List.mem_singleton.mp hassigned
          exact ⟨rfl, n, hn, rfl⟩
    · rintro ⟨primaryChannel, confChannel, hprimary, hconf, rfl, n, hn, rfl⟩
      cases hprimary
      refine ⟨some confChannel, hconf, List.mem_flatMap.mpr ⟨n, hn, ?_⟩⟩
      exact List.mem_cons_of_mem _ List.mem_cons_self

/-- Without a primary channel, a configuration has no secondary channels either. -/
def WellFormed (config : DeviceConfig F P K) : Prop :=
  config.profile.channelGroup.primaryChannel = none →
    config.profile.channelGroup.secondaryChannels = []

/-- A relevant channel is one of a group, the primary channel or a secondary one. -/
theorem mem_relevantChannels (hconfig : config.WellFormed) :
    some n ∈ config.relevantChannels ↔ ∃ primaryChannel confChannel,
      config.profile.channelGroup.primaryChannel = some primaryChannel ∧
        some confChannel ∈ config.channels ∧
        (n = confChannel + primaryChannel ∨
          ∃ secChannel ∈ config.profile.channelGroup.secondaryChannels,
            n = confChannel + secChannel) := by
  unfold relevantChannels
  unfold WellFormed at hconfig
  dsimp only
  cases hprimary : config.profile.channelGroup.primaryChannel with
  | none =>
    rw [hconfig hprimary]
    simp
  | some primaryChannel =>
    simp only [List.mem_flatMap, List.mem_cons, List.mem_map]
    constructor
    · rintro ⟨defCh, hdef, conf, hconf, heq⟩
      obtain ⟨d, rfl, heq⟩ := Option.bind_eq_some_iff.mp heq
      obtain ⟨confChannel, rfl, rfl⟩ := Option.map_eq_some_iff.mp heq
      refine ⟨primaryChannel, confChannel, rfl, hconf, ?_⟩
      rcases hdef with hdef | ⟨sec, hsec, hdef⟩
      · cases hdef
        exact .inl (Int.add_comm _ _)
      · cases hdef
        exact .inr ⟨_, hsec, Int.add_comm _ _⟩
    · rintro ⟨p, confChannel, hp, hconf, hn⟩
      cases hp
      rcases hn with rfl | ⟨sec, hsec, rfl⟩
      · refine ⟨some primaryChannel, .inl rfl, some confChannel, hconf, ?_⟩
        exact congrArg some (Int.add_comm _ _)
      · refine ⟨some sec, .inr ⟨sec, hsec, rfl⟩, some confChannel, hconf, ?_⟩
        exact congrArg some (Int.add_comm _ _)

theorem of_none_relevant (hnone : none ∈ config.relevantChannels) :
    config.profile.channelGroup.primaryChannel = none ∨ none ∈ config.channels := by
  unfold relevantChannels at hnone
  dsimp only at hnone
  obtain ⟨defCh, hdef, hmem⟩ := List.mem_flatMap.mp hnone
  obtain ⟨conf, hconf, heq⟩ := List.mem_map.mp hmem
  cases defCh with
  | none =>
    rcases List.mem_cons.mp hdef with hprimary | hsec
    · exact .inl hprimary.symm
    · obtain ⟨sec, -, hsome⟩ := List.mem_map.mp hsec
      cases hsome
  | some d =>
    rw [Option.bind_some, Option.map_eq_none_iff] at heq
    exact .inr (heq ▸ hconf)

/-- The primary channel and the secondary ones of a group are in it. -/
theorem mem_groups_of_relevant {primaryChannel confChannel : Int}
    (hprimary : config.profile.channelGroup.primaryChannel = some primaryChannel)
    (hconf : some confChannel ∈ config.channels)
    (hn : n = confChannel + primaryChannel ∨
      ∃ secChannel ∈ config.profile.channelGroup.secondaryChannels, n = confChannel + secChannel) :
    (some n, confChannel + primaryChannel) ∈ config.groups := by
  refine mem_groups.mpr ⟨primaryChannel, confChannel, hprimary, hconf, rfl, n, ?_, rfl⟩
  rcases hn with rfl | ⟨sec, hsec, rfl⟩
  · exact List.mem_cons_self
  · exact List.mem_cons_of_mem _ (List.mem_append_right _ (List.mem_map_of_mem hsec))

/-- A relevant channel is in a group of the configuration. -/
theorem lookup_groups_of_relevant (hconfig : config.WellFormed)
    (hn : some n ∈ config.relevantChannels) : Dict.lookup (some n) config.groups ≠ none := by
  obtain ⟨primaryChannel, confChannel, hprimary, hconf, hn⟩ := (mem_relevantChannels hconfig).mp hn
  rw [Ne, Dict.lookup_eq_none, not_not]
  exact List.mem_map_of_mem (mem_groups_of_relevant hprimary hconf hn)

theorem lookup_none_groups (config : DeviceConfig F P K) :
    Dict.lookup none config.groups = none := by
  rw [Dict.lookup_eq_none]
  intro hmem
  obtain ⟨⟨c, g⟩, hg, rfl⟩ := List.mem_map.mp hmem
  obtain ⟨-, -, -, -, -, n, -, hc⟩ := mem_groups.mp hg
  cases hc

end DeviceConfig

/-! ## The groups of a device -/

section Groups

variable {configs done rest l : List (DeviceConfig F P K)} {config : DeviceConfig F P K}
  {d : CustomDevice F P K} {c : Option Int}

/-- The group that the first of the configurations assigns to a channel. -/
def groupNo (configs : List (DeviceConfig F P K)) (c : Option Int) : Option Int :=
  Dict.lookup c (configs.flatMap DeviceConfig.groups)

theorem groupNo_append (l l' : List (DeviceConfig F P K)) (c : Option Int) :
    groupNo (l ++ l') c = (groupNo l c).or (groupNo l' c) := by
  rw [groupNo, List.flatMap_append, Dict.lookup_append]
  rfl

theorem groupNo_ne_none (hmem : config ∈ l) (hc : Dict.lookup c config.groups ≠ none) :
    groupNo l c ≠ none := by
  rw [Ne, Dict.lookup_eq_none, not_not] at hc
  rw [groupNo, Ne, Dict.lookup_eq_none, not_not]
  obtain ⟨e, he, rfl⟩ := List.mem_map.mp hc
  exact List.mem_map_of_mem (List.mem_flatMap.mpr ⟨config, hmem, he⟩)

/-- What is not a channel of a number has no group. -/
theorem groupNo_none (l : List (DeviceConfig F P K)) : groupNo l none = none := by
  induction l with
  | nil => rfl
  | cons config l ih =>
    rw [← List.singleton_append, groupNo_append, ih, Option.or_none, groupNo,
      List.flatMap_singleton]
    exact DeviceConfig.lookup_none_groups config

/-- What is relevant for a configuration has its group once the configuration has been added. -/
theorem groupNo_of_relevant (hconfig : config.WellFormed) (hmem : config ∈ l) (hl : l <+: configs)
    (hc : c ∈ config.relevantChannels) : groupNo l c = groupNo configs c := by
  obtain ⟨l', rfl⟩ := hl
  rw [groupNo_append]
  cases c with
  | none =>
    rw [groupNo_none, groupNo_none]
    rfl
  | some n =>
    have hne := groupNo_ne_none hmem (DeviceConfig.lookup_groups_of_relevant hconfig hc)
    obtain ⟨g, hg⟩ := Option.ne_none_iff_exists'.mp hne
    rw [hg]
    rfl

/-- The device has the groups of the configurations up to one that is not before the last of
`done`. -/
def Grouped (configs done : List (DeviceConfig F P K)) (d : CustomDevice F P K) : Prop :=
  ∃ l, done <+: l ∧ l <+: configs ∧ ∀ c, d.channelToGroup.get? c = groupNo l c

theorem grouped_all : Grouped configs configs d ↔
    ∀ c, d.channelToGroup.get? c = groupNo configs c := by
  constructor
  · rintro ⟨l, hdone, hl, hget⟩
    rwa [hl.eq_of_length_le hdone.length_le] at hget
  · exact fun hget => ⟨configs, List.prefix_rfl, List.prefix_rfl, hget⟩

theorem Grouped.start (h : Grouped configs done d) : Grouped configs [] d := by
  obtain ⟨l, -, hl, hget⟩ := h
  exact ⟨l, List.nil_prefix, hl, hget⟩

theorem Grouped.add (h : Grouped configs done d) (hconfigs : configs = done ++ config :: rest) :
    Grouped configs (done ++ [config]) (d.addChannelGroups config) := by
  obtain ⟨l, ⟨t, rfl⟩, hl, hget⟩ := h
  rw [hconfigs, List.prefix_append_right_inj] at hl
  have hadd (c : Option Int) : (d.addChannelGroups config).channelToGroup.get? c =
      (groupNo (done ++ t) c).or (groupNo [config] c) := by
    rw [CustomDevice.addChannelGroups_eq, CustomDevice.assignGroups, Dict.get?_assignNew, hget,
      groupNo, groupNo, List.flatMap_singleton]
  cases t with
  | nil =>
    refine ⟨done ++ [config], List.prefix_rfl, ⟨rest, ?_⟩, fun c => ?_⟩
    · rw [hconfigs, List.append_assoc, List.singleton_append]
    · rw [hadd, List.append_nil, groupNo_append]
  | cons config' t =>
    obtain ⟨rfl, ht⟩ := List.cons_prefix_cons.mp hl
    refine ⟨done ++ config' :: t, ?_, ?_, fun c => ?_⟩
    · exact (List.prefix_append_right_inj _).mpr ⟨t, rfl⟩
    · rw [hconfigs]
      exact (List.prefix_append_right_inj _).mpr hl
    · rw [hadd]
      have hmem : config' ∈ done ++ config' :: t :=
        List.mem_append_right _ List.mem_cons_self
      cases hg : groupNo (done ++ config' :: t) c with
      | some g => rfl
      | none =>
        rw [Option.none_or, groupNo, List.flatMap_singleton]
        by_contra hne
        exact groupNo_ne_none hmem hne hg

theorem Grouped.get?_of_relevant (h : Grouped configs done d) (hmem : config ∈ done)
    (hconfig : config.WellFormed) (hc : c ∈ config.relevantChannels) :
    d.channelToGroup.get? c = groupNo configs c := by
  obtain ⟨l, hdone, hl, hget⟩ := h
  rw [hget]
  exact groupNo_of_relevant hconfig (hdone.subset hmem) hl hc

end Groups

/-! ## What is created -/

section Created

variable {build : CustomDataPoint F P K → Option Bool}
  {configs done rest : List (DeviceConfig F P K)} {config : DeviceConfig F P K}
  {d d' : CustomDevice F P K} {c : Option Int} {channels : List (Option Int)}

/-- The instance of a configuration for a channel, in the group that the channel has in the end. -/
def instanceOf (configs : List (DeviceConfig F P K)) (c : Option Int)
    (config : DeviceConfig F P K) : CustomDataPoint F P K :=
  instantiate c (groupNo configs c) config

/-- Making the instance raises. -/
def Raises (build : CustomDataPoint F P K → Option Bool) (configs : List (DeviceConfig F P K))
    (c : Option Int) (config : DeviceConfig F P K) : Prop :=
  c ∈ config.relevantChannels ∧ build (instanceOf configs c config) = none

/-- The data point of a configuration for a channel, if there is one. -/
def pointOf (build : CustomDataPoint F P K → Option Bool) (configs : List (DeviceConfig F P K))
    (c : Option Int) (config : DeviceConfig F P K) : Option (CustomDataPoint F P K) :=
  if config.relevantChannels.contains c ∧ build (instanceOf configs c config) = some true
  then some (instanceOf configs c config) else none

/-- The data point of a channel: the last of its configurations. -/
def customDataPoint? (build : CustomDataPoint F P K → Option Bool)
    (configs : List (DeviceConfig F P K)) (c : Option Int) : Option (CustomDataPoint F P K) :=
  (configs.filterMap (pointOf build configs c)).getLast?

/-- The data points of one channel are added. -/
def Adds (points : List (CustomDataPoint F P K)) (c : Option Int) (d d' : CustomDevice F P K) :
    Prop :=
  ∀ c', d'.customDataPoints.get? c' =
    if c' = c then points.getLast?.or (d.customDataPoints.get? c') else d.customDataPoints.get? c'

theorem create_cases (h : Grouped configs done d) (hconfigs : configs = done ++ config :: rest)
    (hconfig : config.WellFormed) :
    (∃ d', createCustomDataPoint build c d config = .ok d' ∧ ¬Raises build configs c config ∧
        Grouped configs (done ++ [config]) d' ∧
        Adds (pointOf build configs c config).toList c d d') ∨
      (∃ exc, createCustomDataPoint build c d config = .error exc) ∧
        Raises build configs c config := by
  have hgrouped := h.add hconfigs
  have hpoints : (d.addChannelGroups config).customDataPoints = d.customDataPoints := by
    rw [CustomDevice.addChannelGroups_eq]
    rfl
  have hunchanged (hnone : pointOf build configs c config = none) :
      Adds (pointOf build configs c config).toList c d (d.addChannelGroups config) := by
    intro c'
    rw [hpoints, hnone]
    split <;> rfl
  unfold createCustomDataPoint
  dsimp only
  split
  next hcontains =>
    have hc : c ∈ config.relevantChannels := List.contains_iff_mem.mp hcontains
    rw [hgrouped.get?_of_relevant (List.mem_append_right _ List.mem_cons_self) hconfig hc]
    cases hbuild : build (instantiate c (groupNo configs c) config) with
    | none => exact .inr ⟨⟨_, rfl⟩, hc, hbuild⟩
    | some hasDataPoints =>
      have hraises : ¬Raises build configs c config := by
        rintro ⟨-, hnone⟩
        rw [instanceOf, hbuild] at hnone
        cases hnone
      cases hasDataPoints with
      | false =>
        refine .inl ⟨_, rfl, hraises, hgrouped, hunchanged (if_neg ?_)⟩
        rintro ⟨-, htrue⟩
        rw [instanceOf, hbuild] at htrue
        cases htrue
      | true =>
        have hpoint : pointOf build configs c config = some (instanceOf configs c config) :=
          if_pos ⟨hcontains, hbuild⟩
        refine .inl ⟨_, rfl, hraises, hgrouped, fun c' => ?_⟩
        dsimp only
        rw [Dict.get?_set, hpoints, hpoint]
        by_cases heq : c' = c
        · subst heq
          rw [if_pos rfl, if_pos rfl]
          rfl
        · rw [if_neg (Ne.symm heq), if_neg heq]
  next hcontains =>
    refine .inl ⟨_, rfl, fun hraises => hcontains (List.contains_iff_mem.mpr hraises.1), hgrouped,
      hunchanged (if_neg ?_)⟩
    exact fun hpoint => hcontains hpoint.1

theorem Adds.trans {points points' : List (CustomDataPoint F P K)} {d'' : CustomDevice F P K}
    (h : Adds points c d d') (h' : Adds points' c d' d'') : Adds (points ++ points') c d d'' := by
  intro c'
  rw [h' c', h c']
  split
  · rw [List.getLast?_append, Option.or_assoc]
  · rfl

theorem createChannel_cases (h : Grouped configs done d) (hconfigs : configs = done ++ rest)
    (hwf : ∀ config ∈ configs, config.WellFormed) :
    (∃ d', createChannelDataPoints build rest d c = .ok d' ∧
        (∀ config ∈ rest, ¬Raises build configs c config) ∧ Grouped configs configs d' ∧
        Adds (rest.filterMap (pointOf build configs c)) c d d') ∨
      (∃ exc, createChannelDataPoints build rest d c = .error exc) ∧
        ∃ config ∈ rest, Raises build configs c config := by
  induction rest generalizing done d with
  | nil =>
    rw [List.append_nil] at hconfigs
    subst hconfigs
    refine .inl ⟨d, rfl, by simp, h, fun c' => ?_⟩
    split <;> rfl
  | cons config rest ih =>
    have hmem : config ∈ configs := hconfigs ▸ List.mem_append_right _ List.mem_cons_self
    unfold createChannelDataPoints
    rw [List.foldlM_cons]
    rcases create_cases h hconfigs (hwf config hmem) with
      ⟨d₁, hd₁, hraises, hgrouped, hadds⟩ | ⟨⟨exc, hexc⟩, hraises⟩
    · rw [hd₁]
      rcases ih hgrouped (by rw [hconfigs, List.append_assoc, List.singleton_append]) with
        ⟨d₂, hd₂, hraises', hgrouped', hadds'⟩ | ⟨⟨exc, hexc⟩, config', hconfig', hraises'⟩
      · refine .inl ⟨d₂, hd₂, List.forall_mem_cons.mpr ⟨hraises, hraises'⟩, hgrouped', ?_⟩
        have hsplit : (config :: rest).filterMap (pointOf build configs c) =
            (pointOf build configs c config).toList ++
              rest.filterMap (pointOf build configs c) := by
          rw [List.filterMap_cons]
          cases pointOf build configs c config <;> rfl
        rw [hsplit]
        exact hadds.trans hadds'
      · exact .inr ⟨⟨exc, hexc⟩, config', List.mem_cons_of_mem _ hconfig', hraises'⟩
    · rw [hexc]
      exact .inr ⟨⟨exc, rfl⟩, config, List.mem_cons_self, hraises⟩

/-- Every channel that is walked has its data point. -/
def Has (build : CustomDataPoint F P K → Option Bool) (configs : List (DeviceConfig F P K))
    (channels : List (Option Int)) (d d' : CustomDevice F P K) : Prop :=
  ∀ c, d'.customDataPoints.get? c =
    if channels.contains c then (customDataPoint? build configs c).or (d.customDataPoints.get? c)
    else d.customDataPoints.get? c

theorem createAll_cases (h : Grouped configs [] d)
    (hwf : ∀ config ∈ configs, config.WellFormed) :
    (∃ d', channels.foldlM (createChannelDataPoints build configs) d = .ok d' ∧
        (∀ c ∈ channels, ∀ config ∈ configs, ¬Raises build configs c config) ∧
        (channels ≠ [] → Grouped configs configs d') ∧ Has build configs channels d d') ∨
      (∃ exc, channels.foldlM (createChannelDataPoints build configs) d = .error exc) ∧
        ∃ c ∈ channels, ∃ config ∈ configs, Raises build configs c config := by
  induction channels generalizing d with
  | nil => exact .inl ⟨d, rfl, by simp, fun hne => absurd rfl hne, fun c => rfl⟩
  | cons c channels ih =>
    rw [List.foldlM_cons]
    rcases (createChannel_cases h rfl hwf : (∃ d', createChannelDataPoints build configs d c =
        .ok d' ∧ _) ∨ _) with ⟨d₁, hd₁, hraises, hgrouped, hadds⟩ | ⟨⟨exc, hexc⟩, hraises⟩
    · rw [hd₁]
      rcases ih hgrouped.start with
        ⟨d₂, hd₂, hraises', hgrouped', hhas⟩ | ⟨⟨exc, hexc⟩, c', hc', hraises'⟩
      · refine .inl ⟨d₂, hd₂, List.forall_mem_cons.mpr ⟨hraises, hraises'⟩, fun _ => ?_, ?_⟩
        · cases channels with
          | nil =>
            cases hd₂
            exact hgrouped
          | cons c' channels => exact hgrouped' (List.cons_ne_nil c' channels)
        · intro c'
          rw [hhas c', hadds c']
          by_cases hc' : c' ∈ channels
          · rw [if_pos (List.contains_iff_mem.mpr hc'),
              if_pos (List.contains_iff_mem.mpr (List.mem_cons_of_mem c hc'))]
            split
            next heq =>
              rw [heq, ← Option.or_assoc]
              exact congrArg (Option.or · _) Option.or_self
            · rfl
          · rw [if_neg (mt List.contains_iff_mem.mp hc')]
            by_cases heq : c' = c
            · subst heq
              rw [if_pos rfl, if_pos (List.contains_iff_mem.mpr List.mem_cons_self)]
              rfl
            · rw [if_neg heq, if_neg fun hmem =>
                (List.mem_cons.mp (List.contains_iff_mem.mp hmem)).elim heq hc']
      · exact .inr ⟨⟨exc, hexc⟩, c', List.mem_cons_of_mem _ hc', hraises'⟩
    · rw [hexc]
      exact .inr ⟨⟨exc, rfl⟩, c, List.mem_cons_self, hraises⟩

theorem createCustomDataPoints_cases (build : CustomDataPoint F P K → Option Bool)
    (channels : List (Option Int)) (hwf : ∀ config ∈ configs, config.WellFormed) :
    (∃ d', createCustomDataPoints build configs channels = .ok d' ∧
        (∀ c ∈ channels, ∀ config ∈ configs, ¬Raises build configs c config) ∧
        (channels ≠ [] → Grouped configs configs d') ∧ Has build configs channels {} d') ∨
      (∃ exc, createCustomDataPoints build configs channels = .error exc) ∧
        ∃ c ∈ channels, ∃ config ∈ configs, Raises build configs c config :=
  createAll_cases ⟨[], List.prefix_rfl, List.nil_prefix, fun _ => rfl⟩ hwf

/-! ## The order of the channels -/

/-- The order in which the channels of a device are walked does not matter: with the same channels
in another order the same data points are created, in the same groups. -/
theorem createCustomDataPoints_any_order {channels' : List (Option Int)}
    (hwf : ∀ config ∈ configs, config.WellFormed) (hsame : ∀ c, c ∈ channels ↔ c ∈ channels')
    (h : createCustomDataPoints build configs channels = .ok d) :
    ∃ d', createCustomDataPoints build configs channels' = .ok d' ∧
      (∀ c, d'.customDataPoints.get? c = d.customDataPoints.get? c) ∧
      ∀ c, d'.channelToGroup.get? c = d.channelToGroup.get? c := by
  rcases createCustomDataPoints_cases build channels hwf with
    ⟨d₁, hd₁, hraises, hgrouped, hhas⟩ | ⟨⟨exc, hexc⟩, -⟩
  · rw [h] at hd₁
    cases hd₁
    rcases createCustomDataPoints_cases build channels' hwf with
      ⟨d', hd', -, hgrouped', hhas'⟩ | ⟨-, c, hc, config, hconfig, hraises'⟩
    · refine ⟨d', hd', fun c => ?_, fun c => ?_⟩
      · have hcontains : channels'.contains c = true ↔ channels.contains c = true := by
          rw [List.contains_iff_mem, List.contains_iff_mem, hsame]
        rw [hhas' c, hhas c]
        exact if_congr hcontains rfl rfl
      · cases channels with
        | nil =>
          have hnil : channels' = [] :=
            List.eq_nil_iff_forall_not_mem.mpr fun c hc => List.not_mem_nil ((hsame c).mpr hc)
          subst hnil
          cases h
          cases hd'
          rfl
        | cons c₀ channels =>
          have hne : channels' ≠ [] :=
            List.ne_nil_of_mem ((hsame c₀).mp List.mem_cons_self)
          rw [grouped_all.mp (hgrouped' hne) c,
            grouped_all.mp (hgrouped (List.cons_ne_nil c₀ channels)) c]
    · exact absurd hraises' (hraises c ((hsame c).mpr hc) config hconfig)
  · rw [h] at hexc
    cases hexc

/-- What is registered for the HmIP-WGT, without the fields: its thermostat, its dimmer, its lock
and its switch. -/
def wgt : List (DeviceConfig Unit Unit Unit) :=
  let actuator : ChannelGroupConfig Unit :=
    { secondaryChannels := [1, 2], stateChannelOffset := some (-1), fields := () }
  [{ profile := { channelGroup := { fields := () } }, channels := [some 8], rest := () },
    { profile := { channelGroup := actuator }, channels := [some 2], rest := () },
    { profile := { channelGroup := { fields := () } }, channels := [some 0], rest := () },
    { profile := { channelGroup := actuator }, channels := [some 4], rest := () }]

theorem wellFormed_wgt : ∀ config ∈ wgt, config.WellFormed := by
  simp [wgt, DeviceConfig.WellFormed]

theorem createCustomDataPoints_any_order_wgt : ∃ d d',
    createCustomDataPoints (fun _ => some true) wgt [none, some 2, some 4, some 8] = .ok d ∧
      createCustomDataPoints (fun _ => some true) wgt [some 8, some 4, some 2, none] = .ok d' ∧
      d'.channelToGroup.get? (some 4) = d.channelToGroup.get? (some 4) ∧
      d.channelToGroup.get? (some 4) = some 2 := by
  have hsame (c : Option Int) :
      c ∈ [none, some 2, some 4, some 8] ↔ c ∈ [some (8 : Int), some 4, some 2, none] :=
    List.mem_reverse.symm
  obtain ⟨d', hd', -, hgroups⟩ := createCustomDataPoints_any_order wellFormed_wgt hsame
    (rfl : createCustomDataPoints (fun _ => some true) wgt _ = .ok _)
  exact ⟨_, d', rfl, hd', hgroups (some 4), by decide +kernel⟩

/-! ## Groups that claim no channel twice -/

/-- No channel is assigned to two groups. -/
def DisjointGroups (configs : List (DeviceConfig F P K)) : Prop :=
  ∀ c g g', (c, g) ∈ configs.flatMap DeviceConfig.groups →
    (c, g') ∈ configs.flatMap DeviceConfig.groups → g = g'

theorem exists_of_customDataPoint? {dp : CustomDataPoint F P K}
    (h : customDataPoint? build configs c = some dp) :
    ∃ config ∈ configs, c ∈ config.relevantChannels ∧ dp = instanceOf configs c config := by
  obtain ⟨config, hconfig, hpoint⟩ := List.mem_filterMap.mp (List.mem_of_getLast? h)
  unfold pointOf at hpoint
  split at hpoint
  next hc =>
    cases hpoint
    exact ⟨config, hconfig, List.contains_iff_mem.mp hc.1, rfl⟩
  · cases hpoint

theorem DeviceConfig.mem_rebaseChannels {primaryChannel n : Int}
    (hprimary : config.profile.channelGroup.primaryChannel = some primaryChannel)
    {confChannel : Int} (hconf : some confChannel ∈ config.channels) :
    some n ∈ config.rebaseChannels.channels ↔
      ∃ conf, some conf ∈ config.channels ∧ n = conf + primaryChannel := by
  have hmem (m : Int) : m ∈ config.channels.filterMap (fun ch => ch.map (· + primaryChannel)) ↔
      ∃ conf, some conf ∈ config.channels ∧ m = conf + primaryChannel := by
    rw [List.mem_filterMap]
    constructor
    · rintro ⟨ch, hch, hm⟩
      obtain ⟨conf, rfl, rfl⟩ := Option.map_eq_some_iff.mp hm
      exact ⟨conf, hch, rfl⟩
    · rintro ⟨conf, hch, rfl⟩
      exact ⟨some conf, hch, rfl⟩
  unfold rebaseChannels
  rw [hprimary]
  dsimp only
  rw [if_neg (List.ne_nil_of_mem ((hmem _).mpr ⟨confChannel, hconf, rfl⟩)), ← hmem,
    List.mem_map]
  constructor
  · rintro ⟨m, hm, heq⟩
    cases heq
    exact hm
  · exact fun hn => ⟨n, hn, rfl⟩

theorem DeviceConfig.none_mem_rebaseChannels : none ∈ config.rebaseChannels.channels ↔
    none ∈ config.channels ∧ (config.profile.channelGroup.primaryChannel = none ∨
      ∀ ch ∈ config.channels, ch = none) := by
  unfold rebaseChannels
  cases config.profile.channelGroup.primaryChannel with
  | none => simp
  | some primaryChannel =>
    dsimp only
    have hnil : config.channels.filterMap (fun ch => ch.map (· + primaryChannel)) = [] ↔
        ∀ ch ∈ config.channels, ch = none := by
      simp
    split
    next hempty => exact (and_iff_left (.inr (hnil.mp hempty))).symm
    next hne => simp [mt hnil.mpr hne]

/-- With disjoint groups, a channel has the group that any of its configurations assigns. -/
theorem DisjointGroups.groupNo_eq (hdisjoint : DisjointGroups configs) (hmem : config ∈ configs)
    {g : Int} (hg : (c, g) ∈ config.groups) : groupNo configs c = some g := by
  have hall : (c, g) ∈ configs.flatMap DeviceConfig.groups :=
    List.mem_flatMap.mpr ⟨config, hmem, hg⟩
  cases hfound : groupNo configs c with
  | none =>
    have hkey := Dict.lookup_eq_none.mp hfound
    exact absurd (List.mem_map_of_mem hall) hkey
  | some g' => rw [hdisjoint c g' g (Dict.mem_of_lookup hfound) hall]

/-- What is registered for the HmIPW-DRBL4, without the fields: its four blinds. -/
def drbl4 : DeviceConfig Unit Unit Unit where
  profile :=
    { channelGroup :=
        { secondaryChannels := [1, 2], stateChannelOffset := some (-1), fields := () } }
  channels := [some 2, some 6, some 10, some 14]
  rest := ()

theorem disjointGroups_drbl4 : DisjointGroups [drbl4] := by
  have hall : ∀ e ∈ [drbl4].flatMap DeviceConfig.groups,
      ∀ e' ∈ [drbl4].flatMap DeviceConfig.groups, e.1 = e'.1 → e.2 = e'.2 := by
    decide +kernel
  exact fun c g g' hg hg' => hall (c, g) hg (c, g') hg' rfl

-- The dimmer of the HmIP-WGT takes channel 4, for which its switch is registered.
example : ¬DisjointGroups wgt := fun h =>
  absurd (h (some 4) 2 4 (by decide) (by decide)) (by decide)

theorem customDataPoint?_of_created {dp : CustomDataPoint F P K}
    (hwf : ∀ config ∈ configs, config.WellFormed)
    (h : createCustomDataPoints build configs channels = .ok d)
    (hdp : d.customDataPoints.get? c = some dp) : customDataPoint? build configs c = some dp := by
  rcases createCustomDataPoints_cases build channels hwf with
    ⟨d', hd', -, -, hhas⟩ | ⟨⟨exc, hexc⟩, -⟩
  · rw [h] at hd'
    cases hd'
    rw [hhas] at hdp
    split at hdp
    · rwa [show ({} : CustomDevice F P K).customDataPoints.get? c = none from rfl,
        Option.or_none] at hdp
    · cases hdp
  · rw [h] at hexc
    cases hexc

/-- The data point of the channel is in the group of its own configuration, whose primary channel
or one of whose secondary channels it is. The rebased channels of its configuration have the
channel if it is the primary one. -/
def InOwnGroup (configs : List (DeviceConfig F P K)) (n : Int) (dp : CustomDataPoint F P K) :
    Prop :=
  ∃ config ∈ configs, ∃ primaryChannel confChannel,
    config.profile.channelGroup.primaryChannel = some primaryChannel ∧
    some confChannel ∈ config.channels ∧
    dp = instantiate (some n) (some (confChannel + primaryChannel)) config ∧
    (n = confChannel + primaryChannel ∨
      ∃ secChannel ∈ config.profile.channelGroup.secondaryChannels, n = confChannel + secChannel) ∧
    (some n ∈ dp.deviceConfig.channels ↔ n = confChannel + primaryChannel) ∧
    (primaryChannel = 0 → dp.channelGroup.primaryChannel = some confChannel ∧
      n ∈ confChannel :: dp.channelGroup.secondaryChannels)

theorem inOwnGroup (hwf : ∀ config ∈ configs, config.WellFormed)
    (hdisjoint : DisjointGroups configs) {n : Int} {dp : CustomDataPoint F P K}
    (hpoint : customDataPoint? build configs (some n) = some dp) : InOwnGroup configs n dp := by
  obtain ⟨config, hconfig, hrelevant, hinstance⟩ := exists_of_customDataPoint? hpoint
  obtain ⟨primaryChannel, confChannel, hprimary, hconf, hn⟩ :=
    (DeviceConfig.mem_relevantChannels (hwf config hconfig)).mp hrelevant
  have hgroup := hdisjoint.groupNo_eq hconfig
    (DeviceConfig.mem_groups_of_relevant hprimary hconf hn)
  have hdp' : dp = instantiate (some n) (some (confChannel + primaryChannel)) config := by
    rw [hinstance, instanceOf, hgroup]
  refine ⟨config, hconfig, primaryChannel, confChannel, hprimary, hconf, hdp', hn, ?_,
    fun hzero => ?_⟩
  · rw [hdp']
    refine (DeviceConfig.mem_rebaseChannels hprimary hconf).trans ⟨?_, fun heq => ?_⟩
    · -- the channel names the group of another of the channels of the configuration
      rintro ⟨conf, hconf', rfl⟩
      rw [hdisjoint.groupNo_eq hconfig
        (DeviceConfig.mem_groups_of_relevant hprimary hconf' (.inl rfl))] at hgroup
      exact Option.some_inj.mp hgroup
    · exact ⟨confChannel, hconf, heq⟩
  · subst hzero
    rw [hdp']
    constructor
    · simp [instantiate, rebaseChannelGroup, hprimary]
    · simp only [instantiate, rebaseChannelGroup, Option.getD_some, Int.add_zero]
      rcases hn with rfl | ⟨sec, hsec, rfl⟩
      · rw [Int.add_zero]
        exact List.mem_cons_self
      · refine List.mem_cons_of_mem _ (List.mem_map.mpr ⟨sec, hsec, ?_⟩)
        exact Int.add_comm _ _

/-- The data point of the device itself is in no group. Its configuration has no primary channel,
or is for the device. -/
def InNoGroup (configs : List (DeviceConfig F P K)) (dp : CustomDataPoint F P K) : Prop :=
  ∃ config ∈ configs,
    (config.profile.channelGroup.primaryChannel = none ∨ none ∈ config.channels) ∧
    dp = instantiate none none config ∧
    (none ∈ dp.deviceConfig.channels ↔ none ∈ config.channels ∧
      (config.profile.channelGroup.primaryChannel = none ∨ ∀ ch ∈ config.channels, ch = none))

theorem inNoGroup {dp : CustomDataPoint F P K}
    (hpoint : customDataPoint? build configs none = some dp) : InNoGroup configs dp := by
  obtain ⟨config, hconfig, hrelevant, hinstance⟩ := exists_of_customDataPoint? hpoint
  have hdp' : dp = instantiate none none config := by
    rw [hinstance, instanceOf, groupNo_none]
  refine ⟨config, hconfig, DeviceConfig.of_none_relevant hrelevant, hdp', ?_⟩
  rw [hdp']
  exact DeviceConfig.none_mem_rebaseChannels

/-- Where no channel is assigned to two groups, the data point of a channel is in the group of its
own configuration, and that of the device itself is in none. -/
theorem createCustomDataPoints_own_group (hwf : ∀ config ∈ configs, config.WellFormed)
    (hdisjoint : DisjointGroups configs)
    (h : createCustomDataPoints build configs channels = .ok d) :
    (∀ n dp, d.customDataPoints.get? (some n) = some dp → InOwnGroup configs n dp) ∧
      ∀ dp, d.customDataPoints.get? none = some dp → InNoGroup configs dp :=
  ⟨fun _ _ hdp => inOwnGroup hwf hdisjoint (customDataPoint?_of_created hwf h hdp),
    fun _ hdp => inNoGroup (customDataPoint?_of_created hwf h hdp)⟩

theorem createCustomDataPoints_own_group_drbl4 : ∃ d dp,
    createCustomDataPoints (fun _ => some true) [drbl4] [none, some 6, some 7] = .ok d ∧
      d.customDataPoints.get? (some 7) = some dp ∧ dp.groupNo = some 6 ∧
      some 7 ∉ dp.deviceConfig.channels := by
  have hwf : ∀ config ∈ [drbl4], config.WellFormed := by
    simp [drbl4, DeviceConfig.WellFormed]
  have hfound : ((createCustomDataPoints (fun _ => some true) [drbl4]
      [none, some 6, some 7]).toOption.bind fun d =>
        (d.customDataPoints.get? (some 7)).map CustomDataPoint.groupNo) = some (some 6) := by
    decide +kernel
  rcases hd : createCustomDataPoints (fun _ => some true) [drbl4] [none, some 6, some 7] with
    exc | d
  · rw [hd] at hfound
    cases hfound
  · rw [hd] at hfound
    obtain ⟨dp, hdp, hgroup⟩ := Option.map_eq_some_iff.mp hfound
    obtain ⟨config, -, primaryChannel, confChannel, -, -, hinstance, -, hchannels, -⟩ :=
      (createCustomDataPoints_own_group hwf disjointGroups_drbl4 hd).1 7 dp hdp
    refine ⟨d, dp, rfl, hdp, hgroup, fun hmem => ?_⟩
    rw [hinstance] at hgroup
    rw [Option.some_inj.mp hgroup] at hchannels
    exact absurd (hchannels.mp hmem) (by decide)

end Created

end AioHomematic.Model
