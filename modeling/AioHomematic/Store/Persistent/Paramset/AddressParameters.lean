import Mathlib.Data.Finset.Card
import AioHomematic.Store.Persistent.Device.Indexes
import AioHomematic.Store.Persistent.Paramset

/-!
# The channels of a parameter

`_address_parameter_cache` of the paramset cache: device address and parameter
lead to the numbers of the channels that have the parameter, for
`is_in_multiple_channels`. Adding a description only ever extends it, and
`remove_device` does not touch it; a reload builds it from the content
(`mem_channelNos_processLoadedContent`).
-/

namespace AioHomematic.Store

open Lib Support

/-! ## The reverse index -/

abbrev AddressParameterCache := Dict (String × String) (Finset (Option Int))

namespace AddressParameterCache

variable {P : Type*}

def channelNos (cache : AddressParameterCache) (deviceAddress parameter : String) :
    Finset (Option Int) :=
  (cache.get? (deviceAddress, parameter)).getD ∅

def addChannelNo (cache : AddressParameterCache) (deviceAddress parameter : String)
    (channelNo : Option Int) : AddressParameterCache :=
  cache.set (deviceAddress, parameter) (insert channelNo (channelNos cache deviceAddress parameter))

/-- `_add_address_parameter`, `none` where it raises. -/
def addAddressParameter (cache : AddressParameterCache) (channelAddress : String)
    (paramsets : List (Dict String P)) : Option AddressParameterCache :=
  (getSplitChannelAddress channelAddress).map fun part =>
    paramsets.foldl (fun cache paramset =>
      paramset.keys.foldl (fun cache parameter =>
        addChannelNo cache part.1 parameter part.2) cache) cache

/-- `_init_address_parameter_list`; what it has done before it raises stays. -/
def initAddressParameterList (cache : AddressParameterCache) :
    List (String × Dict ParamsetKey (Dict String P)) →
      Except PyException Unit × AddressParameterCache
  | [] => (.ok (), cache)
  | (channelAddress, paramsets) :: rest =>
    match addAddressParameter cache channelAddress paramsets.values with
    | none => (.error { cls := .other }, cache)
    | some cache => initAddressParameterList cache rest

variable {cache cache' : AddressParameterCache} {deviceAddress parameter : String}
  {channelNo : Option Int}

theorem mem_channelNos_addChannelNo {deviceAddress' parameter' : String}
    {channelNo' : Option Int} :
    channelNo ∈ channelNos (addChannelNo cache deviceAddress' parameter' channelNo') deviceAddress
        parameter ↔
      channelNo ∈ channelNos cache deviceAddress parameter ∨
        (deviceAddress', channelNo') = (deviceAddress, channelNo) ∧ parameter = parameter' := by
  rw [channelNos, addChannelNo, Dict.get?_set]
  split
  next h =>
    cases h
    rw [Option.getD_some, Finset.mem_insert, or_comm]
    simp [eq_comm]
  next h =>
    rw [← channelNos, or_iff_left]
    rintro ⟨heq, rfl⟩
    cases heq
    exact h rfl

theorem mem_channelNos_foldl_keys {deviceAddress' : String} {channelNo' : Option Int}
    {parameters : List String} :
    channelNo ∈ channelNos (parameters.foldl (fun cache parameter =>
        addChannelNo cache deviceAddress' parameter channelNo') cache) deviceAddress parameter ↔
      channelNo ∈ channelNos cache deviceAddress parameter ∨
        (deviceAddress', channelNo') = (deviceAddress, channelNo) ∧ parameter ∈ parameters := by
  induction parameters generalizing cache with
  | nil => simp
  | cons p ps ih =>
    rw [List.foldl_cons, ih, mem_channelNos_addChannelNo, List.mem_cons, or_assoc, ← and_or_left]

theorem mem_channelNos_addAddressParameter {channelAddress : String}
    {paramsets : List (Dict String P)}
    (h : addAddressParameter cache channelAddress paramsets = some cache') :
    channelNo ∈ channelNos cache' deviceAddress parameter ↔
      channelNo ∈ channelNos cache deviceAddress parameter ∨
        getSplitChannelAddress channelAddress = some (deviceAddress, channelNo) ∧
          ∃ paramset ∈ paramsets, parameter ∈ paramset.keys := by
  obtain ⟨part, hpart, rfl⟩ := Option.map_eq_some_iff.mp h
  rw [hpart, Option.some_inj]
  clear h
  induction paramsets generalizing cache with
  | nil => simp
  | cons paramset paramsets ih =>
    rw [List.foldl_cons, ih, mem_channelNos_foldl_keys, List.exists_mem_cons_iff, or_assoc,
      ← and_or_left]

theorem addAddressParameter_eq_none {channelAddress : String} {paramsets : List (Dict String P)} :
    addAddressParameter cache channelAddress paramsets = none ↔
      getSplitChannelAddress channelAddress = none := Option.map_eq_none_iff

theorem initAddressParameterList_ok_iff
    {channels : List (String × Dict ParamsetKey (Dict String P))} :
    (initAddressParameterList cache channels).1 = .ok () ↔
      ∀ c ∈ channels, getSplitChannelAddress c.1 ≠ none := by
  induction channels generalizing cache with
  | nil => simp [initAddressParameterList]
  | cons c channels ih =>
    unfold initAddressParameterList
    rw [List.forall_mem_cons]
    split
    next hnone => simp [addAddressParameter_eq_none.mp hnone]
    next cache' hsome =>
      rw [ih, and_iff_right]
      intro hnone
      rw [addAddressParameter_eq_none.mpr hnone] at hsome
      cases hsome

theorem mem_channelNos_init {channels : List (String × Dict ParamsetKey (Dict String P))}
    (h : (initAddressParameterList cache channels).1 = .ok ()) :
    channelNo ∈ channelNos (initAddressParameterList cache channels).2 deviceAddress parameter ↔
      channelNo ∈ channelNos cache deviceAddress parameter ∨
        ∃ c ∈ channels, getSplitChannelAddress c.1 = some (deviceAddress, channelNo) ∧
          ∃ paramset ∈ c.2.values, parameter ∈ paramset.keys := by
  induction channels generalizing cache with
  | nil => simp [initAddressParameterList]
  | cons c channels ih =>
    unfold initAddressParameterList at h ⊢
    split at h
    · cases h
    next cache' hsome =>
      rw [ih h, mem_channelNos_addAddressParameter hsome, List.exists_mem_cons_iff, or_assoc]

end AddressParameterCache

/-! ## The cache with its index -/

structure IndexedParamsetRegistry (P : Type*) extends
    ParamsetDescriptionRegistry (Dict String P) where
  addressParameterCache : AddressParameterCache := .empty

namespace IndexedParamsetRegistry

variable {P : Type*} (r : IndexedParamsetRegistry P)

/-- `add`; what it has done before it raises stays. -/
def addDescription (interfaceId channelAddress : String) (paramsetKey : ParamsetKey)
    (description : Dict String P) : Except PyException Unit × IndexedParamsetRegistry P :=
  let content := r.add interfaceId channelAddress paramsetKey description
  match AddressParameterCache.addAddressParameter r.addressParameterCache channelAddress
    [description] with
  | none => (.error { cls := .other }, { r with toParamsetDescriptionRegistry := content })
  | some cache =>
    (.ok (), { toParamsetDescriptionRegistry := content, addressParameterCache := cache })

def registerAdditionalParameter (channelAddress parameter : String) :
    Except PyException Unit × IndexedParamsetRegistry P :=
  match getSplitChannelAddress channelAddress with
  | none => (.error { cls := .other }, r)
  | some (deviceAddress, channelNo) => (.ok (),
    { r with
      addressParameterCache := AddressParameterCache.addChannelNo r.addressParameterCache
        deviceAddress parameter channelNo })

def removeDevice (device : DeviceRemovalInfo) : IndexedParamsetRegistry P :=
  { r with
    toParamsetDescriptionRegistry := r.removeChannels device.interfaceId device.channels }

/-- `is_in_multiple_channels`, `none` where it raises. -/
def isInMultipleChannels (channelAddress parameter : String) : Option Bool :=
  if IsDevice channelAddress then some false
  else (getSplitChannelAddress channelAddress).map fun part =>
    1 < (AddressParameterCache.channelNos r.addressParameterCache part.1 parameter).card

/-- `load`, where it takes over `data`: `_process_loaded_content`. -/
def processLoadedContent (data : ParamsetDescriptionRegistry (Dict String P)) :
    Except PyException Unit × IndexedParamsetRegistry P :=
  let content := ParamsetDescriptionRegistry.ofDescriptions
    (data.descriptions.filter fun e => !isMetadataKey e.interfaceId)
  let init := AddressParameterCache.initAddressParameterList .empty content.channels
  (init.1, { toParamsetDescriptionRegistry := content, addressParameterCache := init.2 })

/-! ## What a reload builds -/

variable {r}

/-- Some description of a channel with this number has the parameter. -/
def Provides (es : List (PlacedDescription (Dict String P))) (deviceAddress parameter : String)
    (channelNo : Option Int) : Prop :=
  ∃ e ∈ es, getSplitChannelAddress e.channelAddress = some (deviceAddress, channelNo) ∧
    parameter ∈ e.description.keys

/-- The descriptions that a reload takes over. -/
def kept (r : IndexedParamsetRegistry P) : List (PlacedDescription (Dict String P)) :=
  r.descriptions.filter fun e => !isMetadataKey e.interfaceId

theorem mem_kept {e : PlacedDescription (Dict String P)} :
    e ∈ r.kept ↔ e ∈ r.descriptions ∧ isMetadataKey e.interfaceId = false := by
  rw [kept, List.mem_filter, Bool.not_eq_true']

theorem mem_descriptions_content {data : ParamsetDescriptionRegistry (Dict String P)}
    {e : PlacedDescription (Dict String P)} :
    e ∈ (processLoadedContent data).2.descriptions ↔
      e ∈ data.descriptions.filter fun e => !isMetadataKey e.interfaceId := by
  refine ParamsetDescriptionRegistry.mem_descriptions_ofDescriptions fun e he e' he' hat => ?_
  exact ParamsetDescriptionRegistry.eq_of_at (List.mem_filter.mp he).1
    (List.mem_filter.mp he').1 hat

theorem processLoadedContent_ok_iff :
    (processLoadedContent r.toParamsetDescriptionRegistry).1 = .ok () ↔
      ∀ e ∈ r.kept, getSplitChannelAddress e.channelAddress ≠ none := by
  have hcontent : ∀ e, e ∈ (ParamsetDescriptionRegistry.ofDescriptions r.kept).descriptions ↔
      e ∈ r.kept := fun _ => mem_descriptions_content
  have hfilled := ParamsetDescriptionRegistry.filled_ofDescriptions r.kept
  rw [processLoadedContent, AddressParameterCache.initAddressParameterList_ok_iff]
  constructor
  · intro h e he
    obtain ⟨channel, hchannel, -, -, heq⟩ :=
      ParamsetDescriptionRegistry.exists_channel_iff
        (q := fun channelAddress _ => channelAddress = e.channelAddress) |>.mpr
        ⟨e, (hcontent e).mpr he, rfl⟩
    exact heq ▸ h channel hchannel
  · intro h channel hchannel
    obtain ⟨d, hd⟩ := hfilled channel hchannel
    obtain ⟨e, he, heq⟩ := ParamsetDescriptionRegistry.exists_channel_iff
      (q := fun channelAddress _ => channelAddress = channel.1) |>.mp
      ⟨channel, hchannel, d, hd, rfl⟩
    exact heq ▸ h e ((hcontent e).mp he)

theorem mem_channelNos_processLoadedContent {deviceAddress parameter : String}
    {channelNo : Option Int}
    (h : (processLoadedContent r.toParamsetDescriptionRegistry).1 = .ok ()) :
    channelNo ∈ AddressParameterCache.channelNos
        (processLoadedContent r.toParamsetDescriptionRegistry).2.addressParameterCache
        deviceAddress parameter ↔
      Provides r.kept deviceAddress parameter channelNo := by
  have hempty : channelNo ∉
      AddressParameterCache.channelNos .empty deviceAddress parameter := by
    simp [AddressParameterCache.channelNos]
  rw [processLoadedContent, AddressParameterCache.mem_channelNos_init h, or_iff_right hempty]
  have hchannels := ParamsetDescriptionRegistry.exists_channel_iff
    (r := .ofDescriptions r.kept) (q := fun channelAddress paramset =>
      getSplitChannelAddress channelAddress = some (deviceAddress, channelNo) ∧
        parameter ∈ paramset.keys)
  constructor
  · rintro ⟨channel, hchannel, hpart, paramset, hparamset, hparameter⟩
    obtain ⟨e, he, hprovides⟩ :=
      hchannels.mp ⟨channel, hchannel, paramset, hparamset, hpart, hparameter⟩
    exact ⟨e, mem_descriptions_content.mp he, hprovides⟩
  · rintro ⟨e, he, hprovides⟩
    obtain ⟨channel, hchannel, paramset, hparamset, hpart, hparameter⟩ :=
      hchannels.mpr ⟨e, mem_descriptions_content.mpr he, hprovides⟩
    exact ⟨channel, hchannel, hpart, paramset, hparamset, hparameter⟩

end IndexedParamsetRegistry

end AioHomematic.Store
