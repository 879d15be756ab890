import AioHomematic.Lib.StepSystem
import AioHomematic.Store.Persistent.Paramset.AddressParameters

/-!
# The reverse index over a history

Runs of `add`, `remove_device` and `register_additional_parameter`. The index is
`Consistent` when it is the one that a reload builds, with the parameters
registered in addition. `upToDate_step_iff` says which steps keep it so: those
that take no parameter from a channel, or one that the channel has elsewhere.
-/

namespace AioHomematic.Store

open Lib Support StepSystem

/-- The cache with the parameters that were registered in addition. -/
structure ParamsetHistory (P : Type*) extends IndexedParamsetRegistry P where
  registered : List (String × String × Option Int) := []

inductive ParamsetAction (P : Type*) where
  | add (interfaceId channelAddress : String) (paramsetKey : ParamsetKey)
    (description : Dict String P)
  | removeDevice (device : DeviceRemovalInfo)
  | registerAdditionalParameter (channelAddress parameter : String)

namespace ParamsetHistory

open IndexedParamsetRegistry

variable {P : Type*} (s : ParamsetHistory P)

def step : ParamsetAction P → ParamsetHistory P
  | .add interfaceId channelAddress paramsetKey description =>
    { s with
      toIndexedParamsetRegistry :=
        (s.addDescription interfaceId channelAddress paramsetKey description).2 }
  | .removeDevice device => { s with toIndexedParamsetRegistry := s.removeDevice device }
  | .registerAdditionalParameter channelAddress parameter =>
    { toIndexedParamsetRegistry :=
        (s.toIndexedParamsetRegistry.registerAdditionalParameter channelAddress parameter).2
      registered := match getSplitChannelAddress channelAddress with
        | none => s.registered
        | some part => (part.1, parameter, part.2) :: s.registered }

def system : StepSystem (ParamsetHistory P) (ParamsetAction P) where
  init := {}
  step s a := some (s.step a)

def channelNos (deviceAddress parameter : String) : Finset (Option Int) :=
  AddressParameterCache.channelNos s.addressParameterCache deviceAddress parameter

/-- The index is the one a reload builds, with the parameters registered in addition. -/
def Consistent : Prop :=
  ∃ loaded, processLoadedContent s.toParamsetDescriptionRegistry = (.ok (), loaded) ∧
    ∀ deviceAddress parameter channelNo,
      channelNo ∈ s.channelNos deviceAddress parameter ↔
        channelNo ∈ AddressParameterCache.channelNos loaded.addressParameterCache deviceAddress
            parameter ∨
          (deviceAddress, parameter, channelNo) ∈ s.registered

/-- A channel with this number has the parameter, in the content without what is dropped or as one
registered in addition. -/
def CountsWithout (drop : PlacedDescription (Dict String P) → Bool)
    (deviceAddress parameter : String) (channelNo : Option Int) : Prop :=
  Provides (s.kept.filter (!drop ·)) deviceAddress parameter channelNo ∨
    (deviceAddress, parameter, channelNo) ∈ s.registered

def Counts (deviceAddress parameter : String) (channelNo : Option Int) : Prop :=
  Provides s.kept deviceAddress parameter channelNo ∨
    (deviceAddress, parameter, channelNo) ∈ s.registered

/-- What is dropped takes no parameter from its channel that is not `new` there. -/
def NothingLost (drop : PlacedDescription (Dict String P) → Bool) (new : List String) : Prop :=
  ∀ e ∈ s.kept, drop e = true → ∀ part ∈ getSplitChannelAddress e.channelAddress,
    ∀ parameter ∈ e.description.keys,
      parameter ∈ new ∨ s.CountsWithout drop part.1 parameter part.2

def Keeps : ParamsetAction P → Prop
  | .add interfaceId channelAddress paramsetKey description =>
    if isMetadataKey interfaceId then
      ∀ part ∈ getSplitChannelAddress channelAddress, ∀ parameter ∈ description.keys,
        s.Counts part.1 parameter part.2
    else
      getSplitChannelAddress channelAddress ≠ none ∧
        s.NothingLost (fun e => e.At interfaceId channelAddress paramsetKey) description.keys
  | .removeDevice device =>
    s.NothingLost (fun e => e.Removed device.interfaceId device.channels) []
  | .registerAdditionalParameter _ _ => True

instance (es : List (PlacedDescription (Dict String P))) (deviceAddress parameter : String)
    (channelNo : Option Int) : Decidable (Provides es deviceAddress parameter channelNo) :=
  inferInstanceAs (Decidable (∃ e ∈ es, _ ∧ parameter ∈ e.description.keys))

instance (drop : PlacedDescription (Dict String P) → Bool) (deviceAddress parameter : String)
    (channelNo : Option Int) : Decidable (s.CountsWithout drop deviceAddress parameter channelNo) :=
  inferInstanceAs (Decidable (_ ∨ _))

instance (deviceAddress parameter : String) (channelNo : Option Int) :
    Decidable (s.Counts deviceAddress parameter channelNo) :=
  inferInstanceAs (Decidable (_ ∨ _))

instance (drop : PlacedDescription (Dict String P) → Bool) (new : List String) :
    Decidable (s.NothingLost drop new) :=
  inferInstanceAs (Decidable (∀ e ∈ s.kept, drop e = true →
    ∀ part ∈ getSplitChannelAddress e.channelAddress, ∀ parameter ∈ e.description.keys,
      parameter ∈ new ∨ s.CountsWithout drop part.1 parameter part.2))

instance : DecidableRel (Keeps : ParamsetHistory P → ParamsetAction P → Prop)
  | s, .add interfaceId channelAddress paramsetKey description =>
    inferInstanceAs (Decidable (if isMetadataKey interfaceId then
      ∀ part ∈ getSplitChannelAddress channelAddress, ∀ parameter ∈ description.keys,
        s.Counts part.1 parameter part.2
    else
      getSplitChannelAddress channelAddress ≠ none ∧
        s.NothingLost (fun e => e.At interfaceId channelAddress paramsetKey) description.keys))
  | s, .removeDevice device =>
    inferInstanceAs (Decidable
      (s.NothingLost (fun e => e.Removed device.interfaceId device.channels) []))
  | _, .registerAdditionalParameter _ _ => .isTrue trivial

variable {s}

/-- The content can be parsed, and the index says what it counts. -/
structure UpToDate (s : ParamsetHistory P) : Prop where
  parsed : ∀ e ∈ s.kept, getSplitChannelAddress e.channelAddress ≠ none
  index : ∀ deviceAddress parameter channelNo,
    channelNo ∈ s.channelNos deviceAddress parameter ↔ s.Counts deviceAddress parameter channelNo

theorem consistent_iff : s.Consistent ↔ s.UpToDate := by
  constructor
  · rintro ⟨loaded, hloaded, hindex⟩
    have hok : (processLoadedContent s.toParamsetDescriptionRegistry).1 = .ok () := by
      rw [hloaded]
    refine ⟨processLoadedContent_ok_iff.mp hok, fun deviceAddress parameter channelNo => ?_⟩
    rw [hindex, Counts, ← mem_channelNos_processLoadedContent hok, hloaded]
  · intro h
    have hok := processLoadedContent_ok_iff.mpr h.parsed
    refine ⟨_, Prod.ext hok rfl, fun deviceAddress parameter channelNo => ?_⟩
    rw [h.index, Counts, mem_channelNos_processLoadedContent hok]

theorem provides_of_filter {q : PlacedDescription (Dict String P) → Bool}
    {es : List (PlacedDescription (Dict String P))} {deviceAddress parameter : String}
    {channelNo : Option Int} (h : Provides (es.filter q) deviceAddress parameter channelNo) :
    Provides es deviceAddress parameter channelNo := by
  obtain ⟨e, he, hprovides⟩ := h
  exact ⟨e, (List.mem_filter.mp he).1, hprovides⟩

theorem counts_of_without {drop : PlacedDescription (Dict String P) → Bool}
    {deviceAddress parameter : String} {channelNo : Option Int}
    (h : s.CountsWithout drop deviceAddress parameter channelNo) :
    s.Counts deviceAddress parameter channelNo :=
  h.imp_left provides_of_filter

theorem nothingLost_iff {drop : PlacedDescription (Dict String P) → Bool} {new : List String}
    {N : String → String → Option Int → Prop}
    (hnew : ∀ e ∈ s.kept, drop e = true → ∀ part ∈ getSplitChannelAddress e.channelAddress,
      ∀ parameter, N part.1 parameter part.2 ↔ parameter ∈ new) :
    s.NothingLost drop new ↔ ∀ deviceAddress parameter channelNo,
      s.Counts deviceAddress parameter channelNo → N deviceAddress parameter channelNo ∨
        s.CountsWithout drop deviceAddress parameter channelNo := by
  constructor
  · rintro h deviceAddress parameter channelNo (⟨e, he, hpart, hparameter⟩ | hregistered)
    · cases hdrop : drop e with
      | true =>
        exact (h e he hdrop _ hpart _ hparameter).imp_left (hnew e he hdrop _ hpart _).mpr
      | false =>
        exact .inr (.inl ⟨e, List.mem_filter.mpr ⟨he, by simp [hdrop]⟩, hpart, hparameter⟩)
    · exact .inr (.inr hregistered)
  · intro h e he hdrop part hpart parameter hparameter
    exact (h part.1 parameter part.2 (.inl ⟨e, he, hpart, hparameter⟩)).imp_left
      (hnew e he hdrop part hpart parameter).mp

/-! ### `add` -/

theorem mem_channelNos_add {interfaceId channelAddress : String} {paramsetKey : ParamsetKey}
    {description : Dict String P} {deviceAddress parameter : String} {channelNo : Option Int} :
    channelNo ∈ (s.step (.add interfaceId channelAddress paramsetKey description)).channelNos
        deviceAddress parameter ↔
      channelNo ∈ s.channelNos deviceAddress parameter ∨
        getSplitChannelAddress channelAddress = some (deviceAddress, channelNo) ∧
          parameter ∈ description.keys := by
  simp only [channelNos, step, addDescription]
  split
  next hnone =>
    rw [AddressParameterCache.addAddressParameter_eq_none.mp hnone]
    simp
  next cache hsome =>
    rw [AddressParameterCache.mem_channelNos_addAddressParameter hsome]
    simp

theorem mem_kept_add {interfaceId channelAddress : String} {paramsetKey : ParamsetKey}
    {description : Dict String P} {e : PlacedDescription (Dict String P)} :
    e ∈ (s.step (.add interfaceId channelAddress paramsetKey description)).kept ↔
      isMetadataKey interfaceId = false ∧
          e = ⟨interfaceId, channelAddress, paramsetKey, description⟩ ∨
        e ∈ s.kept.filter fun e => !decide (e.At interfaceId channelAddress paramsetKey) := by
  have hcontent : (s.step (.add interfaceId channelAddress paramsetKey description)).descriptions =
      (s.toParamsetDescriptionRegistry.add interfaceId channelAddress paramsetKey
        description).descriptions := by
    simp only [step, addDescription]
    split <;> rfl
  rw [mem_kept, hcontent, ParamsetDescriptionRegistry.mem_descriptions_add, List.mem_filter,
    mem_kept]
  constructor
  · rintro ⟨rfl | ⟨he, hne⟩, hmeta⟩
    · exact .inl ⟨hmeta, rfl⟩
    · exact .inr ⟨⟨he, hmeta⟩, by simpa using hne⟩
  · rintro (⟨hmeta, rfl⟩ | ⟨⟨he, hmeta⟩, hne⟩)
    · exact ⟨.inl rfl, hmeta⟩
    · exact ⟨.inr ⟨he, by simpa using hne⟩, hmeta⟩

theorem counts_add {interfaceId channelAddress : String} {paramsetKey : ParamsetKey}
    {description : Dict String P} {deviceAddress parameter : String} {channelNo : Option Int} :
    (s.step (.add interfaceId channelAddress paramsetKey description)).Counts deviceAddress
        parameter channelNo ↔
      isMetadataKey interfaceId = false ∧
          getSplitChannelAddress channelAddress = some (deviceAddress, channelNo) ∧
            parameter ∈ description.keys ∨
        s.CountsWithout (fun e => e.At interfaceId channelAddress paramsetKey) deviceAddress
          parameter channelNo := by
  simp only [Counts, CountsWithout, Provides, mem_kept_add, or_and_right, exists_or, or_assoc]
  refine or_congr_left ?_
  constructor
  · rintro ⟨e, ⟨hmeta, rfl⟩, hpart, hparameter⟩
    exact ⟨hmeta, hpart, hparameter⟩
  · rintro ⟨hmeta, hpart, hparameter⟩
    exact ⟨_, ⟨hmeta, rfl⟩, hpart, hparameter⟩

/-- Adding for an interface that a reload skips may only repeat what counts already. -/
theorem upToDate_add_metadata_iff (h : s.UpToDate) {interfaceId channelAddress : String}
    {paramsetKey : ParamsetKey} {description : Dict String P}
    (hmeta : isMetadataKey interfaceId = true) :
    (s.step (.add interfaceId channelAddress paramsetKey description)).UpToDate ↔
      ∀ part ∈ getSplitChannelAddress channelAddress, ∀ parameter ∈ description.keys,
        s.Counts part.1 parameter part.2 := by
  have hlive : ∀ {q : Prop}, isMetadataKey interfaceId = false ∧ q → False := by simp [hmeta]
  have hstays : ∀ deviceAddress parameter channelNo, s.Counts deviceAddress parameter channelNo →
      s.CountsWithout (fun e => e.At interfaceId channelAddress paramsetKey) deviceAddress parameter
        channelNo := by
    rintro deviceAddress parameter channelNo (⟨e, he, hprovides⟩ | hregistered)
    · refine .inl ⟨e, List.mem_filter.mpr ⟨he, ?_⟩, hprovides⟩
      have hne : ¬ e.At interfaceId channelAddress paramsetKey := fun hat =>
        hlive (q := True) ⟨hat.1 ▸ (mem_kept.mp he).2, trivial⟩
      simpa using hne
    · exact .inr hregistered
  constructor
  · intro h' part hpart parameter hparameter
    have hmem := (h'.index part.1 parameter part.2).mp
      (mem_channelNos_add.mpr (.inr ⟨hpart, hparameter⟩))
    exact counts_of_without ((counts_add.mp hmem).resolve_left hlive)
  · intro hold
    constructor
    case parsed =>
      intro e he
      exact h.parsed e (List.mem_filter.mp ((mem_kept_add.mp he).resolve_left hlive)).1
    case index =>
      intro deviceAddress parameter channelNo
      rw [mem_channelNos_add, h.index, counts_add]
      constructor
      · rintro (hcounts | ⟨hpart, hparameter⟩)
        · exact .inr (hstays _ _ _ hcounts)
        · exact .inr (hstays _ _ _ (hold _ hpart _ hparameter))
      · exact fun hcounts => .inl (counts_of_without (hcounts.resolve_left hlive))

theorem upToDate_add_iff (h : s.UpToDate) (interfaceId channelAddress : String)
    (paramsetKey : ParamsetKey) (description : Dict String P) :
    (s.step (.add interfaceId channelAddress paramsetKey description)).UpToDate ↔
      s.Keeps (.add interfaceId channelAddress paramsetKey description) := by
  rw [Keeps]
  split
  next hmeta => exact upToDate_add_metadata_iff h hmeta
  next hmeta =>
    have hlive : isMetadataKey interfaceId = false := by simpa using hmeta
    have hnew : ∀ e ∈ s.kept, decide (e.At interfaceId channelAddress paramsetKey) = true →
        ∀ part ∈ getSplitChannelAddress e.channelAddress, ∀ parameter,
          (getSplitChannelAddress channelAddress = some (part.1, part.2) ∧
            parameter ∈ description.keys) ↔ parameter ∈ description.keys := by
      intro e he hat part hpart parameter
      rw [(of_decide_eq_true hat).2.1] at hpart
      exact and_iff_right hpart
    rw [nothingLost_iff (N := fun deviceAddress parameter channelNo =>
      getSplitChannelAddress channelAddress = some (deviceAddress, channelNo) ∧
        parameter ∈ description.keys) hnew]
    constructor
    · intro h'
      constructor
      · exact h'.parsed _ (mem_kept_add.mpr (.inl ⟨hlive, rfl⟩))
      · intro deviceAddress parameter channelNo hcounts
        have hmem := (h'.index deviceAddress parameter channelNo).mp
          (mem_channelNos_add.mpr (.inl ((h.index _ _ _).mpr hcounts)))
        exact (counts_add.mp hmem).imp_left And.right
    · rintro ⟨hparsed, hlost⟩
      constructor
      case parsed =>
        intro e he
        rcases mem_kept_add.mp he with ⟨-, rfl⟩ | he
        · exact hparsed
        · exact h.parsed e (List.mem_filter.mp he).1
      case index =>
        intro deviceAddress parameter channelNo
        rw [mem_channelNos_add, h.index, counts_add]
        constructor
        · rintro (hcounts | hadded)
          · exact (hlost _ _ _ hcounts).imp_left fun hadded => ⟨hlive, hadded⟩
          · exact .inl ⟨hlive, hadded⟩
        · rintro (⟨-, hadded⟩ | hcounts)
          · exact .inr hadded
          · exact .inl (counts_of_without hcounts)

/-! ### `remove_device` and additional parameters -/

theorem kept_removeDevice (device : DeviceRemovalInfo) (e : PlacedDescription (Dict String P)) :
    e ∈ (s.step (.removeDevice device)).kept ↔
      e ∈ s.kept.filter fun e => !decide (e.Removed device.interfaceId device.channels) := by
  rw [mem_kept, List.mem_filter, mem_kept]
  simp only [step, IndexedParamsetRegistry.removeDevice]
  rw [ParamsetDescriptionRegistry.mem_descriptions_removeChannels, and_right_comm]
  simp

theorem upToDate_removeDevice_iff (h : s.UpToDate) (device : DeviceRemovalInfo) :
    (s.step (.removeDevice device)).UpToDate ↔ s.Keeps (.removeDevice device) := by
  have hcounts : ∀ deviceAddress parameter channelNo,
      (s.step (.removeDevice device)).Counts deviceAddress parameter channelNo ↔
        s.CountsWithout (fun e => e.Removed device.interfaceId device.channels) deviceAddress
          parameter channelNo := by
    intro deviceAddress parameter channelNo
    simp only [Counts, CountsWithout, Provides, kept_removeDevice]
    rfl
  rw [Keeps, nothingLost_iff (N := fun _ _ _ => False) (by simp)]
  constructor
  · intro h' deviceAddress parameter channelNo hold
    exact .inr ((hcounts _ _ _).mp ((h'.index _ _ _).mp ((h.index _ _ _).mpr hold)))
  · intro hlost
    constructor
    case parsed =>
      intro e he
      exact h.parsed e (List.mem_filter.mp ((kept_removeDevice device e).mp he)).1
    case index =>
      intro deviceAddress parameter channelNo
      rw [hcounts]
      refine (h.index _ _ _).trans ⟨fun hold => ?_, counts_of_without⟩
      exact (hlost _ _ _ hold).resolve_left id

theorem upToDate_registerAdditionalParameter (h : s.UpToDate)
    (channelAddress parameter : String) :
    (s.step (.registerAdditionalParameter channelAddress parameter)).UpToDate := by
  cases hpart : getSplitChannelAddress channelAddress with
  | none =>
    have hsame : s.step (.registerAdditionalParameter channelAddress parameter) = s := by
      simp only [step, IndexedParamsetRegistry.registerAdditionalParameter, hpart]
    rwa [hsame]
  | some part =>
    constructor
    case parsed =>
      intro e he
      simp only [step, IndexedParamsetRegistry.registerAdditionalParameter, hpart] at he
      exact h.parsed e he
    case index =>
      intro deviceAddress parameter' channelNo
      have hold := h.index deviceAddress parameter' channelNo
      simp only [channelNos, Counts] at hold
      simp only [channelNos, step, IndexedParamsetRegistry.registerAdditionalParameter, hpart,
        Counts, AddressParameterCache.mem_channelNos_addChannelNo, hold, List.mem_cons, or_assoc]
      refine or_congr_right (or_comm.trans (or_congr_left ?_))
      simp only [Prod.mk.injEq]
      tauto

theorem upToDate_step_iff (h : s.UpToDate) (a : ParamsetAction P) :
    (s.step a).UpToDate ↔ s.Keeps a := by
  cases a with
  | add interfaceId channelAddress paramsetKey description =>
    exact upToDate_add_iff h interfaceId channelAddress paramsetKey description
  | removeDevice device => exact upToDate_removeDevice_iff h device
  | registerAdditionalParameter channelAddress parameter =>
    exact iff_of_true (upToDate_registerAdditionalParameter h channelAddress parameter) trivial

theorem upToDate_init : (system : StepSystem (ParamsetHistory P) _).init.UpToDate where
  parsed e he := by cases he
  index deviceAddress parameter channelNo := by
    simp only [system, channelNos, AddressParameterCache.channelNos, Dict.get?_empty,
      Option.getD_none, Finset.notMem_empty, false_iff]
    rintro (⟨e, he, -⟩ | hmem)
    · cases he
    · cases hmem

theorem isInMultipleChannels_iff (h : s.UpToDate) {channelAddress parameter : String}
    {part : String × Option Int} (hchannel : ¬ IsDevice channelAddress)
    (hpart : getSplitChannelAddress channelAddress = some part) :
    s.isInMultipleChannels channelAddress parameter = some true ↔
      ∃ no no', s.Counts part.1 parameter no ∧ s.Counts part.1 parameter no' ∧ no ≠ no' := by
  rw [isInMultipleChannels, if_neg hchannel, hpart, Option.map_some, Option.some_inj,
    decide_eq_true_eq, Finset.one_lt_card]
  constructor
  · rintro ⟨no, hno, no', hno', hne⟩
    exact ⟨no, no', (h.index _ _ _).mp hno, (h.index _ _ _).mp hno', hne⟩
  · rintro ⟨no, no', hno, hno', hne⟩
    exact ⟨no, (h.index _ _ _).mpr hno, no', (h.index _ _ _).mpr hno', hne⟩

/-- In a run that takes no parameter from a channel, the reverse index is the one of a reload, and
only such a step keeps it so. -/
theorem index_of_reach (s : ParamsetHistory P) (h : system.Reach Keeps s) :
    s.Consistent ∧
      (∀ channelAddress parameter part, ¬ IsDevice channelAddress →
        getSplitChannelAddress channelAddress = some part →
        (s.isInMultipleChannels channelAddress parameter = some true ↔
          ∃ no no', s.Counts part.1 parameter no ∧ s.Counts part.1 parameter no' ∧ no ≠ no')) ∧
      ∀ a, (s.step a).Consistent ↔ s.Keeps a := by
  have hs : s.UpToDate := h.invariant upToDate_init fun s a s' hs hkeep hstep => by
    cases hstep
    exact (upToDate_step_iff hs a).mpr hkeep
  exact ⟨consistent_iff.mpr hs, fun _ _ _ => isInMultipleChannels_iff hs,
    fun a => consistent_iff.trans (upToDate_step_iff hs a)⟩

/-! ### A device with two channels -/

def parameters (names : List String) : Dict String Unit :=
  names.foldl (fun d name => d.set name ()) .empty

def dimmerRemoval : DeviceRemovalInfo where
  interfaceId := "ccu-HmIP-RF"
  address := "VCU0000002"
  channels := ["VCU0000002", "VCU0000002:1", "VCU0000002:2"]
  isDevice := by decide
  channels_of := by decide

/-- A description grows, a parameter moves to another paramset of its channel, one is registered. -/
theorem index_of_reach_grown : ∃ s : ParamsetHistory Unit, system.Reach Keeps s ∧ s.Consistent ∧
    s.isInMultipleChannels "VCU0000002:1" "LEVEL" = some true := by
  obtain ⟨s, hs, htest⟩ := replay_any
    (p := fun s : ParamsetHistory Unit =>
      s.isInMultipleChannels "VCU0000002:1" "LEVEL" = some true)
    (show (system.replay Keeps system.init
      [.add "ccu-HmIP-RF" "VCU0000002:1" .values (parameters ["LEVEL"]),
        .add "ccu-HmIP-RF" "VCU0000002:1" .values (parameters ["LEVEL", "PROCESS"]),
        .add "ccu-HmIP-RF" "VCU0000002:1" .master (parameters ["PROCESS"]),
        .add "ccu-HmIP-RF" "VCU0000002:1" .values (parameters ["LEVEL"]),
        .registerAdditionalParameter "VCU0000002:2" "LEVEL"]).any _ = true by decide)
  exact ⟨s, reach_of_replay hs, (index_of_reach s (reach_of_replay hs)).1, htest⟩

/-- The device is removed and paired again with one channel: the parameter still counts for the
channel that is gone. -/
theorem isInMultipleChannels_paired_again : ∃ s : ParamsetHistory Unit, system.Reach Free s ∧
    s.isInMultipleChannels "VCU0000002:1" "LEVEL" = some true ∧
    (∀ no, s.Counts "VCU0000002" "LEVEL" no → no = some 1) ∧ ¬ s.Consistent := by
  obtain ⟨s, hs, hmultiple, hchannels, hregistered⟩ := replay_any
    (p := fun s : ParamsetHistory Unit =>
      s.isInMultipleChannels "VCU0000002:1" "LEVEL" = some true ∧
      s.kept.map (·.channelAddress) = ["VCU0000002:1"] ∧ s.registered = [])
    (show (system.replay Free system.init
      [.add "ccu-HmIP-RF" "VCU0000002:1" .values (parameters ["LEVEL"]),
        .add "ccu-HmIP-RF" "VCU0000002:2" .values (parameters ["LEVEL"]),
        .removeDevice dimmerRemoval,
        .add "ccu-HmIP-RF" "VCU0000002:1" .values (parameters ["LEVEL"])]).any _ = true by decide)
  have hone : ∀ no, s.Counts "VCU0000002" "LEVEL" no → no = some 1 := by
    rintro no (⟨e, he, hpart, -⟩ | hmem)
    · have haddress : e.channelAddress ∈ s.kept.map (·.channelAddress) := List.mem_map_of_mem he
      rw [hchannels, List.mem_singleton] at haddress
      rw [haddress] at hpart
      cases (show some ("VCU0000002", some 1) = some ("VCU0000002", no) from hpart)
      rfl
    · rw [hregistered] at hmem
      cases hmem
  refine ⟨s, reach_of_replay hs, hmultiple, hone, fun hconsistent => ?_⟩
  have hsplit : getSplitChannelAddress "VCU0000002:1" = some ("VCU0000002", some 1) := by decide
  obtain ⟨no, no', hno, hno', hne⟩ :=
    (isInMultipleChannels_iff (consistent_iff.mp hconsistent) (by decide) hsplit).mp hmultiple
  exact hne ((hone no hno).trans (hone no' hno').symm)

end ParamsetHistory

end AioHomematic.Store
