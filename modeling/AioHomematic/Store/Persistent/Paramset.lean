import AioHomematic.Const
import AioHomematic.Lib.Dict

/-!
# The cache of paramset descriptions

`ParamsetDescriptionRegistry`: interface, channel and paramset key lead to a
description, of type `D`, which is taken as it is after normalizing and
patching. An interface stays in the cache once something was added for it.
-/

namespace AioHomematic.Store

open Lib

structure ParamsetDescriptionRegistry (D : Type*) where
  rawParamsetDescriptions : Dict String (Dict String (Dict ParamsetKey D)) := .empty

namespace ParamsetDescriptionRegistry

variable {D : Type*} (r : ParamsetDescriptionRegistry D)

def interfaceParamsets (interfaceId : String) : Dict String (Dict ParamsetKey D) :=
  (r.rawParamsetDescriptions.get? interfaceId).getD .empty

def getChannelParamsetDescriptions (interfaceId channelAddress : String) : Dict ParamsetKey D :=
  ((r.interfaceParamsets interfaceId).get? channelAddress).getD .empty

def add (interfaceId channelAddress : String) (paramsetKey : ParamsetKey) (description : D) :
    ParamsetDescriptionRegistry D where
  rawParamsetDescriptions := r.rawParamsetDescriptions.set interfaceId
    ((r.interfaceParamsets interfaceId).set channelAddress
      ((r.getChannelParamsetDescriptions interfaceId channelAddress).set paramsetKey description))

def hasInterfaceId (interfaceId : String) : Bool := r.rawParamsetDescriptions.contains interfaceId

/-- `remove_device`, for a device with these channels. -/
def removeChannels (interfaceId : String) (channels : List String) :
    ParamsetDescriptionRegistry D :=
  match r.rawParamsetDescriptions.get? interfaceId with
  | none => r
  | some interface =>
    { rawParamsetDescriptions :=
        r.rawParamsetDescriptions.set interfaceId (channels.foldl Dict.erase interface) }

theorem hasInterfaceId_add {interfaceId interfaceId' channelAddress : String}
    {paramsetKey : ParamsetKey} {description : D} (h : r.hasInterfaceId interfaceId = true) :
    (r.add interfaceId' channelAddress paramsetKey description).hasInterfaceId interfaceId =
      true := by
  rw [hasInterfaceId, Dict.contains, add, Dict.get?_set]
  split
  · rfl
  · exact h

theorem hasInterfaceId_removeChannels {interfaceId interfaceId' : String}
    {channels : List String} (h : r.hasInterfaceId interfaceId = true) :
    (r.removeChannels interfaceId' channels).hasInterfaceId interfaceId = true := by
  unfold removeChannels
  split
  · exact h
  · rw [hasInterfaceId, Dict.contains, Dict.get?_set]
    split
    · rfl
    · exact h

end ParamsetDescriptionRegistry

end AioHomematic.Store

/-!
## The content of the paramset cache as a list

Every description with the place it stands at: interface, channel and paramset
key. No place occurs twice, so the list says the same as the dictionaries
(`mem_descriptions`); the lemmas say what `add` and `remove_device` do to it,
and that a content built from the list has it again.
-/

namespace AioHomematic.Store

open Lib

@[ext] structure PlacedDescription (D : Type*) where
  interfaceId : String
  channelAddress : String
  paramsetKey : ParamsetKey
  description : D

namespace ParamsetDescriptionRegistry

variable {D : Type*} (r : ParamsetDescriptionRegistry D)

def descriptions : List (PlacedDescription D) :=
  r.rawParamsetDescriptions.entries.flatMap fun i =>
    i.2.entries.flatMap fun c => c.2.entries.map fun p => ⟨i.1, c.1, p.1, p.2⟩

/-- The channels with their paramsets. -/
def channels : List (String × Dict ParamsetKey D) :=
  r.rawParamsetDescriptions.values.flatMap (·.entries)

/-- The description at a place. -/
def description? (interfaceId channelAddress : String) (paramsetKey : ParamsetKey) : Option D :=
  (r.getChannelParamsetDescriptions interfaceId channelAddress).get? paramsetKey

variable {r}

theorem mem_descriptions {e : PlacedDescription D} : e ∈ r.descriptions ↔
    r.description? e.interfaceId e.channelAddress e.paramsetKey = some e.description := by
  simp only [descriptions, description?, getChannelParamsetDescriptions, interfaceParamsets,
    List.mem_flatMap, List.mem_map, ← Dict.get?_eq_some, Prod.exists]
  constructor
  · rintro ⟨interfaceId, channels, hi, channelAddress, paramsets, hc, key, d, hp, rfl⟩
    simp [hi, hc, hp]
  · intro h
    cases hi : r.rawParamsetDescriptions.get? e.interfaceId with
    | none => simp [hi] at h
    | some channels =>
      rw [hi, Option.getD_some] at h
      cases hc : channels.get? e.channelAddress with
      | none => simp [hc] at h
      | some paramsets =>
        rw [hc, Option.getD_some] at h
        exact ⟨_, channels, hi, _, paramsets, hc, _, _, h, rfl⟩

theorem description?_add (interfaceId channelAddress : String) (paramsetKey : ParamsetKey) (d : D)
    (interfaceId' channelAddress' : String) (paramsetKey' : ParamsetKey) :
    (r.add interfaceId channelAddress paramsetKey d).description? interfaceId' channelAddress'
        paramsetKey' =
      if interfaceId = interfaceId' ∧ channelAddress = channelAddress' ∧ paramsetKey = paramsetKey'
      then some d else r.description? interfaceId' channelAddress' paramsetKey' := by
  simp only [description?, getChannelParamsetDescriptions, interfaceParamsets, add, Dict.get?_set]
  by_cases hi : interfaceId = interfaceId'
  · subst hi
    rw [if_pos rfl, Option.getD_some, Dict.get?_set]
    by_cases hc : channelAddress = channelAddress'
    · subst hc
      rw [if_pos rfl, Option.getD_some, Dict.get?_set]
      simp
    · simp [hc]
  · simp [hi]

theorem description?_removeChannels (interfaceId : String) (channels : List String)
    (interfaceId' channelAddress : String) (paramsetKey : ParamsetKey) :
    (r.removeChannels interfaceId channels).description? interfaceId' channelAddress paramsetKey =
      if interfaceId = interfaceId' ∧ channelAddress ∈ channels then none
      else r.description? interfaceId' channelAddress paramsetKey := by
  unfold removeChannels
  split
  next hnone =>
    split
    next h => simp [description?, getChannelParamsetDescriptions, interfaceParamsets, ← h.1, hnone]
    · rfl
  next interface hsome =>
    simp only [description?, getChannelParamsetDescriptions, interfaceParamsets, Dict.get?_set]
    by_cases hi : interfaceId = interfaceId'
    · subst hi
      rw [if_pos rfl, Option.getD_some, Dict.get?_foldl_erase, hsome, Option.getD_some]
      by_cases hc : channelAddress ∈ channels
      · simp [hc]
      · simp [hc]
    · simp [hi]

end ParamsetDescriptionRegistry

namespace PlacedDescription

variable {D : Type*}

def At (e : PlacedDescription D) (interfaceId channelAddress : String)
    (paramsetKey : ParamsetKey) : Prop :=
  e.interfaceId = interfaceId ∧ e.channelAddress = channelAddress ∧ e.paramsetKey = paramsetKey

instance (e : PlacedDescription D) (interfaceId channelAddress : String)
    (paramsetKey : ParamsetKey) : Decidable (e.At interfaceId channelAddress paramsetKey) :=
  inferInstanceAs (Decidable (_ ∧ _ ∧ _))

/-- Among the channels that `remove_device` takes. -/
def Removed (e : PlacedDescription D) (interfaceId : String) (channels : List String) : Prop :=
  e.interfaceId = interfaceId ∧ e.channelAddress ∈ channels

instance (e : PlacedDescription D) (interfaceId : String) (channels : List String) :
    Decidable (e.Removed interfaceId channels) := inferInstanceAs (Decidable (_ ∧ _))

end PlacedDescription

namespace ParamsetDescriptionRegistry

variable {D : Type*} {r : ParamsetDescriptionRegistry D} {e : PlacedDescription D}

theorem mem_descriptions_add {interfaceId channelAddress : String} {paramsetKey : ParamsetKey}
    {d : D} : e ∈ (r.add interfaceId channelAddress paramsetKey d).descriptions ↔
      e = ⟨interfaceId, channelAddress, paramsetKey, d⟩ ∨
        e ∈ r.descriptions ∧ ¬ e.At interfaceId channelAddress paramsetKey := by
  obtain ⟨interfaceId', channelAddress', paramsetKey', d'⟩ := e
  rw [mem_descriptions, mem_descriptions, description?_add]
  simp only [PlacedDescription.At, PlacedDescription.mk.injEq]
  by_cases h : interfaceId = interfaceId' ∧ channelAddress = channelAddress' ∧
      paramsetKey = paramsetKey'
  · obtain ⟨rfl, rfl, rfl⟩ := h
    simp [eq_comm]
  · rw [if_neg h]
    have h' : ¬ (interfaceId' = interfaceId ∧ channelAddress' = channelAddress ∧
        paramsetKey' = paramsetKey) := fun ⟨h₁, h₂, h₃⟩ => h ⟨h₁.symm, h₂.symm, h₃.symm⟩
    constructor
    · exact fun hmem => .inr ⟨hmem, h'⟩
    · rintro (⟨h₁, h₂, h₃, -⟩ | ⟨hmem, -⟩)
      · exact absurd ⟨h₁, h₂, h₃⟩ h'
      · exact hmem

theorem mem_descriptions_removeChannels {interfaceId : String} {channels : List String} :
    e ∈ (r.removeChannels interfaceId channels).descriptions ↔
      e ∈ r.descriptions ∧ ¬ e.Removed interfaceId channels := by
  rw [mem_descriptions, mem_descriptions, description?_removeChannels, PlacedDescription.Removed,
    eq_comm (a := e.interfaceId)]
  split
  next h => simp [h]
  next h => simp [h]

/-! ## The channels -/

theorem mem_channels {channel : String × Dict ParamsetKey D} : channel ∈ r.channels ↔
    ∃ interfaceId interface, r.rawParamsetDescriptions.get? interfaceId = some interface ∧
      interface.get? channel.1 = some channel.2 := by
  simp only [channels, Dict.values, List.mem_flatMap, List.mem_map, Dict.get?_eq_some]
  constructor
  · rintro ⟨interface, ⟨⟨interfaceId, interface'⟩, hi, rfl⟩, hc⟩
    exact ⟨interfaceId, interface', hi, hc⟩
  · rintro ⟨interfaceId, interface, hi, hc⟩
    exact ⟨interface, ⟨(interfaceId, interface), hi, rfl⟩, hc⟩

/-- The channels say the same as the list of the descriptions. -/
theorem exists_channel_iff {q : String → D → Prop} :
    (∃ channel ∈ r.channels, ∃ d ∈ channel.2.values, q channel.1 d) ↔
      ∃ e ∈ r.descriptions, q e.channelAddress e.description := by
  constructor
  · rintro ⟨channel, hchannel, d, hd, hq⟩
    obtain ⟨interfaceId, interface, hi, hc⟩ := mem_channels.mp hchannel
    obtain ⟨⟨key, d'⟩, hmem, rfl⟩ := List.mem_map.mp hd
    refine ⟨⟨interfaceId, channel.1, key, d'⟩, mem_descriptions.mpr ?_, hq⟩
    simp only [description?, getChannelParamsetDescriptions, interfaceParamsets, hi,
      Option.getD_some, hc]
    exact Dict.get?_eq_some.mpr hmem
  · rintro ⟨e, he, hq⟩
    rw [mem_descriptions, description?, getChannelParamsetDescriptions, interfaceParamsets] at he
    cases hi : r.rawParamsetDescriptions.get? e.interfaceId with
    | none => simp [hi] at he
    | some interface =>
      rw [hi, Option.getD_some] at he
      cases hc : interface.get? e.channelAddress with
      | none => simp [hc] at he
      | some paramsets =>
        rw [hc, Option.getD_some] at he
        exact ⟨(e.channelAddress, paramsets), mem_channels.mpr ⟨_, interface, hi, hc⟩,
          e.description, List.mem_map.mpr ⟨_, Dict.get?_eq_some.mp he, rfl⟩, hq⟩

/-- No channel is without a paramset. -/
def Filled (r : ParamsetDescriptionRegistry D) : Prop :=
  ∀ channel ∈ r.channels, ∃ d, d ∈ channel.2.values

theorem filled_add (h : r.Filled) (interfaceId channelAddress : String)
    (paramsetKey : ParamsetKey) (d : D) :
    (r.add interfaceId channelAddress paramsetKey d).Filled := by
  intro channel hchannel
  obtain ⟨interfaceId', interface, hi, hc⟩ := mem_channels.mp hchannel
  have hset : ∀ paramsets : Dict ParamsetKey D,
      ∃ d', d' ∈ (paramsets.set paramsetKey d).values := fun paramsets =>
    ⟨d, List.mem_map.mpr ⟨_, Dict.get?_eq_some.mp (Dict.get?_set_self _ _ _), rfl⟩⟩
  rw [add, Dict.get?_set] at hi
  split at hi
  · cases hi
    rw [Dict.get?_set] at hc
    split at hc
    · rw [← Option.some.inj hc]
      exact hset _
    · rw [interfaceParamsets] at hc
      cases hold : r.rawParamsetDescriptions.get? interfaceId with
      | none => simp [hold] at hc
      | some interface =>
        rw [hold, Option.getD_some] at hc
        exact h channel (mem_channels.mpr ⟨_, interface, hold, hc⟩)
  · exact h channel (mem_channels.mpr ⟨_, interface, hi, hc⟩)

/-! ## A content built from a list -/

/-- One description after the other, as the loops of `_process_loaded_content` set them. -/
def ofDescriptions (es : List (PlacedDescription D)) : ParamsetDescriptionRegistry D :=
  es.foldl (fun r e => r.add e.interfaceId e.channelAddress e.paramsetKey e.description) {}

theorem filled_ofDescriptions (es : List (PlacedDescription D)) : (ofDescriptions es).Filled := by
  have hfold : ∀ r : ParamsetDescriptionRegistry D, r.Filled → (es.foldl (fun r e =>
      r.add e.interfaceId e.channelAddress e.paramsetKey e.description) r).Filled := by
    induction es with
    | nil => exact fun _ h => h
    | cons e es ih => exact fun r h => ih _ (filled_add h _ _ _ _)
  refine hfold {} fun channel hchannel => ?_
  obtain ⟨_, _, hi, -⟩ := mem_channels.mp hchannel
  cases hi

theorem mem_descriptions_foldl_add {es : List (PlacedDescription D)}
    (hplaces : ∀ e ∈ es, ∀ e' ∈ es,
      e'.At e.interfaceId e.channelAddress e.paramsetKey → e' = e)
    (e : PlacedDescription D) :
    e ∈ (es.foldl (fun r e =>
        r.add e.interfaceId e.channelAddress e.paramsetKey e.description) r).descriptions ↔
      e ∈ es ∨ e ∈ r.descriptions ∧
        ∀ e' ∈ es, ¬ e.At e'.interfaceId e'.channelAddress e'.paramsetKey := by
  induction es generalizing r with
  | nil => simp
  | cons e₀ es ih =>
    have htail := fun e he e' he' =>
      hplaces e (List.mem_cons_of_mem _ he) e' (List.mem_cons_of_mem _ he')
    rw [List.foldl_cons, ih htail, mem_descriptions_add, List.mem_cons, List.forall_mem_cons]
    constructor
    · rintro (he | ⟨rfl | ⟨he, hne⟩, hes⟩)
      · exact .inl (.inr he)
      · exact .inl (.inl rfl)
      · exact .inr ⟨he, hne, hes⟩
    · rintro ((rfl | he) | ⟨he, hne, hes⟩)
      · by_cases hmem : e ∈ es
        · exact .inl hmem
        · refine .inr ⟨.inl rfl, fun e' he' hat => hmem ?_⟩
          cases hplaces e' (List.mem_cons_of_mem _ he') e List.mem_cons_self hat
          exact he'
      · exact .inl he
      · exact .inr ⟨.inr ⟨he, hne⟩, hes⟩

theorem mem_descriptions_ofDescriptions {es : List (PlacedDescription D)}
    (hplaces : ∀ e ∈ es, ∀ e' ∈ es,
      e'.At e.interfaceId e.channelAddress e.paramsetKey → e' = e) :
    e ∈ (ofDescriptions es).descriptions ↔ e ∈ es := by
  rw [ofDescriptions, mem_descriptions_foldl_add hplaces]
  exact or_iff_left fun h => by simpa [mem_descriptions, description?,
    getChannelParamsetDescriptions, interfaceParamsets] using h.1

theorem eq_of_at {e' : PlacedDescription D} (he : e ∈ r.descriptions) (he' : e' ∈ r.descriptions)
    (hat : e'.At e.interfaceId e.channelAddress e.paramsetKey) : e' = e := by
  obtain ⟨hi, hc, hk⟩ := hat
  have h' := mem_descriptions.mp he'
  rw [hi, hc, hk, mem_descriptions.mp he] at h'
  exact PlacedDescription.ext hi hc hk (Option.some.inj h').symm

end ParamsetDescriptionRegistry

end AioHomematic.Store
