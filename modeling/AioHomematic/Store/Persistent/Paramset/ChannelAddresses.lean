import AioHomematic.Store.Persistent.Paramset
import AioHomematic.Support.Address

/-!
# The channels of a device by paramset key

`get_channel_addresses_by_paramset_key` takes for the channels of a device what
begins with the address of the device. `getChannelAddressesByParamsetKey_eq`
says what it finds; `listsChannels_iff` for which caches these are the channels
of the device.
-/

namespace AioHomematic.Store.ParamsetDescriptionRegistry

open Lib Support

variable {D : Type*} {r : ParamsetDescriptionRegistry D} {interfaceId deviceAddress : String}

/-! ## The loops -/

/-- The inner loop: enter a channel under each of its keys. -/
def addChannelAddress (found : Dict ParamsetKey (List String)) (channelAddress : String)
    (paramsetKeys : List ParamsetKey) : Dict ParamsetKey (List String) :=
  paramsetKeys.foldl (fun found paramsetKey => found.modifyD paramsetKey [] (· ++ [channelAddress]))
    found

/-- The outer loop. -/
def channelAddressesOf (deviceAddress : String)
    (paramsets : List (String × Dict ParamsetKey D)) (found : Dict ParamsetKey (List String)) :
    Dict ParamsetKey (List String) :=
  paramsets.foldl (fun found e =>
    if startsWith e.1 deviceAddress then addChannelAddress found e.1 e.2.keys else found) found

/-- `get_channel_addresses_by_paramset_key`; reading the `defaultdict` enters an unknown
interface. -/
def getChannelAddressesByParamsetKey (interfaceId deviceAddress : String)
    (r : ParamsetDescriptionRegistry D) :
    Dict ParamsetKey (List String) × ParamsetDescriptionRegistry D :=
  (channelAddressesOf deviceAddress (r.interfaceParamsets interfaceId).entries .empty,
    { rawParamsetDescriptions :=
        r.rawParamsetDescriptions.set interfaceId (r.interfaceParamsets interfaceId) })

/-! ## What the loops find -/

/-- The value of a key in the result; a key without addresses has none. -/
def entryOf : List String → Option (List String)
  | [] => none
  | channelAddresses => some channelAddresses

theorem entryOf_concat (l : List String) (channelAddress : String) :
    entryOf (l ++ [channelAddress]) = some (l ++ [channelAddress]) := by
  cases l <;> rfl

theorem entryOf_injective {l l' : List String} (h : entryOf l = entryOf l') : l = l' := by
  cases l with
  | nil =>
    cases l' with
    | nil => rfl
    | cons => cases h
  | cons =>
    cases l' with
    | nil => cases h
    | cons => exact Option.some.inj h

theorem getD_entryOf (l : List String) : (entryOf l).getD [] = l := by
  cases l <;> rfl

theorem get?_addChannelAddress {found : Dict ParamsetKey (List String)} {channelAddress : String}
    {paramsetKeys : List ParamsetKey} {paramsetKey : ParamsetKey} {l : List String}
    (hnodup : paramsetKeys.Nodup) (h : found.get? paramsetKey = entryOf l) :
    (addChannelAddress found channelAddress paramsetKeys).get? paramsetKey =
      entryOf (if paramsetKey ∈ paramsetKeys then l ++ [channelAddress] else l) := by
  unfold addChannelAddress
  induction paramsetKeys generalizing found l with
  | nil => exact h
  | cons key keys ih =>
    obtain ⟨hkey, hkeys⟩ := List.nodup_cons.mp hnodup
    rw [List.foldl_cons]
    by_cases heq : key = paramsetKey
    · subst heq
      have hentered : (found.modifyD key [] (· ++ [channelAddress])).get? key =
          entryOf (l ++ [channelAddress]) := by
        rw [Dict.modifyD, Dict.get?_set_self, h, getD_entryOf, entryOf_concat]
      rw [ih hkeys hentered, if_neg hkey, if_pos List.mem_cons_self]
    · have hother : (found.modifyD key [] (· ++ [channelAddress])).get? paramsetKey =
          entryOf l := by
        rw [Dict.modifyD, Dict.get?_set_of_ne _ _ heq, h]
      rw [ih hkeys hother]
      congr 1
      simp only [List.mem_cons, Ne.symm heq, false_or]

/-- The channels with a key among those that pass a test, in the order of the cache. -/
def channelsWith (belongs : String → Bool) (paramsetKey : ParamsetKey)
    (paramsets : List (String × Dict ParamsetKey D)) : List String :=
  (paramsets.filter fun e => belongs e.1 && decide (paramsetKey ∈ e.2.keys)).map Prod.fst

theorem get?_channelAddressesOf {found : Dict ParamsetKey (List String)}
    {paramsets : List (String × Dict ParamsetKey D)} {paramsetKey : ParamsetKey} {l : List String}
    (h : found.get? paramsetKey = entryOf l) :
    (channelAddressesOf deviceAddress paramsets found).get? paramsetKey =
      entryOf (l ++ channelsWith (startsWith · deviceAddress) paramsetKey paramsets) := by
  unfold channelAddressesOf channelsWith
  induction paramsets generalizing found l with
  | nil => rw [List.filter_nil, List.map_nil, List.append_nil]; exact h
  | cons e paramsets ih =>
    rw [List.foldl_cons]
    by_cases hstarts : startsWith e.1 deviceAddress = true
    · have hentered : (addChannelAddress found e.1 e.2.keys).get? paramsetKey =
          entryOf (if paramsetKey ∈ e.2.keys then l ++ [e.1] else l) :=
        get?_addChannelAddress e.2.nodup h
      rw [if_pos hstarts, ih hentered]
      by_cases hkey : paramsetKey ∈ e.2.keys
      · rw [if_pos hkey, List.filter_cons_of_pos (by simp [hstarts, hkey]), List.map_cons,
          ← List.append_cons]
      · rw [if_neg hkey, List.filter_cons_of_neg (by simp [hkey])]
    · rw [if_neg hstarts, ih h, List.filter_cons_of_neg (by simp [hstarts])]

theorem getChannelAddressesByParamsetKey_eq (paramsetKey : ParamsetKey) :
    (r.getChannelAddressesByParamsetKey interfaceId deviceAddress).1.get? paramsetKey =
      entryOf (channelsWith (startsWith · deviceAddress) paramsetKey
        (r.interfaceParamsets interfaceId).entries) :=
  get?_channelAddressesOf (l := []) rfl

/-! ## The channels of a device -/

/-- The address of the device itself, or of one of its channels. -/
def BelongsTo (deviceAddress address : String) : Prop :=
  address = deviceAddress ∨
    deviceAddress.toList ++ [addressSeparator] <+: address.toList

instance (deviceAddress address : String) : Decidable (BelongsTo deviceAddress address) :=
  inferInstanceAs (Decidable (_ ∨ _))

theorem BelongsTo.startsWith {address : String} (h : BelongsTo deviceAddress address) :
    startsWith address deviceAddress = true := by
  refine List.isPrefixOf_iff_prefix.mpr ?_
  rcases h with rfl | h
  · exact List.prefix_rfl
  · exact (List.prefix_append _ _).trans h

/-- Under each key the result has the addresses of the device's own channels with this key, each
once and in the order of the cache, and no other keys. -/
def ListsChannels (r : ParamsetDescriptionRegistry D) (interfaceId deviceAddress : String) : Prop :=
  ∀ paramsetKey, (r.getChannelAddressesByParamsetKey interfaceId deviceAddress).1.get? paramsetKey =
    entryOf (channelsWith (BelongsTo deviceAddress ·) paramsetKey
      (r.interfaceParamsets interfaceId).entries)

/-- What is cached under an address that begins like that of the device belongs to the device. -/
def NoOtherDevice (r : ParamsetDescriptionRegistry D) (interfaceId deviceAddress : String) : Prop :=
  ∀ e ∈ (r.interfaceParamsets interfaceId).entries, startsWith e.1 deviceAddress = true →
    e.2.keys ≠ [] → BelongsTo deviceAddress e.1

theorem mem_channelsWith {belongs : String → Bool} {paramsetKey : ParamsetKey}
    {paramsets : List (String × Dict ParamsetKey D)} {address : String} :
    address ∈ channelsWith belongs paramsetKey paramsets ↔
      ∃ e ∈ paramsets, e.1 = address ∧ belongs address = true ∧ paramsetKey ∈ e.2.keys := by
  unfold channelsWith
  rw [List.mem_map]
  constructor
  · rintro ⟨e, he, rfl⟩
    rw [List.mem_filter, Bool.and_eq_true, decide_eq_true_iff] at he
    exact ⟨e, he.1, rfl, he.2⟩
  · rintro ⟨e, he, rfl, hbelongs⟩
    rw [← decide_eq_true_iff (p := paramsetKey ∈ e.2.keys), ← Bool.and_eq_true] at hbelongs
    exact ⟨e, List.mem_filter.mpr ⟨he, hbelongs⟩, rfl⟩

/-- The result has the channels of the device and no others if and only if no other device with an
address that begins like its own has paramsets in the cache. -/
theorem listsChannels_iff :
    ListsChannels r interfaceId deviceAddress ↔ NoOtherDevice r interfaceId deviceAddress := by
  unfold ListsChannels
  constructor
  · intro hlists e he hstarts hkeys
    obtain ⟨paramsetKey, hkey⟩ := List.exists_mem_of_ne_nil _ hkeys
    have hfound := (getChannelAddressesByParamsetKey_eq paramsetKey).symm.trans (hlists paramsetKey)
    have hmem : e.1 ∈ channelsWith (startsWith · deviceAddress) paramsetKey
        (r.interfaceParamsets interfaceId).entries :=
      mem_channelsWith.mpr ⟨e, he, rfl, hstarts, hkey⟩
    rw [entryOf_injective hfound] at hmem
    obtain ⟨-, -, -, hbelongs, -⟩ := mem_channelsWith.mp hmem
    exact of_decide_eq_true hbelongs
  · intro hno paramsetKey
    rw [getChannelAddressesByParamsetKey_eq]
    unfold channelsWith
    congr 2
    refine List.filter_congr fun e he => ?_
    by_cases hkey : paramsetKey ∈ e.2.keys
    · have hsame : startsWith e.1 deviceAddress = decide (BelongsTo deviceAddress e.1) := by
        rw [Bool.eq_iff_iff, decide_eq_true_iff]
        exact ⟨fun hstarts => hno e he hstarts (List.ne_nil_of_mem hkey), BelongsTo.startsWith⟩
      exact congrArg (· && _) hsame
    · rw [decide_eq_false hkey, Bool.and_false, Bool.and_false]

/-- A device of the interface has an address that is that of another one and one more character. -/
theorem not_listsChannels_longer :
    ¬ListsChannels
      (((⟨.empty⟩ : ParamsetDescriptionRegistry Unit).add "ccu-HmIP-RF" "VCU000001:1" .values ()).add
        "ccu-HmIP-RF" "VCU0000012:1" .values ())
      "ccu-HmIP-RF" "VCU000001" := by
  intro h
  exact absurd (h .values) (by decide)

end AioHomematic.Store.ParamsetDescriptionRegistry
