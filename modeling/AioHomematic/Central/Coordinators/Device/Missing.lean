import AioHomematic.Store.Persistent.Device.Reload
import AioHomematic.Central.Coordinators.Device.Reload

/-!
# Missing descriptions

`_identify_missing_device_descriptions` is after the descriptions whose own
address is not in the cache. What it looks an address up in is the index of
addresses by device, and the keys of that are devices. So every channel is
missing, known or not, and a device of which only channels are known is not.
`exact_identifyMissing_iff` says where the result is right nevertheless, and what
this comes to in a cache with the indexes of its content.
-/

namespace AioHomematic.Central

open Lib Support Store

namespace DeviceCoordinator

variable {D : Type} (s : DeviceCoordinator D) (interfaceId : String)

/-- The address has a description in the cache. -/
def Described (address : String) : Prop :=
  (s.deviceDescriptions interfaceId).getDeviceDescription address ≠ none

/-- Exactly the descriptions of the list whose address is not described, each once. -/
structure Exact (deviceDescriptions result : List DeviceDescription) : Prop where
  once : result.Nodup
  mem_iff : ∀ d, d ∈ result ↔ d ∈ deviceDescriptions ∧ ¬ s.Described interfaceId d.address

instance (address : String) : Decidable (s.Described interfaceId address) :=
  inferInstanceAs (Decidable (_ ≠ none))

/-- The index of addresses tells which addresses of the list are described. -/
def Lookup (deviceDescriptions : List DeviceDescription) : Prop :=
  ∀ d ∈ deviceDescriptions,
    d.address ∈ (s.deviceDescriptions interfaceId).getAddresses ↔ s.Described interfaceId d.address

/-- What is not described is in the list only once. -/
def Single (deviceDescriptions : List DeviceDescription) : Prop :=
  ∀ d ∈ deviceDescriptions, ¬ s.Described interfaceId d.address → deviceDescriptions.count d = 1

variable {s interfaceId} {deviceDescriptions : List DeviceDescription}

theorem mem_identifyMissing {d : DeviceDescription} :
    d ∈ s.identifyMissingDeviceDescriptions interfaceId deviceDescriptions ↔
      d ∈ deviceDescriptions ∧ d.address ∉ (s.deviceDescriptions interfaceId).getAddresses := by
  rw [identifyMissingDeviceDescriptions, List.mem_filter, decide_eq_true_eq]

/-- The result keeps the repetitions of the list. -/
theorem count_identifyMissing {d : DeviceDescription}
    (h : d ∈ s.identifyMissingDeviceDescriptions interfaceId deviceDescriptions) :
    (s.identifyMissingDeviceDescriptions interfaceId deviceDescriptions).count d =
      deviceDescriptions.count d :=
  List.count_filter (List.mem_filter.mp h).2

theorem mem_iff_lookup :
    (∀ d, d ∈ s.identifyMissingDeviceDescriptions interfaceId deviceDescriptions ↔
        d ∈ deviceDescriptions ∧ ¬ s.Described interfaceId d.address) ↔
      s.Lookup interfaceId deviceDescriptions := by
  simp only [mem_identifyMissing, and_congr_right_iff, not_iff_not]
  rfl

theorem exact_iff_lookup : s.Exact interfaceId deviceDescriptions
      (s.identifyMissingDeviceDescriptions interfaceId deviceDescriptions) ↔
    s.Lookup interfaceId deviceDescriptions ∧ s.Single interfaceId deviceDescriptions := by
  constructor
  · rintro ⟨honce, hmem⟩
    refine ⟨mem_iff_lookup.mp hmem, fun d hd hmissing => ?_⟩
    have hresult := (hmem d).mpr ⟨hd, hmissing⟩
    rw [← count_identifyMissing hresult]
    exact List.count_eq_one_of_mem honce hresult
  · rintro ⟨hlookup, hsingle⟩
    have hmem := mem_iff_lookup.mpr hlookup
    refine ⟨List.nodup_iff_count_eq_one.mpr fun d hresult => ?_, hmem⟩
    rw [count_identifyMissing hresult]
    exact hsingle d ((hmem d).mp hresult).1 ((hmem d).mp hresult).2

/-! ## With the indexes of the content -/

variable {content : List DeviceDescription}

theorem described_iff (h : (s.deviceDescriptions interfaceId).Indexes content) {address : String} :
    s.Described interfaceId address ↔ ∃ e ∈ content, e.address = address := by
  rw [← h.contains_iff, Dict.contains_iff]
  rfl

/-- The content has no channel of the list, and no channel of a device of the list that it does
not have. -/
def Unmixed (content deviceDescriptions : List DeviceDescription) : Prop :=
  ∀ d ∈ deviceDescriptions, if IsDevice d.address then
      (∃ e ∈ content, getDeviceAddress e.address = some d.address) →
        ∃ e ∈ content, e.address = d.address
    else ∀ e ∈ content, e.address ≠ d.address

theorem lookup_iff_of_indexes (h : (s.deviceDescriptions interfaceId).Indexes content) :
    s.Lookup interfaceId deviceDescriptions ↔ Unmixed content deviceDescriptions := by
  refine forall₂_congr fun d _ => ?_
  rw [described_iff h, h.devices]
  split
  next hdevice =>
    refine ⟨Iff.mp, fun hknown => ⟨hknown, ?_⟩⟩
    rintro ⟨e, he, heq⟩
    rw [← heq] at hdevice
    exact ⟨e, he, heq ▸ getDeviceAddress_of_isDevice hdevice⟩
  next hchannel =>
    have hnone : ¬ ∃ e ∈ content, getDeviceAddress e.address = some d.address := by
      rintro ⟨e, -, he⟩
      exact hchannel (isDevice_of_getDeviceAddress he)
    rw [iff_false_left hnone]
    simp only [not_exists, not_and, ne_eq]

/-- The missing descriptions are found exactly where the index tells which addresses are described
and no missing one is repeated. With the indexes of its content, it tells that where the content is
unmixed. -/
theorem exact_identifyMissing_iff (s : DeviceCoordinator D) (interfaceId : String)
    (deviceDescriptions : List DeviceDescription) :
    (s.Exact interfaceId deviceDescriptions
        (s.identifyMissingDeviceDescriptions interfaceId deviceDescriptions) ↔
      s.Lookup interfaceId deviceDescriptions ∧ s.Single interfaceId deviceDescriptions) ∧
      ∀ content, (s.deviceDescriptions interfaceId).Indexes content →
        (s.Exact interfaceId deviceDescriptions
            (s.identifyMissingDeviceDescriptions interfaceId deviceDescriptions) ↔
          Unmixed content deviceDescriptions ∧ s.Single interfaceId deviceDescriptions) :=
  ⟨exact_iff_lookup, fun _ hindexes =>
    exact_iff_lookup.trans (and_congr_left' (lookup_iff_of_indexes hindexes))⟩

open DeviceDescriptionCache in
theorem exact_identifyMissing_empty :
    ({} : DeviceCoordinator Unit).Exact "ccu-BidCos-RF" [switchDevice, switchChannel]
      (({} : DeviceCoordinator Unit).identifyMissingDeviceDescriptions "ccu-BidCos-RF"
        [switchDevice, switchChannel]) := by
  have hempty := DeviceDescriptionRegistry.indexes_nil
    (r := ({} : DeviceCoordinator Unit).deviceDescriptions "ccu-BidCos-RF") rfl rfl
  refine ((exact_identifyMissing_iff _ _ _).2 [] hempty).mpr
    ⟨by unfold Unmixed; decide, fun d hd _ => ?_⟩
  have hsingle : ∀ d ∈ [switchDevice, switchChannel],
      [switchDevice, switchChannel].count d = 1 := by decide
  exact hsingle d hd

/-! ### A device that is known with its channel -/

open DeviceDescriptionCache in
def paired : DeviceCoordinator Unit where
  deviceDescriptions := fun _ =>
    ((DeviceDescriptionRegistry.empty.addDevice switchDevice).2.addDevice switchChannel).2

open DeviceDescriptionCache in
theorem not_exact_known_channel :
    switchChannel ∈ paired.identifyMissingDeviceDescriptions "ccu-BidCos-RF"
        [switchDevice, switchChannel] ∧
      paired.Described "ccu-BidCos-RF" switchChannel.address ∧
      ¬ paired.Exact "ccu-BidCos-RF" [switchDevice, switchChannel]
        (paired.identifyMissingDeviceDescriptions "ccu-BidCos-RF"
          [switchDevice, switchChannel]) := by
  have hmem : switchChannel ∈ paired.identifyMissingDeviceDescriptions "ccu-BidCos-RF"
      [switchDevice, switchChannel] := by decide
  have hknown : paired.Described "ccu-BidCos-RF" switchChannel.address := by decide
  exact ⟨hmem, hknown, fun h => ((h.mem_iff _).mp hmem).2 hknown⟩

end DeviceCoordinator

end AioHomematic.Central

/-!
## Refreshing existing devices only

`refresh_device_descriptions_and_create_missing_devices` with `refresh_only_existing` keeps, of the
fetched descriptions, those whose address is cached, unless that leaves none: then it keeps all of
them, and `_add_new_devices` adds what it is given. `refresh_onlyExisting_iff` says when the refresh
stays within the cache.
-/

namespace AioHomematic.Store.DeviceDescriptionRegistry

open Support

/-- Descriptions added one after the other, each address once: the description of an address that
has a device part replaces the cached one, another only removes it. -/
theorem getDeviceDescription_addDevices {r : DeviceDescriptionRegistry}
    {ds : List DeviceDescription} (hnodup : (ds.map (·.address)).Nodup) (address : String) :
    (ds.foldl (fun r d => (r.addDevice d).2) r).getDeviceDescription address =
      match ds.find? (·.address = address) with
      | some d => (getDeviceAddress address).map fun _ => d
      | none => r.getDeviceDescription address := by
  induction ds generalizing r with
  | nil => rfl
  | cons d ds ih =>
    obtain ⟨hnotMem, hnodup⟩ := List.nodup_cons.mp hnodup
    rw [List.foldl_cons]
    by_cases heq : d.address = address
    · subst heq
      have hfind : (d :: ds).find? (·.address = d.address) = some d :=
        List.find?_cons_of_pos (decide_eq_true rfl)
      rw [getDeviceDescription_addDevices_of_notMem hnotMem, getDeviceDescription_addDevice,
        if_pos rfl, hfind]
    · have hfind : (d :: ds).find? (·.address = address) = ds.find? (·.address = address) :=
        List.find?_cons_of_neg (by simpa using heq)
      rw [ih hnodup, getDeviceDescription_addDevice, if_neg heq, hfind]

end AioHomematic.Store.DeviceDescriptionRegistry

namespace AioHomematic.Central

open Lib Support Store Model

namespace DeviceCoordinator

variable {D : Type} {env : Environment D} {s t : DeviceCoordinator D} {interfaceId : String}
  {ds : List DeviceDescription}

/-- A refresh stays within the cache: what was fetched for a cached address replaces its description,
no other address is cached, and no device is created whose address was not. -/
structure OnlyExisting (s : DeviceCoordinator D) (interfaceId : String)
    (ds : List DeviceDescription) (t : DeviceCoordinator D) : Prop where
  descriptions : ∀ address, t.cachedDescription interfaceId address =
    (s.cachedDescription interfaceId address).map fun d =>
      (ds.find? (·.address = address)).getD d
  others : ∀ i ≠ interfaceId, ∀ address, t.cachedDescription i address = s.cachedDescription i address
  devices : ∀ address device, t.device? address = some device →
    s.device? address = some device ∨ s.Described interfaceId address

/-! ## What is added -/

theorem foldl_cacheDescription_other {i : String} (hi : i ≠ interfaceId)
    (source : SourceOfDeviceCreation) (newDescriptions : List DeviceDescription) :
    (ds.foldl (cacheDescription env source interfaceId newDescriptions) s).deviceDescriptions i =
      s.deviceDescriptions i := by
  induction ds generalizing s with
  | nil => rfl
  | cons d ds ih =>
    obtain ⟨-, hcached, -⟩ := cacheDescription_spec env s interfaceId source newDescriptions d
    rw [List.foldl_cons, ih, hcached, Function.update_of_ne hi]

/-- A device that the loop creates has a cached description. -/
theorem foldl_createDevice_device? {addresses : List String} {address : String} {device : Device}
    (h : (addresses.foldl (createDevice env interfaceId) s).device? address = some device) :
    s.device? address = some device ∨ s.Described interfaceId address := by
  induction addresses generalizing s with
  | nil => exact .inl h
  | cons a addresses ih =>
    have hcaches := (createDevice_caches env s interfaceId a).1
    rcases ih h with hold | hdescribed
    · by_cases heq : a = address
      · subst heq
        cases hdescription : (s.deviceDescriptions interfaceId).getDeviceDescription a with
        | some d => exact .inr (by rw [Described, hdescription]; exact Option.some_ne_none d)
        | none =>
          unfold createDevice at hold
          rw [Device.create_of_none hdescription] at hold
          split at hold
          · exact .inl hold
          · exact .inl hold
      · rw [createDevice_device?_of_ne heq] at hold
        exact .inl hold
    · rw [Described, hcaches] at hdescribed
      exact .inr hdescribed

theorem createNewDevices_eq (hclient : interfaceId ∈ env.interfaceIds) :
    s.createNewDevices env interfaceId =
      .ok ((s.checkForNewDeviceAddresses interfaceId).foldl (createDevice env interfaceId) s) := by
  unfold createNewDevices
  dsimp only
  split
  next hnil =>
    rw [hnil]
    rfl
  · rw [createDevices, if_neg (List.ne_nil_of_mem hclient)]

/-- What `_add_new_devices` makes of descriptions that a refresh has fetched. -/
theorem addNewDevices_refresh_spec (hclient : interfaceId ∈ env.interfaceIds)
    (hnodup : (ds.map (·.address)).Nodup) :
    ∃ t, s.addNewDevices env interfaceId ds .refresh = .ok t ∧
      (∀ address, t.cachedDescription interfaceId address =
        match ds.find? (·.address = address) with
        | some d => (getDeviceAddress address).map fun _ => d
        | none => s.cachedDescription interfaceId address) ∧
      (∀ i ≠ interfaceId, ∀ address,
        t.cachedDescription i address = s.cachedDescription i address) ∧
      ∀ address device, t.device? address = some device →
        s.device? address = some device ∨ t.Described interfaceId address := by
  unfold addNewDevices
  by_cases hnil : ds = []
  · subst hnil
    exact ⟨s, if_pos (.inl rfl), fun _ => rfl, fun _ _ _ => rfl, fun _ _ h => .inl h⟩
  rw [if_neg (not_or.mpr ⟨hnil, not_not_intro hclient⟩)]
  dsimp only [descriptionsToCache]
  rw [if_pos rfl, if_neg hnil, if_neg fun h => by cases h.2]
  generalize hnew : s.identifyNewDeviceDescriptions interfaceId ds = newDescriptions
  obtain ⟨hregistry, hcached, -⟩ :=
    foldl_cacheDescription_spec env s interfaceId .refresh newDescriptions ds
  have hother : ∀ i ≠ interfaceId, (ds.foldl (cacheDescription env .refresh interfaceId
      newDescriptions) s).deviceDescriptions i = s.deviceDescriptions i :=
    fun i hi => foldl_cacheDescription_other hi .refresh newDescriptions
  generalize ds.foldl (cacheDescription env .refresh interfaceId newDescriptions) s = s₁ at *
  have hcaches := (foldl_createDevice_caches env s₁ interfaceId
    (s₁.checkForNewDeviceAddresses interfaceId)).1
  refine ⟨_, createNewDevices_eq hclient, fun address => ?_, fun i hi address => ?_,
    fun address device hdevice => ?_⟩
  · rw [cachedDescription, hcaches, hcached,
      DeviceDescriptionRegistry.getDeviceDescription_addDevices hnodup]
    rfl
  · rw [cachedDescription, hcaches, hother i hi]
    rfl
  · rcases foldl_createDevice_device? hdevice with hold | hdescribed
    · left
      rw [device?, hregistry] at hold
      exact hold
    · right
      rw [Described, hcaches]
      exact hdescribed

/-! ## What is kept -/

/-- The fetched descriptions whose address is cached. -/
def existing (s : DeviceCoordinator D) (interfaceId : String) (ds : List DeviceDescription) :
    List DeviceDescription :=
  ds.filter (s.Described interfaceId ·.address)

theorem refresh_eq {deviceAddress : Option String}
    (hds : fetchDeviceDescriptions env interfaceId deviceAddress = .ok ds) :
    s.refreshDeviceDescriptionsAndCreateMissingDevices env interfaceId true deviceAddress =
      s.addNewDevices env interfaceId
        (if s.existing interfaceId ds ≠ [] then s.existing interfaceId ds else ds) .refresh := by
  have hexisting : (ds.filter fun d =>
      ((s.deviceDescriptions interfaceId).getDeviceDescription d.address).isSome) =
      s.existing interfaceId ds := by
    refine List.filter_congr fun d _ => ?_
    rw [Bool.eq_iff_iff, decide_eq_true_eq, Described, Option.isSome_iff_ne_none]
  unfold refreshDeviceDescriptionsAndCreateMissingDevices
  rw [hds, ← hexisting]
  change s.addNewDevices env interfaceId (if true = true ∧ _ then _ else ds) .refresh = _
  simp only [true_and]

theorem existing_eq_nil_iff :
    s.existing interfaceId ds = [] ↔ ∀ d ∈ ds, ¬ s.Described interfaceId d.address := by
  simp [existing, List.filter_eq_nil_iff]

theorem find?_existing (address : String) :
    (s.existing interfaceId ds).find? (·.address = address) =
      if s.Described interfaceId address then ds.find? (·.address = address) else none := by
  rw [existing, List.find?_filter]
  split
  next hdescribed =>
    congr 1
    funext d
    by_cases heq : d.address = address
    · simp [heq, hdescribed]
    · simp [heq]
  next hdescribed =>
    refine List.find?_eq_none.mpr fun d _ => ?_
    simp only [decide_eq_true_eq, not_and]
    rintro hd rfl
    exact hdescribed hd

theorem nodup_existing (hnodup : (ds.map (·.address)).Nodup) :
    ((s.existing interfaceId ds).map (·.address)).Nodup :=
  hnodup.sublist (List.filter_sublist.map _)

/-- The description of an address after the refresh is the one that it is to be. -/
def Stays (s : DeviceCoordinator D) (interfaceId : String) (ds : List DeviceDescription)
    (address : String) : Prop :=
  (match (if s.existing interfaceId ds ≠ [] then s.existing interfaceId ds else ds).find?
      (·.address = address) with
    | some d => (getDeviceAddress address).map fun _ => d
    | none => s.cachedDescription interfaceId address) =
    (s.cachedDescription interfaceId address).map fun d =>
      (ds.find? (·.address = address)).getD d

theorem onlyExisting_iff_stays (hclient : interfaceId ∈ env.interfaceIds)
    {deviceAddress : Option String}
    (hds : fetchDeviceDescriptions env interfaceId deviceAddress = .ok ds) :
    (∃ t, s.refreshDeviceDescriptionsAndCreateMissingDevices env interfaceId true deviceAddress =
        .ok t ∧ s.OnlyExisting interfaceId ds t) ↔ ∀ address, s.Stays interfaceId ds address := by
  have hnodup := (nodup_fetchDeviceDescriptions hds).1
  have hkept : ((if s.existing interfaceId ds ≠ [] then s.existing interfaceId ds
      else ds).map (·.address)).Nodup := by
    split
    · exact nodup_existing hnodup
    · exact hnodup
  obtain ⟨t, ht, hcached, hothers, hdevices⟩ := addNewDevices_refresh_spec (s := s) hclient hkept
  rw [refresh_eq hds, ht]
  constructor
  · rintro ⟨_, heq, honly⟩ address
    cases heq
    exact (hcached address).symm.trans (honly.descriptions address)
  · intro hstays
    have hdescriptions := fun address => (hcached address).trans (hstays address)
    refine ⟨t, rfl, hdescriptions, hothers, fun address device hdevice => ?_⟩
    rcases hdevices address device hdevice with hold | hdescribed
    · exact .inl hold
    · right
      rw [Described, ← cachedDescription, hdescriptions] at hdescribed
      exact fun hnone => hdescribed (by rw [cachedDescription, hnone, Option.map_none])

/-- An address that was fetched: it stays as it is unless it is cached, and takes what was fetched
if it is, which only an address with a device part does. -/
theorem stays_iff {address : String} : s.Stays interfaceId ds address ↔
    ∀ d, ds.find? (·.address = address) = some d →
      if s.existing interfaceId ds = [] then getDeviceAddress address = none
      else s.Described interfaceId address → getDeviceAddress address ≠ none := by
  unfold Stays
  cases hfind : ds.find? (·.address = address) with
  | none =>
    have hnone : (if s.existing interfaceId ds ≠ [] then s.existing interfaceId ds else ds).find?
        (·.address = address) = none := by
      split
      · rw [find?_existing, hfind, ite_self]
      · exact hfind
    rw [hnone]
    simp
  | some d =>
    have haddress : d.address = address := by simpa using List.find?_some hfind
    have hmem : d ∈ ds := List.mem_of_find?_eq_some hfind
    simp only [Option.some.injEq, forall_eq', Option.getD_some]
    by_cases hknown : s.existing interfaceId ds = []
    · have hcached : s.cachedDescription interfaceId address = none := by
        rw [← haddress]
        exact not_not.mp (existing_eq_nil_iff.mp hknown d hmem)
      rw [if_neg (not_not_intro hknown), hfind, if_pos hknown, hcached, Option.map_none]
      exact Option.map_eq_none_iff
    · rw [if_pos hknown, find?_existing, hfind, if_neg hknown]
      cases hcached : s.cachedDescription interfaceId address with
      | none =>
        have hnot : ¬ s.Described interfaceId address := not_not_intro hcached
        rw [if_neg hnot]
        exact iff_of_true rfl fun h => absurd h hnot
      | some d₀ =>
        have hdescribed : s.Described interfaceId address := by
          rw [Described, ← cachedDescription, hcached]
          exact Option.some_ne_none d₀
        rw [if_pos hdescribed, Option.map_some]
        cases getDeviceAddress address <;> simp [hdescribed]

/-- A refresh that is to stay within the cache does so exactly when some fetched address is cached,
or none has a device part, and those that are cached have one. -/
theorem refresh_onlyExisting_iff (hclient : interfaceId ∈ env.interfaceIds)
    {deviceAddress : Option String}
    (hds : fetchDeviceDescriptions env interfaceId deviceAddress = .ok ds) :
    (∃ t, s.refreshDeviceDescriptionsAndCreateMissingDevices env interfaceId true deviceAddress =
        .ok t ∧ s.OnlyExisting interfaceId ds t) ↔
      (∀ d ∈ ds, s.Described interfaceId d.address → getDeviceAddress d.address ≠ none) ∧
        ((∃ d ∈ ds, s.Described interfaceId d.address) ∨
          ∀ d ∈ ds, getDeviceAddress d.address = none) := by
  have hnodup := (nodup_fetchDeviceDescriptions hds).1
  have hstays : (∀ address, s.Stays interfaceId ds address) ↔ ∀ d ∈ ds,
      if s.existing interfaceId ds = [] then getDeviceAddress d.address = none
      else s.Described interfaceId d.address → getDeviceAddress d.address ≠ none := by
    simp only [stays_iff]
    constructor
    · intro h d hd
      refine h d.address d ?_
      exact find?_address_of_mem hnodup hd
    · intro h address d hfind
      have haddress : d.address = address := by simpa using List.find?_some hfind
      subst haddress
      exact h d (List.mem_of_find?_eq_some hfind)
  rw [onlyExisting_iff_stays hclient hds, hstays]
  by_cases hknown : s.existing interfaceId ds = []
  · have hnone := existing_eq_nil_iff.mp hknown
    simp only [if_pos hknown]
    constructor
    · exact fun h => ⟨fun d hd hdescribed => absurd hdescribed (hnone d hd), .inr h⟩
    · rintro ⟨-, ⟨d, hd, hdescribed⟩ | h⟩
      · exact absurd hdescribed (hnone d hd)
      · exact h
  · have hsome : ∃ d ∈ ds, s.Described interfaceId d.address := by
      simpa [existing_eq_nil_iff] using hknown
    simp only [if_neg hknown]
    exact ⟨fun h => ⟨h, .inl hsome⟩, fun h => h.1⟩

/-! ### An interface whose first device is paired -/

open DeviceDescriptionCache in
/-- The backend has a switch. -/
def pairingEnvironment : Environment Unit where
  interfaceIds := ["ccu-BidCos-RF"]
  backend := fun _ =>
    { descriptions := [switchDevice, switchChannel]
      nodup := by decide
      paramsetDescription := fun _ _ => .ok (some ()) }

open DeviceDescriptionCache in
/-- The switch and its channel are cached. -/
theorem refresh_onlyExisting_paired :
    ∃ t, paired.refreshDeviceDescriptionsAndCreateMissingDevices pairingEnvironment "ccu-BidCos-RF"
        true none = .ok t ∧
      paired.OnlyExisting "ccu-BidCos-RF" [switchDevice, switchChannel] t :=
  (refresh_onlyExisting_iff (s := paired) (by decide) rfl).mpr
    ⟨by decide, .inl ⟨switchDevice, by decide, by decide⟩⟩

/-- Nothing is cached yet. -/
def unpaired : DeviceCoordinator Unit := {}

open DeviceDescriptionCache in
/-- Nothing that is fetched is cached: the refresh of the firmware data of all devices caches the
switch and creates it. -/
theorem not_refresh_onlyExisting_unpaired :
    ∃ t, unpaired.refreshDeviceDescriptionsAndCreateMissingDevices pairingEnvironment
        "ccu-BidCos-RF" true none = .ok t ∧
      unpaired.cachedDescription "ccu-BidCos-RF" "VCU0000001" = none ∧
      t.cachedDescription "ccu-BidCos-RF" "VCU0000001" = some switchDevice ∧
      (t.device? "VCU0000001").isSome = true ∧
      ¬ unpaired.OnlyExisting "ccu-BidCos-RF" [switchDevice, switchChannel] t := by
  refine ⟨_, rfl, by decide, by decide, by decide, fun h => ?_⟩
  exact absurd (h.descriptions "VCU0000001") (by decide)

end DeviceCoordinator

end AioHomematic.Central
