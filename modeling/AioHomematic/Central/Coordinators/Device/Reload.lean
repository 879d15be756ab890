import AioHomematic.Central.Coordinators.Device

/-!
# Reloading a device

`update_device`, `readd_device` and `replace_device` drop a device with the
descriptions of all its channels and fetch the device again. What is fetched is
one description, that of the device alone; only where this read fails are all
descriptions listed. So the reloaded device has exactly those channels whose
descriptions were left in the cache, and all of them where the single read
failed.
-/

namespace AioHomematic.Central

open Lib Support Store Model

variable {D : Type}

/-- The backend has the device and each of its channels. -/
structure Backend.Describes (b : Backend D) (address : String) (d : DeviceDescription) : Prop where
  address_eq : d.address = address
  device : d ∈ b.descriptions
  channels : ∀ c ∈ Device.channelAddresses address d, ∃ dc ∈ b.descriptions, dc.address = c

namespace DeviceCoordinator

variable {env : Environment D} {s s' : DeviceCoordinator D} {interfaceId a : String}
  {d : DeviceDescription}

def cachedDescription (s : DeviceCoordinator D) (interfaceId address : String) :
    Option DeviceDescription :=
  (s.deviceDescriptions interfaceId).getDeviceDescription address

def device? (s : DeviceCoordinator D) (address : String) : Option Device :=
  s.deviceRegistry.devices.get? address

/-- The device has a channel for its own address and each of its children, no other. -/
def HasChannels (device : Device) (address : String) (d : DeviceDescription) : Prop :=
  ∀ c, c ∈ device.channels.keys ↔ c ∈ Device.channelAddresses address d

def AllCached (s : DeviceCoordinator D) (interfaceId address : String) (d : DeviceDescription) :
    Prop :=
  ∀ c ∈ Device.channelAddresses address d, (s.cachedDescription interfaceId c).isSome = true

/-- The device is registered with all channels of its description, and all are cached. -/
def Complete (s : DeviceCoordinator D) (interfaceId address : String) : Prop :=
  ∃ device d, s.device? address = some device ∧ s.cachedDescription interfaceId address = some d ∧
    HasChannels device address d ∧ s.AllCached interfaceId address d

/-- The addresses that leave the cache of the interface when a device is dropped. -/
def droppedAddresses (s : DeviceCoordinator D) (interfaceId deviceAddress : String) : List String :=
  match s.device? deviceAddress with
  | none => []
  | some device =>
    if device.interfaceId = interfaceId then device.address :: device.channels.keys else []

theorem complete_iff {device : Device} (hdevice : s.device? a = some device)
    (hd : s.cachedDescription interfaceId a = some d) :
    s.Complete interfaceId a ↔ HasChannels device a d ∧ s.AllCached interfaceId a d := by
  constructor
  · rintro ⟨device', d', hdevice', hd', h⟩
    cases hdevice.symm.trans hdevice'
    cases hd.symm.trans hd'
    exact h
  · rintro ⟨hchannels, hcached⟩
    exact ⟨device, d, hdevice, hd, hchannels, hcached⟩

/-! ## Dropping -/

theorem cachedDescription_removeFromCaches (device : Device) (address : String) :
    (s.removeFromCaches device).cachedDescription interfaceId address =
      if device.interfaceId = interfaceId ∧ address ∈ device.address :: device.channels.keys then
        none
      else s.cachedDescription interfaceId address := by
  unfold cachedDescription removeFromCaches
  dsimp only
  by_cases h : device.interfaceId = interfaceId
  · subst h
    rw [Function.update_self, DeviceDescriptionRegistry.getDeviceDescription_removeAddresses]
    simp
  · rw [Function.update_of_ne (Ne.symm h), if_neg fun h' => h h'.1]

/-- What dropping a device leaves. -/
theorem dropDevice_spec {x : String} (hx : IsDevice x) :
    ∃ s₁, s.dropDevice x = .ok s₁ ∧
      (∀ a, s₁.device? a = if x = a then none else s.device? a) ∧
      (∀ interfaceId c, s₁.cachedDescription interfaceId c =
        if c ∈ s.droppedAddresses interfaceId x then none
        else s.cachedDescription interfaceId c) ∧
      ∀ interfaceId, s.paramsetDescriptions.hasInterfaceId interfaceId = true →
        s₁.paramsetDescriptions.hasInterfaceId interfaceId = true := by
  unfold dropDevice getDevice
  rw [getDeviceAddress_of_isDevice hx, Option.map_some]
  cases hdevice : s.deviceRegistry.devices.get? x with
  | none =>
    refine ⟨s, rfl, fun a => ?_, fun interfaceId c => ?_, fun _ h => h⟩
    · split
      · rename_i h
        subst h
        exact hdevice
      · rfl
    · rw [droppedAddresses, device?, hdevice, if_neg List.not_mem_nil]
  | some device =>
    have hkey : device.address = x := s.deviceRegistry.keyed x device hdevice
    have hhas : (s.removeFromCaches device).deviceRegistry.hasDevice device.address = true := by
      rw [DeviceRegistry.hasDevice, Dict.contains, removeFromCaches, hkey, hdevice]
      rfl
    refine ⟨_, rfl, fun a => ?_, fun interfaceId c => ?_, fun interfaceId h => ?_⟩
    · rw [removeDevice, if_pos hhas, ← hkey]
      exact Dict.get?_erase ..
    · rw [removeDevice, if_pos hhas]
      change ((s.removeFromCaches device).removeFromCaches device).cachedDescription interfaceId c =
        _
      rw [cachedDescription_removeFromCaches, cachedDescription_removeFromCaches,
        droppedAddresses, device?, hdevice]
      by_cases hi : device.interfaceId = interfaceId
      · simp only [hi, true_and, if_true]
        split <;> rfl
      · simp [hi]
    · rw [removeDevice, if_pos hhas]
      exact ParamsetDescriptionRegistry.hasInterfaceId_removeChannels _
        (ParamsetDescriptionRegistry.hasInterfaceId_removeChannels _ h)

/-! ## Caching -/

variable {source : SourceOfDeviceCreation} {newDescriptions ds : List DeviceDescription}

theorem eq_of_fetchParamsetDescriptions {fetched : DeviceCoordinator D}
    (h : s.fetchParamsetDescriptions env interfaceId d = .ok fetched) :
    fetched =
      { s with
        paramsetDescriptions := ((env.backend interfaceId).fetchParamsetDescriptions interfaceId d
          s.paramsetDescriptions).2 } := by
  unfold fetchParamsetDescriptions at h
  cases hresult : ((env.backend interfaceId).fetchParamsetDescriptions interfaceId d
      s.paramsetDescriptions).1 with
  | error exc => simp [hresult, Except.map] at h
  | ok =>
    simp only [hresult, Except.map, Except.ok.injEq] at h
    exact h.symm

variable (env source interfaceId newDescriptions s) in
/-- What caching a description changes: the cache of its interface, and paramsets that are added. -/
theorem cacheDescription_spec (d : DeviceDescription) :
    (cacheDescription env source interfaceId newDescriptions s d).deviceRegistry =
        s.deviceRegistry ∧
      (cacheDescription env source interfaceId newDescriptions s d).deviceDescriptions =
        Function.update s.deviceDescriptions interfaceId
          ((s.deviceDescriptions interfaceId).addDevice d).2 ∧
      ∀ i, s.paramsetDescriptions.hasInterfaceId i = true →
        (cacheDescription env source interfaceId newDescriptions s
          d).paramsetDescriptions.hasInterfaceId i = true := by
  unfold cacheDescription
  dsimp only
  split
  · exact ⟨rfl, rfl, fun _ h => h⟩
  · split
    · split
      · exact ⟨rfl, rfl, fun _ h => h⟩
      · rename_i fetched hfetched
        obtain rfl := eq_of_fetchParamsetDescriptions hfetched
        exact ⟨rfl, rfl, fun i h =>
          (env.backend interfaceId).hasInterfaceId_fetchParamsetDescriptions h⟩
    · exact ⟨rfl, rfl, fun _ h => h⟩

variable (env source interfaceId newDescriptions s) in
theorem foldl_cacheDescription_spec (ds : List DeviceDescription) :
    (ds.foldl (cacheDescription env source interfaceId newDescriptions) s).deviceRegistry =
        s.deviceRegistry ∧
      (ds.foldl (cacheDescription env source interfaceId newDescriptions) s).deviceDescriptions
          interfaceId =
        ds.foldl (fun r d => (r.addDevice d).2) (s.deviceDescriptions interfaceId) ∧
      ∀ i, s.paramsetDescriptions.hasInterfaceId i = true →
        (ds.foldl (cacheDescription env source interfaceId newDescriptions)
          s).paramsetDescriptions.hasInterfaceId i = true := by
  induction ds generalizing s with
  | nil => exact ⟨rfl, rfl, fun _ h => h⟩
  | cons d ds ih =>
    obtain ⟨hregistry, hcached, hhas⟩ :=
      cacheDescription_spec env s interfaceId source newDescriptions d
    obtain ⟨hregistry', hcached', hhas'⟩ :=
      @ih (cacheDescription env source interfaceId newDescriptions s d)
    refine ⟨hregistry'.trans hregistry, ?_, fun i h => hhas' i (hhas i h)⟩
    rw [List.foldl_cons, List.foldl_cons, hcached', hcached, Function.update_self]

/-! ## Creating -/

theorem hasDevice_eq (address : String) :
    s.deviceRegistry.hasDevice address = (s.device? address).isSome := rfl

variable (env s interfaceId) in
/-- Creating a device leaves the caches. -/
theorem createDevice_caches (address : String) :
    (createDevice env interfaceId s address).deviceDescriptions = s.deviceDescriptions ∧
      (createDevice env interfaceId s address).paramsetDescriptions = s.paramsetDescriptions := by
  unfold createDevice
  split
  · exact ⟨rfl, rfl⟩
  · split
    · exact ⟨rfl, rfl⟩
    · split <;> exact ⟨rfl, rfl⟩

/-- Creating a device leaves those that are registered. -/
theorem createDevice_device?_of_some {address : String} {device : Device}
    (h : s.device? a = some device) :
    (createDevice env interfaceId s address).device? a = some device := by
  unfold createDevice
  split
  · exact h
  · rename_i hhas
    have hne : address ≠ a := by
      rintro rfl
      exact hhas (by rw [hasDevice_eq, h]; rfl)
    split
    · exact h
    · rename_i device' hcreate
      split
      · have haddress := Device.address_of_create hcreate
        exact (Dict.get?_set_of_ne _ _ (haddress ▸ hne)).trans h
      · exact h

/-- The device that is created is the one its address names. -/
theorem createDevice_device?_of_ne {address : String} (hne : address ≠ a) :
    (createDevice env interfaceId s address).device? a = s.device? a := by
  unfold createDevice
  split
  · rfl
  · split
    · rfl
    · rename_i device hcreate
      split
      · have haddress := Device.address_of_create hcreate
        exact Dict.get?_set_of_ne _ _ (haddress ▸ hne)
      · rfl

theorem createDevice_device?_self {device : Device} (hnone : s.device? a = none)
    (hcreate : Device.create (s.deviceDescriptions interfaceId) interfaceId a = .ok device)
    (hdata : env.createDataPoints device = true) :
    (createDevice env interfaceId s a).device? a = some device := by
  have hhas : s.deviceRegistry.hasDevice a = false := by
    rw [hasDevice_eq, hnone]
    rfl
  unfold createDevice
  rw [hhas, hcreate]
  dsimp only
  rw [if_pos hdata, ← Device.address_of_create hcreate]
  exact Dict.get?_set_self ..

variable (env s interfaceId) in
theorem foldl_createDevice_caches (addresses : List String) :
    (addresses.foldl (createDevice env interfaceId) s).deviceDescriptions =
        s.deviceDescriptions ∧
      (addresses.foldl (createDevice env interfaceId) s).paramsetDescriptions =
        s.paramsetDescriptions := by
  induction addresses generalizing s with
  | nil => exact ⟨rfl, rfl⟩
  | cons address addresses ih =>
    obtain ⟨hdescriptions, hparamsets⟩ := createDevice_caches env s interfaceId address
    obtain ⟨hdescriptions', hparamsets'⟩ := ih (createDevice env interfaceId s address)
    exact ⟨hdescriptions'.trans hdescriptions, hparamsets'.trans hparamsets⟩

theorem foldl_createDevice_device?_of_some (addresses : List String) {device : Device}
    (h : s.device? a = some device) :
    (addresses.foldl (createDevice env interfaceId) s).device? a = some device := by
  induction addresses generalizing s with
  | nil => exact h
  | cons address addresses ih => exact ih (createDevice_device?_of_some h)

theorem foldl_createDevice_device?_of_mem {addresses : List String} {device : Device}
    (ha : a ∈ addresses) (hnone : s.device? a = none)
    (hcreate : Device.create (s.deviceDescriptions interfaceId) interfaceId a = .ok device)
    (hdata : env.createDataPoints device = true) :
    (addresses.foldl (createDevice env interfaceId) s).device? a = some device := by
  induction addresses generalizing s with
  | nil => cases ha
  | cons address addresses ih =>
    rw [List.foldl_cons]
    by_cases h : address = a
    · subst h
      exact foldl_createDevice_device?_of_some addresses
        (createDevice_device?_self hnone hcreate hdata)
    · apply ih ((List.mem_cons.mp ha).resolve_left (Ne.symm h))
      · rw [createDevice_device?_of_ne h, hnone]
      · rw [(createDevice_caches env s interfaceId address).1, hcreate]

/-! ## Refreshing -/

theorem nodup_fetchDeviceDescriptions {b : Option String}
    (h : fetchDeviceDescriptions env interfaceId b = .ok ds) :
    (ds.map (·.address)).Nodup ∧ ∀ d ∈ ds, d ∈ (env.backend interfaceId).descriptions := by
  unfold fetchDeviceDescriptions at h
  split at h
  · rename_i d hd
    cases h
    refine ⟨List.nodup_singleton _, fun d' hd' => ?_⟩
    cases List.mem_singleton.mp hd'
    obtain ⟨b', -, hb'⟩ := Option.bind_eq_some_iff.mp hd
    unfold Backend.getDeviceDescription at hb'
    split at hb'
    · exact List.mem_of_find?_eq_some hb'
    · cases hb'
  · unfold Backend.listDevices at h
    split at h
    · cases h
      exact ⟨(env.backend interfaceId).nodup, fun d hd => hd⟩
    · cases h

/-- The single read of the device is made, and it succeeds. -/
def ReadsSingle (b : Backend D) (address : String) : Prop :=
  address ≠ "" ∧ b.answers address = true

theorem fetchDeviceDescriptions_of_describes (hb : (env.backend interfaceId).Describes a d)
    (h : fetchDeviceDescriptions env interfaceId (some a) = .ok ds) :
    (ReadsSingle (env.backend interfaceId) a → ds = [d]) ∧
      (¬ ReadsSingle (env.backend interfaceId) a →
        ds = (env.backend interfaceId).descriptions) := by
  have hread := (env.backend interfaceId).getDeviceDescription_of_mem hb.device
  rw [hb.address_eq] at hread
  unfold fetchDeviceDescriptions at h
  by_cases hsingle : ReadsSingle (env.backend interfaceId) a
  · rw [Option.filter_some, if_pos (decide_eq_true hsingle.1), Option.bind_some, hread,
      if_pos hsingle.2] at h
    cases h
    exact ⟨fun _ => rfl, fun hn => absurd hsingle hn⟩
  · have hnone : ((some a).filter (· ≠ "")).bind (env.backend interfaceId).getDeviceDescription =
        none := by
      by_cases hne : a = ""
      · simp [hne]
      · have hanswers : ¬ (env.backend interfaceId).answers a = true := fun h => hsingle ⟨hne, h⟩
        rw [Option.filter_some, if_pos (decide_eq_true hne), Option.bind_some, hread,
          if_neg hanswers]
    rw [hnone] at h
    unfold Backend.listDevices at h
    dsimp only at h
    split at h
    · cases h
      exact ⟨fun hs => absurd hs hsingle, fun _ => rfl⟩
    · cases h

theorem eq_of_createNewDevices (h : s.createNewDevices env interfaceId = .ok s') :
    s' = (s.checkForNewDeviceAddresses interfaceId).foldl (createDevice env interfaceId) s := by
  unfold createNewDevices at h
  dsimp only at h
  split at h
  · rename_i hnil
    cases h
    rw [hnil]
    rfl
  · unfold createDevices at h
    split at h
    · cases h
    · cases h
      rfl

/-- A refresh caches what it has fetched and creates the devices of the cache that are not
registered. -/
theorem eq_of_refresh (hclient : interfaceId ∈ env.interfaceIds) {b : String}
    (h : s.refreshDeviceDescriptionsAndCreateMissingDevices env interfaceId false (some b) =
      .ok s') :
    ∃ ds, fetchDeviceDescriptions env interfaceId (some b) = .ok ds ∧
      (ds = [] ∧ s' = s ∨ ds ≠ [] ∧ ∃ newDescriptions, (ds.foldl
        (cacheDescription env .refresh interfaceId newDescriptions) s).createNewDevices env
          interfaceId = .ok s') := by
  unfold refreshDeviceDescriptionsAndCreateMissingDevices at h
  cases hds : fetchDeviceDescriptions env interfaceId (some b) with
  | error exc =>
    rw [hds] at h
    cases h
  | ok ds =>
    rw [hds] at h
    refine ⟨ds, rfl, ?_⟩
    change s.addNewDevices env interfaceId (if false = true ∧ _ then _ else ds) .refresh = _ at h
    rw [if_neg fun h => by cases h.1] at h
    unfold addNewDevices at h
    by_cases hnil : ds = []
    · rw [if_pos (.inl hnil)] at h
      cases h
      exact .inl ⟨hnil, rfl⟩
    · rw [if_neg (not_or.mpr ⟨hnil, not_not_intro hclient⟩)] at h
      dsimp only [descriptionsToCache] at h
      rw [if_pos rfl, if_neg hnil, if_neg fun h => by cases h.2] at h
      exact .inr ⟨hnil, _, h⟩

/-- What a refresh does to a device that is registered, and to one that is not. -/
theorem refresh_spec (hclient : interfaceId ∈ env.interfaceIds) {b : String}
    (h : s.refreshDeviceDescriptionsAndCreateMissingDevices env interfaceId false (some b) =
      .ok s') :
    ∃ ds, fetchDeviceDescriptions env interfaceId (some b) = .ok ds ∧
      s'.deviceDescriptions interfaceId =
        ds.foldl (fun r d => (r.addDevice d).2) (s.deviceDescriptions interfaceId) ∧
      (∀ i, s.paramsetDescriptions.hasInterfaceId i = true →
        s'.paramsetDescriptions.hasInterfaceId i = true) ∧
      (∀ a device, s.device? a = some device → s'.device? a = some device) ∧
      (s.paramsetDescriptions.hasInterfaceId interfaceId = true → ∀ d ∈ ds,
        IsDevice d.address → s.device? d.address = none →
        (∀ device : Device, device.address = d.address → env.createDataPoints device = true) →
        ∃ device, s'.device? d.address = some device ∧ ∀ c, c ∈ device.channels.keys ↔
          c ∈ Device.channelAddresses d.address d ∧
            (s'.cachedDescription interfaceId c).isSome = true) := by
  obtain ⟨ds, hds, hrun⟩ := eq_of_refresh hclient h
  refine ⟨ds, hds, ?_⟩
  rcases hrun with ⟨rfl, rfl⟩ | ⟨hne, newDescriptions, hcreate⟩
  · exact ⟨rfl, fun _ h => h, fun _ _ h => h, fun _ d hd => by cases hd⟩
  obtain ⟨hregistry, hcached, hhas⟩ :=
    foldl_cacheDescription_spec env s interfaceId .refresh newDescriptions ds
  obtain rfl := eq_of_createNewDevices hcreate
  generalize ds.foldl (cacheDescription env .refresh interfaceId newDescriptions) s = s₁ at *
  have hdevice : ∀ a, s₁.device? a = s.device? a := fun a => by
    rw [device?, hregistry]
    rfl
  have hcaches := foldl_createDevice_caches env s₁ interfaceId
    (s₁.checkForNewDeviceAddresses interfaceId)
  refine ⟨?_, ?_, ?_, ?_⟩
  · rw [hcaches.1, hcached]
  · rw [hcaches.2]
    exact hhas
  · intro a device ha
    apply foldl_createDevice_device?_of_some
    rw [hdevice, ha]
  · intro hparamsets d hd hisDevice hnone hdata
    have hcachedDevice : (s₁.deviceDescriptions interfaceId).getDeviceDescription d.address =
        some d := by
      rw [hcached]
      exact DeviceDescriptionRegistry.getDeviceDescription_addDevices_of_mem
        (nodup_fetchDeviceDescriptions hds).1 hd (getDeviceAddress_of_isDevice hisDevice)
    obtain ⟨device, hcreated, -, haddress, -, hchannels⟩ :=
      Device.create_ok interfaceId hisDevice hcachedDevice
    refine ⟨device, ?_, fun c => ?_⟩
    · refine foldl_createDevice_device?_of_mem ?_ ((hdevice _).trans hnone) hcreated
        (hdata device haddress)
      rw [checkForNewDeviceAddresses, if_pos (hhas _ hparamsets), List.mem_filter]
      refine ⟨?_, decide_eq_true fun hmem => ?_⟩
      · rw [hcached, DeviceDescriptionRegistry.mem_getAddresses_addDevices]
        exact .inl ⟨d, hd, getDeviceAddress_of_isDevice hisDevice⟩
      · obtain ⟨device', hdevice'⟩ := Dict.mem_keys.mp hmem
        cases hdevice'.symm.trans ((hdevice _).trans hnone)
    · rw [cachedDescription, hcaches.1]
      exact hchannels c

/-- After a refresh, what was fetched is cached, and what was cached before. -/
theorem cachedDescription_of_fetched
    (hnodup : (ds.map (·.address)).Nodup)
    (hcached : s'.deviceDescriptions interfaceId =
      ds.foldl (fun r d => (r.addDevice d).2) (s.deviceDescriptions interfaceId)) {c : String}
    (hc : ∃ deviceAddress, getDeviceAddress c = some deviceAddress) :
    (∀ d ∈ ds, d.address = c → s'.cachedDescription interfaceId c = some d) ∧
      ((∀ d ∈ ds, d.address ≠ c) →
        s'.cachedDescription interfaceId c = s.cachedDescription interfaceId c) := by
  unfold cachedDescription
  rw [hcached]
  refine ⟨?_, fun hnot => ?_⟩
  · rintro d hd rfl
    obtain ⟨deviceAddress, hdevice⟩ := hc
    exact DeviceDescriptionRegistry.getDeviceDescription_addDevices_of_mem hnodup hd hdevice
  · apply DeviceDescriptionRegistry.getDeviceDescription_addDevices_of_notMem
    rintro hmem
    obtain ⟨d, hd, hdc⟩ := List.mem_map.mp hmem
    exact hnot d hd hdc

/-! ## Reloading -/

variable {x : String}

/-- When a reload leaves the device with all its channels: no description of a channel is dropped or
missing where only the device is read, and a device that stays registered has them already. -/
def KeepsChannels (env : Environment D) (s : DeviceCoordinator D)
    (interfaceId dropped fetched : String) (d : DeviceDescription) : Prop :=
  (ReadsSingle (env.backend interfaceId) fetched →
    ∀ c ∈ d.children, c ≠ "" → c ≠ fetched →
      (s.cachedDescription interfaceId c).isSome = true ∧
        c ∉ s.droppedAddresses interfaceId dropped) ∧
    (dropped ≠ fetched → ∀ device, s.device? fetched = some device →
      HasChannels device fetched d)

theorem getDeviceAddress_of_channelAddresses {c : String} (ha : IsDevice a)
    (hd : d.address = a) (hc : c ∈ Device.channelAddresses a d) : getDeviceAddress c = some a := by
  subst hd
  rcases Device.channelAddresses_of hc rfl with rfl | h
  · exact getDeviceAddress_of_isDevice ha
  · exact h

/-- The device is among what is fetched for it. -/
theorem mem_fetchDeviceDescriptions (hb : (env.backend interfaceId).Describes a d)
    (h : fetchDeviceDescriptions env interfaceId (some a) = .ok ds) : d ∈ ds := by
  obtain ⟨hsingle, hlist⟩ := fetchDeviceDescriptions_of_describes hb h
  by_cases hread : ReadsSingle (env.backend interfaceId) a
  · rw [hsingle hread]
    exact List.mem_singleton_self d
  · rw [hlist hread]
    exact hb.device

/-- What is cached of a device after a reload. -/
theorem allCached_reload {s₁ : DeviceCoordinator D} (ha : IsDevice a)
    (hb : (env.backend interfaceId).Describes a d)
    (hds : fetchDeviceDescriptions env interfaceId (some a) = .ok ds)
    (hdropped : ∀ c, s₁.cachedDescription interfaceId c =
      if c ∈ s.droppedAddresses interfaceId x then none else s.cachedDescription interfaceId c)
    (hcached : s'.deviceDescriptions interfaceId =
      ds.foldl (fun r d => (r.addDevice d).2) (s₁.deviceDescriptions interfaceId)) :
    d ∈ ds ∧ s'.cachedDescription interfaceId a = some d ∧
      (s'.AllCached interfaceId a d ↔ (ReadsSingle (env.backend interfaceId) a →
        ∀ c ∈ d.children, c ≠ "" → c ≠ a →
          (s.cachedDescription interfaceId c).isSome = true ∧
            c ∉ s.droppedAddresses interfaceId x)) := by
  obtain ⟨hsingle, hlist⟩ := fetchDeviceDescriptions_of_describes hb hds
  have hfetched : ∀ c ∈ Device.channelAddresses a d,
      (∀ d' ∈ ds, d'.address = c → s'.cachedDescription interfaceId c = some d') ∧
        ((∀ d' ∈ ds, d'.address ≠ c) →
          s'.cachedDescription interfaceId c = s₁.cachedDescription interfaceId c) :=
    fun c hc => cachedDescription_of_fetched (nodup_fetchDeviceDescriptions hds).1 hcached
      ⟨a, getDeviceAddress_of_channelAddresses ha hb.address_eq hc⟩
  have hmem : d ∈ ds := mem_fetchDeviceDescriptions hb hds
  have hown : s'.cachedDescription interfaceId a = some d :=
    (hfetched a List.mem_cons_self).1 d hmem hb.address_eq
  refine ⟨hmem, hown, ?_⟩
  by_cases h : ReadsSingle (env.backend interfaceId) a
  · rw [forall_prop_of_true h]
    have hother : ∀ c ∈ Device.channelAddresses a d, c ≠ a →
        s'.cachedDescription interfaceId c = s₁.cachedDescription interfaceId c := by
      intro c hc hne
      apply (hfetched c hc).2
      rw [hsingle h]
      intro d' hd'
      cases List.mem_singleton.mp hd'
      exact fun hd => hne (hd.symm.trans hb.address_eq)
    constructor
    · intro hall c hchild hempty hne
      have hc : c ∈ Device.channelAddresses a d :=
        Device.mem_channelAddresses.mpr (.inr ⟨hchild, hempty⟩)
      have hsome := hall c hc
      rw [hother c hc hne, hdropped] at hsome
      split at hsome
      · cases hsome
      · exact ⟨hsome, ‹_›⟩
    · intro hall c hc
      by_cases hne : c = a
      · rw [hne, hown]
        rfl
      · obtain ⟨hchild, hempty⟩ := (Device.mem_channelAddresses.mp hc).resolve_left hne
        obtain ⟨hsome, hnot⟩ := hall c hchild hempty hne
        rw [hother c hc hne, hdropped, if_neg hnot]
        exact hsome
  · refine iff_of_true (fun c hc => ?_) (fun h' => absurd h' h)
    obtain ⟨dc, hdc, hdcc⟩ := hb.channels c hc
    rw [(hfetched c hc).1 dc (hlist h ▸ hdc) hdcc]
    rfl

/-- A reload drops the one device and refreshes the other. -/
theorem reload_parts (hx : IsDevice x) (h : s.reload env interfaceId x a = .ok s') :
    ∃ s₁ : DeviceCoordinator D, (∀ a, s₁.device? a = if x = a then none else s.device? a) ∧
      (∀ interfaceId c, s₁.cachedDescription interfaceId c =
        if c ∈ s.droppedAddresses interfaceId x then none
        else s.cachedDescription interfaceId c) ∧
      (∀ interfaceId, s.paramsetDescriptions.hasInterfaceId interfaceId = true →
        s₁.paramsetDescriptions.hasInterfaceId interfaceId = true) ∧
      s₁.refreshDeviceDescriptionsAndCreateMissingDevices env interfaceId false (some a) =
        .ok s' := by
  obtain ⟨s₁, hdrop, hdevice, hdropped, hhas⟩ := dropDevice_spec (s := s) hx
  rw [reload, hdrop] at h
  exact ⟨s₁, hdevice, hdropped, hhas, h⟩

/-- **One reload**: the device is registered, with the channels that are cached if it is a new
one. -/
theorem reload_spec (hclient : interfaceId ∈ env.interfaceIds)
    (hhas : s.paramsetDescriptions.hasInterfaceId interfaceId = true) (hx : IsDevice x)
    (ha : IsDevice a) (hb : (env.backend interfaceId).Describes a d)
    (hdata : ∀ device : Device, device.address = a → env.createDataPoints device = true)
    (h : s.reload env interfaceId x a = .ok s') :
    ∃ device, s'.device? a = some device ∧ s'.cachedDescription interfaceId a = some d ∧
      (HasChannels device a d ∧ s'.AllCached interfaceId a d ↔
        s.KeepsChannels env interfaceId x a d) ∧
      (x = a → HasChannels device a d → s'.AllCached interfaceId a d) := by
  obtain ⟨s₁, hdevice, hdropped, hhas₁, hrefresh⟩ := reload_parts hx h
  obtain ⟨ds, hds, hcached, -, hregistered, hcreated⟩ := refresh_spec hclient hrefresh
  obtain ⟨hmem, hown, hall⟩ := allCached_reload ha hb hds (hdropped interfaceId) hcached
  rw [← hb.address_eq] at ha hdata
  have hcreated := hcreated (hhas₁ _ hhas) d hmem ha
  rw [hb.address_eq] at ha hdata hcreated
  rw [KeepsChannels, ← hall]
  cases hs₁ : s₁.device? a with
  | some device =>
    have hne : x ≠ a := by
      rintro rfl
      rw [hdevice, if_pos rfl] at hs₁
      cases hs₁
    rw [hdevice, if_neg hne] at hs₁
    refine ⟨device, hregistered a device ?_, hown, ?_, fun hxa => absurd hxa hne⟩
    · rw [hdevice, if_neg hne, hs₁]
    · rw [and_comm, forall_prop_of_true hne]
      refine and_congr_right fun _ => ⟨fun hchannels device' h' => ?_, fun h' => h' device hs₁⟩
      cases hs₁.symm.trans h'
      exact hchannels
  | none =>
    obtain ⟨device, hnew, hchannels⟩ := hcreated hs₁ hdata
    have hcomplete : HasChannels device a d ↔ s'.AllCached interfaceId a d :=
      forall_congr' fun c => (iff_congr (hchannels c) Iff.rfl).trans and_iff_left_iff_imp
    refine ⟨device, hnew, hown, ?_, fun _ => hcomplete.mp⟩
    rw [hcomplete, and_self, iff_self_and]
    intro _ hne device' h'
    rw [hdevice, if_neg hne, h'] at hs₁
    cases hs₁

/-- An address of a device is none of another one. -/
theorem not_mem_droppedAddresses {c : String} (hx : IsDevice x) (ha : IsDevice a) (hne : x ≠ a)
    (hd : d.address = a) (hc : c ∈ Device.channelAddresses a d) :
    c ∉ s.droppedAddresses interfaceId x := by
  have hca := getDeviceAddress_of_channelAddresses ha hd hc
  unfold droppedAddresses
  split
  · exact List.not_mem_nil
  · rename_i other hother
    have hkey := s.deviceRegistry.keyed x other hother
    split
    · intro hmem
      have hcx : c = x ∨ getDeviceAddress c = some x := by
        rcases List.mem_cons.mp hmem with rfl | hmem
        · exact .inl hkey
        · rw [← hkey]
          exact other.channels_of c hmem
      rcases hcx with rfl | hcx
      · rw [getDeviceAddress_of_isDevice hx] at hca
        exact hne (Option.some_inj.mp hca)
      · exact hne (Option.some_inj.mp (hcx.symm.trans hca))
    · exact List.not_mem_nil

/-- Reloading another device leaves the device with its channels. -/
theorem reload_frame (hclient : interfaceId ∈ env.interfaceIds) (hx : IsDevice x)
    (ha : IsDevice a) (hne : x ≠ a) (hb : (env.backend interfaceId).Describes a d)
    {device : Device} (hdevice : s.device? a = some device)
    (hd : s.cachedDescription interfaceId a = some d)
    (h : s.reload env interfaceId x x = .ok s') :
    s'.device? a = some device ∧ s'.cachedDescription interfaceId a = some d ∧
      (s.AllCached interfaceId a d → s'.AllCached interfaceId a d) := by
  obtain ⟨s₁, hdevice₁, hdropped, -, hrefresh⟩ := reload_parts hx h
  obtain ⟨ds, hds, hcached, -, hregistered, -⟩ := refresh_spec hclient hrefresh
  obtain ⟨hnodup, hbackend⟩ := nodup_fetchDeviceDescriptions hds
  have hkept : ∀ c ∈ Device.channelAddresses a d,
      (∃ dc ∈ ds, dc.address = c ∧ s'.cachedDescription interfaceId c = some dc) ∨
        s'.cachedDescription interfaceId c = s.cachedDescription interfaceId c := by
    intro c hc
    have hfetched := cachedDescription_of_fetched hnodup hcached
      ⟨a, getDeviceAddress_of_channelAddresses ha hb.address_eq hc⟩
    by_cases hmem : ∃ dc ∈ ds, dc.address = c
    · obtain ⟨dc, hdc, hdcc⟩ := hmem
      exact .inl ⟨dc, hdc, hdcc, hfetched.1 dc hdc hdcc⟩
    · push Not at hmem
      right
      rw [hfetched.2 hmem, hdropped,
        if_neg (not_mem_droppedAddresses hx ha hne hb.address_eq hc)]
  refine ⟨hregistered a device ?_, ?_, fun hall c hc => ?_⟩
  · rw [hdevice₁, if_neg hne, hdevice]
  · rcases hkept a List.mem_cons_self with ⟨dc, hdc, hdca, hcached⟩ | h
    · have hdd := (env.backend interfaceId).eq_of_address (hbackend dc hdc) hb.device
        (hdca.trans hb.address_eq.symm)
      rw [hcached, hdd]
    · rw [h, hd]
  · rcases hkept c hc with ⟨dc, -, -, hcached⟩ | h
    · rw [hcached]
      rfl
    · rw [h]
      exact hall c hc

theorem reloads_cons {addresses : List String}
    (h : (x :: addresses).foldlM (fun s x => s.reload env interfaceId x x) s = .ok s') :
    ∃ t, s.reload env interfaceId x x = .ok t ∧
      addresses.foldlM (fun s x => s.reload env interfaceId x x) t = .ok s' := by
  rw [List.foldlM_cons] at h
  cases hx : s.reload env interfaceId x x with
  | error exc =>
    rw [hx] at h
    cases h
  | ok t =>
    rw [hx] at h
    exact ⟨t, rfl, h⟩

theorem reloads_frame (hclient : interfaceId ∈ env.interfaceIds) (ha : IsDevice a)
    (hb : (env.backend interfaceId).Describes a d) {device : Device} {addresses : List String}
    (haddresses : ∀ x ∈ addresses, IsDevice x) (hnot : a ∉ addresses)
    (hdevice : s.device? a = some device) (hd : s.cachedDescription interfaceId a = some d)
    (h : addresses.foldlM (fun s x => s.reload env interfaceId x x) s = .ok s') :
    s'.device? a = some device ∧ s'.cachedDescription interfaceId a = some d ∧
      (s.AllCached interfaceId a d → s'.AllCached interfaceId a d) := by
  induction addresses generalizing s with
  | nil =>
    cases h
    exact ⟨hdevice, hd, id⟩
  | cons x addresses ih =>
    obtain ⟨t, hx, hrest⟩ := reloads_cons h
    rw [List.mem_cons, not_or] at hnot
    obtain ⟨hdevice', hd', hkeeps⟩ := reload_frame hclient
      (haddresses x List.mem_cons_self) ha (Ne.symm hnot.1) hb hdevice hd hx
    obtain ⟨hdevice'', hd'', hkeeps'⟩ := ih
      (fun y hy => haddresses y (List.mem_cons_of_mem _ hy)) hnot.2 hdevice' hd' hrest
    exact ⟨hdevice'', hd'', hkeeps' ∘ hkeeps⟩

theorem hasInterfaceId_reloads (hclient : interfaceId ∈ env.interfaceIds)
    (hhas : s.paramsetDescriptions.hasInterfaceId interfaceId = true) {addresses : List String}
    (haddresses : ∀ x ∈ addresses, IsDevice x)
    (h : addresses.foldlM (fun s x => s.reload env interfaceId x x) s = .ok s') :
    s'.paramsetDescriptions.hasInterfaceId interfaceId = true := by
  induction addresses generalizing s with
  | nil =>
    cases h
    exact hhas
  | cons x addresses ih =>
    obtain ⟨t, hx, hrest⟩ := reloads_cons h
    obtain ⟨s₁, -, -, hhas₁, hrefresh⟩ := reload_parts (haddresses x List.mem_cons_self) hx
    obtain ⟨-, -, -, hhas₂, -⟩ := refresh_spec hclient hrefresh
    exact ih (hhas₂ _ (hhas₁ _ hhas)) (fun y hy => haddresses y (List.mem_cons_of_mem _ hy)) hrest

variable (env s) in
/-- **Device reload**: after `update_device`, `replace_device` or `readd_device` the device has all
its channels exactly if its reload keeps them. In the list of `readd_device` it is the last reload
of the device that counts, with the state before it. -/
theorem reload_complete (hclient : interfaceId ∈ env.interfaceIds)
    (hhas : s.paramsetDescriptions.hasInterfaceId interfaceId = true) (ha : IsDevice a)
    (hb : (env.backend interfaceId).Describes a d)
    (hdata : ∀ device : Device, device.address = a → env.createDataPoints device = true) :
    (∀ s', s.updateDevice env interfaceId a = .ok s' →
      (s'.Complete interfaceId a ↔ s.KeepsChannels env interfaceId a a d)) ∧
    (∀ old s', IsDevice old → s.replaceDevice env interfaceId old a = .ok s' →
      (s'.Complete interfaceId a ↔ s.KeepsChannels env interfaceId old a d)) ∧
    ∀ before after t s', (∀ x ∈ before ++ after, IsDevice x) → a ∉ after →
      s.readdDevice env interfaceId before = .ok t →
      s.readdDevice env interfaceId (before ++ a :: after) = .ok s' →
      (s'.Complete interfaceId a ↔ t.KeepsChannels env interfaceId a a d) := by
  have hone : ∀ x s', IsDevice x → s.reload env interfaceId x a = .ok s' →
      (s'.Complete interfaceId a ↔ s.KeepsChannels env interfaceId x a d) := by
    intro x s' hx h
    obtain ⟨device, hdevice, hd, hkeeps, -⟩ := reload_spec hclient hhas hx ha hb hdata h
    rw [complete_iff hdevice hd, hkeeps]
  refine ⟨fun s' h => ?_, fun old s' hold h => ?_,
    fun before after t s' haddresses hnot hbefore h => ?_⟩
  · rw [updateDevice, if_neg (not_not_intro hclient)] at h
    exact hone a s' ha h
  · rw [replaceDevice, if_neg (not_not_intro hclient)] at h
    exact hone old s' hold h
  · rw [readdDevice, if_neg (not_not_intro hclient)] at hbefore h
    rw [List.foldlM_append, hbefore] at h
    obtain ⟨t', hreload, hafter⟩ := reloads_cons h
    have hhas' := hasInterfaceId_reloads hclient hhas
      (fun x hx => haddresses x (List.mem_append_left _ hx)) hbefore
    obtain ⟨device, hdevice, hd, hkeeps, hall⟩ :=
      reload_spec hclient hhas' ha ha hb hdata hreload
    obtain ⟨hdevice', hd', hkeeps'⟩ := reloads_frame hclient ha hb
      (fun x hx => haddresses x (List.mem_append_right _ hx)) hnot hdevice hd hafter
    rw [complete_iff hdevice' hd', ← hkeeps]
    exact and_congr_right fun hchannels => iff_of_true (hkeeps' (hall rfl hchannels))
      (hall rfl hchannels)

/-! ## A switch with two channels -/

def sampleDevice : DeviceDescription where
  type := "HM-LC-Sw2-FM"
  address := "VCU0000001"
  paramsets := [.master]
  children := ["VCU0000001:1", "VCU0000001:2"]
  children_of := by decide

def sampleChannel (address : String) : DeviceDescription where
  type := "SWITCH"
  address := address
  paramsets := [.master, .values]
  children := []
  parent := some "VCU0000001"
  parentType := some "HM-LC-Sw2-FM"
  children_of := fun _ hc => absurd hc List.not_mem_nil

def sampleBackend (answers : Bool) : Backend Unit where
  descriptions := [sampleDevice, sampleChannel "VCU0000001:1", sampleChannel "VCU0000001:2"]
  nodup := by decide
  answers := fun _ => answers
  paramsetDescription := fun _ _ => .ok (some ())

def sampleEnvironment (answers : Bool) : Environment Unit where
  interfaceIds := ["CCU-BidCos-RF"]
  backend := fun _ => sampleBackend answers

/-- After the backend has announced the device. -/
def sampleCoordinator : DeviceCoordinator Unit :=
  match DeviceCoordinator.addNewDevices (sampleEnvironment true) {} "CCU-BidCos-RF"
    (sampleBackend true).descriptions .init with
  | .ok s => s
  | .error _ => {}

theorem sampleBackend_describes (answers : Bool) :
    (sampleBackend answers).Describes "VCU0000001" sampleDevice where
  address_eq := rfl
  device := List.mem_cons_self
  channels := by
    show ∀ c ∈ Device.channelAddresses "VCU0000001" sampleDevice,
      ∃ dc ∈ (sampleBackend true).descriptions, dc.address = c
    decide

theorem sampleCoordinator_complete : sampleCoordinator.Complete "CCU-BidCos-RF" "VCU0000001" := by
  have hdevice : ∃ device, sampleCoordinator.device? "VCU0000001" = some device ∧
      device.channels.keys = Device.channelAddresses "VCU0000001" sampleDevice := ⟨_, rfl, rfl⟩
  obtain ⟨device, hdevice, hkeys⟩ := hdevice
  refine ⟨device, sampleDevice, hdevice, rfl, fun c => by rw [hkeys], ?_⟩
  unfold AllCached
  decide

/-- Both channels are gone after the update, from the device and from the cache. -/
theorem update_drops_channels :
    (sampleBackend true).Describes "VCU0000001" sampleDevice ∧
      sampleCoordinator.Complete "CCU-BidCos-RF" "VCU0000001" ∧
      ∃ s', sampleCoordinator.updateDevice (sampleEnvironment true) "CCU-BidCos-RF" "VCU0000001" =
          .ok s' ∧
        (s'.device? "VCU0000001").map (·.channels.keys) = some ["VCU0000001"] ∧
        ¬ s'.Complete "CCU-BidCos-RF" "VCU0000001" := by
  refine ⟨sampleBackend_describes true, sampleCoordinator_complete, _, rfl, by decide, ?_⟩
  rintro ⟨device, d, hdevice, hd, -, hcached⟩
  cases hd
  exact absurd (hcached "VCU0000001:1" (by decide)) (by decide)

/-- Where the single read fails, all descriptions are listed, and the channels are back. -/
theorem reload_complete_listed :
    ∃ s', sampleCoordinator.updateDevice (sampleEnvironment false) "CCU-BidCos-RF" "VCU0000001" =
        .ok s' ∧ s'.Complete "CCU-BidCos-RF" "VCU0000001" := by
  refine ⟨_, rfl, ?_⟩
  refine ((reload_complete (sampleEnvironment false) sampleCoordinator List.mem_cons_self
    (by decide) (by decide) (sampleBackend_describes false) fun _ _ => rfl).1 _ rfl).mpr ⟨?_, ?_⟩
  · rintro ⟨-, hanswers⟩
    cases hanswers
  · intro hne
    exact absurd rfl hne

end DeviceCoordinator

end AioHomematic.Central
