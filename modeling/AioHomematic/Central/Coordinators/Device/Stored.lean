import AioHomematic.Central.Coordinators.Device.Reload

/-!
# What the stores hold of one device

The registry and the caches, split by device: `stored s a` is the device at the
address `a` with its descriptions and paramset descriptions. Each effect of the
coordinator changes what is stored of one device, as what was stored of it
says, and nothing of another one. Creating devices does so as well where the
others cannot be created (`Settled`).
-/

namespace AioHomematic

open Lib Support

/-- The device an address belongs to; an address without device part stands for itself. -/
def deviceOf (address : String) : String := (getDeviceAddress address).getD address

theorem deviceOf_of_isDevice {address : String} (h : IsDevice address) :
    deviceOf address = address := by
  rw [deviceOf, getDeviceAddress_of_isDevice h]
  rfl

theorem deviceOf_of_getDeviceAddress {address deviceAddress : String}
    (h : getDeviceAddress address = some deviceAddress) : deviceOf address = deviceAddress := by
  rw [deviceOf, h]
  rfl

namespace Store

/-! ## The two caches -/

namespace DeviceDescriptionRegistry

/-- The part of a cache that belongs to one device. -/
@[ext] structure Part where
  raw : List DeviceDescription
  addresses : Option (List String)
  descriptions : String → Option DeviceDescription

def part (r : DeviceDescriptionRegistry) (a : String) : Part where
  raw := r.rawDeviceDescriptions.filter (deviceOf ·.address = a)
  addresses := r.addresses.get? a
  descriptions c := if deviceOf c = a then r.getDeviceDescription c else none

variable {r r' : DeviceDescriptionRegistry} {a c : String} {d : DeviceDescription}

theorem getDeviceDescription_of_part (h : r.part a = r'.part a) (hc : deviceOf c = a) :
    r.getDeviceDescription c = r'.getDeviceDescription c := by
  simpa [part, hc] using congrFun (congrArg Part.descriptions h) c

theorem mem_getAddresses_iff : a ∈ r.getAddresses ↔ (r.addresses.get? a).isSome = true := by
  rw [getAddresses, Dict.mem_keys, Option.isSome_iff_exists]

theorem mem_getAddresses_of_part (h : r.part a = r'.part a) :
    a ∈ r.getAddresses ↔ a ∈ r'.getAddresses := by
  rw [mem_getAddresses_iff, mem_getAddresses_iff]
  exact iff_of_eq (congrArg (fun p => p.addresses.isSome = true) h)

theorem part_removeAddresses (addresses : List String) : (r.removeAddresses addresses).part a =
    { raw := (r.part a).raw.filter (·.address ∉ addresses)
      addresses := if a ∈ addresses.filter (IsDevice ·) then none else (r.part a).addresses
      descriptions := fun c => if c ∈ addresses then none else (r.part a).descriptions c } := by
  ext1
  · simp only [part, removeAddresses, List.filter_filter]
    exact List.filter_congr fun d _ => Bool.and_comm ..
  · exact Dict.get?_foldl_erase ..
  · funext c
    simp only [part, getDeviceDescription_removeAddresses]
    split <;> split <;> rfl

theorem part_removeAddresses_congr (addresses : List String) (h : r.part a = r'.part a) :
    (r.removeAddresses addresses).part a = (r'.removeAddresses addresses).part a := by
  rw [part_removeAddresses, part_removeAddresses, h]

theorem part_removeAddresses_of_ne {addresses : List String}
    (h : ∀ c ∈ addresses, deviceOf c ≠ a) : (r.removeAddresses addresses).part a = r.part a := by
  rw [part_removeAddresses]
  ext1
  · refine List.filter_eq_self.mpr fun d hd => ?_
    have hda : deviceOf d.address = a := by simpa using (List.mem_filter.mp hd).2
    simpa using fun hc => h _ hc hda
  · refine if_neg fun hmem => ?_
    obtain ⟨ha, hdevice⟩ := List.mem_filter.mp hmem
    exact h a ha (deviceOf_of_isDevice (of_decide_eq_true hdevice))
  · funext c
    dsimp only
    split
    next hc => exact (if_neg (h c hc)).symm
    · rfl

/-- The cache without an older description of the same address. -/
def cleared (r : DeviceDescriptionRegistry) (d : DeviceDescription) : DeviceDescriptionRegistry :=
  if r.deviceDescriptions.contains d.address then r.removeAddresses [d.address] else r

theorem part_cleared_congr (h : r.part a = r'.part a) (hd : deviceOf d.address = a) :
    (r.cleared d).part a = (r'.cleared d).part a := by
  have hknown :
      r.deviceDescriptions.contains d.address = r'.deviceDescriptions.contains d.address :=
    congrArg Option.isSome (getDeviceDescription_of_part h hd)
  simp only [cleared, hknown]
  split
  · exact part_removeAddresses_congr _ h
  · exact h

theorem part_cleared_of_ne (hd : deviceOf d.address ≠ a) : (r.cleared d).part a = r.part a := by
  unfold cleared
  split
  · refine part_removeAddresses_of_ne fun c hc => ?_
    rw [List.mem_singleton.mp hc]
    exact hd
  · rfl

/-- What `addDevice` adds to the part of its device. -/
def Part.add (p : Part) (d : DeviceDescription) : Part :=
  match getDeviceAddress d.address with
  | none => { p with raw := p.raw ++ [d] }
  | some deviceAddress =>
    { raw := p.raw ++ [d]
      addresses := some (((p.addresses.getD []).insert deviceAddress).insert d.address)
      descriptions := fun c => if d.address = c then some d else p.descriptions c }

theorem part_addDevice_self (hd : deviceOf d.address = a) :
    (r.addDevice d).2.part a = ((r.cleared d).part a).add d := by
  simp only [addDevice, cleared, processDeviceDescription, Part.add]
  cases hdevice : getDeviceAddress d.address with
  | none =>
    ext1
    · simp [part, hd]
    · rfl
    · rfl
  | some deviceAddress =>
    obtain rfl : deviceAddress = a := by
      rw [← hd, deviceOf_of_getDeviceAddress hdevice]
    ext1
    · simp [part, hd]
    · simp [part]
    · funext c
      simp only [part, getDeviceDescription, Dict.get?_set]
      by_cases hc : d.address = c
      · subst hc
        simp [hd]
      · simp [hc]

theorem part_addDevice_congr (h : r.part a = r'.part a) (hd : deviceOf d.address = a) :
    (r.addDevice d).2.part a = (r'.addDevice d).2.part a := by
  rw [part_addDevice_self hd, part_addDevice_self hd, part_cleared_congr h hd]

theorem part_addDevice_of_ne (hd : deviceOf d.address ≠ a) :
    (r.addDevice d).2.part a = r.part a := by
  rw [← part_cleared_of_ne (r := r) hd]
  simp only [addDevice, cleared, processDeviceDescription]
  cases hdevice : getDeviceAddress d.address with
  | none =>
    ext1
    · simp [part, hd]
    · rfl
    · rfl
  | some deviceAddress =>
    rw [deviceOf_of_getDeviceAddress hdevice] at hd
    ext1
    · simp [part, deviceOf_of_getDeviceAddress hdevice, hd]
    · exact Dict.get?_set_of_ne _ _ hd
    · funext c
      simp only [part, getDeviceDescription, Dict.get?_set]
      by_cases hc : d.address = c
      · subst hc
        simp [deviceOf_of_getDeviceAddress hdevice, hd]
      · simp [hc]

/-- Whether it raises depends on the description alone. -/
theorem addDevice_fst : (r.addDevice d).1 = (r'.addDevice d).1 := by
  simp only [addDevice, processDeviceDescription]
  cases getDeviceAddress d.address with
  | none => rfl
  | some => rfl

end DeviceDescriptionRegistry

namespace ParamsetDescriptionRegistry

variable {D : Type*} {r : ParamsetDescriptionRegistry D}

theorem getChannelParamsetDescriptions_add (interfaceId channelAddress : String)
    (paramsetKey : ParamsetKey) (description : D) (interfaceId' c : String) :
    (r.add interfaceId channelAddress paramsetKey description).getChannelParamsetDescriptions
        interfaceId' c =
      if interfaceId = interfaceId' ∧ channelAddress = c then
        (r.getChannelParamsetDescriptions interfaceId channelAddress).set paramsetKey description
      else r.getChannelParamsetDescriptions interfaceId' c := by
  simp only [getChannelParamsetDescriptions, interfaceParamsets, add, Dict.get?_set]
  by_cases hi : interfaceId = interfaceId'
  · subst hi
    by_cases hc : channelAddress = c <;> simp [Dict.get?_set, hc]
  · simp [hi]

theorem getChannelParamsetDescriptions_removeChannels (interfaceId : String)
    (channels : List String) (interfaceId' c : String) :
    (r.removeChannels interfaceId channels).getChannelParamsetDescriptions interfaceId' c =
      if interfaceId = interfaceId' ∧ c ∈ channels then .empty
      else r.getChannelParamsetDescriptions interfaceId' c := by
  unfold removeChannels
  split
  next hnone =>
    split
    next h =>
      obtain ⟨rfl, -⟩ := h
      simp [getChannelParamsetDescriptions, interfaceParamsets, hnone]
    · rfl
  next interface hsome =>
    simp only [getChannelParamsetDescriptions, interfaceParamsets, Dict.get?_set]
    by_cases hi : interfaceId = interfaceId'
    · subst hi
      simp only [if_true, Option.getD_some, Dict.get?_foldl_erase, hsome, true_and]
      split <;> rfl
    · simp [hi]

end ParamsetDescriptionRegistry

end Store

/-! ## Devices -/

namespace Model

namespace Device

variable {f g : String → Option DeviceDescription} {r r' : Store.DeviceDescriptionRegistry}

theorem createChannels_congr {addresses : List String} (h : ∀ c ∈ addresses, f c = g c)
    (channels : Dict String Channel) :
    createChannels f addresses channels = createChannels g addresses channels := by
  induction addresses generalizing channels with
  | nil => rfl
  | cons c addresses ih =>
    have hchannel : Channel.create f c = Channel.create g c := by
      unfold Channel.create
      rw [h c List.mem_cons_self]
    have hrest := fun c hc => h c (List.mem_cons_of_mem _ hc)
    simp only [createChannels, hchannel, ih hrest]

/-- The descriptions of a device decide how it is created. -/
theorem create_congr {interfaceId address : String} (haddress : IsDevice address)
    (h : r.part address = r'.part address) :
    create r interfaceId address = create r' interfaceId address := by
  have hown := Store.DeviceDescriptionRegistry.getDeviceDescription_of_part h
    (deviceOf_of_isDevice haddress)
  have hchannels : ∀ description, r.getDeviceDescription address = some description →
      createChannels r.getDeviceDescription (channelAddresses address description) .empty =
        createChannels r'.getDeviceDescription (channelAddresses address description) .empty := by
    intro description hdescription
    refine createChannels_congr (fun c hc => ?_) _
    refine Store.DeviceDescriptionRegistry.getDeviceDescription_of_part h ?_
    have hdevice := r.address_of_getDeviceDescription hdescription
    obtain rfl | hc := channelAddresses_of (hdevice.symm ▸ hc) hdevice
    · exact deviceOf_of_isDevice haddress
    · exact deviceOf_of_getDeviceAddress hc
  apply eq_of_map_fields
  rw [map_fields_create, map_fields_create, ← hown]
  cases hdescription : r.getDeviceDescription address with
  | none => rfl
  | some description => rw [Option.elim, Option.elim, hchannels description hdescription]

theorem interfaceId_of_create {interfaceId address : String} {device : Device}
    (h : create r interfaceId address = .ok device) : device.interfaceId = interfaceId := by
  unfold create at h
  split at h
  · cases h
  · split at h
    · cases h
    · cases h
      rfl

end Device

end Model

/-! ## The coordinator -/

namespace Central

open Store Model

namespace DeviceCoordinator

variable {D : Type}

/-- What the stores hold of one device. -/
@[ext] structure Stored (D : Type) where
  device : Option Device
  descriptions : String → DeviceDescriptionRegistry.Part
  paramsets : String → String → Dict ParamsetKey D

def stored (s : DeviceCoordinator D) (a : String) : Stored D where
  device := s.device? a
  descriptions i := (s.deviceDescriptions i).part a
  paramsets i c :=
    if deviceOf c = a then s.paramsetDescriptions.getChannelParamsetDescriptions i c else .empty

variable {env : Environment D} {interfaceId a x c i : String} {s t : DeviceCoordinator D}
  {d : DeviceDescription} {device : Device}

theorem device?_of_stored (h : s.stored a = t.stored a) : s.device? a = t.device? a :=
  congrArg Stored.device h

theorem part_of_stored (h : s.stored a = t.stored a) (i : String) :
    (s.deviceDescriptions i).part a = (t.deviceDescriptions i).part a :=
  congrFun (congrArg Stored.descriptions h) i

theorem getChannelParamsetDescriptions_of_stored (h : s.stored a = t.stored a)
    (hc : deviceOf c = a) (i : String) :
    s.paramsetDescriptions.getChannelParamsetDescriptions i c =
      t.paramsetDescriptions.getChannelParamsetDescriptions i c := by
  simpa [stored, hc] using congrFun (congrFun (congrArg Stored.paramsets h) i) c

/-! ### Removing -/

theorem deviceOf_of_mem_channels (hdevice : IsDevice device.address)
    (hc : c ∈ device.address :: device.channels.keys) : deviceOf c = device.address := by
  obtain rfl | hc := List.mem_cons.mp hc
  · exact deviceOf_of_isDevice hdevice
  · obtain rfl | hc := device.channels_of c hc
    · exact deviceOf_of_isDevice hdevice
    · exact deviceOf_of_getDeviceAddress hc

theorem stored_removeFromCaches_congr (device : Device) (h : s.stored a = t.stored a) :
    (s.removeFromCaches device).stored a = (t.removeFromCaches device).stored a := by
  have hdevice := device?_of_stored h
  ext1
  · exact hdevice
  · funext i
    simp only [stored, removeFromCaches]
    by_cases hi : i = device.interfaceId
    · subst hi
      rw [Function.update_self, Function.update_self]
      exact DeviceDescriptionRegistry.part_removeAddresses_congr _ (part_of_stored h _)
    · rw [Function.update_of_ne hi, Function.update_of_ne hi]
      exact part_of_stored h i
  · funext i c
    simp only [stored, removeFromCaches,
      ParamsetDescriptionRegistry.getChannelParamsetDescriptions_removeChannels]
    by_cases hc : deviceOf c = a
    · rw [getChannelParamsetDescriptions_of_stored h hc]
    · rw [if_neg hc, if_neg hc]

theorem stored_removeFromCaches_of_ne (hdevice : IsDevice device.address)
    (hne : a ≠ device.address) : (s.removeFromCaches device).stored a = s.stored a := by
  have hchannels : ∀ c ∈ device.address :: device.channels.keys, deviceOf c ≠ a := by
    intro c hc hca
    exact hne (hca.symm.trans (deviceOf_of_mem_channels hdevice hc))
  ext1
  · rfl
  · funext i
    simp only [stored, removeFromCaches]
    by_cases hi : i = device.interfaceId
    · subst hi
      rw [Function.update_self]
      exact DeviceDescriptionRegistry.part_removeAddresses_of_ne hchannels
    · rw [Function.update_of_ne hi]
  · funext i c
    simp only [stored, removeFromCaches,
      ParamsetDescriptionRegistry.getChannelParamsetDescriptions_removeChannels]
    by_cases hc : deviceOf c = a
    · rw [if_pos hc, if_pos hc, if_neg fun h => hchannels c (List.mem_cons_of_mem _ h.2) hc]
    · rw [if_neg hc, if_neg hc]

/-- The device leaves the registry. -/
def unregister (x : String) (s : DeviceCoordinator D) : DeviceCoordinator D :=
  { s with deviceRegistry := s.deviceRegistry.removeDevice x }

theorem stored_unregister : (s.unregister x).stored a =
    { s.stored a with device := if x = a then none else (s.stored a).device } := by
  ext1
  · exact Dict.get?_erase ..
  · rfl
  · rfl

/-! ### Caching -/

/-- A description alone is cached. -/
def cacheDevice (interfaceId : String) (d : DeviceDescription) (s : DeviceCoordinator D) :
    DeviceCoordinator D :=
  { s with
    deviceDescriptions := Function.update s.deviceDescriptions interfaceId
      ((s.deviceDescriptions interfaceId).addDevice d).2 }

theorem stored_cacheDevice_congr (h : s.stored a = t.stored a) (hd : deviceOf d.address = a) :
    (s.cacheDevice interfaceId d).stored a = (t.cacheDevice interfaceId d).stored a := by
  have hdevice := device?_of_stored h
  have hparamsets := congrArg Stored.paramsets h
  ext1
  · exact hdevice
  · funext i
    simp only [stored, cacheDevice]
    by_cases hi : i = interfaceId
    · subst hi
      rw [Function.update_self, Function.update_self]
      exact DeviceDescriptionRegistry.part_addDevice_congr (part_of_stored h i) hd
    · rw [Function.update_of_ne hi, Function.update_of_ne hi]
      exact part_of_stored h i
  · exact hparamsets

theorem stored_cacheDevice_of_ne (hd : deviceOf d.address ≠ a) :
    (s.cacheDevice interfaceId d).stored a = s.stored a := by
  ext1
  · rfl
  · funext i
    simp only [stored, cacheDevice]
    by_cases hi : i = interfaceId
    · subst hi
      rw [Function.update_self]
      exact DeviceDescriptionRegistry.part_addDevice_of_ne hd
    · rw [Function.update_of_ne hi]
  · rfl

/-- What was fetched for an address is cached. -/
def cacheParamsets (interfaceId address : String) (fetched : List (ParamsetKey × D))
    (s : DeviceCoordinator D) : DeviceCoordinator D :=
  { s with
    paramsetDescriptions :=
      fetched.foldl (fun r e => r.add interfaceId address e.1 e.2) s.paramsetDescriptions }

theorem fetchParamsetDescriptions_eq : s.fetchParamsetDescriptions env interfaceId d =
    ((env.backend interfaceId).getParamsetDescriptions d.address d.paramsets).map
      fun fetched => s.cacheParamsets interfaceId d.address fetched := by
  simp only [fetchParamsetDescriptions, Backend.fetchParamsetDescriptions]
  cases (env.backend interfaceId).getParamsetDescriptions d.address d.paramsets with
  | error => rfl
  | ok => rfl

theorem stored_cacheParamsets_congr (fetched : List (ParamsetKey × D))
    (h : s.stored a = t.stored a) (hx : deviceOf x = a) :
    (s.cacheParamsets interfaceId x fetched).stored a =
      (t.cacheParamsets interfaceId x fetched).stored a := by
  induction fetched generalizing s t with
  | nil => exact h
  | cons e fetched ih =>
    have hdevice := device?_of_stored h
    have hdescriptions := congrArg Stored.descriptions h
    refine ih (s := s.cacheParamsets interfaceId x [e]) (t := t.cacheParamsets interfaceId x [e]) ?_
    ext1
    · exact hdevice
    · exact hdescriptions
    · funext i c
      simp only [stored, cacheParamsets, List.foldl_cons, List.foldl_nil,
        ParamsetDescriptionRegistry.getChannelParamsetDescriptions_add]
      by_cases hc : deviceOf c = a
      · rw [getChannelParamsetDescriptions_of_stored h hc,
          getChannelParamsetDescriptions_of_stored h hx]
      · rw [if_neg hc, if_neg hc]

theorem stored_cacheParamsets_of_ne (fetched : List (ParamsetKey × D)) (hx : deviceOf x ≠ a) :
    (s.cacheParamsets interfaceId x fetched).stored a = s.stored a := by
  induction fetched generalizing s with
  | nil => rfl
  | cons e fetched ih =>
    refine (ih (s := s.cacheParamsets interfaceId x [e])).trans ?_
    ext1
    · rfl
    · rfl
    · funext i c
      simp only [stored, cacheParamsets, List.foldl_cons, List.foldl_nil,
        ParamsetDescriptionRegistry.getChannelParamsetDescriptions_add]
      by_cases hc : deviceOf c = a
      · rw [if_pos hc, if_pos hc, if_neg]
        rintro ⟨-, rfl⟩
        exact hx hc
      · rw [if_neg hc, if_neg hc]

/-! ### Creating -/

/-- The device that would be created from the cache. -/
def newDevice? (env : Environment D) (interfaceId : String) (s : DeviceCoordinator D)
    (address : String) : Option Device :=
  match Device.create (s.deviceDescriptions interfaceId) interfaceId address with
  | .error _ => none
  | .ok device => if env.createDataPoints device then some device else none

theorem newDevice?_congr (ha : IsDevice a) (h : s.stored a = t.stored a) :
    s.newDevice? env interfaceId a = t.newDevice? env interfaceId a := by
  rw [newDevice?, newDevice?, Device.create_congr ha (part_of_stored h interfaceId)]

theorem spec_of_newDevice? (h : s.newDevice? env interfaceId a = some device) :
    device.address = a ∧ device.interfaceId = interfaceId := by
  unfold newDevice? at h
  split at h
  · cases h
  next hcreate =>
    split at h
    · cases h
      exact ⟨Device.address_of_create hcreate, Device.interfaceId_of_create hcreate⟩
    · cases h

theorem newDevice?_of_none (h : s.cachedDescription interfaceId a = none) :
    s.newDevice? env interfaceId a = none := by
  rw [newDevice?, Device.create_of_none h]

theorem createDevice_eq (x : String) : createDevice env interfaceId s x =
    match s.device? x, s.newDevice? env interfaceId x with
    | none, some device => { s with deviceRegistry := s.deviceRegistry.addDevice device }
    | _, _ => s := by
  cases hdevice : s.device? x with
  | some device =>
    rw [createDevice, if_pos (hasDevice_eq x ▸ hdevice ▸ rfl)]
  | none =>
    rw [createDevice, if_neg (by rw [hasDevice_eq, hdevice]; simp), newDevice?]
    cases Device.create (s.deviceDescriptions interfaceId) interfaceId x with
    | error exc => rfl
    | ok device =>
      by_cases hdata : env.createDataPoints device = true
      · simp [hdata]
      · simp [hdata]

theorem newDevice?_createDevice (x a : String) :
    (createDevice env interfaceId s x).newDevice? env interfaceId a =
      s.newDevice? env interfaceId a := by
  rw [createDevice_eq]
  split <;> rfl

theorem newDevice?_foldl_createDevice (xs : List String) (a : String) :
    (xs.foldl (createDevice env interfaceId) s).newDevice? env interfaceId a =
      s.newDevice? env interfaceId a := by
  induction xs generalizing s with
  | nil => rfl
  | cons x xs ih => rw [List.foldl_cons, ih, newDevice?_createDevice]

/-- A device that is registered stays, another one may come. -/
def Stored.orCreate (p : Stored D) (created : Option Device) : Stored D :=
  { p with device := p.device.or created }

theorem stored_createDevice (x : String) : (createDevice env interfaceId s x).stored a =
    if a = x then (s.stored a).orCreate (s.newDevice? env interfaceId a) else s.stored a := by
  rw [createDevice_eq]
  split
  next device hnone hnew =>
    obtain ⟨haddress, -⟩ := spec_of_newDevice? hnew
    have hdevice : ({ s with deviceRegistry := s.deviceRegistry.addDevice device } :
        DeviceCoordinator D).device? a = if x = a then some device else s.device? a := by
      rw [← haddress]
      exact Dict.get?_set ..
    split
    next h =>
      subst h
      ext1
      · exact (hdevice.trans (if_pos rfl)).trans (by rw [Stored.orCreate, hnew, stored, hnone]; rfl)
      · rfl
      · rfl
    next h =>
      ext1
      · exact hdevice.trans (if_neg (Ne.symm h))
      · rfl
      · rfl
  next hother =>
    split
    next h =>
      subst h
      ext1
      · cases hdevice : s.device? a with
        | some device => simp [stored, Stored.orCreate, hdevice]
        | none =>
          cases hnew : s.newDevice? env interfaceId a with
          | none => simp [stored, Stored.orCreate]
          | some device => exact absurd hnew (hother device hdevice)
      · rfl
      · rfl
    · rfl

theorem stored_foldl_createDevice (xs : List String) :
    (xs.foldl (createDevice env interfaceId) s).stored a =
      if a ∈ xs then (s.stored a).orCreate (s.newDevice? env interfaceId a) else s.stored a := by
  induction xs generalizing s with
  | nil => simp
  | cons x xs ih =>
    rw [List.foldl_cons, ih, newDevice?_createDevice, stored_createDevice]
    by_cases hx : a = x
    · subst hx
      by_cases ha : a ∈ xs
      · simp [ha, Stored.orCreate, Option.or_assoc]
      · simp [ha]
    · simp [hx]

end DeviceCoordinator

end Central

end AioHomematic
