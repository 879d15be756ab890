import AioHomematic.Store.Persistent.Device

/-!
# A device and its channels

The construction of `Device` and `Channel` from the cached descriptions. The
device has a channel for its own address and one for each child; a channel
without a description is left out, and only a log line tells.
-/

namespace AioHomematic.Model

open Lib Support

structure Channel where
  address : String
  no : Option Int
  description : DeviceDescription
deriving DecidableEq

/-- A channel of a device is known by an address of this device. -/
structure Device where
  interfaceId : String
  address : String
  description : DeviceDescription
  channels : Dict String Channel
  channels_of : ∀ c ∈ channels.keys, c = address ∨ getDeviceAddress c = some address

variable {descriptions : String → Option DeviceDescription}

namespace Channel

def create (descriptions : String → Option DeviceDescription) (channelAddress : String) :
    Except PyException Channel :=
  match getChannelNo channelAddress with
  | none => .error { cls := .other }
  | some no =>
    match descriptions channelAddress with
    | none => .error { cls := .descriptionNotFoundException }
    | some description => .ok { address := channelAddress, no, description }

theorem isSome_of_create {channelAddress : String} {channel : Channel}
    (h : create descriptions channelAddress = .ok channel) :
    (descriptions channelAddress).isSome = true := by
  unfold create at h
  split at h
  · cases h
  · split at h
    · cases h
    · rename_i description hdescription
      rw [hdescription]
      rfl

theorem eq_none_of_create {channelAddress : String} {exc : PyException}
    (h : create descriptions channelAddress = .error exc)
    (hexc : exc.cls = .descriptionNotFoundException) : descriptions channelAddress = none := by
  unfold create at h
  split at h
  · cases h
    cases hexc
  · split at h
    · assumption
    · cases h

/-- A channel address without a number is the only other obstacle. -/
theorem create_ne_other {channelAddress deviceAddress : String} {exc : PyException}
    (hdevice : getDeviceAddress channelAddress = some deviceAddress)
    (h : create descriptions channelAddress = .error exc) :
    exc.cls = .descriptionNotFoundException := by
  obtain ⟨no, hno⟩ := getChannelNo_of_getDeviceAddress hdevice
  unfold create at h
  rw [hno] at h
  dsimp only at h
  split at h
  · cases h
    rfl
  · cases h

end Channel

namespace Device

/-- The channels a device of this description is to have. -/
def channelAddresses (address : String) (description : DeviceDescription) : List String :=
  address :: description.children.filter (· ≠ "")

def createChannels (descriptions : String → Option DeviceDescription) :
    List String → Dict String Channel → Except PyException (Dict String Channel)
  | [], channels => .ok channels
  | address :: addresses, channels =>
    match Channel.create descriptions address with
    | .ok channel => createChannels descriptions addresses (channels.set address channel)
    | .error exc =>
      if exc.cls = .descriptionNotFoundException then
        createChannels descriptions addresses channels
      else .error exc

theorem mem_channelAddresses {address c : String} {description : DeviceDescription} :
    c ∈ channelAddresses address description ↔
      c = address ∨ c ∈ description.children ∧ c ≠ "" := by
  simp [channelAddresses]

theorem channelAddresses_of {address c : String} {description : DeviceDescription}
    (h : c ∈ channelAddresses description.address description) (hc : description.address = address) :
    c = address ∨ getDeviceAddress c = some address := by
  subst hc
  rcases mem_channelAddresses.mp h with rfl | ⟨hchild, hne⟩
  · exact .inl rfl
  · exact .inr ((description.children_of c hchild).resolve_left hne)

/-- The channels that are created are those with a description. -/
theorem mem_keys_createChannels {addresses : List String} {channels channels' : Dict String Channel}
    (h : createChannels descriptions addresses channels = .ok channels') {c : String} :
    c ∈ channels'.keys ↔ c ∈ channels.keys ∨ c ∈ addresses ∧ (descriptions c).isSome = true := by
  induction addresses generalizing channels with
  | nil =>
    cases h
    simp
  | cons address addresses ih =>
    unfold createChannels at h
    split at h
    · rename_i channel hcreate
      rw [ih h, Dict.keys_set]
      have hsome := Channel.isSome_of_create hcreate
      split
      · rename_i hknown
        by_cases hc : c = address
        · subst hc
          exact iff_of_true (.inl hknown) (.inl hknown)
        · simp [hc]
      · rw [List.mem_append, List.mem_singleton, List.mem_cons]
        by_cases hc : c = address
        · subst hc
          simp [hsome]
        · simp [hc]
    · rename_i exc hcreate
      split at h
      · rename_i hexc
        rw [ih h, List.mem_cons]
        have hnone := Channel.eq_none_of_create hcreate hexc
        by_cases hc : c = address
        · subst hc
          simp [hnone]
        · simp [hc]
      · cases h

theorem createChannels_ok (descriptions : String → Option DeviceDescription)
    {addresses : List String}
    (h : ∀ c ∈ addresses, ∃ deviceAddress, getDeviceAddress c = some deviceAddress)
    (channels : Dict String Channel) :
    ∃ channels', createChannels descriptions addresses channels = .ok channels' := by
  induction addresses generalizing channels with
  | nil => exact ⟨channels, rfl⟩
  | cons address addresses ih =>
    have hrest := ih fun c hc => h c (List.mem_cons_of_mem _ hc)
    obtain ⟨deviceAddress, hdevice⟩ := h address List.mem_cons_self
    unfold createChannels
    split
    · exact hrest _
    · rename_i exc hcreate
      rw [if_pos (Channel.create_ne_other hdevice hcreate)]
      exact hrest _

/-- `Device.__init__` over the cache of the interface. -/
def create (r : Store.DeviceDescriptionRegistry) (interfaceId address : String) :
    Except PyException Device :=
  match hdescription : r.getDeviceDescription address with
  | none => .error { cls := .descriptionNotFoundException }
  | some description =>
    match hchannels :
        createChannels r.getDeviceDescription (channelAddresses address description) .empty with
    | .error exc => .error exc
    | .ok channels => .ok
      { interfaceId, address, description, channels
        channels_of := fun c hc => by
          have hmem := (mem_keys_createChannels hchannels).mp hc
          rw [Dict.keys_empty] at hmem
          have haddress := r.address_of_getDeviceDescription hdescription
          subst haddress
          exact channelAddresses_of (hmem.resolve_left List.not_mem_nil).1 rfl }

/-- The data of a device. -/
def fields (d : Device) : String × String × DeviceDescription × Dict String Channel :=
  (d.interfaceId, d.address, d.description, d.channels)

theorem eq_of_map_fields {x y : Except PyException Device} (h : x.map fields = y.map fields) :
    x = y := by
  rcases x with exc | ⟨_, _, _, _, _⟩ <;> rcases y with exc' | ⟨_, _, _, _, _⟩ <;>
    simp_all [Except.map, fields]

theorem map_fields_create (r : Store.DeviceDescriptionRegistry) (interfaceId address : String) :
    (create r interfaceId address).map fields =
      (r.getDeviceDescription address).elim (.error { cls := .descriptionNotFoundException })
        fun description => (createChannels r.getDeviceDescription
          (channelAddresses address description) .empty).map
            fun channels => (interfaceId, address, description, channels) := by
  unfold create
  split
  next hnone =>
    rw [hnone]
    rfl
  next description hsome =>
    split
    next herror =>
      rw [hsome, Option.elim, herror]
      rfl
    next hok =>
      simp only [Except.map, fields]
      rw [hsome, Option.elim, hok]

theorem create_of_none {r : Store.DeviceDescriptionRegistry} {interfaceId address : String}
    (h : r.getDeviceDescription address = none) :
    create r interfaceId address = .error { cls := .descriptionNotFoundException } := by
  apply eq_of_map_fields
  rw [map_fields_create, h]
  rfl

/-- A device whose description is cached has a channel for each of its addresses that has one. -/
theorem create_ok {r : Store.DeviceDescriptionRegistry} (interfaceId : String) {address : String}
    {description : DeviceDescription} (hdevice : IsDevice address)
    (hdescription : r.getDeviceDescription address = some description) :
    ∃ device, create r interfaceId address = .ok device ∧ device.interfaceId = interfaceId ∧
      device.address = address ∧ device.description = description ∧
      ∀ c, c ∈ device.channels.keys ↔
        c ∈ channelAddresses address description ∧ (r.getDeviceDescription c).isSome = true := by
  have haddress := r.address_of_getDeviceDescription hdescription
  have hparse : ∀ c ∈ channelAddresses address description, ∃ d, getDeviceAddress c = some d := by
    intro c hc
    subst haddress
    rcases channelAddresses_of hc rfl with rfl | h
    · exact ⟨_, getDeviceAddress_of_isDevice hdevice⟩
    · exact ⟨_, h⟩
  obtain ⟨channels, hchannels⟩ := createChannels_ok r.getDeviceDescription hparse .empty
  have hfields := map_fields_create r interfaceId address
  rw [hdescription, Option.elim, hchannels] at hfields
  cases hcreate : create r interfaceId address with
  | error exc =>
    rw [hcreate] at hfields
    cases hfields
  | ok device =>
    rw [hcreate] at hfields
    cases hfields
    refine ⟨device, rfl, rfl, rfl, rfl, fun c => ?_⟩
    rw [mem_keys_createChannels hchannels, Dict.keys_empty]
    exact or_iff_right List.not_mem_nil

theorem address_of_create {r : Store.DeviceDescriptionRegistry} {interfaceId address : String}
    {device : Device} (h : create r interfaceId address = .ok device) :
    device.address = address := by
  unfold create at h
  split at h
  · cases h
  · split at h
    · cases h
    · cases h
      rfl

end Device

end AioHomematic.Model
