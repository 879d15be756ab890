import AioHomematic.Store.Persistent.Device

/-!
# The indexes of the device cache

`Indexes` says that a registry has the indexes of a list of descriptions.
Building them from the list does (`Indexes.convert`), one description at a time.
A removal keeps the indexes up with the list if it takes a device with all its
channels (`Indexes.remove`), and `add_device` does unless it replaces a known
device while channels of it are known (`Indexes.addDevice`): `_remove_device`
drops the addresses of all of them.
-/

namespace AioHomematic.Store

open Lib Support

/-- What the caches read of a device that is removed. -/
structure DeviceRemovalInfo where
  interfaceId : String
  address : String
  channels : List String
  isDevice : IsDevice address
  channels_of : ∀ c ∈ channels, getDeviceAddress c = some address

/-- The keys that `_process_loaded_content` skips. -/
def isMetadataKey (interfaceId : String) : Bool := startsWith interfaceId "_"

namespace DeviceDescriptionRegistry

/-- `_addresses[interface_id][device_address]`. -/
def channelAddresses (r : DeviceDescriptionRegistry) (deviceAddress : String) : List String :=
  (r.addresses.get? deviceAddress).getD []

/-- `_convert_device_descriptions`; what it has done before it raises stays. -/
def convertDeviceDescriptions (r : DeviceDescriptionRegistry) :
    List DeviceDescription → Except PyException Unit × DeviceDescriptionRegistry
  | [] => (.ok (), r)
  | d :: ds =>
    match r.processDeviceDescription d with
    | none => (.error { cls := .other }, r)
    | some processed => processed.convertDeviceDescriptions ds

/-- Every address has a device part. -/
def Parsed (ds : List DeviceDescription) : Prop := ∀ d ∈ ds, getDeviceAddress d.address ≠ none

instance (ds : List DeviceDescription) : Decidable (Parsed ds) :=
  inferInstanceAs (Decidable (∀ d ∈ ds, getDeviceAddress d.address ≠ none))

/-- The indexes of `ds`: the last description of an address counts. -/
structure Indexes (r : DeviceDescriptionRegistry) (ds : List DeviceDescription) : Prop where
  descriptions : ∀ a, r.getDeviceDescription a = (ds.filter (·.address = a)).getLast?
  devices : ∀ dev, dev ∈ r.getAddresses ↔ ∃ d ∈ ds, getDeviceAddress d.address = some dev
  channels : ∀ dev a, a ∈ r.channelAddresses dev ↔
    ∃ d ∈ ds, getDeviceAddress d.address = some dev ∧ (a = dev ∨ a = d.address)

structure SameIndexes (r r' : DeviceDescriptionRegistry) : Prop where
  descriptions : ∀ a, r.getDeviceDescription a = r'.getDeviceDescription a
  devices : ∀ dev, dev ∈ r.getAddresses ↔ dev ∈ r'.getAddresses
  channels : ∀ dev a, a ∈ r.channelAddresses dev ↔ a ∈ r'.channelAddresses dev

variable {r r' : DeviceDescriptionRegistry} {d : DeviceDescription} {ds : List DeviceDescription}

theorem Indexes.same (h : r.Indexes ds) (h' : r'.Indexes ds) : r.SameIndexes r' where
  descriptions a := (h.descriptions a).trans (h'.descriptions a).symm
  devices dev := (h.devices dev).trans (h'.devices dev).symm
  channels dev a := (h.channels dev a).trans (h'.channels dev a).symm

theorem SameIndexes.indexes (h : r.SameIndexes r') (h' : r'.Indexes ds) : r.Indexes ds where
  descriptions a := (h.descriptions a).trans (h'.descriptions a)
  devices dev := (h.devices dev).trans (h'.devices dev)
  channels dev a := (h.channels dev a).trans (h'.channels dev a)

theorem indexes_nil (hdesc : r.deviceDescriptions = .empty) (haddr : r.addresses = .empty) :
    r.Indexes [] where
  descriptions a := by rw [getDeviceDescription, hdesc]; rfl
  devices dev := by rw [getAddresses, haddr]; simp
  channels dev a := by rw [channelAddresses, haddr]; simp

/-! ## One description more -/

theorem rawDeviceDescriptions_of_process (h : r.processDeviceDescription d = some r') :
    r'.rawDeviceDescriptions = r.rawDeviceDescriptions := by
  unfold processDeviceDescription at h
  split at h <;> cases h
  rfl

theorem mem_channelAddresses_of_process (h : r.processDeviceDescription d = some r')
    {dev a : String} : a ∈ r'.channelAddresses dev ↔
      a ∈ r.channelAddresses dev ∨
        getDeviceAddress d.address = some dev ∧ (a = dev ∨ a = d.address) := by
  unfold processDeviceDescription at h
  split at h
  · cases h
  · rename_i deviceAddress hdevice
    cases h
    rw [hdevice, Option.some_inj]
    simp only [channelAddresses, Dict.get?_set]
    split
    · subst_vars
      simp only [Option.getD_some, List.mem_insert_iff, true_and]
      tauto
    · simp_all

theorem Indexes.process (h : r.Indexes ds) (hd : r.processDeviceDescription d = some r') :
    r'.Indexes (ds ++ [d]) where
  descriptions a := by
    rw [getDeviceDescription_of_process hd, h.descriptions, List.filter_append]
    split
    · rw [List.filter_cons_of_pos (by simpa), List.filter_nil, List.getLast?_concat]
    · rw [List.filter_cons_of_neg (by simpa), List.filter_nil, List.append_nil]
  devices dev := by
    rw [mem_getAddresses_of_process hd, h.devices]
    simp [or_comm, or_and_right, exists_or]
  channels dev a := by
    rw [mem_channelAddresses_of_process hd, h.channels]
    simp [or_and_right, exists_or]

theorem Indexes.convert {es : List DeviceDescription} (h : r.Indexes ds)
    (hok : r.convertDeviceDescriptions es = (.ok (), r')) : r'.Indexes (ds ++ es) := by
  induction es generalizing r ds with
  | nil =>
    cases hok
    rwa [List.append_nil]
  | cons d es ih =>
    unfold convertDeviceDescriptions at hok
    split at hok
    · cases hok
    next processed hd =>
      rw [← List.singleton_append, ← List.append_assoc]
      exact ih (h.process hd) hok

theorem rawDeviceDescriptions_convert (es : List DeviceDescription) :
    (r.convertDeviceDescriptions es).2.rawDeviceDescriptions = r.rawDeviceDescriptions := by
  induction es generalizing r with
  | nil => rfl
  | cons d es ih =>
    unfold convertDeviceDescriptions
    split
    · rfl
    next processed hd => rw [ih, rawDeviceDescriptions_of_process hd]

theorem convert_ok_iff {es : List DeviceDescription} :
    (r.convertDeviceDescriptions es).1 = .ok () ↔ Parsed es := by
  induction es generalizing r with
  | nil => simp [convertDeviceDescriptions, Parsed]
  | cons d es ih =>
    unfold convertDeviceDescriptions Parsed
    rw [List.forall_mem_cons]
    split
    next hnone => simp [processDeviceDescription_eq_none.mp hnone]
    next processed hd =>
      have hsome : getDeviceAddress d.address ≠ none := fun hnone => by
        rw [processDeviceDescription_eq_none.mpr hnone] at hd
        cases hd
      rw [ih]
      exact (and_iff_right hsome).symm

/-! ## A removal -/

theorem mem_channelAddresses_removeAddresses {addresses : List String} {dev a : String} :
    a ∈ (r.removeAddresses addresses).channelAddresses dev ↔
      a ∈ r.channelAddresses dev ∧ ¬ (dev ∈ addresses ∧ IsDevice dev) := by
  simp only [channelAddresses, removeAddresses, Dict.get?_foldl_erase, List.mem_filter,
    decide_eq_true_eq]
  by_cases h : dev ∈ addresses ∧ IsDevice dev
  · simp [h]
  · simp [h]

/-- A removal keeps the indexes when it takes the channels of a device together with it. -/
theorem Indexes.remove (h : r.Indexes ds) {addresses : List String}
    (hwhole : ∀ d ∈ ds, ∀ dev, getDeviceAddress d.address = some dev →
      (d.address ∈ addresses ↔ dev ∈ addresses)) :
    (r.removeAddresses addresses).Indexes (ds.filter (·.address ∉ addresses)) := by
  have hkept : ∀ {d dev}, d ∈ ds → getDeviceAddress d.address = some dev →
      ¬ (dev ∈ addresses ∧ IsDevice dev) → d ∈ ds.filter (·.address ∉ addresses) := by
    intro d dev hd hdev hkeep
    refine List.mem_filter.mpr ⟨hd, decide_eq_true fun hmem => hkeep ⟨?_, ?_⟩⟩
    · exact (hwhole d hd dev hdev).mp hmem
    · exact isDevice_of_getDeviceAddress hdev
  have hgone : ∀ {d dev}, d ∈ ds.filter (·.address ∉ addresses) →
      getDeviceAddress d.address = some dev →
      d ∈ ds ∧ ¬ (dev ∈ addresses ∧ IsDevice dev) := by
    intro d dev hd hdev
    obtain ⟨hd, hnotMem⟩ := List.mem_filter.mp hd
    exact ⟨hd, fun hmem => of_decide_eq_true hnotMem ((hwhole d hd dev hdev).mpr hmem.1)⟩
  constructor
  case descriptions =>
    intro a
    rw [getDeviceDescription_removeAddresses, h.descriptions, List.filter_filter]
    split
    next ha =>
      rw [List.filter_eq_nil_iff.mpr, List.getLast?_nil]
      rintro d -
      simp only [Bool.and_eq_true, decide_eq_true_eq, not_and]
      rintro rfl
      simpa
    next ha =>
      congr 1
      apply List.filter_congr
      intro d _
      by_cases hd : d.address = a
      · simp [hd, ha]
      · simp [hd]
  case devices =>
    intro dev
    rw [mem_getAddresses_removeAddresses, h.devices]
    constructor
    · rintro ⟨⟨d, hd, hdev⟩, hkeep⟩
      exact ⟨d, hkept hd hdev hkeep, hdev⟩
    · rintro ⟨d, hd, hdev⟩
      exact ⟨⟨d, (hgone hd hdev).1, hdev⟩, (hgone hd hdev).2⟩
  case channels =>
    intro dev a
    rw [mem_channelAddresses_removeAddresses, h.channels]
    constructor
    · rintro ⟨⟨d, hd, hdev, ha⟩, hkeep⟩
      exact ⟨d, hkept hd hdev hkeep, hdev, ha⟩
    · rintro ⟨d, hd, hdev, ha⟩
      exact ⟨⟨d, (hgone hd hdev).1, hdev, ha⟩, (hgone hd hdev).2⟩

theorem Indexes.contains_iff (h : r.Indexes ds) {a : String} :
    r.deviceDescriptions.contains a = true ↔ ∃ d ∈ ds, d.address = a := by
  rw [Dict.contains_iff, ← getDeviceDescription, h.descriptions, ne_eq, List.getLast?_eq_none_iff,
    List.filter_eq_nil_iff]
  simp

/-! ## `add_device` -/

/-- A known device is added again only while no channel of it is known. -/
def KeepsAdd (ds : List DeviceDescription) (d : DeviceDescription) : Prop :=
  getDeviceAddress d.address ≠ none ∧
    (IsDevice d.address → (∃ e ∈ ds, e.address = d.address) →
      ∀ e ∈ ds, getDeviceAddress e.address = some d.address → e.address = d.address)

instance : Decidable (KeepsAdd ds d) :=
  inferInstanceAs (Decidable (_ ∧ (_ → (∃ e ∈ ds, e.address = d.address) → _)))

theorem rawDeviceDescriptions_addDevice (h : r.Indexes r.rawDeviceDescriptions) :
    (r.addDevice d).2.rawDeviceDescriptions =
      r.rawDeviceDescriptions.filter (·.address ∉ [d.address]) ++ [d] := by
  have hcleared : (if r.deviceDescriptions.contains d.address then r.removeAddresses [d.address]
      else r).rawDeviceDescriptions = r.rawDeviceDescriptions.filter (·.address ∉ [d.address]) := by
    split
    · rfl
    next hnew =>
      refine (List.filter_eq_self.mpr fun e he => ?_).symm
      rw [h.contains_iff] at hnew
      simp only [List.mem_singleton, decide_eq_true_eq]
      exact fun heq => hnew ⟨e, he, heq⟩
  unfold addDevice
  dsimp only
  split
  · rw [hcleared]
  next processed hd => rw [rawDeviceDescriptions_of_process hd, hcleared]

/-- Where the indexes differ from those of the new content: a known device loses its channels. -/
theorem mem_channelAddresses_addDevice (hparse : getDeviceAddress d.address ≠ none)
    {dev a : String} : a ∈ (r.addDevice d).2.channelAddresses dev ↔
      getDeviceAddress d.address = some dev ∧ (a = dev ∨ a = d.address) ∨
        a ∈ r.channelAddresses dev ∧
          ¬ (r.deviceDescriptions.contains d.address = true ∧ dev = d.address ∧ IsDevice dev) := by
  have hcleared : ∀ hknown : Bool,
      a ∈ (if hknown then r.removeAddresses [d.address] else r).channelAddresses dev ↔
        a ∈ r.channelAddresses dev ∧ ¬ (hknown = true ∧ dev = d.address ∧ IsDevice dev) := by
    intro hknown
    cases hknown with
    | false => simp
    | true => simp [mem_channelAddresses_removeAddresses]
  unfold addDevice
  dsimp only
  split
  next hnone => exact absurd (processDeviceDescription_eq_none.mp hnone) hparse
  next processed hd =>
    rw [mem_channelAddresses_of_process hd, or_comm]
    exact or_congr_right (hcleared _)

theorem parsed_addDevice (h : r.Indexes r.rawDeviceDescriptions)
    (hparsed : Parsed r.rawDeviceDescriptions) :
    Parsed (r.addDevice d).2.rawDeviceDescriptions ↔ getDeviceAddress d.address ≠ none := by
  rw [rawDeviceDescriptions_addDevice h]
  constructor
  · exact fun hall => hall d (List.mem_append_right _ (List.mem_singleton_self d))
  · intro hd e he
    rcases List.mem_append.mp he with he | he
    · exact hparsed e (List.mem_filter.mp he).1
    · exact List.mem_singleton.mp he ▸ hd

theorem Indexes.addDevice (h : r.Indexes r.rawDeviceDescriptions)
    (hkeep : KeepsAdd r.rawDeviceDescriptions d) :
    (r.addDevice d).2.Indexes (r.addDevice d).2.rawDeviceDescriptions := by
  obtain ⟨hparse, hwhole⟩ := hkeep
  obtain ⟨dev₀, hdev₀⟩ := Option.ne_none_iff_exists'.mp hparse
  rw [rawDeviceDescriptions_addDevice h]
  constructor
  case descriptions =>
    intro a
    rw [getDeviceDescription_addDevice, hdev₀, h.descriptions, List.filter_append,
      List.filter_filter]
    split
    · rw [List.filter_cons_of_pos (by simpa), List.filter_nil, List.getLast?_concat]
      rfl
    next ha =>
      rw [List.filter_cons_of_neg (by simpa), List.filter_nil, List.append_nil]
      congr 1
      apply List.filter_congr
      intro e _
      by_cases he : e.address = a
      · simp [he, Ne.symm ha]
      · simp [he]
  case devices =>
    intro dev
    rw [mem_getAddresses_addDevice, h.devices]
    constructor
    · rintro (hd | ⟨e, he, hdev⟩)
      · exact ⟨d, List.mem_append_right _ (List.mem_singleton_self d), hd⟩
      · by_cases heq : e.address = d.address
        · exact ⟨d, List.mem_append_right _ (List.mem_singleton_self d), heq ▸ hdev⟩
        · exact ⟨e, List.mem_append_left _ (List.mem_filter.mpr ⟨he, by simpa⟩), hdev⟩
    · rintro ⟨e, he, hdev⟩
      rcases List.mem_append.mp he with he | he
      · exact .inr ⟨e, (List.mem_filter.mp he).1, hdev⟩
      · exact .inl (List.mem_singleton.mp he ▸ hdev)
  case channels =>
    intro dev a
    rw [mem_channelAddresses_addDevice hparse, h.channels, h.contains_iff]
    constructor
    · rintro (⟨hd, ha⟩ | ⟨⟨e, he, hdev, ha⟩, -⟩)
      · exact ⟨d, List.mem_append_right _ (List.mem_singleton_self d), hd, ha⟩
      · by_cases heq : e.address = d.address
        · exact ⟨d, List.mem_append_right _ (List.mem_singleton_self d), heq ▸ hdev, heq ▸ ha⟩
        · exact ⟨e, List.mem_append_left _ (List.mem_filter.mpr ⟨he, by simpa⟩), hdev, ha⟩
    · rintro ⟨e, he, hdev, ha⟩
      rcases List.mem_append.mp he with he | he
      · obtain ⟨he, hne⟩ := List.mem_filter.mp he
        refine .inr ⟨⟨e, he, hdev, ha⟩, ?_⟩
        rintro ⟨hknown, rfl, hdevice⟩
        exact of_decide_eq_true hne (List.mem_singleton.mpr (hwhole hdevice hknown e he hdev))
      · cases List.mem_singleton.mp he
        exact .inl ⟨hdev, ha⟩

theorem keepsAdd_of_indexes (h : r.Indexes r.rawDeviceDescriptions)
    (hparse : getDeviceAddress d.address ≠ none)
    (h' : (r.addDevice d).2.Indexes (r.addDevice d).2.rawDeviceDescriptions) :
    KeepsAdd r.rawDeviceDescriptions d := by
  refine ⟨hparse, fun hdevice hknown e he hdev => ?_⟩
  by_contra hne
  rw [rawDeviceDescriptions_addDevice h] at h'
  have hmem : e.address ∈ (r.addDevice d).2.channelAddresses d.address :=
    (h'.channels _ _).mpr
      ⟨e, List.mem_append_left _ (List.mem_filter.mpr ⟨he, by simpa⟩), hdev, .inr rfl⟩
  rw [mem_channelAddresses_addDevice hparse] at hmem
  rcases hmem with ⟨-, heq⟩ | ⟨-, hkept⟩
  · exact heq.elim hne hne
  · exact hkept ⟨h.contains_iff.mpr hknown, rfl, hdevice⟩

theorem indexes_addDevice_iff (hparsed : Parsed r.rawDeviceDescriptions)
    (h : r.Indexes r.rawDeviceDescriptions) :
    Parsed (r.addDevice d).2.rawDeviceDescriptions ∧
        (r.addDevice d).2.Indexes (r.addDevice d).2.rawDeviceDescriptions ↔
      KeepsAdd r.rawDeviceDescriptions d := by
  rw [parsed_addDevice h hparsed]
  exact ⟨fun h' => keepsAdd_of_indexes h h'.1 h'.2, fun hkeep => ⟨hkeep.1, h.addDevice hkeep⟩⟩

/-- Indexes of nothing stay so only if the address cannot be parsed. -/
theorem indexes_nil_addDevice_iff (h : r.Indexes []) :
    (r.addDevice d).2.Indexes [] ↔ getDeviceAddress d.address = none := by
  constructor
  · intro h'
    have hnone := h'.descriptions d.address
    rw [getDeviceDescription_addDevice, if_pos rfl, List.filter_nil, List.getLast?_nil] at hnone
    exact Option.map_eq_none_iff.mp hnone
  · intro hnone
    have hnew : r.deviceDescriptions.contains d.address = false := by
      rw [← Bool.not_eq_true, h.contains_iff]
      simp
    have hsame : (r.addDevice d).2.SameIndexes r := by
      simp only [addDevice, hnew, Bool.false_eq_true, if_false,
        processDeviceDescription_eq_none.mpr hnone]
      exact ⟨fun _ => rfl, fun _ => Iff.rfl, fun _ _ => Iff.rfl⟩
    exact hsame.indexes h

/-! ## `remove_device` -/

def removeDevice (r : DeviceDescriptionRegistry) (device : DeviceRemovalInfo) :
    DeviceDescriptionRegistry :=
  r.removeAddresses (device.address :: device.channels)

/-- No channel of the device is left. -/
def KeepsRemove (ds : List DeviceDescription) (device : DeviceRemovalInfo) : Prop :=
  ∀ d ∈ ds, getDeviceAddress d.address = some device.address →
    d.address ∈ device.address :: device.channels

instance (device : DeviceRemovalInfo) : Decidable (KeepsRemove ds device) :=
  inferInstanceAs (Decidable (∀ d ∈ ds, _ → _))

theorem Indexes.removeDevice (h : r.Indexes ds) {device : DeviceRemovalInfo}
    (hkeep : KeepsRemove ds device) :
    (r.removeDevice device).Indexes
      (ds.filter (·.address ∉ device.address :: device.channels)) := by
  have hof : ∀ a ∈ device.address :: device.channels,
      getDeviceAddress a = some device.address := by
    intro a ha
    rcases List.mem_cons.mp ha with rfl | ha
    · exact getDeviceAddress_of_isDevice device.isDevice
    · exact device.channels_of a ha
  refine h.remove fun d hd dev hdev => ⟨fun hmem => ?_, fun hmem => ?_⟩
  · have heq := (hof _ hmem).symm.trans hdev
    cases heq
    exact List.mem_cons_self
  · have hself := getDeviceAddress_of_isDevice (isDevice_of_getDeviceAddress hdev)
    have heq := hself.symm.trans (hof _ hmem)
    cases heq
    exact hkeep d hd hdev

theorem keepsRemove_of_indexes {device : DeviceRemovalInfo}
    (h' : (r.removeDevice device).Indexes
      (ds.filter (·.address ∉ device.address :: device.channels))) : KeepsRemove ds device := by
  intro d hd hdev
  by_contra hleft
  have hmem : device.address ∈ (r.removeDevice device).getAddresses :=
    (h'.devices _).mpr ⟨d, List.mem_filter.mpr ⟨hd, decide_eq_true hleft⟩, hdev⟩
  rw [removeDevice, mem_getAddresses_removeAddresses] at hmem
  exact hmem.2 ⟨List.mem_cons_self, device.isDevice⟩

end DeviceDescriptionRegistry

end AioHomematic.Store
