import AioHomematic.Const
import AioHomematic.Exceptions
import AioHomematic.Lib.Dict
import AioHomematic.Support.Address

/-!
# The cache of device descriptions

`DeviceDescriptionRegistry`, as one interface sees it: the list that is saved,
the descriptions by address and the addresses by device. A description is taken
after `normalize_device_description`; the channels it lists belong to its own
device.
-/

namespace AioHomematic

open Lib Support

/-- `DeviceDescription` of `const.py`. -/
structure DeviceDescription where
  type : String
  address : String
  paramsets : List ParamsetKey
  children : List String
  parent : Option String := none
  parentType : Option String := none
  /-- A channel address is the address of its device, a separator and a number; some firmwares send
  empty entries. -/
  children_of : ∀ c ∈ children, c = "" ∨ getDeviceAddress c = some address
deriving DecidableEq

namespace DeviceDescription

/-- `PARENT` of a channel, `ADDRESS` of a device. -/
def parentOrAddress (d : DeviceDescription) : String :=
  match d.parent with
  | some parent => if parent ≠ "" then parent else d.address
  | none => d.address

end DeviceDescription

namespace Store

structure DeviceDescriptionRegistry where
  rawDeviceDescriptions : List DeviceDescription
  addresses : Dict String (List String)
  deviceDescriptions : Dict String DeviceDescription
  keyed : ∀ address d, deviceDescriptions.get? address = some d → d.address = address

namespace DeviceDescriptionRegistry

theorem keyed_empty (address : String) (d : DeviceDescription)
    (h : (Dict.empty : Dict String DeviceDescription).get? address = some d) :
    d.address = address := by
  cases h

variable (r : DeviceDescriptionRegistry)

def empty : DeviceDescriptionRegistry where
  rawDeviceDescriptions := []
  addresses := .empty
  deviceDescriptions := .empty
  keyed := keyed_empty

/-- `get_addresses`: the devices, not their channels. -/
def getAddresses : List String := r.addresses.keys

/-- `get_device_description`, `none` where it raises. -/
def getDeviceDescription (address : String) : Option DeviceDescription :=
  r.deviceDescriptions.get? address

theorem address_of_getDeviceDescription {address : String} {d : DeviceDescription}
    (h : r.getDeviceDescription address = some d) : d.address = address := r.keyed address d h

/-- `_remove_device`. -/
def removeAddresses (addressesToRemove : List String) : DeviceDescriptionRegistry where
  rawDeviceDescriptions := r.rawDeviceDescriptions.filter (·.address ∉ addressesToRemove)
  addresses := (addressesToRemove.filter (IsDevice ·)).foldl Dict.erase r.addresses
  deviceDescriptions := addressesToRemove.foldl Dict.erase r.deviceDescriptions
  keyed := fun address d h => by
    rw [Dict.get?_foldl_erase] at h
    split at h
    · cases h
    · exact r.keyed address d h

/-- `_process_device_description`, `none` where the address has no device part. -/
def processDeviceDescription (d : DeviceDescription) : Option DeviceDescriptionRegistry :=
  match getDeviceAddress d.address with
  | none => none
  | some deviceAddress => some
      { r with
        addresses := r.addresses.set deviceAddress
          ((((r.addresses.get? deviceAddress).getD []).insert deviceAddress).insert d.address)
        deviceDescriptions := r.deviceDescriptions.set d.address d
        keyed := fun address d' h => by
          rw [Dict.get?_set] at h
          split at h
          · cases h
            assumption
          · exact r.keyed address d' h }

/-- `add_device`; what it has done before it raises stays. -/
def addDevice (d : DeviceDescription) : Except PyException Unit × DeviceDescriptionRegistry :=
  let known := r.deviceDescriptions.contains d.address
  let cleared := if known then r.removeAddresses [d.address] else r
  let appended :=
    { cleared with rawDeviceDescriptions := cleared.rawDeviceDescriptions ++ [d] }
  match appended.processDeviceDescription d with
  | none => (.error { cls := .other }, appended)
  | some processed => (.ok (), processed)

/-! ## Lemmas -/

theorem getDeviceDescription_removeAddresses (addresses : List String) (address : String) :
    (r.removeAddresses addresses).getDeviceDescription address =
      if address ∈ addresses then none else r.getDeviceDescription address :=
  Dict.get?_foldl_erase ..

theorem mem_getAddresses_removeAddresses {addresses : List String} {address : String} :
    address ∈ (r.removeAddresses addresses).getAddresses ↔
      address ∈ r.getAddresses ∧ ¬ (address ∈ addresses ∧ IsDevice address) := by
  simp only [getAddresses, removeAddresses, Dict.mem_keys, Dict.get?_foldl_erase,
    List.mem_filter, decide_eq_true_eq]
  by_cases h : address ∈ addresses ∧ IsDevice address
  · simp [h]
  · simp [h]

variable {r}

theorem processDeviceDescription_eq_none {d : DeviceDescription} :
    r.processDeviceDescription d = none ↔ getDeviceAddress d.address = none := by
  unfold processDeviceDescription
  split <;> simp_all

theorem getDeviceDescription_of_process {d : DeviceDescription} {r' : DeviceDescriptionRegistry}
    (h : r.processDeviceDescription d = some r') (address : String) :
    r'.getDeviceDescription address =
      if d.address = address then some d else r.getDeviceDescription address := by
  unfold processDeviceDescription at h
  split at h
  · cases h
  · cases h
    exact Dict.get?_set ..

theorem mem_getAddresses_of_process {d : DeviceDescription} {r' : DeviceDescriptionRegistry}
    (h : r.processDeviceDescription d = some r') {address : String} :
    address ∈ r'.getAddresses ↔
      getDeviceAddress d.address = some address ∨ address ∈ r.getAddresses := by
  unfold processDeviceDescription at h
  split at h
  · cases h
  · rename_i deviceAddress hdevice
    cases h
    rw [hdevice, Option.some_inj, getAddresses, Dict.keys_set]
    split
    · constructor
      · exact .inr
      · rintro (rfl | h)
        · assumption
        · exact h
    · rw [List.mem_append, List.mem_singleton, or_comm, eq_comm]
      rfl

/-- The cache without an older description of the same address. -/
theorem getDeviceDescription_cleared (d : DeviceDescription) (address : String) :
    (if r.deviceDescriptions.contains d.address then r.removeAddresses [d.address]
      else r).getDeviceDescription address =
      if d.address = address then none else r.getDeviceDescription address := by
  split
  · rw [getDeviceDescription_removeAddresses]
    simp only [List.mem_singleton, eq_comm]
  · rename_i hknown
    split
    · rename_i heq
      subst heq
      simpa [getDeviceDescription, Dict.contains] using hknown
    · rfl

theorem getDeviceDescription_addDevice (d : DeviceDescription) (address : String) :
    (r.addDevice d).2.getDeviceDescription address =
      if d.address = address then (getDeviceAddress d.address).map fun _ => d
      else r.getDeviceDescription address := by
  have hcleared := getDeviceDescription_cleared (r := r) d address
  unfold addDevice
  dsimp only
  split
  · rename_i hnone
    rw [processDeviceDescription_eq_none.mp hnone]
    exact hcleared
  · rename_i processed hsome
    obtain ⟨deviceAddress, hdevice⟩ : ∃ a, getDeviceAddress d.address = some a := by
      rw [← Option.ne_none_iff_exists', ne_eq, ← processDeviceDescription_eq_none, hsome]
      exact Option.some_ne_none _
    rw [getDeviceDescription_of_process hsome, hdevice]
    split
    · rfl
    · rename_i hne
      rw [if_neg hne] at hcleared
      exact hcleared

theorem mem_getAddresses_addDevice (d : DeviceDescription) {address : String} :
    address ∈ (r.addDevice d).2.getAddresses ↔
      getDeviceAddress d.address = some address ∨ address ∈ r.getAddresses := by
  have hcleared : ∀ hknown : Bool,
      address ∈ (if hknown then r.removeAddresses [d.address] else r).getAddresses ↔
        address ∈ r.getAddresses ∧ ¬ (hknown = true ∧ address = d.address ∧ IsDevice address) := by
    intro hknown
    cases hknown with
    | false => simp
    | true => simp [mem_getAddresses_removeAddresses]
  have hdevice : address = d.address ∧ IsDevice address →
      getDeviceAddress d.address = some address := fun h =>
    h.1 ▸ getDeviceAddress_of_isDevice h.2
  unfold addDevice
  dsimp only
  split
  · rename_i hnone
    have hparse := processDeviceDescription_eq_none.mp hnone
    rw [hparse] at hdevice ⊢
    refine (hcleared _).trans ⟨fun h => .inr h.1, ?_⟩
    rintro (h | h)
    · cases h
    · exact ⟨h, fun hd => by cases hdevice hd.2⟩
  · rename_i processed hsome
    rw [mem_getAddresses_of_process hsome]
    refine (or_congr_right (hcleared _)).trans ⟨?_, ?_⟩
    · rintro (h | h)
      · exact .inl h
      · exact .inr h.1
    · rintro (h | h)
      · exact .inl h
      · by_cases hd : address = d.address ∧ IsDevice address
        · exact .inl (hdevice hd)
        · exact .inr ⟨h, fun hd' => hd hd'.2⟩

/-! ### Adding several descriptions -/

theorem getDeviceDescription_addDevices_of_notMem {ds : List DeviceDescription} {address : String}
    (h : address ∉ ds.map (·.address)) :
    (ds.foldl (fun r d => (r.addDevice d).2) r).getDeviceDescription address =
      r.getDeviceDescription address := by
  induction ds generalizing r with
  | nil => rfl
  | cons d ds ih =>
    rw [List.map_cons, List.mem_cons, not_or] at h
    rw [List.foldl_cons, ih h.2, getDeviceDescription_addDevice, if_neg (Ne.symm h.1)]

theorem getDeviceDescription_addDevices_of_mem {ds : List DeviceDescription}
    {d : DeviceDescription} {deviceAddress : String} (hnodup : (ds.map (·.address)).Nodup)
    (hd : d ∈ ds) (hdevice : getDeviceAddress d.address = some deviceAddress) :
    (ds.foldl (fun r d => (r.addDevice d).2) r).getDeviceDescription d.address = some d := by
  induction ds generalizing r with
  | nil => cases hd
  | cons d₀ ds ih =>
    obtain ⟨hnotMem, hnodup⟩ := List.nodup_cons.mp hnodup
    rw [List.foldl_cons]
    rcases List.mem_cons.mp hd with rfl | hd
    · rw [getDeviceDescription_addDevices_of_notMem hnotMem, getDeviceDescription_addDevice,
        if_pos rfl, hdevice, Option.map_some]
    · exact ih hnodup hd

theorem mem_getAddresses_addDevices {ds : List DeviceDescription} {address : String} :
    address ∈ (ds.foldl (fun r d => (r.addDevice d).2) r).getAddresses ↔
      (∃ d ∈ ds, getDeviceAddress d.address = some address) ∨ address ∈ r.getAddresses := by
  induction ds generalizing r with
  | nil => simp
  | cons d ds ih =>
    rw [List.foldl_cons, ih, mem_getAddresses_addDevice]
    simp only [List.exists_mem_cons_iff]
    exact or_left_comm.trans or_assoc.symm

end DeviceDescriptionRegistry

end Store

end AioHomematic
