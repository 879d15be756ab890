import AioHomematic.Model.Device
import AioHomematic.Store.Persistent.Paramset
import Mathlib.Logic.Function.Basic

/-!
# The device coordinator

`DeviceCoordinator` with the device registry and the two description caches it
works on. A call runs to its end here, as one that no other call interleaves.
`Backend` is what the client of an interface gets from its backend: the
descriptions, where a single read may fail (the client then returns `None`),
and the paramset descriptions. Saving the caches and publishing events, which
leave the three stores as they are, are not modelled.
-/

namespace AioHomematic.Central

open Lib Support Store Model

inductive SourceOfDeviceCreation where
  | cache
  | init
  | manual
  | new
  | refresh
deriving DecidableEq

structure Backend (D : Type) where
  descriptions : List DeviceDescription
  nodup : (descriptions.map (·.address)).Nodup
  /-- The single read of this address succeeds. -/
  answers : String → Bool := fun _ => true
  listDevicesError : Option PyException := none
  /-- What `_get_paramset_description` of the client gives: nothing where the backend fails with a
  `BaseHomematicException`. An error is what leaves the loop over the keys at this one, such as the
  `ValueError` for a key that `ParamsetKey` does not have. -/
  paramsetDescription : String → ParamsetKey → Except PyException (Option D)

/-- `createDataPoints` tells whether the data points of a new device are created without an
exception. -/
structure Environment (D : Type) where
  interfaceIds : List String
  backend : String → Backend D
  delayNewDeviceCreation : Bool := false
  createDataPoints : Device → Bool := fun _ => true

/-! ## The device registry -/

structure DeviceRegistry where
  devices : Dict String Device
  keyed : ∀ address device, devices.get? address = some device → device.address = address

namespace DeviceRegistry

def empty : DeviceRegistry where
  devices := .empty
  keyed := by simp

def hasDevice (r : DeviceRegistry) (address : String) : Bool := r.devices.contains address

def getDeviceAddresses (r : DeviceRegistry) : List String := r.devices.keys

def addDevice (r : DeviceRegistry) (device : Device) : DeviceRegistry where
  devices := r.devices.set device.address device
  keyed := fun address device' h => by
    rw [Dict.get?_set] at h
    split at h
    · cases h
      assumption
    · exact r.keyed address device' h

def removeDevice (r : DeviceRegistry) (deviceAddress : String) : DeviceRegistry where
  devices := r.devices.erase deviceAddress
  keyed := fun address device h => by
    rw [Dict.get?_erase] at h
    split at h
    · cases h
    · exact r.keyed address device h

end DeviceRegistry

/-! ## What the client fetches -/

theorem find?_address_of_mem {ds : List DeviceDescription}
    (hnodup : (ds.map (·.address)).Nodup) {d : DeviceDescription} (hd : d ∈ ds) :
    ds.find? (·.address = d.address) = some d := by
  have hsome : (ds.find? (·.address = d.address)).isSome = true :=
    List.find?_isSome.mpr ⟨d, hd, by simp⟩
  obtain ⟨d', hd'⟩ := Option.isSome_iff_exists.mp hsome
  rw [hd', List.inj_on_of_nodup_map hnodup (List.mem_of_find?_eq_some hd') hd
    (by simpa using List.find?_some hd')]

namespace Backend

variable {D : Type} (b : Backend D)

/-- `get_device_description` of the client. -/
def getDeviceDescription (address : String) : Option DeviceDescription :=
  if b.answers address then b.descriptions.find? (·.address = address) else none

def listDevices : Except PyException (List DeviceDescription) :=
  match b.listDevicesError with
  | none => .ok b.descriptions
  | some exc => .error exc

/-- `get_paramset_descriptions`; paramsets of links are not fetched. -/
def getParamsetDescriptions (address : String) :
    List ParamsetKey → Except PyException (List (ParamsetKey × D))
  | [] => .ok []
  | key :: keys =>
    if key = .link then getParamsetDescriptions address keys
    else
      match b.paramsetDescription address key, getParamsetDescriptions address keys with
      | .error exc, _ => .error exc
      | .ok _, .error exc => .error exc
      | .ok none, .ok fetched => .ok fetched
      | .ok (some description), .ok fetched => .ok ((key, description) :: fetched)

/-- `fetch_paramset_descriptions`: nothing is added where a fetch raises. -/
def fetchParamsetDescriptions (interfaceId : String) (d : DeviceDescription)
    (r : ParamsetDescriptionRegistry D) :
    Except PyException Unit × ParamsetDescriptionRegistry D :=
  match b.getParamsetDescriptions d.address d.paramsets with
  | .error exc => (.error exc, r)
  | .ok fetched =>
    (.ok (), fetched.foldl (fun r e => r.add interfaceId d.address e.1 e.2) r)

theorem eq_of_address {d d' : DeviceDescription} (hd : d ∈ b.descriptions)
    (hd' : d' ∈ b.descriptions) (h : d.address = d'.address) : d = d' :=
  List.inj_on_of_nodup_map b.nodup hd hd' h

theorem getDeviceDescription_of_mem {d : DeviceDescription} (hd : d ∈ b.descriptions) :
    b.getDeviceDescription d.address = if b.answers d.address then some d else none := by
  unfold getDeviceDescription
  rw [find?_address_of_mem b.nodup hd]

theorem hasInterfaceId_fetchParamsetDescriptions {interfaceId interfaceId' : String}
    {d : DeviceDescription} {r : ParamsetDescriptionRegistry D}
    (h : r.hasInterfaceId interfaceId = true) :
    (b.fetchParamsetDescriptions interfaceId' d r).2.hasInterfaceId interfaceId = true := by
  unfold fetchParamsetDescriptions
  split
  · exact h
  · rename_i fetched hfetched
    clear hfetched
    induction fetched generalizing r with
    | nil => exact h
    | cons e fetched ih => exact ih (r.hasInterfaceId_add h)

end Backend

/-! ## The coordinator -/

structure DeviceCoordinator (D : Type) where
  deviceDescriptions : String → DeviceDescriptionRegistry := fun _ => .empty
  paramsetDescriptions : ParamsetDescriptionRegistry D := {}
  deviceRegistry : DeviceRegistry := .empty
  delayedDeviceDescriptions : String → Dict String (List DeviceDescription) := fun _ => .empty

namespace DeviceCoordinator

variable {D : Type} (env : Environment D) (s : DeviceCoordinator D)

/-- `get_device`; outer `none` is the `ValueError` of an address without device part. -/
def getDevice (address : String) : Option (Option Device) :=
  (getDeviceAddress address).map s.deviceRegistry.devices.get?

/-! ### Removing a device -/

/-- `remove_device` of both caches. -/
def removeFromCaches (device : Device) : DeviceCoordinator D :=
  { s with
    deviceDescriptions := Function.update s.deviceDescriptions device.interfaceId
      ((s.deviceDescriptions device.interfaceId).removeAddresses
        (device.address :: device.channels.keys))
    paramsetDescriptions :=
      s.paramsetDescriptions.removeChannels device.interfaceId device.channels.keys }

/-- The event of the removal clears the caches of the device as well. -/
def removeDevice (device : Device) : DeviceCoordinator D :=
  if s.deviceRegistry.hasDevice device.address then
    let cleared := s.removeFromCaches device
    { cleared with deviceRegistry := cleared.deviceRegistry.removeDevice device.address }
  else s

/-- The first part of `update_device`, `readd_device` and `replace_device`. -/
def dropDevice (address : String) : Except PyException (DeviceCoordinator D) :=
  match s.getDevice address with
  | none => .error { cls := .other }
  | some none => .ok s
  | some (some device) => .ok ((s.removeFromCaches device).removeDevice device)

/-! ### Creating devices -/

def checkForNewDeviceAddresses (interfaceId : String) : List String :=
  if s.paramsetDescriptions.hasInterfaceId interfaceId then
    (s.deviceDescriptions interfaceId).getAddresses.filter
      (· ∉ s.deviceRegistry.getDeviceAddresses)
  else []

/-- The body of the loop of `create_devices`: an exception skips this device. -/
def createDevice (interfaceId : String) (s : DeviceCoordinator D) (deviceAddress : String) :
    DeviceCoordinator D :=
  if s.deviceRegistry.hasDevice deviceAddress then s
  else
    match Device.create (s.deviceDescriptions interfaceId) interfaceId deviceAddress with
    | .error _ => s
    | .ok device =>
      if env.createDataPoints device then
        { s with deviceRegistry := s.deviceRegistry.addDevice device }
      else s

def createDevices (interfaceId : String) (deviceAddresses : List String) :
    Except PyException (DeviceCoordinator D) :=
  if env.interfaceIds = [] then .error { cls := .aioHomematicException }
  else .ok (deviceAddresses.foldl (createDevice env interfaceId) s)

def createNewDevices (interfaceId : String) : Except PyException (DeviceCoordinator D) :=
  let newDeviceAddresses := s.checkForNewDeviceAddresses interfaceId
  if newDeviceAddresses = [] then .ok s else s.createDevices env interfaceId newDeviceAddresses

/-! ### Adding descriptions -/

def identifyNewDeviceDescriptions (interfaceId : String)
    (deviceDescriptions : List DeviceDescription) : List DeviceDescription :=
  deviceDescriptions.filter
    (·.parentOrAddress ∉ (s.deviceDescriptions interfaceId).getAddresses)

def identifyMissingDeviceDescriptions (interfaceId : String)
    (deviceDescriptions : List DeviceDescription) : List DeviceDescription :=
  deviceDescriptions.filter (·.address ∉ (s.deviceDescriptions interfaceId).getAddresses)

def identifyDevicesMissingParamsets (interfaceId : String)
    (deviceDescriptions : List DeviceDescription) : List DeviceDescription :=
  deviceDescriptions.filter fun d =>
    ¬ ∀ key ∈ d.paramsets, key = .link ∨
      key ∈ (s.paramsetDescriptions.getChannelParamsetDescriptions interfaceId d.address).keys

/-- The descriptions to cache, each address once, the last one of it where the first one stood. -/
def descriptionsToCache (source : SourceOfDeviceCreation) (interfaceId : String)
    (deviceDescriptions : List DeviceDescription) : List DeviceDescription :=
  if source = .refresh then deviceDescriptions
  else
    ((s.identifyNewDeviceDescriptions interfaceId deviceDescriptions ++
        s.identifyMissingDeviceDescriptions interfaceId deviceDescriptions).foldl
      (fun byAddress d => byAddress.set d.address d) Dict.empty).values

/-- `_store_delayed_device_descriptions`. -/
def storeDelayedDeviceDescriptions (interfaceId : String)
    (deviceDescriptions : List DeviceDescription) : DeviceCoordinator D :=
  { s with
    delayedDeviceDescriptions := Function.update s.delayedDeviceDescriptions interfaceId
      (deviceDescriptions.foldl
        (fun delayed d => delayed.set d.parentOrAddress
          ((delayed.get? d.parentOrAddress).getD [] ++ [d]))
        (s.delayedDeviceDescriptions interfaceId)) }

def fetchParamsetDescriptions (interfaceId : String) (s : DeviceCoordinator D)
    (d : DeviceDescription) : Except PyException (DeviceCoordinator D) :=
  let (result, fetched) :=
    (env.backend interfaceId).fetchParamsetDescriptions interfaceId d s.paramsetDescriptions
  result.map fun _ => { s with paramsetDescriptions := fetched }

/-- The body of the caching loop: an exception is logged, and the next description follows. -/
def cacheDescription (source : SourceOfDeviceCreation) (interfaceId : String)
    (newDeviceDescriptions : List DeviceDescription) (s : DeviceCoordinator D)
    (d : DeviceDescription) : DeviceCoordinator D :=
  let (result, descriptions) := (s.deviceDescriptions interfaceId).addDevice d
  let added :=
    { s with
      deviceDescriptions := Function.update s.deviceDescriptions interfaceId descriptions }
  match result with
  | .error _ => added
  | .ok _ =>
    if source ≠ .refresh ∨ d ∈ newDeviceDescriptions then
      match added.fetchParamsetDescriptions env interfaceId d with
      | .error _ => added
      | .ok fetched => fetched
    else added

/-- The branch of `_add_new_devices` without descriptions to cache. -/
def addMissingParamsets (interfaceId : String) (deviceDescriptions : List DeviceDescription) :
    Except PyException (DeviceCoordinator D) :=
  match s.identifyDevicesMissingParamsets interfaceId deviceDescriptions with
  | [] => .ok s
  | missing => do
    let fetched ← missing.foldlM (fetchParamsetDescriptions env interfaceId) s
    if fetched.identifyDevicesMissingParamsets interfaceId missing = [] then
      fetched.createNewDevices env interfaceId
    else pure fetched

/-- `_add_new_devices`. -/
def addNewDevices (interfaceId : String) (deviceDescriptions : List DeviceDescription)
    (source : SourceOfDeviceCreation) : Except PyException (DeviceCoordinator D) :=
  if deviceDescriptions = [] ∨ interfaceId ∉ env.interfaceIds then .ok s
  else
    let newDeviceDescriptions := s.identifyNewDeviceDescriptions interfaceId deviceDescriptions
    let toCache := s.descriptionsToCache source interfaceId deviceDescriptions
    if toCache = [] then s.addMissingParamsets env interfaceId deviceDescriptions
    else if env.delayNewDeviceCreation = true ∧ source = .new then
      .ok (s.storeDelayedDeviceDescriptions interfaceId newDeviceDescriptions)
    else
      (toCache.foldl (cacheDescription env source interfaceId newDeviceDescriptions)
        s).createNewDevices env interfaceId

/-! ### Refreshing -/

/-- The descriptions a refresh fetches: a single one, or those of all devices. -/
def fetchDeviceDescriptions (interfaceId : String) (deviceAddress : Option String) :
    Except PyException (List DeviceDescription) :=
  match deviceAddress.filter (· ≠ "") |>.bind (env.backend interfaceId).getDeviceDescription with
  | some d => .ok [d]
  | none => (env.backend interfaceId).listDevices

def refreshDeviceDescriptionsAndCreateMissingDevices (interfaceId : String)
    (refreshOnlyExisting : Bool) (deviceAddress : Option String) :
    Except PyException (DeviceCoordinator D) := do
  let deviceDescriptions ← fetchDeviceDescriptions env interfaceId deviceAddress
  let existing := deviceDescriptions.filter fun d =>
    ((s.deviceDescriptions interfaceId).getDeviceDescription d.address).isSome
  let deviceDescriptions :=
    if refreshOnlyExisting ∧ existing ≠ [] then existing else deviceDescriptions
  s.addNewDevices env interfaceId deviceDescriptions .refresh

/-! ### Callbacks of the backend -/

/-- The device is dropped, fetched and created again. -/
def reload (interfaceId dropped fetched : String) (s : DeviceCoordinator D) :
    Except PyException (DeviceCoordinator D) := do
  let s ← s.dropDevice dropped
  s.refreshDeviceDescriptionsAndCreateMissingDevices env interfaceId false (some fetched)

def updateDevice (interfaceId deviceAddress : String) : Except PyException (DeviceCoordinator D) :=
  if interfaceId ∉ env.interfaceIds then .ok s
  else s.reload env interfaceId deviceAddress deviceAddress

def readdDevice (interfaceId : String) (deviceAddresses : List String) :
    Except PyException (DeviceCoordinator D) :=
  if interfaceId ∉ env.interfaceIds then .ok s
  else deviceAddresses.foldlM (fun s a => s.reload env interfaceId a a) s

def replaceDevice (interfaceId oldDeviceAddress newDeviceAddress : String) :
    Except PyException (DeviceCoordinator D) :=
  if interfaceId ∉ env.interfaceIds then .ok s
  else s.reload env interfaceId oldDeviceAddress newDeviceAddress

end DeviceCoordinator

end AioHomematic.Central
