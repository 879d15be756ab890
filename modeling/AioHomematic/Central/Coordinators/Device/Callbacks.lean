import AioHomematic.Central.Coordinators.Device
import AioHomematic.Lib.Coroutine

/-!
# The background tasks of device callbacks

The RPC server starts a task for each callback of the backend and answers at
once. Here the methods of the coordinator are coroutines over its stores, one
part from each `await` to the next; each has a part `k` that follows it.
`_add_new_devices` alone takes the semaphore `_device_add_semaphore`.

What is awaited: the handlers of the event that a device is removed, which run
as a task of their own and clear the caches of the device; what the client
fetches; saving and publishing after the descriptions are cached; `load` and
`load_data_cache` before the devices are created, and `finalize_init` after.
The locks of the registry are never waited for. The interface is in the
description cache, as it is from the first description on, so that descriptions
of `newDevices` have the source `NEW`.
-/

namespace AioHomematic.Central

open Lib Support Store Model

inductive UpdateDeviceHint where
  | firmware
  | links
deriving DecidableEq

/-- Callbacks of one interface; descriptions are normalized. -/
inductive DeviceCallback where
  | newDevices (deviceDescriptions : List DeviceDescription)
  | deleteDevices (addresses : List String)
  | readdedDevice (addresses : List String)
  | replaceDevice (oldDeviceAddress newDeviceAddress : String)
  | updateDevice (address : String) (hint : UpdateDeviceHint)
deriving DecidableEq

namespace DeviceTask

variable {D : Type} (env : Environment D) (interfaceId : String)

/-! ## Removing a device -/

/-- `remove_device` of the coordinator. -/
def removeDevice (device : Device) (k : Segment (DeviceCoordinator D)) :
    Segment (DeviceCoordinator D) := fun s =>
  if s.deviceRegistry.hasDevice device.address then
    Segment.pause .await (fun s =>
      Segment.pause .await (fun s =>
        k { s with deviceRegistry := s.deviceRegistry.removeDevice device.address })
      (s.removeFromCaches device)) s
  else k s

/-- `delete_devices`; an address without device part ends the task. -/
def deleteDevices : List String → Segment (DeviceCoordinator D)
  | [] => Segment.finish
  | address :: addresses => fun s =>
    match s.getDevice address with
    | none => Segment.finish s
    | some none => deleteDevices addresses s
    | some (some device) => removeDevice device (deleteDevices addresses) s

/-! ## Adding descriptions -/

/-- The last part of `_add_new_devices`, which releases the semaphore. -/
def createNewDevices (k : Segment (DeviceCoordinator D)) : Segment (DeviceCoordinator D) :=
  fun s =>
    match s.checkForNewDeviceAddresses interfaceId with
    | [] => Segment.pause .release k s
    | newDeviceAddresses =>
      Segment.pause .await (fun s =>
        match s.createDevices env interfaceId newDeviceAddresses with
        | .error _ => Segment.pause .release Segment.finish s
        | .ok created => Segment.pause .await (Segment.pause .release k) created) s

/-- Fetching for descriptions with missing paramsets; an exception leaves the semaphore and ends
the task. -/
def fetchMissingParamsets (k : Segment (DeviceCoordinator D)) :
    List DeviceDescription → Segment (DeviceCoordinator D)
  | [] => k
  | d :: ds =>
    Segment.pause .await fun s =>
      match s.fetchParamsetDescriptions env interfaceId d with
      | .error _ => Segment.pause .release Segment.finish s
      | .ok fetched => fetchMissingParamsets k ds fetched

def addMissingParamsets (deviceDescriptions : List DeviceDescription)
    (k : Segment (DeviceCoordinator D)) : Segment (DeviceCoordinator D) := fun s =>
  match s.identifyDevicesMissingParamsets interfaceId deviceDescriptions with
  | [] => Segment.pause .release k s
  | missing =>
    fetchMissingParamsets env interfaceId
      (Segment.pause .await fun s =>
        if s.identifyDevicesMissingParamsets interfaceId missing = [] then
          Segment.pause .await (createNewDevices env interfaceId k) s
        else Segment.pause .await (Segment.pause .release k) s) missing s

/-- The caching loop. -/
def cacheDescriptions (source : SourceOfDeviceCreation)
    (newDeviceDescriptions : List DeviceDescription) (k : Segment (DeviceCoordinator D)) :
    List DeviceDescription → Segment (DeviceCoordinator D)
  | [] => k
  | d :: ds => fun s =>
    let (result, descriptions) := (s.deviceDescriptions interfaceId).addDevice d
    let added :=
      { s with
        deviceDescriptions := Function.update s.deviceDescriptions interfaceId descriptions }
    match result with
    | .error _ => cacheDescriptions source newDeviceDescriptions k ds added
    | .ok _ =>
      if source ≠ .refresh ∨ d ∈ newDeviceDescriptions then
        Segment.pause .await (fun s =>
          match s.fetchParamsetDescriptions env interfaceId d with
          | .error _ => cacheDescriptions source newDeviceDescriptions k ds s
          | .ok fetched => cacheDescriptions source newDeviceDescriptions k ds fetched) added
      else cacheDescriptions source newDeviceDescriptions k ds added

/-- What `_add_new_devices` does under the semaphore. -/
def addUnderSemaphore (deviceDescriptions : List DeviceDescription)
    (source : SourceOfDeviceCreation) (k : Segment (DeviceCoordinator D)) :
    Segment (DeviceCoordinator D) := fun s =>
  let newDeviceDescriptions := s.identifyNewDeviceDescriptions interfaceId deviceDescriptions
  let toCache := s.descriptionsToCache source interfaceId deviceDescriptions
  if toCache = [] then addMissingParamsets env interfaceId deviceDescriptions k s
  else if env.delayNewDeviceCreation = true ∧ source = .new then
    Segment.pause .release k
      (s.storeDelayedDeviceDescriptions interfaceId newDeviceDescriptions)
  else
    cacheDescriptions env interfaceId source newDeviceDescriptions
      (Segment.pause .await (createNewDevices env interfaceId k)) toCache s

/-- `_add_new_devices`. -/
def addNewDevices (deviceDescriptions : List DeviceDescription) (source : SourceOfDeviceCreation)
    (k : Segment (DeviceCoordinator D)) : Segment (DeviceCoordinator D) :=
  if deviceDescriptions = [] ∨ interfaceId ∉ env.interfaceIds then k
  else Segment.pause .acquire (addUnderSemaphore env interfaceId deviceDescriptions source k)

/-! ## Reloading -/

/-- `refresh_device_descriptions_and_create_missing_devices` for one device. -/
def refresh (deviceAddress : String) (k : Segment (DeviceCoordinator D)) :
    Segment (DeviceCoordinator D) :=
  Segment.pause .await fun s =>
    match DeviceCoordinator.fetchDeviceDescriptions env interfaceId (some deviceAddress) with
    | .error _ => Segment.finish s
    | .ok deviceDescriptions => addNewDevices env interfaceId deviceDescriptions .refresh k s

/-- The device is dropped, fetched and created again. -/
def reload (dropped fetched : String) (k : Segment (DeviceCoordinator D)) :
    Segment (DeviceCoordinator D) := fun s =>
  match s.getDevice dropped with
  | none => Segment.finish s
  | some none => refresh env interfaceId fetched k s
  | some (some device) =>
    removeDevice device (refresh env interfaceId fetched k) (s.removeFromCaches device)

/-- The loop of `readd_device`. -/
def readdDevices : List String → Segment (DeviceCoordinator D)
  | [] => Segment.finish
  | address :: addresses => reload env interfaceId address address (readdDevices addresses)

/-- Nothing is done for an interface without client. -/
def withClient (segment : Segment (DeviceCoordinator D)) : Segment (DeviceCoordinator D) :=
  if interfaceId ∉ env.interfaceIds then Segment.finish else segment

/-! ## The tasks -/

/-- A part that a task begins with. -/
def begin (segment : Segment (DeviceCoordinator D)) : Coroutine (DeviceCoordinator D) :=
  .after .await segment

/-- The task of a callback. A link update asks for link peers only; an address without device part
is refused before there is a task. -/
def program : DeviceCallback → Coroutine (DeviceCoordinator D)
  | .newDevices ds =>
    if ds = [] ∨ interfaceId ∉ env.interfaceIds then .done
    else .after .acquire (addUnderSemaphore env interfaceId ds .new Segment.finish)
  | .deleteDevices addresses => begin (deleteDevices addresses)
  | .readdedDevice addresses =>
    begin (withClient env interfaceId
      (readdDevices env interfaceId (addresses.filter (IsDevice ·))))
  | .replaceDevice oldDeviceAddress newDeviceAddress =>
    begin (withClient env interfaceId
      (reload env interfaceId oldDeviceAddress newDeviceAddress Segment.finish))
  | .updateDevice address .firmware =>
    match getDeviceAddress address with
    | none => .done
    | some deviceAddress =>
      begin (withClient env interfaceId
        (reload env interfaceId deviceAddress deviceAddress Segment.finish))
  | .updateDevice _ .links => .done

/-- The tasks on the event loop of the RPC server. -/
abbrev tasks (s : DeviceCoordinator D) :
    StepSystem (Pool DeviceCallback (DeviceCoordinator D)) (PoolAction DeviceCallback) :=
  Pool.system (program env interfaceId) s

/-! ## A task alone -/

section Run

variable {env interfaceId} {k : Segment (DeviceCoordinator D)} {s t : DeviceCoordinator D}
  {ds : List DeviceDescription} {source : SourceOfDeviceCreation}

theorem exists_of_bind_ok {ε α β : Type} {x : Except ε α} {f : α → Except ε β} {b : β}
    (h : x >>= f = .ok b) : ∃ a, x = .ok a ∧ f a = .ok b := by
  cases x with
  | error => cases h
  | ok a => exact ⟨a, rfl, h⟩

theorem run_pause (point : Point) : (k.pause point).run s = k.run s := rfl

theorem run_removeDevice (device : Device) :
    (removeDevice device k).run s = k.run (s.removeDevice device) := by
  simp only [Segment.run, removeDevice, DeviceCoordinator.removeDevice]
  split
  · rfl
  · rfl

theorem run_createNewDevices (h : s.createNewDevices env interfaceId = .ok t) :
    (createNewDevices env interfaceId k).run s = k.run t := by
  unfold DeviceCoordinator.createNewDevices at h
  simp only [Segment.run, createNewDevices]
  split
  next hnil =>
    rw [if_pos hnil] at h
    cases h
    rfl
  next hne =>
    rw [if_neg hne] at h
    simp only [Segment.pause, Coroutine.after, Coroutine.run, h]

theorem run_fetchMissingParamsets
    (h : ds.foldlM (DeviceCoordinator.fetchParamsetDescriptions env interfaceId) s = .ok t) :
    (fetchMissingParamsets env interfaceId k ds).run s = k.run t := by
  induction ds generalizing s with
  | nil =>
    cases h
    rfl
  | cons d ds ih =>
    rw [List.foldlM_cons] at h
    obtain ⟨fetched, hfetch, hrest⟩ := exists_of_bind_ok h
    rw [fetchMissingParamsets, run_pause, ← ih hrest]
    simp only [Segment.run, hfetch]

theorem run_addMissingParamsets (h : s.addMissingParamsets env interfaceId ds = .ok t) :
    (addMissingParamsets env interfaceId ds k).run s = k.run t := by
  unfold DeviceCoordinator.addMissingParamsets at h
  simp only [Segment.run, addMissingParamsets]
  split
  next hnil =>
    rw [hnil] at h
    cases h
    rfl
  next missing hmissing =>
    split at h
    next hnil => exact absurd hnil hmissing
    · obtain ⟨fetched, hfetched, h⟩ := exists_of_bind_ok h
      refine (run_fetchMissingParamsets hfetched).trans ?_
      rw [run_pause]
      simp only [Segment.run]
      split
      next hall =>
        rw [if_pos hall] at h
        exact run_createNewDevices h
      next hsome =>
        rw [if_neg hsome] at h
        cases h
        rfl

theorem run_cacheDescriptions (new : List DeviceDescription) :
    (cacheDescriptions env interfaceId source new k ds).run s =
      k.run (ds.foldl (DeviceCoordinator.cacheDescription env source interfaceId new) s) := by
  induction ds generalizing s with
  | nil => rfl
  | cons d ds ih =>
    rw [List.foldl_cons, ← ih]
    simp only [Segment.run, cacheDescriptions, DeviceCoordinator.cacheDescription]
    cases ((s.deviceDescriptions interfaceId).addDevice d).1 with
    | error => rfl
    | ok =>
      dsimp only
      by_cases hfetch : source ≠ .refresh ∨ d ∈ new
      · simp only [if_pos hfetch, Segment.pause, Coroutine.after, Coroutine.run]
        split <;> simp only [*]
      · simp only [if_neg hfetch]

theorem run_addNewDevices (h : s.addNewDevices env interfaceId ds source = .ok t) :
    (addNewDevices env interfaceId ds source k).run s = k.run t := by
  unfold DeviceCoordinator.addNewDevices at h
  unfold addNewDevices
  split
  next hskip =>
    rw [if_pos hskip] at h
    cases h
    rfl
  next hadd =>
    rw [if_neg hadd] at h
    rw [run_pause]
    simp only [Segment.run, addUnderSemaphore]
    split
    next hnil =>
      rw [if_pos hnil] at h
      exact run_addMissingParamsets h
    next hcache =>
      rw [if_neg hcache] at h
      split
      next hdelay =>
        rw [if_pos hdelay] at h
        cases h
        rfl
      next hnow =>
        rw [if_neg hnow] at h
        exact (run_cacheDescriptions _).trans (run_createNewDevices h)

theorem run_reload {dropped fetched : String}
    (h : s.reload env interfaceId dropped fetched = .ok t) :
    (reload env interfaceId dropped fetched k).run s = k.run t := by
  obtain ⟨s₁, hdrop, hrefresh⟩ := exists_of_bind_ok h
  have hrest : (refresh env interfaceId fetched k).run s₁ = k.run t := by
    obtain ⟨ds, hds, hadd⟩ := exists_of_bind_ok hrefresh
    rw [refresh, run_pause]
    simp only [Segment.run, hds]
    exact run_addNewDevices hadd
  cases hget : s.getDevice dropped with
  | none => simp only [DeviceCoordinator.dropDevice, hget, reduceCtorEq] at hdrop
  | some found =>
    cases found with
    | none =>
      simp only [DeviceCoordinator.dropDevice, hget, Except.ok.injEq] at hdrop
      simp only [Segment.run, reload, hget]
      rw [hdrop]
      exact hrest
    | some device =>
      simp only [DeviceCoordinator.dropDevice, hget, Except.ok.injEq] at hdrop
      simp only [Segment.run, reload, hget]
      refine (run_removeDevice device).trans ?_
      rw [hdrop]
      exact hrest

theorem run_readdDevices {addresses : List String}
    (h : addresses.foldlM (fun s a => s.reload env interfaceId a a) s = .ok t) :
    (readdDevices env interfaceId addresses).run s = t := by
  induction addresses generalizing s with
  | nil =>
    cases h
    rfl
  | cons address addresses ih =>
    rw [List.foldlM_cons] at h
    obtain ⟨s₁, hreload, hrest⟩ := exists_of_bind_ok h
    exact (run_reload hreload).trans (ih hrest)

/-- Alone, the task of a callback does what the method of the coordinator does. -/
theorem run_program (hclient : interfaceId ∈ env.interfaceIds) {address : String} :
    (∀ ds, s.addNewDevices env interfaceId ds .new = .ok t →
      (program env interfaceId (.newDevices ds)).run s = t) ∧
    (IsDevice address → s.updateDevice env interfaceId address = .ok t →
      (program env interfaceId (.updateDevice address .firmware)).run s = t) ∧
    (∀ old, s.replaceDevice env interfaceId old address = .ok t →
      (program env interfaceId (.replaceDevice old address)).run s = t) ∧
    ∀ addresses, (∀ a ∈ addresses, IsDevice a) →
      s.readdDevice env interfaceId addresses = .ok t →
        (program env interfaceId (.readdedDevice addresses)).run s = t := by
  have hknown : ¬ interfaceId ∉ env.interfaceIds := not_not.mpr hclient
  refine ⟨fun ds h => ?_, fun ha h => ?_, fun old h => ?_, fun addresses ha h => ?_⟩
  · have hrun := run_addNewDevices (k := Segment.finish) h
    unfold addNewDevices at hrun
    simp only [program]
    split
    next hskip =>
      rw [if_pos hskip] at hrun
      exact hrun
    next hadd =>
      rw [if_neg hadd] at hrun
      exact hrun
  · rw [DeviceCoordinator.updateDevice, if_neg hknown] at h
    simp only [program, getDeviceAddress_of_isDevice ha, withClient, if_neg hknown]
    exact run_reload h
  · rw [DeviceCoordinator.replaceDevice, if_neg hknown] at h
    simp only [program, withClient, if_neg hknown]
    exact run_reload h
  · rw [DeviceCoordinator.readdDevice, if_neg hknown] at h
    have hfilter : addresses.filter (IsDevice ·) = addresses :=
      List.filter_eq_self.mpr fun a h => decide_eq_true (ha a h)
    simp only [program, withClient, if_neg hknown, hfilter]
    exact run_readdDevices h

end Run

end DeviceTask

end AioHomematic.Central
