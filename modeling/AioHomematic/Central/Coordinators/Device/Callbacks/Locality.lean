import AioHomematic.Central.Coordinators.Device.Callbacks
import AioHomematic.Central.Coordinators.Device.Stored

/-!
# What a callback touches

The places are the devices. A place is calm where its device is registered or
cannot be created, so that whoever creates all missing devices does not create
this one (`Settled`). A valid state has the indexes of the cache in order, and
the devices of other interfaces as they were (`Coherent`).
-/

namespace AioHomematic.Central

open Lib Support Store Model

namespace DeviceCoordinator

variable {D : Type} {env : Environment D} {interfaceId a x : String} {s t s₀ : DeviceCoordinator D}
  {d : DeviceDescription} {device : Device}

/-- The device at this address is one of another interface. -/
def foreign (interfaceId : String) (s₀ : DeviceCoordinator D) (a : String) : Bool :=
  (s₀.device? a).any (·.interfaceId ≠ interfaceId)

/-- The addresses of a device are listed with it, and stand under the address of a device. -/
structure Listed (p : DeviceDescriptionRegistry.Part) (a : String) : Prop where
  isDevice : p.addresses.isSome = true → IsDevice a
  listed : IsDevice a → (p.descriptions a).isSome = true → p.addresses.isSome = true

structure Stored.Fits (interfaceId : String) (s₀ : DeviceCoordinator D) (a : String)
    (p : Stored D) : Prop where
  listed : Listed (p.descriptions interfaceId) a
  foreign : foreign interfaceId s₀ a = true → p.device = s₀.device? a
  own : ∀ device, p.device = some device → DeviceCoordinator.foreign interfaceId s₀ a = false →
    device.interfaceId = interfaceId

structure Coherent (interfaceId : String) (s₀ s : DeviceCoordinator D) : Prop where
  hasInterfaceId : s.paramsetDescriptions.hasInterfaceId interfaceId = true
  fits : ∀ a, (s.stored a).Fits interfaceId s₀ a

/-- The device is registered, or cannot be created. -/
def Settled (env : Environment D) (interfaceId : String) (s : DeviceCoordinator D) (a : String) :
    Prop :=
  IsDevice a → s.device? a = none → s.newDevice? env interfaceId a = none

theorem Settled.congr (h : s.stored a = t.stored a) (hs : s.Settled env interfaceId a) :
    t.Settled env interfaceId a := fun ha hnone =>
  (newDevice?_congr ha h).symm.trans (hs ha ((device?_of_stored h).trans hnone))

/-! ## What the effects keep -/

open DeviceDescriptionRegistry in
theorem listed_removeAddresses {r : DeviceDescriptionRegistry} (addresses : List String)
    (h : Listed (r.part a) a) : Listed ((r.removeAddresses addresses).part a) a := by
  rw [part_removeAddresses]
  constructor
  · intro hsome
    dsimp only at hsome
    split at hsome
    · cases hsome
    · exact h.isDevice hsome
  · intro ha hsome
    dsimp only at hsome ⊢
    split at hsome
    · cases hsome
    next hnot =>
      rw [if_neg fun hmem => hnot (List.mem_filter.mp hmem).1]
      exact h.listed ha hsome

open DeviceDescriptionRegistry in
theorem listed_addDevice {r : DeviceDescriptionRegistry} (h : Listed (r.part a) a)
    (hd : deviceOf d.address = a) : Listed ((r.addDevice d).2.part a) a := by
  have hcleared : Listed ((r.cleared d).part a) a := by
    unfold cleared
    split
    · exact listed_removeAddresses _ h
    · exact h
  rw [part_addDevice_self hd, Part.add]
  split
  · exact ⟨hcleared.isDevice, hcleared.listed⟩
  next deviceAddress hdevice =>
    rw [deviceOf_of_getDeviceAddress hdevice] at hd
    subst hd
    exact ⟨fun _ => isDevice_of_getDeviceAddress hdevice, fun _ _ => rfl⟩

theorem fits_removeFromCaches (device : Device) (h : (s.stored a).Fits interfaceId s₀ a) :
    ((s.removeFromCaches device).stored a).Fits interfaceId s₀ a where
  listed := by
    simp only [stored, removeFromCaches]
    by_cases hi : interfaceId = device.interfaceId
    · subst hi
      rw [Function.update_self]
      exact listed_removeAddresses _ h.listed
    · rw [Function.update_of_ne hi]
      exact h.listed
  foreign := h.foreign
  own := h.own

theorem fits_unregister (hx : foreign interfaceId s₀ x = false)
    (h : (s.stored x).Fits interfaceId s₀ x) :
    ((s.unregister x).stored x).Fits interfaceId s₀ x := by
  rw [stored_unregister, if_pos rfl]
  refine ⟨h.listed, fun hforeign => ?_, fun device hdevice => by cases hdevice⟩
  rw [hx] at hforeign
  cases hforeign

theorem fits_cacheDevice (h : (s.stored a).Fits interfaceId s₀ a) (hd : deviceOf d.address = a) :
    ((s.cacheDevice interfaceId d).stored a).Fits interfaceId s₀ a where
  listed := by
    simp only [stored, cacheDevice, Function.update_self]
    exact listed_addDevice h.listed hd
  foreign := h.foreign
  own := h.own

theorem orCreate_of_some {p : Stored D} (h : p.device = some device) (created : Option Device) :
    p.orCreate created = p := by
  rw [Stored.orCreate, h, Option.some_or, ← h]

theorem Settled.orCreate (h : s.Settled env interfaceId a) (ha : IsDevice a) :
    (s.stored a).orCreate (s.newDevice? env interfaceId a) = s.stored a := by
  cases hdevice : s.device? a with
  | some device => exact orCreate_of_some hdevice _
  | none => rw [h ha hdevice, Stored.orCreate, Option.or_none]

theorem fits_createDevices (xs : List String) (h : (s.stored a).Fits interfaceId s₀ a) :
    ((xs.foldl (createDevice env interfaceId) s).stored a).Fits interfaceId s₀ a := by
  rw [stored_foldl_createDevice]
  split
  · refine ⟨h.listed, fun hforeign => ?_, fun device hdevice hown => ?_⟩
    · have hsame := h.foreign hforeign
      obtain ⟨device, hdevice, -⟩ := (Option.any_eq_true _ _).mp hforeign
      rw [hdevice] at hsame
      rw [Stored.orCreate, hsame, hdevice]
      rfl
    · obtain hold | ⟨-, hnew⟩ := Option.or_eq_some_iff.mp hdevice
      · exact h.own device hold hown
      · exact (spec_of_newDevice? hnew).2
  · exact h

theorem Coherent.createDevices (h : s₀.Coherent interfaceId s) (xs : List String) :
    s₀.Coherent interfaceId (xs.foldl (createDevice env interfaceId) s) where
  hasInterfaceId := by
    rw [(foldl_createDevice_caches env s interfaceId xs).2]
    exact h.hasInterfaceId
  fits a := fits_createDevices xs (h.fits a)

end DeviceCoordinator

namespace DeviceTask

open DeviceCoordinator

variable {D : Type} (env : Environment D) (interfaceId : String)

/-- The devices that these descriptions are about. -/
def devicesOf (deviceDescriptions : List DeviceDescription) : List String :=
  deviceDescriptions.flatMap fun d => [deviceOf d.address, d.parentOrAddress]

/-- The devices that a reload touches. -/
def reloads (dropped fetched : String) : List String :=
  deviceOf dropped ::
    match fetchDeviceDescriptions env interfaceId (some fetched) with
    | .error _ => []
    | .ok deviceDescriptions => devicesOf deviceDescriptions

/-- The devices that the task of a callback touches. -/
def footprint : DeviceCallback → List String
  | .newDevices ds => devicesOf ds
  | .deleteDevices addresses => addresses.map deviceOf
  | .readdedDevice addresses =>
    (addresses.filter (IsDevice ·)).flatMap fun a => reloads env interfaceId a a
  | .replaceDevice oldDeviceAddress newDeviceAddress =>
    reloads env interfaceId oldDeviceAddress newDeviceAddress
  | .updateDevice address .firmware => reloads env interfaceId (deviceOf address) (deviceOf address)
  | .updateDevice _ .links => []

/-- The task does all its work under the semaphore. -/
def exclusive : DeviceCallback → Bool
  | .newDevices ds => ds ≠ [] ∧ interfaceId ∈ env.interfaceIds
  | _ => false

/-- The devices as places of the stores. -/
def locality (s₀ : DeviceCoordinator D) : Locality DeviceCallback (DeviceCoordinator D) String where
  Agree a s t := s.stored a = t.stored a
  Calm a s := s.Settled env interfaceId a
  Valid s := s₀.Coherent interfaceId s
  Admits job := ∀ a ∈ footprint env interfaceId job, foreign interfaceId s₀ a = false
  footprint := footprint env interfaceId
  exclusive := exclusive env interfaceId
  refl _ _ := rfl
  symm := Eq.symm
  trans := Eq.trans
  calm := Settled.congr

/-! ## The effects are alike -/

section Effects

variable {env : Environment D} {interfaceId x : String} {s₀ s t : DeviceCoordinator D}
  {A : List String} {device : Device} {d : DeviceDescription}
  (hagree : (locality env interfaceId s₀).AgreeIn A s t)
  (hs : s₀.Coherent interfaceId s) (ht : s₀.Coherent interfaceId t)

include hagree hs ht

/-- An effect on one device. -/
theorem alike_at (effect : DeviceCoordinator D → DeviceCoordinator D) (hx : x ∈ A)
    (hne : ∀ s a, a ≠ x → (effect s).stored a = s.stored a)
    (hcongr : s.stored x = t.stored x → (effect s).stored x = (effect t).stored x)
    (hfits : ∀ s, (s.stored x).Fits interfaceId s₀ x →
      ((effect s).stored x).Fits interfaceId s₀ x)
    (hhas : ∀ s, s.paramsetDescriptions.hasInterfaceId interfaceId = true →
      (effect s).paramsetDescriptions.hasInterfaceId interfaceId = true) :
    (locality env interfaceId s₀).Alike A s t (effect s) (effect t) := by
  have hcoherent : ∀ s, s₀.Coherent interfaceId s → s₀.Coherent interfaceId (effect s) := by
    intro s hs
    refine ⟨hhas s hs.hasInterfaceId, fun a => ?_⟩
    by_cases ha : a = x
    · subst ha
      exact hfits s (hs.fits a)
    · rw [hne s a ha]
      exact hs.fits a
  have hout : ∀ s a, a ∉ A → s.stored a = (effect s).stored a := by
    intro s a ha
    have hax : a ≠ x := fun h => ha (h ▸ hx)
    exact (hne s a hax).symm
  refine ⟨hout s, hout t, fun a ha => ?_, hcoherent s hs, hcoherent t ht⟩
  by_cases hax : a = x
  · subst hax
    exact hcongr (hagree a ha)
  · exact (hne s a hax).trans ((hagree a ha).trans (hne t a hax).symm)

theorem alike_removeFromCaches (hdevice : IsDevice device.address) (hx : device.address ∈ A) :
    (locality env interfaceId s₀).Alike A s t (s.removeFromCaches device)
      (t.removeFromCaches device) :=
  alike_at hagree hs ht (·.removeFromCaches device) hx
    (fun _ _ ha => stored_removeFromCaches_of_ne hdevice ha)
    (stored_removeFromCaches_congr device) (fun _ => fits_removeFromCaches device)
    fun s => s.paramsetDescriptions.hasInterfaceId_removeChannels

theorem alike_unregister (hx : x ∈ A) (hown : foreign interfaceId s₀ x = false) :
    (locality env interfaceId s₀).Alike A s t (s.unregister x) (t.unregister x) := by
  refine alike_at hagree hs ht (·.unregister x) hx (fun s a ha => ?_) (fun h => ?_)
    (fun _ => fits_unregister hown) fun _ => id
  · rw [stored_unregister, if_neg (Ne.symm ha)]
  · rw [stored_unregister, stored_unregister, h]

theorem alike_cacheDevice (hd : deviceOf d.address ∈ A) :
    (locality env interfaceId s₀).Alike A s t (s.cacheDevice interfaceId d)
      (t.cacheDevice interfaceId d) :=
  alike_at hagree hs ht (·.cacheDevice interfaceId d) hd
    (fun _ _ ha => stored_cacheDevice_of_ne (Ne.symm ha)) (stored_cacheDevice_congr · rfl)
    (fun _ h => fits_cacheDevice h rfl) fun _ => id

theorem alike_cacheParamsets (fetched : List (ParamsetKey × D)) (hx : deviceOf x ∈ A) :
    (locality env interfaceId s₀).Alike A s t (s.cacheParamsets interfaceId x fetched)
      (t.cacheParamsets interfaceId x fetched) := by
  refine alike_at hagree hs ht (·.cacheParamsets interfaceId x fetched) hx
    (fun _ _ ha => stored_cacheParamsets_of_ne fetched (Ne.symm ha))
    (stored_cacheParamsets_congr fetched · rfl) (fun _ h => ⟨h.listed, h.foreign, h.own⟩) ?_
  intro s hhas
  induction fetched generalizing s with
  | nil => exact hhas
  | cons e fetched ih =>
    exact ih (s.cacheParamsets interfaceId x [e]) (s.paramsetDescriptions.hasInterfaceId_add hhas)

/-- Descriptions that are kept for later are in no cache. -/
theorem alike_storeDelayed (ds ds' : List DeviceDescription) :
    (locality env interfaceId s₀).Alike A s t (s.storeDelayedDeviceDescriptions interfaceId ds)
      (t.storeDelayedDeviceDescriptions interfaceId ds') :=
  ⟨fun _ _ => rfl, fun _ _ => rfl, hagree, ⟨hs.hasInterfaceId, hs.fits⟩,
    ⟨ht.hasInterfaceId, ht.fits⟩⟩

/-- The others cannot be created; the lists agree as far as devices are missing. -/
theorem alike_createDevices {xs ys : List String}
    (hcalm : (locality env interfaceId s₀).CalmOut A s)
    (hcalm' : (locality env interfaceId s₀).CalmOut A t) (hxs : ∀ a ∈ xs, IsDevice a)
    (hys : ∀ a ∈ ys, IsDevice a) (h : ∀ a ∈ A, s.device? a = none → (a ∈ xs ↔ a ∈ ys)) :
    (locality env interfaceId s₀).Alike A s t (xs.foldl (createDevice env interfaceId) s)
      (ys.foldl (createDevice env interfaceId) t) := by
  have hout : ∀ s (xs : List String), (locality env interfaceId s₀).CalmOut A s →
      (∀ a ∈ xs, IsDevice a) →
      ∀ a, a ∉ A → s.stored a = (xs.foldl (createDevice env interfaceId) s).stored a := by
    intro s xs hcalm hxs a ha
    rw [stored_foldl_createDevice]
    split
    next hmem =>
      have hsettled : s.Settled env interfaceId a := hcalm a ha
      exact (hsettled.orCreate (hxs a hmem)).symm
    · rfl
  refine ⟨hout s xs hcalm hxs, hout t ys hcalm' hys, fun a ha => ?_, hs.createDevices xs,
    ht.createDevices ys⟩
  have hsame : s.stored a = t.stored a := hagree a ha
  refine (stored_foldl_createDevice xs).trans (Eq.trans ?_ (stored_foldl_createDevice ys).symm)
  cases hdevice : s.device? a with
  | some device =>
    have hdevice' : t.device? a = some device := (device?_of_stored hsame).symm.trans hdevice
    rw [orCreate_of_some hdevice, orCreate_of_some hdevice', ite_self, ite_self, hsame]
  | none =>
    by_cases hmem : a ∈ xs
    · rw [if_pos hmem, if_pos ((h a ha hdevice).mp hmem), hsame,
        newDevice?_congr (hxs a hmem) hsame]
    · rw [if_neg hmem, if_neg fun hmem' => hmem ((h a ha hdevice).mpr hmem'), hsame]

end Effects

end DeviceTask

end AioHomematic.Central
