import AioHomematic.Central.Coordinators.Device.Callbacks.Locality
import AioHomematic.Lib.Coroutine.Serial

/-!
# Device callbacks, one after the other

Where background tasks that overlap concern different devices, or do all their
work under the semaphore, registry and caches end as if the callbacks had run
one after the other (`agree_of_ended`). Otherwise not: the task of a
`deleteDevices` waits for the handlers of its event with the device still
registered, and the task of a `newDevices` that follows finds nothing to create.
-/

namespace AioHomematic.Central

open Lib StepSystem Locality Support Store Model

namespace DeviceTask

open DeviceCoordinator

variable {D : Type} {env : Environment D} {interfaceId : String} {s₀ : DeviceCoordinator D}
  {A : List String} {device : Device} {k : Segment (DeviceCoordinator D)}

/-! ## What two states with the same devices agree on -/

section Agree

variable {s t : DeviceCoordinator D} {address : String}
  (hagree : (locality env interfaceId s₀).AgreeIn A s t)

include hagree

theorem getDevice_of_agree (haddress : deviceOf address ∈ A) :
    s.getDevice address = t.getDevice address := by
  unfold getDevice
  cases hdevice : getDeviceAddress address with
  | none => rfl
  | some deviceAddress =>
    rw [deviceOf_of_getDeviceAddress hdevice] at haddress
    exact congrArg some (device?_of_stored (hagree deviceAddress haddress))

theorem hasDevice_of_agree (haddress : address ∈ A) :
    s.deviceRegistry.hasDevice address = t.deviceRegistry.hasDevice address := by
  rw [hasDevice_eq, hasDevice_eq, device?_of_stored (hagree address haddress)]

end Agree

theorem spec_of_getDevice {s : DeviceCoordinator D} {address : String}
    (h : s.getDevice address = some (some device)) :
    IsDevice device.address ∧ device.address = deviceOf address ∧
      s.device? device.address = some device := by
  obtain ⟨deviceAddress, hdevice, hget⟩ := Option.map_eq_some_iff.mp h
  have haddress := s.deviceRegistry.keyed deviceAddress device hget
  rw [haddress, deviceOf_of_getDeviceAddress hdevice]
  exact ⟨isDevice_of_getDeviceAddress hdevice, rfl, hget⟩

/-! ## Removing -/

section Remove

variable (hdevice : IsDevice device.address) (hx : device.address ∈ A)

include hdevice in
/-- A device that is still registered may lose its descriptions. -/
theorem calmIn_removeFromCaches {s : DeviceCoordinator D}
    (hregistered : s.deviceRegistry.hasDevice device.address = true)
    (hcalm : (locality env interfaceId s₀).CalmIn A s) :
    (locality env interfaceId s₀).CalmIn A (s.removeFromCaches device) := by
  intro a ha
  by_cases hax : a = device.address
  · subst hax
    intro _ hnone
    have hnone : s.device? device.address = none := hnone
    rw [hasDevice_eq, hnone] at hregistered
    cases hregistered
  · exact (hcalm a ha).congr (stored_removeFromCaches_of_ne hdevice hax).symm

include hx in
/-- A device whose descriptions are gone may leave the registry. -/
theorem calmIn_unregister {s t : DeviceCoordinator D} (hown : device.interfaceId = interfaceId)
    (hagree : (locality env interfaceId s₀).AgreeIn A (t.removeFromCaches device) s)
    (hcalm : (locality env interfaceId s₀).CalmIn A (t.removeFromCaches device)) :
    (locality env interfaceId s₀).CalmIn A (s.unregister device.address) := by
  intro a ha
  by_cases hax : a = device.address
  · subst hax
    intro hdevice _
    have hnone : (t.removeFromCaches device).cachedDescription interfaceId device.address =
        none := by
      rw [cachedDescription_removeFromCaches, if_pos ⟨hown, List.mem_cons_self⟩]
    refine newDevice?_of_none (s := s.unregister device.address) ?_
    have hsame := DeviceDescriptionRegistry.getDeviceDescription_of_part
      (part_of_stored (hagree _ hx) interfaceId) (deviceOf_of_isDevice hdevice)
    exact hsame.symm.trans hnone
  · have hstored : (s.unregister device.address).stored a = s.stored a := by
      rw [stored_unregister, if_neg (Ne.symm hax)]
    exact (hcalm a ha).congr ((hagree a ha).trans hstored.symm)

include hdevice hx in
theorem follows_removeDevice (hown : device.interfaceId = interfaceId)
    (hforeign : foreign interfaceId s₀ device.address = false)
    (hk : (locality env interfaceId s₀).FollowsFree A k) :
    (locality env interfaceId s₀).FollowsFree A (removeDevice device k) := by
  have hunregister : (locality env interfaceId s₀).Follows A false
      (fun s => ∃ t : DeviceCoordinator D,
        (locality env interfaceId s₀).AgreeIn A (t.removeFromCaches device) s ∧
          (locality env interfaceId s₀).CalmIn A (t.removeFromCaches device))
      (fun s => k (s.unregister device.address)) := by
    refine .begin (fun s t hagree hs ht _ => alike_unregister hagree hs ht hx hforeign)
      (fun s _ hp => ?_) hk
    obtain ⟨t, hagree, hcalm⟩ := hp
    exact calmIn_unregister hx hown hagree hcalm
  have hclear : (locality env interfaceId s₀).Follows A false
      (fun s => (locality env interfaceId s₀).CalmIn A s ∧
        s.deviceRegistry.hasDevice device.address = true)
      (fun s => Segment.pause .await (fun s => k (s.unregister device.address))
        (s.removeFromCaches device)) := by
    refine .begin (Q := fun s => ∃ t : DeviceCoordinator D, s = t.removeFromCaches device ∧
        (locality env interfaceId s₀).CalmIn A s)
      (fun s t hagree hs ht _ => alike_removeFromCaches hagree hs ht hdevice hx)
      (fun s _ hp => ⟨s, rfl, calmIn_removeFromCaches hdevice hp.2 hp.1⟩)
      (.await (fun _ s hp => hp.choose_spec.2) (fun s s' hagree hp => ?_) hunregister)
    obtain ⟨t, rfl, hcalm⟩ := hp
    exact ⟨t, hagree, hcalm⟩
  refine .of_eq fun s t hagree _ _ hcalm => ?_
  have hsame := hasDevice_of_agree hagree hx
  by_cases hregistered : s.deviceRegistry.hasDevice device.address = true
  · refine ⟨_, fun s => (locality env interfaceId s₀).CalmIn A s ∧
      s.deviceRegistry.hasDevice device.address = true, (if_pos hregistered).symm,
      (if_pos (hsame ▸ hregistered)).symm, ⟨hcalm, hregistered⟩, ?_⟩
    refine .await (fun _ s hp => hp.1) (fun s s' hagree hp => ?_) hclear
    exact ⟨hagree.calm hp.1, hasDevice_of_agree hagree hx ▸ hp.2⟩
  · exact ⟨k, _, (if_neg hregistered).symm, (if_neg (hsame ▸ hregistered)).symm, hcalm, hk⟩

end Remove

theorem follows_deleteDevices {addresses : List String}
    (haddresses : ∀ address ∈ addresses, deviceOf address ∈ A)
    (hforeign : ∀ a ∈ A, foreign interfaceId s₀ a = false) :
    (locality env interfaceId s₀).FollowsFree A (deleteDevices addresses) := by
  induction addresses with
  | nil => exact follows_finish
  | cons address addresses ih =>
    have hrest := ih fun a ha => haddresses a (List.mem_cons_of_mem _ ha)
    have haddress := haddresses address List.mem_cons_self
    refine .of_eq fun s t hagree hs _ hcalm => ?_
    have hsame := getDevice_of_agree hagree haddress
    simp only [deleteDevices, ← hsame]
    split
    · exact ⟨_, _, rfl, rfl, hcalm, follows_finish⟩
    · exact ⟨_, _, rfl, rfl, hcalm, hrest⟩
    next device hget =>
      obtain ⟨hdevice, hdeviceOf, hregistered⟩ := spec_of_getDevice hget
      have hx : device.address ∈ A := hdeviceOf ▸ haddress
      have hown := (hs.fits device.address).own device hregistered (hforeign _ hx)
      exact ⟨_, _, rfl, rfl, hcalm,
        follows_removeDevice hdevice hx hown (hforeign _ hx) hrest⟩

/-! ## Creating -/

section Create

variable {s t : DeviceCoordinator D}

theorem mem_checkForNewDeviceAddresses (hs : s₀.Coherent interfaceId s) {a : String} :
    a ∈ s.checkForNewDeviceAddresses interfaceId ↔
      a ∈ (s.deviceDescriptions interfaceId).getAddresses ∧ s.device? a = none := by
  rw [checkForNewDeviceAddresses, if_pos hs.hasInterfaceId, List.mem_filter, decide_eq_true_eq]
  exact and_congr_right fun _ => Dict.get?_eq_none.symm

theorem isDevice_of_mem_check (hs : s₀.Coherent interfaceId s) {a : String}
    (ha : a ∈ s.checkForNewDeviceAddresses interfaceId) : IsDevice a :=
  (hs.fits a).listed.isDevice
    (DeviceDescriptionRegistry.mem_getAddresses_iff.mp
      ((mem_checkForNewDeviceAddresses hs).mp ha).1)

/-- A device that is not listed cannot be created. -/
theorem newDevice?_of_not_mem_check (hs : s₀.Coherent interfaceId s) {a : String}
    (ha : IsDevice a) (hnone : s.device? a = none)
    (hnot : a ∉ s.checkForNewDeviceAddresses interfaceId) :
    s.newDevice? env interfaceId a = none := by
  refine newDevice?_of_none ?_
  by_contra hsome
  refine hnot ((mem_checkForNewDeviceAddresses hs).mpr ⟨?_, hnone⟩)
  refine DeviceDescriptionRegistry.mem_getAddresses_iff.mpr ((hs.fits a).listed.listed ha ?_)
  simp only [stored, DeviceDescriptionRegistry.part, deviceOf_of_isDevice ha, if_true]
  exact Option.isSome_iff_ne_none.mpr hsome

/-- After all that are missing have been tried, none is left that could be created. -/
theorem settled_createDevices (hs : s₀.Coherent interfaceId s) {xs : List String} {a : String}
    (h : s.device? a = none → (a ∈ xs ↔ a ∈ s.checkForNewDeviceAddresses interfaceId)) :
    (xs.foldl (createDevice env interfaceId) s).Settled env interfaceId a := by
  intro ha hnone
  have hdevice : (xs.foldl (createDevice env interfaceId) s).device? a = _ :=
    congrArg Stored.device (stored_foldl_createDevice xs)
  rw [hnone] at hdevice
  rw [newDevice?_foldl_createDevice]
  split at hdevice
  · exact (Option.or_eq_none_iff.mp hdevice.symm).2
  next hnot =>
    exact newDevice?_of_not_mem_check hs ha hdevice.symm fun hmem =>
      hnot ((h hdevice.symm).mpr hmem)

variable (hclient : interfaceId ∈ env.interfaceIds)

include hclient in
theorem createDevices_of_client (xs : List String) :
    s.createDevices env interfaceId xs = .ok (xs.foldl (createDevice env interfaceId) s) := by
  rw [createDevices, if_neg]
  rintro hnone
  rw [hnone] at hclient
  cases hclient

include hclient in
/-- The last part, alone. -/
theorem run_createMissing : (createNewDevices env interfaceId k).run t =
    k.run ((t.checkForNewDeviceAddresses interfaceId).foldl (createDevice env interfaceId) t) := by
  simp only [Segment.run, createNewDevices]
  split
  next hnil => rw [hnil]; rfl
  next =>
    simp only [Segment.pause, Coroutine.after, Coroutine.run, createDevices_of_client hclient]

/-- The lists of missing devices agree, as far as the places do. -/
theorem mem_check_of_agree (hagree : (locality env interfaceId s₀).AgreeIn A s t)
    (hs : s₀.Coherent interfaceId s) (ht : s₀.Coherent interfaceId t) {a : String} (ha : a ∈ A) :
    a ∈ s.checkForNewDeviceAddresses interfaceId ↔
      a ∈ t.checkForNewDeviceAddresses interfaceId := by
  rw [mem_checkForNewDeviceAddresses hs, mem_checkForNewDeviceAddresses ht,
    DeviceDescriptionRegistry.mem_getAddresses_of_part (part_of_stored (hagree a ha) interfaceId),
    device?_of_stored (hagree a ha)]

include hclient in
/-- Creating what is missing, also where more or less is missing at other places. -/
theorem follows_createNewDevices (hk : (locality env interfaceId s₀).FollowsFree A k) :
    (locality env interfaceId s₀).Follows A true (fun _ => True)
      (createNewDevices env interfaceId k) := by
  intro s t hs ht hagree _ _
  let rest : Coroutine (DeviceCoordinator D) := .after .await (createNewDevices env interfaceId k)
  have hcheck : ∀ {u}, (locality env interfaceId s₀).AgreeIn A s u → s₀.Coherent interfaceId u →
      ∀ a ∈ A, a ∈ s.checkForNewDeviceAddresses interfaceId ↔
        a ∈ u.checkForNewDeviceAddresses interfaceId :=
    fun hagree hu a ha => mem_check_of_agree hagree hs hu ha
  -- what the others create while nothing is missing here
  have halike : ∀ s' t', s₀.Coherent interfaceId s' → s₀.Coherent interfaceId t' →
      (locality env interfaceId s₀).AgreeIn A s s' → (locality env interfaceId s₀).AgreeIn A s t' →
      (locality env interfaceId s₀).CalmOut A s' → (locality env interfaceId s₀).CalmOut A t' →
      (locality env interfaceId s₀).Alike A s' t'
        ((s.checkForNewDeviceAddresses interfaceId).foldl (createDevice env interfaceId) s')
        ((t'.checkForNewDeviceAddresses interfaceId).foldl (createDevice env interfaceId) t') :=
    fun s' t' hs' ht' hss' hst' hout hout' =>
      alike_createDevices (hss'.symm.trans hst') hs' ht' hout hout'
        (fun _ => isDevice_of_mem_check hs) (fun _ => isDevice_of_mem_check ht')
        fun a ha _ => hcheck hst' ht' a ha
  have hcalm : ∀ s', s₀.Coherent interfaceId s' → (locality env interfaceId s₀).AgreeIn A s s' →
      (locality env interfaceId s₀).CalmIn A
        ((s.checkForNewDeviceAddresses interfaceId).foldl (createDevice env interfaceId) s') :=
    fun s' hs' hss' a ha => settled_createDevices hs' fun _ => hcheck hss' hs' a ha
  have hrun : ∀ t', rest.run t' = k.run
      ((t'.checkForNewDeviceAddresses interfaceId).foldl (createDevice env interfaceId) t') :=
    fun _ => run_createMissing hclient
  have hleave : (locality env interfaceId s₀).Follows A true
      ((locality env interfaceId s₀).CalmIn A) (Segment.pause .release k) :=
    .release (fun _ h => h) hk
  cases hxs : s.checkForNewDeviceAddresses interfaceId with
  | nil =>
    have hpart : createNewDevices env interfaceId k s = Segment.pause .release k s := by
      simp only [createNewDevices, hxs]
    simp only [hxs, List.foldl_nil] at halike hcalm
    refine .begin (.refl hagree hs ht) (.release rest hagree hs ht (hcalm s hs (.refl s)) rfl
      fun s' t' hs' ht' hss' hst' hout hout' => ?_) hpart
    have hsame := halike s' t' hs' ht' hss' hst' hout hout'
    rw [hrun]
    exact .begin hsame (hk _ _ hsame.valid hsame.valid' hsame.agree (by simp)
      (hcalm s' hs' hss')) rfl
  | cons x xs =>
    have hpart : createNewDevices env interfaceId k s = Segment.pause .await (fun s' =>
        Segment.pause .await (Segment.pause .release k)
          ((x :: xs).foldl (createDevice env interfaceId) s')) s := by
      simp only [createNewDevices, hxs, createDevices_of_client hclient]
    rw [hxs] at halike hcalm
    refine .begin (.refl hagree hs ht) (.await rest hagree hs ht (by simp) rfl
      fun s' t' hs' ht' hss' hst' hout => ?_) hpart
    have hsame := halike s' t' hs' ht' hss' hst' (hout rfl).1 (hout rfl).2
    rw [hrun]
    refine .begin hsame (.await (.after .release k) hsame.agree hsame.valid hsame.valid'
      (by simp) rfl fun s'' t'' hs'' ht'' hss'' hst'' hout'' => ?_) rfl
    exact hleave s'' t'' hs'' ht'' (hss''.symm.trans hst'') hout''
      (hss''.calm (hcalm s' hs' hss'))

end Create

/-! ## Under the semaphore -/

section Add

variable {s t : DeviceCoordinator D} {ds : List DeviceDescription}

/-- Paramset descriptions create no device. -/
theorem calmIn_cacheParamsets {x : String} (fetched : List (ParamsetKey × D))
    (h : (locality env interfaceId s₀).CalmIn A s) :
    (locality env interfaceId s₀).CalmIn A (s.cacheParamsets interfaceId x fetched) := h

theorem follows_fetchMissingParamsets (hds : ∀ d ∈ ds, deviceOf d.address ∈ A)
    (hk : (locality env interfaceId s₀).Follows A true ((locality env interfaceId s₀).CalmIn A) k) :
    (locality env interfaceId s₀).Follows A true ((locality env interfaceId s₀).CalmIn A)
      (fetchMissingParamsets env interfaceId k ds) := by
  induction ds with
  | nil => exact hk
  | cons d ds ih =>
    have hrest := ih fun d' hd' => hds d' (List.mem_cons_of_mem _ hd')
    refine .await (by simp) (fun _ _ hagree h => hagree.calm h) ?_
    simp only [fetchParamsetDescriptions_eq]
    cases (env.backend interfaceId).getParamsetDescriptions d.address d.paramsets with
    | error exc => exact .release (fun _ h => h) follows_finish
    | ok fetched =>
      exact .begin (fun s t hagree hs ht _ =>
        alike_cacheParamsets hagree hs ht fetched (hds d List.mem_cons_self))
        (fun _ _ h => calmIn_cacheParamsets fetched h) hrest

theorem identifyDevicesMissingParamsets_of_agree
    (hagree : (locality env interfaceId s₀).AgreeIn A s t)
    (hds : ∀ d ∈ ds, deviceOf d.address ∈ A) :
    s.identifyDevicesMissingParamsets interfaceId ds =
      t.identifyDevicesMissingParamsets interfaceId ds := by
  refine List.filter_congr fun d hd => ?_
  rw [getChannelParamsetDescriptions_of_stored (hagree _ (hds d hd)) rfl]

theorem mem_of_identifyMissing {d : DeviceDescription}
    (hd : d ∈ s.identifyDevicesMissingParamsets interfaceId ds) : d ∈ ds :=
  (List.mem_filter.mp hd).1

theorem follows_addMissingParamsets (hclient : interfaceId ∈ env.interfaceIds)
    (hds : ∀ d ∈ ds, deviceOf d.address ∈ A)
    (hk : (locality env interfaceId s₀).FollowsFree A k) :
    (locality env interfaceId s₀).Follows A true ((locality env interfaceId s₀).CalmIn A)
      (addMissingParamsets env interfaceId ds k) := by
  have hleave : (locality env interfaceId s₀).Follows A true
      ((locality env interfaceId s₀).CalmIn A) (Segment.pause .release k) :=
    .release (fun _ h => h) hk
  refine .of_eq fun s t hagree _ _ hcalm => ?_
  simp only [addMissingParamsets, ← identifyDevicesMissingParamsets_of_agree hagree hds]
  split
  · exact ⟨_, _, rfl, rfl, hcalm, hleave⟩
  next missing hmissing =>
    have hin : ∀ d ∈ s.identifyDevicesMissingParamsets interfaceId ds, deviceOf d.address ∈ A :=
      fun d hd => hds d (mem_of_identifyMissing hd)
    refine ⟨_, _, rfl, rfl, hcalm, follows_fetchMissingParamsets hin ?_⟩
    refine .await (by simp) (fun _ _ hagree h => hagree.calm h) ?_
    refine .of_eq fun s' t' hagree' _ _ hcalm' => ?_
    simp only [← identifyDevicesMissingParamsets_of_agree hagree' hin]
    split
    · exact ⟨_, _, rfl, rfl, hcalm', .await (by simp) (fun _ _ _ _ => trivial)
        (follows_createNewDevices hclient hk)⟩
    · exact ⟨_, _, rfl, rfl, hcalm', .await (by simp) (fun _ _ hagree h => hagree.calm h) hleave⟩

/-- A description's paramsets are fetched and cached before a part that follows. -/
theorem follows_fetched {d : DeviceDescription} (hd : deviceOf d.address ∈ A)
    {part : Segment (DeviceCoordinator D)}
    (hpart : (locality env interfaceId s₀).Follows A true (fun _ => True) part) :
    (locality env interfaceId s₀).Follows A true (fun _ => True)
      (Segment.pause .await fun s =>
        match s.fetchParamsetDescriptions env interfaceId d with
        | .error _ => part s
        | .ok fetched => part fetched) := by
  refine .await (by simp) (fun _ _ _ h => h) ?_
  simp only [fetchParamsetDescriptions_eq]
  cases (env.backend interfaceId).getParamsetDescriptions d.address d.paramsets with
  | error exc => exact hpart
  | ok fetched =>
    exact .begin (fun s t hagree hs ht _ => alike_cacheParamsets hagree hs ht fetched hd)
      (fun _ _ h => h) hpart

/-- The caching loop. -/
theorem follows_cacheDescriptions (source : SourceOfDeviceCreation)
    (new : List DeviceDescription) (hds : ∀ d ∈ ds, deviceOf d.address ∈ A)
    (hk : (locality env interfaceId s₀).Follows A true (fun _ => True) k) :
    (locality env interfaceId s₀).Follows A true (fun _ => True)
      (cacheDescriptions env interfaceId source new k ds) := by
  induction ds with
  | nil => exact hk
  | cons d ds ih =>
    have hrest := ih fun d' hd' => hds d' (List.mem_cons_of_mem _ hd')
    have hd := hds d List.mem_cons_self
    have hcached : ∀ {part : Segment (DeviceCoordinator D)},
        (locality env interfaceId s₀).Follows A true (fun _ => True) part →
        (locality env interfaceId s₀).Follows A true (fun _ => True)
          fun s => part (s.cacheDevice interfaceId d) := fun h =>
      .begin (fun s t hagree hs ht _ => alike_cacheDevice hagree hs ht hd) (fun _ _ h => h) h
    -- whether the description is taken depends on itself alone
    have hfst : ∀ s : DeviceCoordinator D, ((s.deviceDescriptions interfaceId).addDevice d).1 =
        (DeviceDescriptionRegistry.empty.addDevice d).1 := fun _ =>
      DeviceDescriptionRegistry.addDevice_fst
    unfold cacheDescriptions
    simp only [hfst]
    cases (DeviceDescriptionRegistry.empty.addDevice d).1 with
    | error exc => exact hcached hrest
    | ok =>
      by_cases hfetch : source ≠ .refresh ∨ d ∈ new
      · simp only [hfetch, if_true]
        exact hcached (follows_fetched hd hrest)
      · simp only [hfetch, if_false]
        exact hcached hrest

theorem identifyNew_of_agree (hagree : (locality env interfaceId s₀).AgreeIn A s t)
    (hds : ∀ d ∈ ds, d.parentOrAddress ∈ A) :
    s.identifyNewDeviceDescriptions interfaceId ds =
      t.identifyNewDeviceDescriptions interfaceId ds := by
  refine List.filter_congr fun d hd => decide_eq_decide.mpr (not_congr ?_)
  exact DeviceDescriptionRegistry.mem_getAddresses_of_part
    (part_of_stored (hagree _ (hds d hd)) interfaceId)

/-- The address of a channel is never listed. -/
theorem identifyMissing_of_agree (hagree : (locality env interfaceId s₀).AgreeIn A s t)
    (hs : s₀.Coherent interfaceId s) (ht : s₀.Coherent interfaceId t)
    (hds : ∀ d ∈ ds, deviceOf d.address ∈ A) :
    s.identifyMissingDeviceDescriptions interfaceId ds =
      t.identifyMissingDeviceDescriptions interfaceId ds := by
  have hlisted : ∀ {s : DeviceCoordinator D}, s₀.Coherent interfaceId s → ∀ {a},
      a ∈ (s.deviceDescriptions interfaceId).getAddresses → IsDevice a := fun hs a ha =>
    (hs.fits a).listed.isDevice (DeviceDescriptionRegistry.mem_getAddresses_iff.mp ha)
  refine List.filter_congr fun d hd => decide_eq_decide.mpr (not_congr ?_)
  by_cases hdevice : IsDevice d.address
  · have hin := hds d hd
    rw [deviceOf_of_isDevice hdevice] at hin
    exact DeviceDescriptionRegistry.mem_getAddresses_of_part
      (part_of_stored (hagree _ hin) interfaceId)
  · exact iff_of_false (fun h => hdevice (hlisted hs h)) fun h => hdevice (hlisted ht h)

theorem descriptionsToCache_of_agree (hagree : (locality env interfaceId s₀).AgreeIn A s t)
    (hs : s₀.Coherent interfaceId s) (ht : s₀.Coherent interfaceId t)
    (hds : ∀ d ∈ ds, deviceOf d.address ∈ A) (hparents : ∀ d ∈ ds, d.parentOrAddress ∈ A)
    (source : SourceOfDeviceCreation) :
    s.descriptionsToCache source interfaceId ds = t.descriptionsToCache source interfaceId ds := by
  simp only [descriptionsToCache, identifyNew_of_agree hagree hparents,
    identifyMissing_of_agree hagree hs ht hds]

theorem mem_of_descriptionsToCache {source : SourceOfDeviceCreation} {d : DeviceDescription}
    (hd : d ∈ s.descriptionsToCache source interfaceId ds) : d ∈ ds := by
  have hvalues : ∀ (es : List DeviceDescription) (byAddress : Dict String DeviceDescription),
      (∀ a d, byAddress.get? a = some d → d ∈ ds) → (∀ d ∈ es, d ∈ ds) →
      ∀ d ∈ (es.foldl (fun byAddress d => byAddress.set d.address d) byAddress).values,
        d ∈ ds := by
    intro es
    induction es with
    | nil =>
      intro byAddress hin _ d hd
      obtain ⟨e, he, rfl⟩ := List.mem_map.mp hd
      exact hin e.1 e.2 (Dict.get?_eq_some.mpr he)
    | cons e es ih =>
      intro byAddress hin hes
      refine ih _ (fun a d h => ?_) fun d hd => hes d (List.mem_cons_of_mem _ hd)
      rw [Dict.get?_set] at h
      split at h
      · cases h
        exact hes e List.mem_cons_self
      · exact hin a d h
  unfold descriptionsToCache at hd
  split at hd
  · exact hd
  · refine hvalues _ .empty (by simp) (fun e he => ?_) d hd
    obtain he | he := List.mem_append.mp he
    · exact (List.mem_filter.mp he).1
    · exact (List.mem_filter.mp he).1

theorem follows_addUnderSemaphore (hclient : interfaceId ∈ env.interfaceIds)
    (hds : ∀ d ∈ ds, deviceOf d.address ∈ A) (hparents : ∀ d ∈ ds, d.parentOrAddress ∈ A)
    (source : SourceOfDeviceCreation) (hk : (locality env interfaceId s₀).FollowsFree A k) :
    (locality env interfaceId s₀).Follows A true ((locality env interfaceId s₀).CalmIn A)
      (addUnderSemaphore env interfaceId ds source k) := by
  refine .of_eq fun s t hagree hs ht hcalm => ?_
  simp only [addUnderSemaphore, ← identifyNew_of_agree hagree hparents,
    ← descriptionsToCache_of_agree hagree hs ht hds hparents source]
  split
  · exact ⟨_, _, rfl, rfl, hcalm, follows_addMissingParamsets hclient hds hk⟩
  · split
    · refine ⟨fun s => Segment.pause .release k (s.storeDelayedDeviceDescriptions interfaceId _),
        _, rfl, rfl, hcalm, ?_⟩
      exact .begin (fun s t hagree hs ht _ => alike_storeDelayed hagree hs ht _ _)
        (fun _ _ h => h) (.release (fun _ h => h) hk)
    · have hcreate : (locality env interfaceId s₀).Follows A true (fun _ => True)
          (Segment.pause .await (createNewDevices env interfaceId k)) :=
        .await (by simp) (fun _ _ _ h => h) (follows_createNewDevices hclient hk)
      refine ⟨_, fun _ => True, rfl, rfl, trivial, follows_cacheDescriptions source _ ?_ hcreate⟩
      exact fun d hd => hds d (mem_of_descriptionsToCache hd)

theorem mem_devicesOf {d : DeviceDescription} (hd : d ∈ ds) :
    deviceOf d.address ∈ devicesOf ds ∧ d.parentOrAddress ∈ devicesOf ds :=
  ⟨List.mem_flatMap.mpr ⟨d, hd, by simp⟩, List.mem_flatMap.mpr ⟨d, hd, by simp⟩⟩

theorem follows_addNewDevices (hds : ∀ a ∈ devicesOf ds, a ∈ A) (source : SourceOfDeviceCreation)
    (hk : (locality env interfaceId s₀).FollowsFree A k) :
    (locality env interfaceId s₀).FollowsFree A (addNewDevices env interfaceId ds source k) := by
  unfold addNewDevices
  split
  · exact hk
  next hadd =>
    have hclient : interfaceId ∈ env.interfaceIds := not_not.mp (not_or.mp hadd).2
    exact .acquire (follows_addUnderSemaphore hclient
      (fun d hd => hds _ (mem_devicesOf hd).1) (fun d hd => hds _ (mem_devicesOf hd).2) source hk)

end Add

/-! ## Reloading -/

section Reload

variable {dropped fetched : String}

theorem follows_reload (hin : ∀ a ∈ reloads env interfaceId dropped fetched, a ∈ A)
    (hforeign : ∀ a ∈ A, foreign interfaceId s₀ a = false)
    (hk : (locality env interfaceId s₀).FollowsFree A k) :
    (locality env interfaceId s₀).FollowsFree A (reload env interfaceId dropped fetched k) := by
  have hrefresh : (locality env interfaceId s₀).FollowsFree A
      (refresh env interfaceId fetched k) := by
    refine .await (fun _ _ h => h) (fun _ _ hagree h => hagree.calm h) ?_
    cases hfetch : fetchDeviceDescriptions env interfaceId (some fetched) with
    | error exc => exact follows_finish
    | ok ds =>
      refine follows_addNewDevices (fun a ha => hin a (List.mem_cons_of_mem _ ?_)) .refresh hk
      rw [hfetch]
      exact ha
  have hdropped : deviceOf dropped ∈ A := hin _ List.mem_cons_self
  refine .of_eq fun s t hagree hs _ hcalm => ?_
  have hsame := getDevice_of_agree hagree hdropped
  simp only [reload, ← hsame]
  split
  · exact ⟨_, _, rfl, rfl, hcalm, follows_finish⟩
  · exact ⟨_, _, rfl, rfl, hcalm, hrefresh⟩
  next device hget =>
    obtain ⟨hdevice, hdeviceOf, hregistered⟩ := spec_of_getDevice hget
    have hx : device.address ∈ A := hdeviceOf ▸ hdropped
    have hown := (hs.fits device.address).own device hregistered (hforeign _ hx)
    refine ⟨fun s => removeDevice device (refresh env interfaceId fetched k)
      (s.removeFromCaches device), fun s => (locality env interfaceId s₀).CalmIn A s ∧
        s.deviceRegistry.hasDevice device.address = true, rfl, rfl, ⟨hcalm, ?_⟩, ?_⟩
    · rw [hasDevice_eq, hregistered]
      rfl
    · exact .begin (fun s t hagree hs ht _ => alike_removeFromCaches hagree hs ht hdevice hx)
        (fun s _ hp => calmIn_removeFromCaches hdevice hp.2 hp.1)
        (follows_removeDevice hdevice hx hown (hforeign _ hx) hrefresh)

theorem follows_readdDevices {addresses : List String}
    (hin : ∀ address ∈ addresses, ∀ a ∈ reloads env interfaceId address address, a ∈ A)
    (hforeign : ∀ a ∈ A, foreign interfaceId s₀ a = false) :
    (locality env interfaceId s₀).FollowsFree A (readdDevices env interfaceId addresses) := by
  induction addresses with
  | nil => exact follows_finish
  | cons address addresses ih =>
    exact follows_reload (hin address List.mem_cons_self) hforeign
      (ih fun a ha => hin a (List.mem_cons_of_mem _ ha))

theorem follows_withClient (hk : (locality env interfaceId s₀).FollowsFree A k) :
    (locality env interfaceId s₀).FollowsFree A (withClient env interfaceId k) := by
  unfold withClient
  split
  · exact follows_finish
  · exact hk

end Reload

/-! ## Adding devices holds the semaphore to the end -/

section Held

variable {ds : List DeviceDescription}

theorem held_createNewDevices :
    (createNewDevices env interfaceId (D := D) Segment.finish).Held := by
  intro s
  unfold createNewDevices
  split
  · exact Segment.held_release s
  · refine Segment.Held.await (fun s' => ?_) s
    split
    · exact Segment.held_release s'
    · exact Segment.held_release.await _

theorem held_fetchMissingParamsets (hk : k.Held) :
    (fetchMissingParamsets env interfaceId k ds).Held := by
  induction ds with
  | nil => exact hk
  | cons d ds ih =>
    refine Segment.Held.await fun s => ?_
    split
    · exact Segment.held_release s
    · exact ih _

theorem held_addMissingParamsets :
    (addMissingParamsets env interfaceId ds Segment.finish).Held := by
  intro s
  unfold addMissingParamsets
  split
  · exact Segment.held_release s
  · refine held_fetchMissingParamsets (Segment.Held.await fun s' => ?_) s
    split
    · exact held_createNewDevices.await s'
    · exact Segment.held_release.await s'

theorem held_cacheDescriptions {source : SourceOfDeviceCreation} {new : List DeviceDescription}
    (hk : k.Held) : (cacheDescriptions env interfaceId source new k ds).Held := by
  induction ds with
  | nil => exact hk
  | cons d ds ih =>
    intro s
    unfold cacheDescriptions
    dsimp only
    split
    · exact ih _
    · split
      · refine Segment.Held.await (fun s' => ?_) _
        split
        · exact ih _
        · exact ih _
      · exact ih _

theorem held_addUnderSemaphore (source : SourceOfDeviceCreation) :
    (addUnderSemaphore env interfaceId ds source Segment.finish).Held := by
  intro s
  unfold addUnderSemaphore
  dsimp only
  split
  · exact held_addMissingParamsets s
  · split
    · exact Segment.held_release _
    · exact held_cacheDescriptions held_createNewDevices.await s

end Held

/-! ## Any interleaving -/

theorem respects (env : Environment D) (interfaceId : String) (s₀ : DeviceCoordinator D) :
    (locality env interfaceId s₀).Respects (program env interfaceId) where
  twin := fun job s hforeign _ hcalm => by
    cases job with
    | newDevices ds =>
      simp only [program]
      split
      · exact ⟨rfl, rfl, hcalm⟩
      next hadd =>
        have hclient : interfaceId ∈ env.interfaceIds := not_not.mp (not_or.mp hadd).2
        exact Follows.twin .acquire rfl (follows_addUnderSemaphore hclient
          (fun d hd => (mem_devicesOf hd).1) (fun d hd => (mem_devicesOf hd).2) .new
          follows_finish) hcalm
    | deleteDevices addresses =>
      exact Follows.twin .await trivial
        (follows_deleteDevices (fun _ h => List.mem_map_of_mem h) hforeign) hcalm
    | readdedDevice addresses =>
      refine Follows.twin .await trivial
        (follows_withClient (follows_readdDevices (fun address h a ha => ?_) hforeign)) hcalm
      exact List.mem_flatMap.mpr ⟨address, h, ha⟩
    | replaceDevice oldDeviceAddress newDeviceAddress =>
      exact Follows.twin .await trivial (follows_withClient (follows_reload (fun _ h => h) hforeign
        follows_finish)) hcalm
    | updateDevice address hint =>
      cases hint with
      | links => exact ⟨rfl, rfl, hcalm⟩
      | firmware =>
        simp only [program]
        split
        · exact ⟨rfl, rfl, hcalm⟩
        next deviceAddress hdevice =>
          refine Follows.twin .await trivial (follows_withClient
            (follows_reload (fun _ h => ?_) hforeign follows_finish)) hcalm
          rw [← deviceOf_of_getDeviceAddress hdevice] at h
          exact h
  exclusive := fun job hex => by
    cases job with
    | newDevices ds =>
      have hadd := of_decide_eq_true hex
      rw [program, if_neg (not_or.mpr ⟨hadd.1, not_not.mpr hadd.2⟩)]
      exact held_addUnderSemaphore .new
    | deleteDevices | readdedDevice | replaceDevice | updateDevice => cases hex

/-- The caches know the interface and list each cached device; a listed device is registered, or
cannot be created. -/
structure Consistent (env : Environment D) (interfaceId : String) (s : DeviceCoordinator D) :
    Prop where
  hasInterfaceId : s.paramsetDescriptions.hasInterfaceId interfaceId = true
  isDevice : ∀ a ∈ (s.deviceDescriptions interfaceId).getAddresses, IsDevice a
  listed : ∀ a ∈ (s.deviceDescriptions interfaceId).deviceDescriptions.keys, IsDevice a →
    a ∈ (s.deviceDescriptions interfaceId).getAddresses
  created : ∀ a ∈ (s.deviceDescriptions interfaceId).getAddresses, s.device? a = none →
    s.newDevice? env interfaceId a = none

theorem ready_of_consistent (h : Consistent env interfaceId s₀) :
    (locality env interfaceId s₀).Ready (program env interfaceId) s₀ where
  toRespects := respects env interfaceId s₀
  valid :=
    { hasInterfaceId := h.hasInterfaceId
      fits := fun a =>
        { listed :=
            { isDevice := fun hsome =>
                h.isDevice a (DeviceDescriptionRegistry.mem_getAddresses_iff.mpr hsome)
              listed := fun ha hsome => by
                simp only [stored, DeviceDescriptionRegistry.part, deviceOf_of_isDevice ha,
                  if_true] at hsome
                obtain ⟨d, hd⟩ := Option.isSome_iff_exists.mp hsome
                exact DeviceDescriptionRegistry.mem_getAddresses_iff.mp
                  (h.listed a (Dict.mem_keys.mpr ⟨d, hd⟩) ha) }
          foreign := fun _ => rfl
          own := fun device hdevice hown => by
            have hdevice : s₀.device? a = some device := hdevice
            rw [foreign, hdevice] at hown
            simpa using hown } }
  allCalm := fun a ha hnone => by
    by_cases hmem : a ∈ (s₀.deviceDescriptions interfaceId).getAddresses
    · exact h.created a hmem hnone
    · refine newDevice?_of_none ?_
      by_contra hsome
      exact hmem (h.listed a (Dict.mem_keys.mpr (Option.ne_none_iff_exists'.mp hsome)) ha)

/-- The same devices with the same descriptions; the lists are compared device by device. -/
structure SameStores (s t : DeviceCoordinator D) : Prop where
  devices : ∀ a, s.device? a = t.device? a
  descriptions : ∀ interfaceId c,
    s.cachedDescription interfaceId c = t.cachedDescription interfaceId c
  addresses : ∀ interfaceId a, (s.deviceDescriptions interfaceId).addresses.get? a =
    (t.deviceDescriptions interfaceId).addresses.get? a
  raw : ∀ interfaceId a,
    (s.deviceDescriptions interfaceId).rawDeviceDescriptions.filter (deviceOf ·.address = a) =
      (t.deviceDescriptions interfaceId).rawDeviceDescriptions.filter (deviceOf ·.address = a)
  paramsets : ∀ interfaceId c,
    s.paramsetDescriptions.getChannelParamsetDescriptions interfaceId c =
      t.paramsetDescriptions.getChannelParamsetDescriptions interfaceId c

theorem sameStores_of_stored {s t : DeviceCoordinator D} (h : ∀ a, s.stored a = t.stored a) :
    SameStores s t where
  devices a := device?_of_stored (h a)
  descriptions i c :=
    DeviceDescriptionRegistry.getDeviceDescription_of_part (part_of_stored (h (deviceOf c)) i) rfl
  addresses i a := congrArg DeviceDescriptionRegistry.Part.addresses (part_of_stored (h a) i)
  raw i a := congrArg DeviceDescriptionRegistry.Part.raw (part_of_stored (h a) i)
  paramsets i c := getChannelParamsetDescriptions_of_stored (h (deviceOf c)) rfl i

/-- **Callbacks are serialisable**: where tasks that overlap concern different devices, or all add
devices, the stores end as if the callbacks had run one after the other. -/
theorem serialisable_of_apart (hstart : Consistent env interfaceId s₀)
    {p : Pool DeviceCallback (DeviceCoordinator D)}
    (hreach : (tasks env interfaceId s₀).Reach (Pool.Apart (locality env interfaceId s₀)) p)
    (hended : p.ended = true) :
    SameStores p.shared (serial (program env interfaceId) s₀ p.jobs) :=
  sameStores_of_stored fun a =>
    Pool.agree_of_ended (ready_of_consistent hstart) hreach hended a

/-! ## A device that is deleted and announced again -/

theorem sampleCoordinator_consistent :
    Consistent (sampleEnvironment true) "CCU-BidCos-RF" sampleCoordinator where
  hasInterfaceId := by decide
  isDevice := by decide
  listed := by decide
  created := by decide

instance (env : Environment D) (interfaceId : String) (s₀ : DeviceCoordinator D) :
    DecidablePred (locality env interfaceId s₀).Admits := fun job =>
  inferInstanceAs
    (Decidable (∀ a ∈ footprint env interfaceId job, foreign interfaceId s₀ a = false))

/-- Deleted and announced again, the device is to be there. -/
def deleteAndAnnounce : List DeviceCallback :=
  [.deleteDevices ["VCU0000001"], .newDevices (sampleBackend true).descriptions]

/-- The announcement is over before the handlers of the removal have run. -/
theorem not_sameStores_deleteAndAnnounce :
    Consistent (sampleEnvironment true) "CCU-BidCos-RF" sampleCoordinator ∧
    ∃ p, (tasks (sampleEnvironment true) "CCU-BidCos-RF" sampleCoordinator).Reach Free p ∧
      p.jobs = deleteAndAnnounce ∧ p.ended = true ∧
      p.shared.device? "VCU0000001" = none ∧
      ¬ SameStores p.shared
        (serial (program (sampleEnvironment true) "CCU-BidCos-RF") sampleCoordinator p.jobs) := by
  refine ⟨sampleCoordinator_consistent, ?_⟩
  obtain ⟨p, hp, hjobs, hended, hnone⟩ := replay_any
    (p := fun p : Pool DeviceCallback (DeviceCoordinator Unit) =>
      p.jobs = deleteAndAnnounce ∧ p.ended = true ∧ p.shared.device? "VCU0000001" = none)
    (show ((tasks (sampleEnvironment true) "CCU-BidCos-RF" sampleCoordinator).replay Free
      { shared := sampleCoordinator } (deleteAndAnnounce.map .arrive ++
        [.start, .start, .resume 1, .resume 1, .resume 1, .resume 0, .resume 0])).any _ = true by
      decide +kernel)
  refine ⟨p, reach_of_replay hp, hjobs, hended, hnone, fun hsame => ?_⟩
  have hserial : ((serial (program (sampleEnvironment true) "CCU-BidCos-RF") sampleCoordinator
      deleteAndAnnounce).device? "VCU0000001").isSome = true := by
    decide +kernel
  rw [← hjobs, ← hsame.devices, hnone] at hserial
  cases hserial

theorem childrenOf_nil (address : String) :
    ∀ c ∈ ([] : List String), c = "" ∨ getDeviceAddress c = some address :=
  fun _ hc => absurd hc List.not_mem_nil

/-- A device that is announced while another one is deleted. -/
def otherDevice : DeviceDescription where
  type := "HM-LC-Sw1-FM"
  address := "VCU0000002"
  paramsets := [.master]
  children := []
  children_of := childrenOf_nil "VCU0000002"

theorem serialisable_of_apart_other :
    ∃ p, (tasks (sampleEnvironment true) "CCU-BidCos-RF" sampleCoordinator).Reach
        (Pool.Apart (locality (sampleEnvironment true) "CCU-BidCos-RF" sampleCoordinator)) p ∧
      p.jobs = [.deleteDevices ["VCU0000001"], .newDevices [otherDevice]] ∧
      SameStores p.shared
        (serial (program (sampleEnvironment true) "CCU-BidCos-RF") sampleCoordinator p.jobs) := by
  obtain ⟨p, hp, hjobs, hended⟩ := replay_any
    (p := fun p : Pool DeviceCallback (DeviceCoordinator Unit) =>
      p.jobs = [.deleteDevices ["VCU0000001"], .newDevices [otherDevice]] ∧ p.ended = true)
    (show ((tasks (sampleEnvironment true) "CCU-BidCos-RF" sampleCoordinator).replay
      (Pool.Apart (locality (sampleEnvironment true) "CCU-BidCos-RF" sampleCoordinator))
      { shared := sampleCoordinator }
      [.arrive (.deleteDevices ["VCU0000001"]), .arrive (.newDevices [otherDevice]),
        .start, .start, .resume 1, .resume 0, .resume 1, .resume 1, .resume 0, .resume 1]).any
          _ = true by
      decide +kernel)
  exact ⟨p, reach_of_replay hp, hjobs,
    serialisable_of_apart sampleCoordinator_consistent (reach_of_replay hp) hended⟩

end DeviceTask

end AioHomematic.Central
