import AioHomematic.Central.Coordinators.Device.Reload

/-!
# Saving what was added

`_add_new_devices` with the saves of the two description caches. Whether the
caching loop is followed by saves is one flag, which every description of the
batch writes anew: the last one decides (`flag_cacheAll`). The branch that
fetches missing paramsets saves after its loop, which an exception leaves.
`persisted_iff` says when a call has saved what it added.

The backend may answer differently at each description: `answer i` is the
backend at the description `i` of a loop.
-/

namespace AioHomematic.Central

open Lib Support Store Model

/-- What a call of `_add_new_devices` leaves behind. -/
structure Addition (D : Type) where
  state : DeviceCoordinator D
  raised : Option PyException := none
  /-- The descriptions that the caching loop added without an exception. -/
  added : List DeviceDescription := []
  /-- The descriptions whose missing paramsets were fetched. -/
  fetched : List DeviceDescription := []
  /-- The contents of the caches when they were last saved. -/
  savedDeviceDescriptions : Option (String → DeviceDescriptionRegistry) := none
  savedParamsetDescriptions : Option (ParamsetDescriptionRegistry D) := none

namespace Addition

variable {D : Type}

/-- What the call returns or raises. -/
def toExcept (r : Addition D) : Except PyException (DeviceCoordinator D) :=
  match r.raised with
  | none => .ok r.state
  | some exc => .error exc

theorem toExcept_of_none {r : Addition D} (h : r.raised = none) : r.toExcept = .ok r.state := by
  rw [toExcept, h]

theorem toExcept_of_some {r : Addition D} {exc : PyException} (h : r.raised = some exc) :
    r.toExcept = .error exc := by
  rw [toExcept, h]

/-- Of what was added, nothing is lost in a restart. -/
def Persisted (r : Addition D) : Prop :=
  (r.added ≠ [] → r.savedDeviceDescriptions = some r.state.deviceDescriptions ∧
      r.savedParamsetDescriptions = some r.state.paramsetDescriptions) ∧
    (r.fetched ≠ [] → r.savedParamsetDescriptions = some r.state.paramsetDescriptions)

/-- `save_all` and `save_if_changed` of the cache coordinator. A cache that has not changed since
it was saved is not written again. -/
def saveAll (saveDeviceDescriptions saveParamsetDescriptions : Bool) (r : Addition D) :
    Addition D :=
  { r with
    savedDeviceDescriptions :=
      if saveDeviceDescriptions then some r.state.deviceDescriptions
      else r.savedDeviceDescriptions
    savedParamsetDescriptions :=
      if saveParamsetDescriptions then some r.state.paramsetDescriptions
      else r.savedParamsetDescriptions }

/-- `_on_data_fetch_completed`, for the event of fetched paramset descriptions. -/
def onDataFetchCompleted (r : Addition D) : Addition D := r.saveAll false true

/-- The end of a call: the devices of the cache that are not there are created. -/
def createNewDevices (env : Environment D) (interfaceId : String) (r : Addition D) : Addition D :=
  match r.state.createNewDevices env interfaceId with
  | .ok state => { r with state }
  | .error exc => { r with raised := some exc }

end Addition

namespace DeviceCoordinator

variable {D : Type}

/-- The environment with the backend as it answers now. -/
def answering (env : Environment D) (b : Backend D) : Environment D :=
  { env with backend := fun _ => b }

/-- The body of the caching loop comes to its end without an exception. -/
def caches (env : Environment D) (source : SourceOfDeviceCreation) (interfaceId : String)
    (newDeviceDescriptions : List DeviceDescription) (s : DeviceCoordinator D)
    (d : DeviceDescription) : Bool :=
  let (result, descriptions) := (s.deviceDescriptions interfaceId).addDevice d
  let added :=
    { s with
      deviceDescriptions := Function.update s.deviceDescriptions interfaceId descriptions }
  match result with
  | .error _ => false
  | .ok _ =>
    if source ≠ .refresh ∨ d ∈ newDeviceDescriptions then
      (added.fetchParamsetDescriptions env interfaceId d).isOk
    else true

section

variable (env : Environment D) (answer : Nat → Backend D) (source : SourceOfDeviceCreation)
  (interfaceId : String) (newDeviceDescriptions : List DeviceDescription)

/-- The body of the caching loop with `save_descriptions`. -/
def cacheNext (r : Addition D × Bool) (e : DeviceDescription × Nat) : Addition D × Bool :=
  let env := answering env (answer e.2)
  let state := cacheDescription env source interfaceId newDeviceDescriptions r.1.state e.1
  if r.1.state.caches env source interfaceId newDeviceDescriptions e.1 then
    ({ r.1 with state, added := r.1.added ++ [e.1] }, true)
  else ({ r.1 with state }, false)

/-- The caching loop, from `save_descriptions = False`. -/
def cacheAll (s : DeviceCoordinator D) (toCache : List DeviceDescription) : Addition D × Bool :=
  toCache.zipIdx.foldl (cacheNext env answer source interfaceId newDeviceDescriptions)
    ({ state := s }, false)

/-- The loop that fetches missing paramsets; an exception leaves it, and the call. -/
def fetchMissing : List (DeviceDescription × Nat) → Addition D → Addition D
  | [], r => r
  | (d, i) :: rest, r =>
    match r.state.fetchParamsetDescriptions (answering env (answer i)) interfaceId d with
    | .error exc => { r with raised := some exc }
    | .ok state => fetchMissing rest { r with state, fetched := r.fetched ++ [d] }

/-- The branch without descriptions to cache. Both of its ends save, before they part. -/
def addMissingParamsetsSaving (s : DeviceCoordinator D)
    (deviceDescriptions : List DeviceDescription) : Addition D :=
  match s.identifyDevicesMissingParamsets interfaceId deviceDescriptions with
  | [] => { state := s }
  | missing =>
    let r := fetchMissing env answer interfaceId missing.zipIdx { state := s }
    if r.raised.isSome then r
    else
      let r := r.onDataFetchCompleted.saveAll false true
      if r.state.identifyDevicesMissingParamsets interfaceId missing = [] then
        r.createNewDevices env interfaceId
      else r

/-- `_add_new_devices`. -/
def addNewDevicesSaving (s : DeviceCoordinator D) (deviceDescriptions : List DeviceDescription) :
    Addition D :=
  if deviceDescriptions = [] ∨ interfaceId ∉ env.interfaceIds then { state := s }
  else
    let newDeviceDescriptions := s.identifyNewDeviceDescriptions interfaceId deviceDescriptions
    let toCache := s.descriptionsToCache source interfaceId deviceDescriptions
    if toCache = [] then addMissingParamsetsSaving env answer interfaceId s deviceDescriptions
    else if env.delayNewDeviceCreation = true ∧ source = .new then
      { state := s.storeDelayedDeviceDescriptions interfaceId newDeviceDescriptions }
    else
      let (r, saveDescriptions) :=
        cacheAll env answer source interfaceId newDeviceDescriptions s toCache
      let r := if saveDescriptions then r.onDataFetchCompleted else r
      (r.saveAll saveDescriptions saveDescriptions).createNewDevices env interfaceId

end

/-! ## The same call without the saves -/

section

variable {env : Environment D} {answer : Nat → Backend D} {source : SourceOfDeviceCreation}
  {interfaceId : String} {newDeviceDescriptions deviceDescriptions : List DeviceDescription}
  {s : DeviceCoordinator D} {r : Addition D}

theorem state_cacheNext (r : Addition D × Bool) (e : DeviceDescription × Nat) :
    (cacheNext env answer source interfaceId newDeviceDescriptions r e).1.state =
      cacheDescription (answering env (answer e.2)) source interfaceId newDeviceDescriptions
        r.1.state e.1 := by
  unfold cacheNext
  dsimp only
  split <;> rfl

variable (env answer source interfaceId newDeviceDescriptions s) in
/-- What the caching loop leaves of the other fields. -/
theorem frame_cacheAll (toCache : List DeviceDescription) :
    let r := (cacheAll env answer source interfaceId newDeviceDescriptions s toCache).1
    r.raised = none ∧ r.fetched = [] ∧ r.savedDeviceDescriptions = none ∧
      r.savedParamsetDescriptions = none := by
  unfold cacheAll
  induction toCache.zipIdx using List.reverseRecOn with
  | nil => exact ⟨rfl, rfl, rfl, rfl⟩
  | append_singleton es e ih =>
    rw [List.foldl_append, List.foldl_cons, List.foldl_nil]
    unfold cacheNext
    dsimp only at ih ⊢
    split <;> exact ih

theorem state_cacheAll (toCache : List DeviceDescription) :
    (cacheAll env (fun _ => env.backend interfaceId) source interfaceId newDeviceDescriptions s
        toCache).1.state =
      toCache.foldl (cacheDescription env source interfaceId newDeviceDescriptions) s := by
  have hfold : ∀ (es : List (DeviceDescription × Nat)) (r : Addition D × Bool),
      (es.foldl (cacheNext env (fun _ => env.backend interfaceId) source interfaceId
        newDeviceDescriptions) r).1.state =
      (es.map Prod.fst).foldl (cacheDescription env source interfaceId newDeviceDescriptions)
        r.1.state := by
    intro es
    induction es with
    | nil => exact fun r => rfl
    | cons e es ih =>
      intro r
      rw [List.foldl_cons, ih, state_cacheNext]
      rfl
  unfold cacheAll
  rw [hfold, List.zipIdx_map_fst]

theorem toExcept_createNewDevices (h : r.raised = none) :
    (r.createNewDevices env interfaceId).toExcept = r.state.createNewDevices env interfaceId := by
  unfold Addition.createNewDevices
  split
  next state hok => exact (Addition.toExcept_of_none (r := { r with state }) h).trans hok.symm
  next herror => rw [herror, Addition.toExcept_of_some rfl]

variable (env interfaceId) in
theorem toExcept_fetchMissing (es : List (DeviceDescription × Nat)) (h : r.raised = none) :
    (fetchMissing env (fun _ => env.backend interfaceId) interfaceId es r).toExcept =
      (es.map Prod.fst).foldlM (fetchParamsetDescriptions env interfaceId) r.state := by
  induction es generalizing r with
  | nil =>
    rw [fetchMissing, Addition.toExcept_of_none h]
    rfl
  | cons e es ih =>
    unfold fetchMissing
    rw [List.map_cons, List.foldlM_cons]
    split
    next exc hfetch =>
      have hfetch' : fetchParamsetDescriptions env interfaceId r.state e.1 = .error exc := hfetch
      rw [hfetch']
      rfl
    next state hfetch =>
      have hfetch' : fetchParamsetDescriptions env interfaceId r.state e.1 = .ok state := hfetch
      rw [hfetch']
      exact ih h

theorem toExcept_addMissingParamsetsSaving :
    (addMissingParamsetsSaving env (fun _ => env.backend interfaceId) interfaceId s
        deviceDescriptions).toExcept = s.addMissingParamsets env interfaceId deviceDescriptions := by
  unfold addMissingParamsetsSaving addMissingParamsets
  generalize s.identifyDevicesMissingParamsets interfaceId deviceDescriptions = missing
  cases missing with
  | nil => rfl
  | cons d missing =>
    have hloop := toExcept_fetchMissing env interfaceId (r := { state := s })
      (d :: missing).zipIdx rfl
    rw [List.zipIdx_map_fst] at hloop
    dsimp only
    rw [← hloop]
    generalize fetchMissing env _ interfaceId (d :: missing).zipIdx { state := s } = r
    cases hraised : r.raised with
    | some exc =>
      rw [if_pos (show (some exc).isSome = true from rfl), Addition.toExcept_of_some hraised]
      rfl
    | none =>
      rw [if_neg nofun, Addition.toExcept_of_none hraised]
      by_cases hcomplete : r.state.identifyDevicesMissingParamsets interfaceId (d :: missing) = []
      · refine (congrArg Addition.toExcept (if_pos hcomplete)).trans ?_
        exact (toExcept_createNewDevices (r := r.onDataFetchCompleted.saveAll false true)
          hraised).trans (if_pos hcomplete).symm
      · refine (congrArg Addition.toExcept (if_neg hcomplete)).trans ?_
        exact (Addition.toExcept_of_none hraised).trans (if_neg hcomplete).symm

/-- With a backend that does not change, the call does what it does without the saves. -/
theorem toExcept_addNewDevicesSaving (env : Environment D) (source : SourceOfDeviceCreation)
    (interfaceId : String) (s : DeviceCoordinator D)
    (deviceDescriptions : List DeviceDescription) :
    (addNewDevicesSaving env (fun _ => env.backend interfaceId) source interfaceId s
        deviceDescriptions).toExcept =
      s.addNewDevices env interfaceId deviceDescriptions source := by
  unfold addNewDevicesSaving addNewDevices
  split
  · rfl
  dsimp only
  split
  · exact toExcept_addMissingParamsetsSaving
  · split
    · rfl
    · rw [← state_cacheAll, toExcept_createNewDevices]
      · split <;> rfl
      · have hraised := (frame_cacheAll env (fun _ => env.backend interfaceId) source interfaceId
          (s.identifyNewDeviceDescriptions interfaceId deviceDescriptions) s
          (s.descriptionsToCache source interfaceId deviceDescriptions)).1
        split <;> exact hraised

/-! ## When a description is added -/

/-- The address can be split, and the paramsets are fetched where the loop fetches them. -/
def Addable (b : Backend D) (source : SourceOfDeviceCreation)
    (newDeviceDescriptions : List DeviceDescription) (d : DeviceDescription) : Prop :=
  getDeviceAddress d.address ≠ none ∧ (source ≠ .refresh ∨ d ∈ newDeviceDescriptions →
    (b.getParamsetDescriptions d.address d.paramsets).isOk = true)

theorem isOk_addDevice {r : DeviceDescriptionRegistry} {d : DeviceDescription} :
    (r.addDevice d).1.isOk = true ↔ getDeviceAddress d.address ≠ none := by
  unfold DeviceDescriptionRegistry.addDevice
  dsimp only
  split
  next hnone =>
    exact iff_of_false nofun (not_not_intro
      (DeviceDescriptionRegistry.processDeviceDescription_eq_none.mp hnone))
  next hsome =>
    refine iff_of_true rfl fun hnone => ?_
    rw [DeviceDescriptionRegistry.processDeviceDescription_eq_none.mpr hnone] at hsome
    cases hsome

theorem isOk_fetchParamsetDescriptions (d : DeviceDescription) :
    (fetchParamsetDescriptions env interfaceId s d).isOk =
      ((env.backend interfaceId).getParamsetDescriptions d.address d.paramsets).isOk := by
  unfold fetchParamsetDescriptions Backend.fetchParamsetDescriptions
  dsimp only
  split
  next herror => rw [herror]; rfl
  next hok => rw [hok]; rfl

variable (env source interfaceId newDeviceDescriptions s) in
theorem caches_iff (d : DeviceDescription) :
    s.caches env source interfaceId newDeviceDescriptions d = true ↔
      Addable (env.backend interfaceId) source newDeviceDescriptions d := by
  unfold caches Addable
  dsimp only
  cases hadd : (s.deviceDescriptions interfaceId).addDevice d with
  | mk result descriptions =>
    have hsplit : result.isOk = true ↔ getDeviceAddress d.address ≠ none := by
      rw [← isOk_addDevice, hadd]
    rw [← hsplit]
    cases result with
    | error exc => exact ⟨nofun, fun h => nomatch h.1⟩
    | ok _ =>
      dsimp only
      split
      next hfetch =>
        rw [isOk_fetchParamsetDescriptions]
        exact ⟨fun h => ⟨rfl, fun _ => h⟩, fun h => h.2 hfetch⟩
      next hskip => exact ⟨fun _ => ⟨rfl, fun h => absurd h hskip⟩, fun _ => rfl⟩

/-! ## What the loops save -/

variable (env answer source interfaceId newDeviceDescriptions s) in
/-- The last description has written `save_descriptions`, and all of them were tried. -/
theorem flag_cacheAll (toCache : List DeviceDescription) :
    let r := cacheAll env answer source interfaceId newDeviceDescriptions s toCache
    (r.2 = true ↔ ∃ e ∈ toCache.zipIdx.getLast?,
        Addable (answer e.2) source newDeviceDescriptions e.1) ∧
      (r.1.added ≠ [] ↔ ∃ e ∈ toCache.zipIdx,
        Addable (answer e.2) source newDeviceDescriptions e.1) := by
  unfold cacheAll
  induction toCache.zipIdx using List.reverseRecOn with
  | nil => exact ⟨⟨nofun, nofun⟩, ⟨fun h => absurd rfl h, nofun⟩⟩
  | append_singleton es e ih =>
    rw [List.foldl_append, List.foldl_cons, List.foldl_nil, List.getLast?_concat]
    generalize es.foldl _ _ = r at ih
    have hiff := caches_iff (answering env (answer e.2)) source interfaceId newDeviceDescriptions
      r.1.state e.1
    unfold cacheNext
    dsimp only
    split
    next hcaches =>
      have hadd := hiff.mp hcaches
      refine ⟨iff_of_true rfl ⟨e, rfl, hadd⟩, iff_of_true (List.concat_ne_nil e.1 _) ?_⟩
      exact ⟨e, List.mem_append_right _ List.mem_cons_self, hadd⟩
    next hcaches =>
      have hadd := mt hiff.mpr hcaches
      refine ⟨iff_of_false nofun ?_, ih.2.trans ⟨?_, ?_⟩⟩
      · rintro ⟨e', he', hadd'⟩
        cases he'
        exact hadd hadd'
      · rintro ⟨e', he', hadd'⟩
        exact ⟨e', List.mem_append_left _ he', hadd'⟩
      · rintro ⟨e', he', hadd'⟩
        rcases List.mem_append.mp he' with he' | he'
        · exact ⟨e', he', hadd'⟩
        · rw [List.mem_singleton.mp he'] at hadd'
          exact absurd hadd' hadd

/-- The paramset descriptions are fetched without an exception. -/
def Fetchable (b : Backend D) (d : DeviceDescription) : Prop :=
  (b.getParamsetDescriptions d.address d.paramsets).isOk = true

variable (env answer interfaceId r) in
theorem frame_fetchMissing (es : List (DeviceDescription × Nat)) :
    (fetchMissing env answer interfaceId es r).added = r.added ∧
      (fetchMissing env answer interfaceId es r).savedDeviceDescriptions =
        r.savedDeviceDescriptions ∧
      (fetchMissing env answer interfaceId es r).savedParamsetDescriptions =
        r.savedParamsetDescriptions := by
  induction es generalizing r with
  | nil => exact ⟨rfl, rfl, rfl⟩
  | cons e es ih =>
    unfold fetchMissing
    split
    · exact ⟨rfl, rfl, rfl⟩
    · exact ih _

variable (env answer interfaceId) in
/-- The loop is left where the first fetch fails. -/
theorem raised_fetchMissing (es : List (DeviceDescription × Nat)) (h : r.raised = none) :
    ((fetchMissing env answer interfaceId es r).raised = none ↔
        ∀ e ∈ es, Fetchable (answer e.2) e.1) ∧
      ((fetchMissing env answer interfaceId es r).fetched ≠ [] ↔
        r.fetched ≠ [] ∨ ∃ e ∈ es.head?, Fetchable (answer e.2) e.1) := by
  induction es generalizing r with
  | nil => exact ⟨iff_of_true h nofun, ⟨.inl, fun h => h.elim id nofun⟩⟩
  | cons e es ih =>
    have hok : Fetchable (answer e.2) e.1 ↔
        (fetchParamsetDescriptions (answering env (answer e.2)) interfaceId r.state e.1).isOk =
          true := by
      rw [isOk_fetchParamsetDescriptions]
      rfl
    unfold fetchMissing
    split
    next exc hfetch =>
      have hfails : ¬Fetchable (answer e.2) e.1 := by
        rw [hok, hfetch]
        exact nofun
      refine ⟨iff_of_false nofun fun hall => hfails (hall e List.mem_cons_self), ?_⟩
      refine ⟨.inl, ?_⟩
      rintro (hne | ⟨e', he', hfetched⟩)
      · exact hne
      · cases he'
        exact absurd hfetched hfails
    next state hfetch =>
      have hfetched : Fetchable (answer e.2) e.1 := by
        rw [hok, hfetch]
        rfl
      obtain ⟨hraised, hne⟩ := ih (r := { r with state, fetched := r.fetched ++ [e.1] }) h
      refine ⟨hraised.trans ?_, iff_of_true (hne.mpr (.inl (List.concat_ne_nil e.1 _)))
        (.inr ⟨e, rfl, hfetched⟩)⟩
      rw [List.forall_mem_cons, and_iff_right hfetched]

/-- Creating devices changes neither the caches nor what is saved of them. -/
theorem persisted_createNewDevices :
    (r.createNewDevices env interfaceId).Persisted ↔ r.Persisted := by
  unfold Addition.createNewDevices
  split
  next state hcreate =>
    obtain rfl := eq_of_createNewDevices hcreate
    obtain ⟨hdescriptions, hparamsets⟩ := foldl_createDevice_caches env r.state interfaceId
      (r.state.checkForNewDeviceAddresses interfaceId)
    unfold Addition.Persisted
    dsimp only
    rw [hdescriptions, hparamsets]
  · exact Iff.rfl

/-! ## When a call has saved what it added -/

/-- The first fetch of missing paramsets fails, or none. -/
def FirstOrNoneFails (answer : Nat → Backend D) (missing : List DeviceDescription) : Prop :=
  (∀ e ∈ missing.zipIdx.head?, ¬Fetchable (answer e.2) e.1) ∨
    ∀ e ∈ missing.zipIdx, Fetchable (answer e.2) e.1

/-- The last description can be added, or none. -/
def LastOrNoneAddable (answer : Nat → Backend D) (source : SourceOfDeviceCreation)
    (newDeviceDescriptions toCache : List DeviceDescription) : Prop :=
  (∃ e ∈ toCache.zipIdx.getLast?, Addable (answer e.2) source newDeviceDescriptions e.1) ∨
    ∀ e ∈ toCache.zipIdx, ¬Addable (answer e.2) source newDeviceDescriptions e.1

/-- The condition on a call, branch by branch. -/
def SavesAdded (env : Environment D) (answer : Nat → Backend D) (source : SourceOfDeviceCreation)
    (interfaceId : String) (s : DeviceCoordinator D) (deviceDescriptions : List DeviceDescription) :
    Prop :=
  let newDeviceDescriptions := s.identifyNewDeviceDescriptions interfaceId deviceDescriptions
  let toCache := s.descriptionsToCache source interfaceId deviceDescriptions
  deviceDescriptions ≠ [] → interfaceId ∈ env.interfaceIds →
    if toCache = [] then
      FirstOrNoneFails answer (s.identifyDevicesMissingParamsets interfaceId deviceDescriptions)
    else ¬(env.delayNewDeviceCreation = true ∧ source = .new) →
      LastOrNoneAddable answer source newDeviceDescriptions toCache

theorem persisted_cacheAll (toCache : List DeviceDescription) :
    let r := cacheAll env answer source interfaceId newDeviceDescriptions s toCache
    (Addition.saveAll r.2 r.2 (if r.2 then r.1.onDataFetchCompleted else r.1)).Persisted ↔
      LastOrNoneAddable answer source newDeviceDescriptions toCache := by
  obtain ⟨hflag, hadded⟩ :=
    flag_cacheAll env answer source interfaceId newDeviceDescriptions s toCache
  obtain ⟨-, hfetched, hsaved, -⟩ :=
    frame_cacheAll env answer source interfaceId newDeviceDescriptions s toCache
  dsimp only at *
  unfold LastOrNoneAddable
  cases hlast : (cacheAll env answer source interfaceId newDeviceDescriptions s toCache).2 with
  | true =>
    rw [hlast] at hflag
    exact iff_of_true ⟨fun _ => ⟨rfl, rfl⟩, fun _ => rfl⟩ (.inl (hflag.mp rfl))
  | false =>
    rw [hlast] at hflag
    rw [or_iff_right fun h => Bool.false_ne_true (hflag.mpr h)]
    constructor
    · intro hpersisted e he hadd
      have hkept := (hpersisted.1 (hadded.mpr ⟨e, he, hadd⟩)).1.symm.trans hsaved
      cases hkept
    · intro hnone
      refine ⟨fun hne => ?_, fun hne => absurd hfetched hne⟩
      obtain ⟨e, he, hadd⟩ := hadded.mp hne
      exact absurd hadd (hnone e he)

theorem persisted_addMissingParamsets :
    (addMissingParamsetsSaving env answer interfaceId s deviceDescriptions).Persisted ↔
      FirstOrNoneFails answer
        (s.identifyDevicesMissingParamsets interfaceId deviceDescriptions) := by
  unfold addMissingParamsetsSaving FirstOrNoneFails
  generalize s.identifyDevicesMissingParamsets interfaceId deviceDescriptions = missing
  cases missing with
  | nil => exact iff_of_true ⟨fun h => absurd rfl h, fun h => absurd rfl h⟩ (.inl nofun)
  | cons d missing =>
    obtain ⟨hraised, hne⟩ := raised_fetchMissing env answer interfaceId (r := { state := s })
      (d :: missing).zipIdx rfl
    obtain ⟨hadded, -, hsaved⟩ :=
      frame_fetchMissing env answer interfaceId { state := s } (d :: missing).zipIdx
    dsimp only
    generalize fetchMissing env answer interfaceId (d :: missing).zipIdx { state := s } = r at *
    split
    next hsome =>
      -- An exception: nothing is saved.
      have hfails : ¬∀ e ∈ (d :: missing).zipIdx, Fetchable (answer e.2) e.1 := by
        rw [← hraised]
        exact Option.isSome_iff_ne_none.mp hsome
      rw [or_iff_left hfails]
      refine ⟨fun hpersisted e he hfetched => ?_, fun hfirst => ⟨fun h => absurd hadded h, ?_⟩⟩
      · have hkept := hpersisted.2 (hne.mpr (.inr ⟨e, he, hfetched⟩))
        rw [hsaved] at hkept
        cases hkept
      · intro hfetched
        rcases hne.mp hfetched with hnil | ⟨e, he, hfetchable⟩
        · exact absurd rfl hnil
        · exact absurd hfetchable (hfirst e he)
    next hnone =>
      have hall := hraised.mp (Option.not_isSome_iff_eq_none.mp hnone)
      have hpersisted : (r.onDataFetchCompleted.saveAll false true).Persisted :=
        ⟨fun h => absurd hadded h, fun _ => rfl⟩
      refine iff_of_true ?_ (.inr hall)
      split
      · exact persisted_createNewDevices.mpr hpersisted
      · exact hpersisted

/-- A call has saved what it added if and only if the last description of the batch can be added or
none can, and, where it fetches missing paramsets only, the first fetch fails or none does. -/
theorem addNewDevices_persisted_iff (env : Environment D) (answer : Nat → Backend D)
    (source : SourceOfDeviceCreation) (interfaceId : String) (s : DeviceCoordinator D)
    (deviceDescriptions : List DeviceDescription) :
    (addNewDevicesSaving env answer source interfaceId s deviceDescriptions).Persisted ↔
      SavesAdded env answer source interfaceId s deviceDescriptions := by
  have hnothing : ∀ t : DeviceCoordinator D, (Addition.Persisted { state := t }) := fun t =>
    ⟨fun h => absurd rfl h, fun h => absurd rfl h⟩
  unfold addNewDevicesSaving SavesAdded
  dsimp only
  split
  next hskip =>
    refine iff_of_true (hnothing s) fun hne hclient => ?_
    rcases hskip with h | h
    · exact absurd h hne
    · exact absurd hclient h
  next hgo =>
    obtain ⟨hne, hclient⟩ := not_or.mp hgo
    rw [forall_prop_of_true hne, forall_prop_of_true (not_not.mp hclient)]
    by_cases htoCache : s.descriptionsToCache source interfaceId deviceDescriptions = []
    · rw [if_pos htoCache, if_pos htoCache]
      exact persisted_addMissingParamsets
    · rw [if_neg htoCache, if_neg htoCache]
      split
      next hdelayed => exact iff_of_true (hnothing _) fun h => absurd hdelayed h
      next hdelayed =>
        rw [forall_prop_of_true hdelayed, persisted_createNewDevices]
        exact persisted_cacheAll _

end

/-! ## A batch of two devices -/

def secondDevice : DeviceDescription where
  type := "HM-LC-Sw1-FM"
  address := "VCU0000002"
  paramsets := [.master]
  children := []
  children_of := fun _ hc => absurd hc List.not_mem_nil

/-- The fetch for the second device raises a `ValueError` or a `KeyError`. -/
def failingEnvironment : Environment Unit where
  interfaceIds := ["CCU-BidCos-RF"]
  backend := fun _ =>
    { descriptions := [sampleDevice, secondDevice]
      nodup := by decide
      paramsetDescription := fun address _ =>
        if address = "VCU0000002" then .error { cls := .other } else .ok (some ()) }

/-- The first device is added, and nothing is saved. -/
theorem not_persisted_last_fails :
    let r := addNewDevicesSaving failingEnvironment (fun _ => failingEnvironment.backend "") .new
      "CCU-BidCos-RF" {} [sampleDevice, secondDevice]
    r.raised = none ∧ r.added = [sampleDevice] ∧ r.savedDeviceDescriptions = none ∧
      ¬r.Persisted := by
  have hadded : (addNewDevicesSaving failingEnvironment (fun _ => failingEnvironment.backend "")
      .new "CCU-BidCos-RF" {} [sampleDevice, secondDevice]).added = [sampleDevice] := by decide
  refine ⟨rfl, hadded, rfl, fun h => ?_⟩
  have hsaved := (h.1 (by rw [hadded]; exact List.cons_ne_nil _ _)).1
  cases hsaved

end DeviceCoordinator

end AioHomematic.Central
