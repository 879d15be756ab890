import AioHomematic.Central.Coordinators.Device.Callbacks
import Mathlib.Data.List.Perm.Subperm

/-!
# Delayed device creation

With `delay_new_device_creation` the descriptions that `newDevices` announces
are stored, and `add_new_devices_manually` takes them from the store, accepts
and renames the devices, and hands the descriptions over to `_add_new_devices`.
Calls run one after the other, each with what the backend answers to it; a
request that raises ends the call. `Orderly` is the condition under which a
call loses and repeats nothing (`orderly_iff`).
-/

namespace AioHomematic.Central

open Lib Support Store Model StepSystem

/-- What a manual add asks of the client. -/
inductive InboxRequest where
  | acceptDeviceInInbox (deviceAddress : String)
  | fetchDeviceDetails
  | getIseIdByAddress (address : String)
  | renameDevice (iseId : Int) (newName : String)
  | renameChannel (iseId : Int) (newName : String)
deriving DecidableEq

structure InboxAnswers where
  iseId : String → Option Int := fun _ => none
  /-- The exception of the last one of these requests, which are those of the call so far. -/
  raises : List InboxRequest → Option PyException := fun _ => none

namespace InboxAnswers

variable (answers : InboxAnswers)

/-- One more request after those `sent`. -/
def send (request : InboxRequest) (sent : List InboxRequest) :
    Except PyException (List InboxRequest) :=
  match answers.raises (sent ++ [request]) with
  | some exc => .error exc
  | none => .ok (sent ++ [request])

/-- `address.split(":")[-1]`, if there is a separator. -/
def channelNo (address : String) : Option String :=
  if addressSeparator ∈ address.toList then
    some (String.ofList (address.toList.rtakeWhile (· ≠ addressSeparator)))
  else none

/-- The request that gives one description its name. -/
def renameRequest (deviceName : String) (d : DeviceDescription) (iseId : Int) :
    Option InboxRequest :=
  if d.parent.getD "" = "" then some (.renameDevice iseId deviceName)
  else (channelNo d.address).map fun no => .renameChannel iseId (deviceName ++ ":" ++ no)

/-- The loop of `_rename_new_device`. -/
def renameDescriptions (deviceName : String) :
    List DeviceDescription → List InboxRequest → Except PyException (List InboxRequest)
  | [], sent => .ok sent
  | d :: ds, sent => do
    let sent ← answers.send (.getIseIdByAddress d.address) sent
    match (answers.iseId d.address).bind (renameRequest deviceName d) with
    | none => renameDescriptions deviceName ds sent
    | some request =>
      let sent ← answers.send request sent
      renameDescriptions deviceName ds sent

/-- `_rename_new_device`. -/
def renameNewDevice (deviceName : String) (ds : List DeviceDescription)
    (sent : List InboxRequest) : Except PyException (List InboxRequest) := do
  let sent ← answers.send .fetchDeviceDetails sent
  answers.renameDescriptions deviceName ds sent

/-- The requests for one device that was stored. -/
def acceptAndRename (address : String) (deviceName : Option String) (ds : List DeviceDescription)
    (sent : List InboxRequest) : Except PyException (List InboxRequest) := do
  let sent ← answers.send (.acceptDeviceInInbox address) sent
  if deviceName.getD "" = "" then pure sent
  else answers.renameNewDevice (deviceName.getD "") ds sent

/-- The local variables of `add_new_devices_manually`, with the store of the interface. -/
structure Taken where
  delayed : Dict String (List DeviceDescription)
  deviceDescriptions : List DeviceDescription := []
  sent : List InboxRequest := []

/-- The loop of `add_new_devices_manually`, up to an exception. -/
def takeDelayed : List (String × Option String) → Taken → Taken × Option PyException
  | [], t => (t, none)
  | (address, deviceName) :: addressNames, t =>
    match (t.delayed.get? address).getD [] with
    | [] => takeDelayed addressNames { t with delayed := t.delayed.erase address }
    | d :: ds =>
      let popped :=
        { t with
          delayed := t.delayed.erase address
          deviceDescriptions := t.deviceDescriptions ++ d :: ds }
      match answers.acceptAndRename address deviceName (d :: ds) t.sent with
      | .error exc => (popped, some exc)
      | .ok sent => takeDelayed addressNames { popped with sent }

end InboxAnswers

namespace DeviceCoordinator

variable {D : Type} (env : Environment D) (s : DeviceCoordinator D)

/-- The stores after `_add_new_devices`, also where it raises. -/
def afterAddNewDevices (interfaceId : String) (deviceDescriptions : List DeviceDescription)
    (source : SourceOfDeviceCreation) : DeviceCoordinator D :=
  (DeviceTask.addNewDevices env interfaceId deviceDescriptions source Segment.finish).run s

def putDelayed (interfaceId : String) (delayed : Dict String (List DeviceDescription)) :
    DeviceCoordinator D :=
  { s with
    delayedDeviceDescriptions := Function.update s.delayedDeviceDescriptions interfaceId delayed }

/-- `add_new_devices_manually`, with the descriptions handed over to `_add_new_devices`. -/
def addNewDevicesManually (answers : InboxAnswers) (interfaceId : String)
    (addressNames : Dict String (Option String)) :
    DeviceCoordinator D × List DeviceDescription :=
  if interfaceId ∉ env.interfaceIds then (s, [])
  else
    match answers.takeDelayed addressNames.entries
      { delayed := s.delayedDeviceDescriptions interfaceId } with
    | (t, some _) => (s.putDelayed interfaceId t.delayed, [])
    | (t, none) =>
      let s := s.putDelayed interfaceId t.delayed
      if t.deviceDescriptions = [] then (s, [])
      else (s.afterAddNewDevices env interfaceId t.deviceDescriptions .manual,
        t.deviceDescriptions)

end DeviceCoordinator

/-! ## Calls -/

/-- A call, with the backend as it is at that time. The source of `newDevices` is `NEW` or, before
the interface has descriptions, `INIT`. -/
inductive DeviceCall (D : Type) where
  | newDevices (backend : String → Backend D) (interfaceId : String)
      (source : SourceOfDeviceCreation) (deviceDescriptions : List DeviceDescription)
  | addNewDevicesManually (backend : String → Backend D) (answers : InboxAnswers)
      (interfaceId : String) (addressNames : Dict String (Option String))

namespace DeviceCall

variable {D : Type} (env : Environment D)

/-- The stores after a call, and the delayed descriptions it has handed over to device creation. -/
def run : DeviceCall D → DeviceCoordinator D →
    DeviceCoordinator D × List (String × DeviceDescription)
  | .newDevices backend interfaceId source deviceDescriptions, s =>
    (s.afterAddNewDevices { env with backend } interfaceId deviceDescriptions source, [])
  | .addNewDevicesManually backend answers interfaceId addressNames, s =>
    ((s.addNewDevicesManually { env with backend } answers interfaceId addressNames).1,
      (s.addNewDevicesManually { env with backend } answers interfaceId addressNames).2.map
        (interfaceId, ·))

end DeviceCall

namespace DeviceCoordinator

variable {D : Type} (env : Environment D) (s : DeviceCoordinator D)

def calls : StepSystem (DeviceCoordinator D) (DeviceCall D) where
  init := {}
  step s call := some (call.run env s).1

/-- All descriptions that are delayed on an interface. -/
def delayedDescriptions (interfaceId : String) : List DeviceDescription :=
  (s.delayedDeviceDescriptions interfaceId).values.flatten

/-- Every address is delayed at most once per interface. -/
def DelayedOnce : Prop :=
  ∀ interfaceId, ((s.delayedDescriptions interfaceId).map (·.address)).Nodup

/-- What a call takes from the store it hands over to device creation. -/
def LosesNothing (call : DeviceCall D) : Prop :=
  ∀ interfaceId, ∀ d ∈ s.delayedDescriptions interfaceId,
    d ∈ (call.run env s).1.delayedDescriptions interfaceId ∨
      (interfaceId, d) ∈ (call.run env s).2

/-! ### The condition -/

end DeviceCoordinator

namespace InboxAnswers

variable (answers : InboxAnswers)

/-- The requests to accept a device and to rename it. -/
def requestsFor (address : String) (deviceName : Option String) (ds : List DeviceDescription) :
    List InboxRequest :=
  .acceptDeviceInInbox address ::
    if deviceName.getD "" = "" then []
    else .fetchDeviceDetails :: ds.flatMap fun d =>
      .getIseIdByAddress d.address ::
        ((answers.iseId d.address).bind (renameRequest (deviceName.getD "") d)).toList

/-- The requests of a manual add, if none raises: those for every address that is stored. -/
def requests (delayed : Dict String (List DeviceDescription))
    (addressNames : List (String × Option String)) : List InboxRequest :=
  addressNames.flatMap fun e =>
    match (delayed.get? e.1).getD [] with
    | [] => []
    | ds => answers.requestsFor e.1 e.2 ds

/-- None of these requests raises, after those `sent`. -/
def Succeeds (sent requests : List InboxRequest) : Prop :=
  ∀ more, more <+: requests → more ≠ [] → answers.raises (sent ++ more) = none

end InboxAnswers

namespace DeviceCoordinator

variable {D : Type} (env : Environment D) (s : DeviceCoordinator D)

/-- What is stored is not delayed yet and names no address twice, and no request raises. -/
def Orderly : DeviceCall D → Prop
  | .newDevices _ interfaceId source deviceDescriptions =>
    interfaceId ∈ env.interfaceIds → env.delayNewDeviceCreation = true → source = .new →
      ((s.delayedDescriptions interfaceId ++
        s.identifyNewDeviceDescriptions interfaceId deviceDescriptions).map (·.address)).Nodup
  | .addNewDevicesManually _ answers interfaceId addressNames =>
    interfaceId ∈ env.interfaceIds →
      answers.Succeeds []
        (answers.requests (s.delayedDeviceDescriptions interfaceId) addressNames.entries)

end DeviceCoordinator

/-! ## The requests of a manual add -/

namespace InboxAnswers

variable {answers : InboxAnswers}

theorem succeeds_nil (sent : List InboxRequest) : answers.Succeeds sent [] :=
  fun _ hinitial hne => absurd (List.prefix_nil.mp hinitial) hne

theorem succeeds_append {sent requests more : List InboxRequest} :
    answers.Succeeds sent (requests ++ more) ↔
      answers.Succeeds sent requests ∧ answers.Succeeds (sent ++ requests) more := by
  constructor
  · intro h
    refine ⟨fun l hl hne => h l (hl.trans (List.prefix_append ..)) hne, fun l hl hne => ?_⟩
    rw [List.append_assoc]
    exact h _ (List.prefix_append_right_inj requests |>.mpr hl) (by simp [hne])
  · rintro ⟨hfirst, hmore⟩ l hl hne
    rcases List.prefix_or_prefix_of_prefix hl (List.prefix_append requests more) with hl' | hl'
    · exact hfirst l hl' hne
    · obtain ⟨l', rfl⟩ := hl'
      have hl' := (List.prefix_append_right_inj requests).mp hl
      by_cases hnil : l' = []
      · subst hnil
        rw [List.append_nil] at hne ⊢
        exact hfirst requests List.prefix_rfl hne
      · rw [← List.append_assoc]
        exact hmore l' hl' hnil

variable (answers) in
/-- The call sends these requests, and ends with the first one that raises. -/
def Sends (call : List InboxRequest → Except PyException (List InboxRequest))
    (requests : List InboxRequest) : Prop :=
  ∀ sent, (answers.Succeeds sent requests → call sent = .ok (sent ++ requests)) ∧
    (¬ answers.Succeeds sent requests → ∃ exc, call sent = .error exc)

theorem sends_pure : answers.Sends pure [] := fun sent =>
  ⟨fun _ => congrArg Except.ok (List.append_nil sent).symm,
    fun h => absurd (succeeds_nil sent) h⟩

theorem sends_send (request : InboxRequest) : answers.Sends (answers.send request) [request] := by
  intro sent
  unfold send
  constructor
  · intro h
    rw [h [request] List.prefix_rfl (List.cons_ne_nil request [])]
  · intro h
    cases hraises : answers.raises (sent ++ [request]) with
    | some exc => exact ⟨exc, rfl⟩
    | none =>
      refine absurd (fun more hmore hne => ?_) h
      rcases List.prefix_cons_iff.mp hmore with hnil | ⟨l, rfl, hl⟩
      · exact absurd hnil hne
      · rw [List.prefix_nil.mp hl]
        exact hraises

theorem Sends.bind {first rest : List InboxRequest → Except PyException (List InboxRequest)}
    {requests more : List InboxRequest} (hfirst : answers.Sends first requests)
    (hrest : answers.Sends rest more) :
    answers.Sends (fun sent => first sent >>= rest) (requests ++ more) := by
  intro sent
  by_cases h : answers.Succeeds sent requests
  · rw [succeeds_append, and_iff_right h]
    simp only [(hfirst sent).1 h, ← List.append_assoc]
    exact hrest (sent ++ requests)
  · obtain ⟨exc, hexc⟩ := (hfirst sent).2 h
    refine ⟨fun hall => absurd (succeeds_append.mp hall).1 h, fun _ => ⟨exc, ?_⟩⟩
    simp only [hexc]
    rfl

theorem sends_renameDescriptions (deviceName : String) (ds : List DeviceDescription) :
    answers.Sends (answers.renameDescriptions deviceName ds) (ds.flatMap fun d =>
      .getIseIdByAddress d.address ::
        ((answers.iseId d.address).bind (renameRequest deviceName d)).toList) := by
  induction ds with
  | nil => exact sends_pure
  | cons d ds ih =>
    rw [List.flatMap_cons, List.cons_append]
    refine (sends_send (.getIseIdByAddress d.address)).bind ?_
    cases (answers.iseId d.address).bind (renameRequest deviceName d) with
    | none => exact ih
    | some request => exact (sends_send request).bind ih

theorem sends_acceptAndRename (address : String) (deviceName : Option String)
    (ds : List DeviceDescription) :
    answers.Sends (answers.acceptAndRename address deviceName ds)
      (answers.requestsFor address deviceName ds) := by
  unfold requestsFor
  rw [← List.singleton_append]
  refine (sends_send _).bind ?_
  split
  · exact sends_pure
  · rw [← List.singleton_append]
    exact (sends_send _).bind (sends_renameDescriptions _ ds)

theorem requests_erase {delayed : Dict String (List DeviceDescription)} {address : String}
    {addressNames : List (String × Option String)} (h : address ∉ addressNames.map Prod.fst) :
    answers.requests (delayed.erase address) addressNames =
      answers.requests delayed addressNames := by
  refine List.flatMap_congr fun e he => ?_
  rw [Dict.get?_erase_of_ne]
  rintro rfl
  exact h (List.mem_map_of_mem he)

/-- What has become of the store after the loop of a manual add. -/
structure Takes (t t' : Taken) : Prop where
  delayed : t'.delayed.values.flatten.Sublist t.delayed.values.flatten
  kept : ∀ d ∈ t.deviceDescriptions, d ∈ t'.deviceDescriptions
  taken : ∀ d ∈ t.delayed.values.flatten,
    d ∈ t'.delayed.values.flatten ∨ d ∈ t'.deviceDescriptions

theorem Takes.refl (t : Taken) : Takes t t := ⟨.refl _, fun _ h => h, fun _ h => .inl h⟩

theorem Takes.trans {t u v : Taken} (h : Takes t u) (h' : Takes u v) : Takes t v where
  delayed := h'.delayed.trans h.delayed
  kept d hd := h'.kept d (h.kept d hd)
  taken d hd := (h.taken d hd).elim (h'.taken d) fun hd => .inr (h'.kept d hd)

/-- The descriptions of one address are taken. -/
theorem takes_pop {t : Taken} {address : String} {ds : List DeviceDescription}
    (h : (t.delayed.get? address).getD [] = ds) (sent : List InboxRequest) :
    Takes t ⟨t.delayed.erase address, t.deviceDescriptions ++ ds, sent⟩ where
  delayed := Dict.flatten_values_erase ..
  kept d hd := List.mem_append_left _ hd
  taken d hd := by
    cases hget : t.delayed.get? address with
    | none =>
      have herase : t.delayed.erase address = t.delayed := by
        refine Dict.ext (List.filter_eq_self.mpr fun e he => ?_)
        have hne : e.1 ≠ address := fun heq =>
          Dict.get?_eq_none.mp hget (List.mem_map.mpr ⟨e, he, heq⟩)
        simpa using hne
      rw [herase]
      exact .inl hd
    | some l =>
      rw [hget] at h
      cases h
      rw [(Dict.perm_flatten_values_erase hget).mem_iff, List.mem_append] at hd
      exact hd.symm.imp_right (List.mem_append_right _)

variable (answers) in
/-- The loop takes what it returns, and it ends without an exception exactly if no request for a
stored address raises; at an exception something has been taken. -/
theorem takeDelayed_spec {addressNames : List (String × Option String)}
    (hnodup : (addressNames.map Prod.fst).Nodup) (t : Taken) :
    Takes t (answers.takeDelayed addressNames t).1 ∧
      ((answers.takeDelayed addressNames t).2 = none ↔
        answers.Succeeds t.sent (answers.requests t.delayed addressNames)) ∧
      ((answers.takeDelayed addressNames t).2 ≠ none →
        ((answers.takeDelayed addressNames t).1.delayed.values.flatten).length <
          t.delayed.values.flatten.length) := by
  induction addressNames generalizing t with
  | nil => exact ⟨.refl t, iff_of_true rfl (succeeds_nil _), fun h => absurd rfl h⟩
  | cons e addressNames ih =>
    obtain ⟨address, deviceName⟩ := e
    rw [List.map_cons, List.nodup_cons] at hnodup
    have hrequests : answers.requests t.delayed ((address, deviceName) :: addressNames) =
        (match (t.delayed.get? address).getD [] with
          | [] => []
          | ds => answers.requestsFor address deviceName ds) ++
        answers.requests (t.delayed.erase address) addressNames := by
      rw [requests_erase hnodup.1]
      rfl
    rw [hrequests]
    unfold takeDelayed
    cases hds : (t.delayed.get? address).getD [] with
    | nil =>
      have hpop := takes_pop hds t.sent
      rw [List.append_nil] at hpop
      obtain ⟨htakes, hnone, hshort⟩ := ih hnodup.2 { t with delayed := t.delayed.erase address }
      refine ⟨hpop.trans htakes, hnone, fun h => (hshort h).trans_le ?_⟩
      exact hpop.delayed.length_le
    | cons d ds =>
      have hpop := takes_pop hds
      dsimp only
      rw [succeeds_append]
      by_cases h : answers.Succeeds t.sent (answers.requestsFor address deviceName (d :: ds))
      · rw [(sends_acceptAndRename address deviceName (d :: ds) t.sent).1 h, and_iff_right h]
        obtain ⟨htakes, hnone, hshort⟩ := ih hnodup.2
          ⟨t.delayed.erase address, t.deviceDescriptions ++ d :: ds,
            t.sent ++ answers.requestsFor address deviceName (d :: ds)⟩
        refine ⟨(hpop _).trans htakes, hnone, fun h => (hshort h).trans_le ?_⟩
        exact (hpop t.sent).delayed.length_le
      · obtain ⟨exc, hexc⟩ := (sends_acceptAndRename address deviceName (d :: ds) t.sent).2 h
        rw [hexc]
        refine ⟨hpop _, iff_of_false (Option.some_ne_none exc) fun h' => h h'.1, fun _ => ?_⟩
        obtain ⟨l, hget, rfl⟩ : ∃ l, t.delayed.get? address = some l ∧ l = d :: ds := by
          cases hget : t.delayed.get? address with
          | none =>
            rw [hget] at hds
            cases hds
          | some l =>
            rw [hget] at hds
            exact ⟨l, rfl, hds⟩
        have hlength := (Dict.perm_flatten_values_erase hget).length_eq
        rw [List.length_append, List.length_cons] at hlength
        dsimp only
        omega

end InboxAnswers

/-! ## What `_add_new_devices` stores -/

namespace DeviceTask

variable {D : Type} {env : Environment D} {interfaceId : String}
  {k : Segment (DeviceCoordinator D)} {ds : List DeviceDescription}

theorem delayed_createDevices {s t : DeviceCoordinator D} {deviceAddresses : List String}
    (h : s.createDevices env interfaceId deviceAddresses = .ok t) :
    t.delayedDeviceDescriptions = s.delayedDeviceDescriptions := by
  simp only [DeviceCoordinator.createDevices] at h
  split at h
  · cases h
  · cases h
    induction deviceAddresses generalizing s with
    | nil => rfl
    | cons address addresses ih =>
      rw [List.foldl_cons, ih]
      simp only [DeviceCoordinator.createDevice]
      split
      · rfl
      · split
        · rfl
        · split <;> rfl

theorem leaves_createNewDevices (hk : k.Leaves (·.delayedDeviceDescriptions)) :
    (createNewDevices env interfaceId k).Leaves (·.delayedDeviceDescriptions) := by
  intro s
  simp only [Segment.run, createNewDevices]
  split
  · exact hk s
  next deviceAddresses _ =>
    simp only [Segment.pause, Coroutine.after, Coroutine.run]
    split
    · rfl
    next created hcreate => exact (hk created).trans (delayed_createDevices hcreate)

theorem delayed_fetchParamsetDescriptions {s t : DeviceCoordinator D} {d : DeviceDescription}
    (h : s.fetchParamsetDescriptions env interfaceId d = .ok t) :
    t.delayedDeviceDescriptions = s.delayedDeviceDescriptions := by
  unfold DeviceCoordinator.fetchParamsetDescriptions at h
  dsimp only at h
  generalize (env.backend interfaceId).fetchParamsetDescriptions interfaceId d
    s.paramsetDescriptions = fetched at h
  obtain ⟨result, fetched⟩ := fetched
  cases result with
  | error => cases h
  | ok =>
    cases h
    rfl

theorem leaves_fetchMissingParamsets (hk : k.Leaves (·.delayedDeviceDescriptions)) :
    (fetchMissingParamsets env interfaceId k ds).Leaves (·.delayedDeviceDescriptions) := by
  induction ds with
  | nil => exact hk
  | cons d ds ih =>
    refine Segment.Leaves.pause (fun s => ?_) .await
    simp only [Segment.run]
    split
    · rfl
    next fetched hfetch => exact (ih fetched).trans (delayed_fetchParamsetDescriptions hfetch)

theorem leaves_addMissingParamsets (hk : k.Leaves (·.delayedDeviceDescriptions)) :
    (addMissingParamsets env interfaceId ds k).Leaves (·.delayedDeviceDescriptions) := by
  intro s
  simp only [Segment.run, addMissingParamsets]
  split
  · exact hk s
  · refine leaves_fetchMissingParamsets (Segment.Leaves.pause (fun t => ?_) .await) s
    simp only [Segment.run]
    split
    · exact leaves_createNewDevices hk t
    · exact hk t

theorem leaves_cacheDescriptions {source : SourceOfDeviceCreation}
    {newDeviceDescriptions : List DeviceDescription}
    (hk : k.Leaves (·.delayedDeviceDescriptions)) :
    (cacheDescriptions env interfaceId source newDeviceDescriptions k ds).Leaves
      (·.delayedDeviceDescriptions) := by
  induction ds with
  | nil => exact hk
  | cons d ds ih =>
    intro s
    simp only [Segment.run, cacheDescriptions]
    split
    · exact ih _
    · split
      · simp only [Segment.pause, Coroutine.after, Coroutine.run]
        split
        · exact ih _
        next fetched hfetch =>
          have hsame := delayed_fetchParamsetDescriptions hfetch
          exact (ih fetched).trans hsame
      · exact ih _

end DeviceTask

namespace DeviceCoordinator

variable {D : Type} {env : Environment D} {s : DeviceCoordinator D}

theorem storeDelayed_nil (interfaceId : String) :
    s.storeDelayedDeviceDescriptions interfaceId [] = s := by
  simp [storeDelayedDeviceDescriptions]

/-- Without anything to cache, nothing is new. -/
theorem identifyNew_of_nothingToCache {interfaceId : String} {ds : List DeviceDescription}
    (h : s.descriptionsToCache .new interfaceId ds = []) :
    s.identifyNewDeviceDescriptions interfaceId ds = [] := by
  have hnone : ∀ l : List DeviceDescription,
      (l.foldl (fun byAddress d => byAddress.set d.address d) Dict.empty).values = [] →
        l = [] := by
    intro l hl
    cases l using List.reverseRecOn with
    | nil => rfl
    | append_singleton l d =>
      rw [List.foldl_append, List.foldl_cons, List.foldl_nil] at hl
      have hmem := Dict.get?_eq_some.mp (Dict.get?_set_self
        (l.foldl (fun byAddress d => byAddress.set d.address d) Dict.empty) d.address d)
      have hvalue := List.mem_map_of_mem (f := Prod.snd) hmem
      rw [← Dict.values, hl] at hvalue
      cases hvalue
  exact (List.append_eq_nil_iff.mp (hnone _ h)).1

theorem delayed_afterAddNewDevices (interfaceId : String) (ds : List DeviceDescription)
    (source : SourceOfDeviceCreation) :
    (s.afterAddNewDevices env interfaceId ds source).delayedDeviceDescriptions =
      if interfaceId ∈ env.interfaceIds ∧ env.delayNewDeviceCreation = true ∧ source = .new then
        (s.storeDelayedDeviceDescriptions interfaceId
          (s.identifyNewDeviceDescriptions interfaceId ds)).delayedDeviceDescriptions
      else s.delayedDeviceDescriptions := by
  have hfinish := Segment.leaves_finish (S := DeviceCoordinator D) (·.delayedDeviceDescriptions)
  simp only [afterAddNewDevices, DeviceTask.addNewDevices]
  split
  next hskip =>
    split
    next hdelay =>
      rw [hskip.resolve_right (not_not.mpr hdelay.1)]
      simp only [identifyNewDeviceDescriptions, List.filter_nil, storeDelayed_nil]
      rfl
    · rfl
  next hadd =>
    rw [not_or, not_not] at hadd
    simp only [hadd.2, true_and]
    rw [DeviceTask.run_pause]
    simp only [Segment.run, DeviceTask.addUnderSemaphore]
    split
    next hnil =>
      split
      next hdelay =>
        rw [hdelay.2] at hnil
        rw [identifyNew_of_nothingToCache hnil, storeDelayed_nil]
        exact DeviceTask.leaves_addMissingParamsets hfinish s
      · exact DeviceTask.leaves_addMissingParamsets hfinish s
    · split
      · rfl
      · exact DeviceTask.leaves_cacheDescriptions
          ((DeviceTask.leaves_createNewDevices hfinish).pause .await) s

/-! ## One call -/

theorem delayedDescriptions_store (interfaceId interfaceId' : String)
    (ds : List DeviceDescription) :
    ((s.storeDelayedDeviceDescriptions interfaceId ds).delayedDescriptions interfaceId').Perm
      (s.delayedDescriptions interfaceId' ++ if interfaceId' = interfaceId then ds else []) := by
  simp only [delayedDescriptions, storeDelayedDeviceDescriptions, Function.update_apply]
  split
  next heq =>
    subst heq
    exact Dict.perm_flatten_values_foldl_addTo DeviceDescription.parentOrAddress _ ds
  · rw [List.append_nil]

theorem delayedDescriptions_putDelayed (interfaceId interfaceId' : String)
    (delayed : Dict String (List DeviceDescription)) :
    (s.putDelayed interfaceId delayed).delayedDescriptions interfaceId' =
      if interfaceId' = interfaceId then delayed.values.flatten
      else s.delayedDescriptions interfaceId' := by
  simp only [delayedDescriptions, putDelayed, Function.update_apply]
  split <;> rfl

theorem delayedDescriptions_congr {t : DeviceCoordinator D}
    (h : t.delayedDeviceDescriptions = s.delayedDeviceDescriptions) (interfaceId : String) :
    t.delayedDescriptions interfaceId = s.delayedDescriptions interfaceId := by
  rw [delayedDescriptions, h, delayedDescriptions]

/-- A manual add, from what its loop has taken. -/
theorem addNewDevicesManually_spec (answers : InboxAnswers) {interfaceId : String}
    (addressNames : Dict String (Option String)) (hclient : interfaceId ∈ env.interfaceIds)
    {t : InboxAnswers.Taken} {exc : Option PyException}
    (ht : answers.takeDelayed addressNames.entries
      { delayed := s.delayedDeviceDescriptions interfaceId } = (t, exc)) :
    (s.addNewDevicesManually env answers interfaceId addressNames).1.delayedDeviceDescriptions =
        (s.putDelayed interfaceId t.delayed).delayedDeviceDescriptions ∧
      (s.addNewDevicesManually env answers interfaceId addressNames).2 =
        if exc = none then t.deviceDescriptions else [] := by
  simp only [addNewDevicesManually, if_neg (not_not.mpr hclient), ht]
  cases exc with
  | some exc => exact ⟨rfl, rfl⟩
  | none =>
    dsimp only
    split
    next hnil => exact ⟨rfl, by rw [if_pos rfl, hnil]⟩
    · refine ⟨?_, (if_pos rfl).symm⟩
      rw [delayed_afterAddNewDevices, if_neg]
      rintro ⟨-, -, hsource⟩
      cases hsource

theorem orderly_newDevices_iff (hs : s.DelayedOnce) (backend : String → Backend D)
    (interfaceId : String) (source : SourceOfDeviceCreation) (ds : List DeviceDescription) :
    (((DeviceCall.newDevices backend interfaceId source ds).run env s).1.DelayedOnce ∧
        s.LosesNothing env (.newDevices backend interfaceId source ds)) ↔
      s.Orderly env (.newDevices backend interfaceId source ds) := by
  have hdelayed := @delayed_afterAddNewDevices _ { env with backend } s interfaceId ds source
  simp only [DelayedOnce, LosesNothing, DeviceCall.run, Orderly]
  generalize s.afterAddNewDevices { env with backend } interfaceId ds source = t at hdelayed ⊢
  by_cases hstores : interfaceId ∈ env.interfaceIds ∧ env.delayNewDeviceCreation = true ∧
      source = .new
  · rw [if_pos hstores] at hdelayed
    have hperm : ∀ interfaceId', (t.delayedDescriptions interfaceId').Perm
        (s.delayedDescriptions interfaceId' ++ if interfaceId' = interfaceId then
          s.identifyNewDeviceDescriptions interfaceId ds else []) := fun interfaceId' => by
      rw [delayedDescriptions_congr hdelayed]
      exact delayedDescriptions_store interfaceId interfaceId' _
    simp only [(hperm _).mem_iff, ((hperm _).map _).nodup_iff]
    constructor
    · rintro ⟨honce, -⟩ - - -
      have honce := honce interfaceId
      rwa [if_pos rfl] at honce
    · intro hnew
      refine ⟨fun interfaceId' => ?_, fun _ d hd => .inl (List.mem_append_left _ hd)⟩
      split
      next heq =>
        subst heq
        exact hnew hstores.1 hstores.2.1 hstores.2.2
      · rw [List.append_nil]
        exact hs interfaceId'
  · rw [if_neg hstores] at hdelayed
    simp only [delayedDescriptions_congr hdelayed]
    refine iff_of_true ⟨hs, fun _ d hd => .inl hd⟩ fun hclient hdelay hsource => ?_
    exact absurd ⟨hclient, hdelay, hsource⟩ hstores

theorem orderly_manual_iff (hs : s.DelayedOnce) (backend : String → Backend D)
    (answers : InboxAnswers) (interfaceId : String)
    (addressNames : Dict String (Option String)) :
    (((DeviceCall.addNewDevicesManually backend answers interfaceId addressNames).run
          env s).1.DelayedOnce ∧
        s.LosesNothing env (.addNewDevicesManually backend answers interfaceId addressNames)) ↔
      s.Orderly env (.addNewDevicesManually backend answers interfaceId addressNames) := by
  simp only [DelayedOnce, LosesNothing, DeviceCall.run, Orderly]
  by_cases hclient : interfaceId ∈ env.interfaceIds
  · obtain ⟨htakes, hnone, hshort⟩ := InboxAnswers.takeDelayed_spec answers addressNames.nodup
      { delayed := s.delayedDeviceDescriptions interfaceId }
    generalize ht : answers.takeDelayed addressNames.entries
      { delayed := s.delayedDeviceDescriptions interfaceId } = taken at htakes hnone hshort
    obtain ⟨t, exc⟩ := taken
    obtain ⟨hdelayed, hhanded⟩ := @addNewDevicesManually_spec _ { env with backend } s
      answers interfaceId addressNames hclient t exc ht
    simp only [delayedDescriptions_congr hdelayed, delayedDescriptions_putDelayed, hhanded,
      hclient, forall_const, ← hnone]
    have honce : ∀ interfaceId', ((if interfaceId' = interfaceId then t.delayed.values.flatten
        else s.delayedDescriptions interfaceId').map (·.address)).Nodup := by
      intro interfaceId'
      split
      next heq =>
        subst heq
        exact (hs interfaceId').sublist (htakes.delayed.map _)
      · exact hs interfaceId'
    rw [and_iff_right honce]
    constructor
    · intro hkept
      by_contra hexc
      -- nothing is handed over, so that all descriptions would have to be there still
      have hsubset : s.delayedDescriptions interfaceId ⊆ t.delayed.values.flatten := by
        intro d hd
        have hd := hkept interfaceId d hd
        rw [if_pos rfl, if_neg hexc] at hd
        simpa using hd
      have hnodup : (s.delayedDescriptions interfaceId).Nodup := (hs interfaceId).of_map _
      exact absurd (List.subperm_of_subset hnodup hsubset).length_le (not_le.mpr (hshort hexc))
    · rintro rfl interfaceId' d hd
      split
      next heq =>
        subst heq
        refine (htakes.taken d hd).imp_right fun hd => ?_
        rw [if_pos rfl]
        exact List.mem_map_of_mem hd
      · exact .inl hd
  · have hsame : s.addNewDevicesManually { env with backend } answers interfaceId addressNames =
        (s, []) := if_pos hclient
    simp only [hsame]
    exact iff_of_true ⟨hs, fun _ d hd => .inl hd⟩ fun h => absurd h hclient

theorem orderly_iff (hs : s.DelayedOnce) (call : DeviceCall D) :
    ((call.run env s).1.DelayedOnce ∧ s.LosesNothing env call) ↔ s.Orderly env call := by
  cases call with
  | newDevices backend interfaceId source ds =>
    exact orderly_newDevices_iff hs backend interfaceId source ds
  | addNewDevicesManually backend answers interfaceId addressNames =>
    exact orderly_manual_iff hs backend answers interfaceId addressNames

/-! ## Any sequence of calls -/

theorem delayedOnce_init : (calls env).init.DelayedOnce := fun _ => List.nodup_nil

/-- In a run of orderly calls every address is delayed at most once, and a call keeps it so and
loses no description exactly if it is orderly. -/
theorem delayed_kept_of_reach (h : (calls env).Reach (Orderly env) s) :
    s.DelayedOnce ∧
      ∀ call, ((call.run env s).1.DelayedOnce ∧ s.LosesNothing env call) ↔
        s.Orderly env call := by
  have hs : s.DelayedOnce := h.invariant delayedOnce_init fun s call t hs horderly hstep => by
    cases hstep
    exact ((orderly_iff hs call).mpr horderly).1
  exact ⟨hs, orderly_iff hs⟩

/-! ### A device that is paired -/

def pairedDevice : DeviceDescription where
  type := "HmIP-PS"
  address := "0001D3C99C6AB3"
  paramsets := [.master]
  children := []
  children_of := by decide

def pairedChannel : DeviceDescription where
  type := "SWITCH"
  address := "0001D3C99C6AB3:1"
  paramsets := [.values]
  children := []
  parent := some "0001D3C99C6AB3"
  children_of := by decide

def pairedBackend : Backend Unit where
  descriptions := [pairedDevice, pairedChannel]
  nodup := by decide
  paramsetDescription := fun _ _ => .ok (some ())

def delayingEnvironment : Environment Unit where
  interfaceIds := ["CCU-HmIP-RF"]
  backend := fun _ => pairedBackend
  delayNewDeviceCreation := true

def announced : DeviceCall Unit :=
  .newDevices (fun _ => pairedBackend) "CCU-HmIP-RF" .new [pairedDevice, pairedChannel]

/-- `raises` tells whether the inbox refuses the device. -/
def addedByHand (raises : Bool) : DeviceCall Unit :=
  .addNewDevicesManually (fun _ => pairedBackend)
    { raises := fun _ => if raises then some { cls := .clientException } else none }
    "CCU-HmIP-RF" ((Dict.empty).set "0001D3C99C6AB3" (some "Plug"))

def afterAnnouncement : DeviceCoordinator Unit := (announced.run delayingEnvironment {}).1

/-- The description of the device is announced a second time, or the inbox refuses the device. -/
theorem not_delayed_kept :
    (∃ s, (calls delayingEnvironment).Reach Free s ∧ ¬ s.DelayedOnce) ∧
      ∃ s call, (calls delayingEnvironment).Reach Free s ∧
        ¬ s.LosesNothing delayingEnvironment call := by
  have hfirst : (calls delayingEnvironment).Reach Free afterAnnouncement :=
    Reach.init.step trivial rfl
  refine ⟨⟨_, hfirst.step (a := announced) trivial rfl, fun honce => ?_⟩,
    afterAnnouncement, addedByHand true, hfirst, fun hkept => ?_⟩
  · exact absurd (honce "CCU-HmIP-RF") (by decide +kernel)
  · have hlost := hkept "CCU-HmIP-RF" pairedDevice (by decide +kernel)
    exact absurd hlost (by decide +kernel)

theorem delayed_kept_of_reach_added :
    afterAnnouncement.DelayedOnce ∧
      ∀ call, ((call.run delayingEnvironment afterAnnouncement).1.DelayedOnce ∧
          afterAnnouncement.LosesNothing delayingEnvironment call) ↔
        afterAnnouncement.Orderly delayingEnvironment call :=
  delayed_kept_of_reach (Reach.init.step
    (show Orderly delayingEnvironment {} announced from fun _ _ _ => by decide +kernel) rfl)

end DeviceCoordinator

end AioHomematic.Central
