import AioHomematic.Central.CentralUnit.State

/-!
# Forced availability and the client state

The devices of an interface follow its client through the events: the event of a
loss forces them unavailable if the client is still lost, the event of a
reconnect resets them whatever the client is by then. So a client that is
`CONNECTED` has an event of a reconnect pending, or its devices are reset
(`Resets`); and one that is `DISCONNECTED` or `FAILED` has an event of a loss
pending, or its devices are forced, as long as no event of an earlier reconnect
comes late (`NoLateReconnect`). In any other state the devices are as the events
before left them.
-/

namespace AioHomematic.Central

open Client Lib StepSystem

namespace CentralUnit

variable {u : CentralUnit} {event : ClientStateEvent} {interfaceId other : String}
  {v : ForcedDeviceAvailability}

/-- The devices of the interface have this forced availability. -/
def AllForced (interfaceId : String) (v : ForcedDeviceAvailability) (u : CentralUnit) : Prop :=
  ∀ device ∈ u.devices, device.interfaceId = interfaceId → device.forcedAvailability = v

theorem AllForced.congr {u' : CentralUnit} (h : AllForced interfaceId v u)
    (hdevices : u'.devices = u.devices) : AllForced interfaceId v u' := by
  rw [AllForced, hdevices]
  exact h

theorem allForced_setForcedAvailability (interfaceId : String) (v : ForcedDeviceAvailability)
    (u : CentralUnit) : AllForced interfaceId v (u.setForcedAvailability interfaceId v) := by
  intro device hdevice hid
  obtain ⟨before, -, rfl⟩ := List.mem_map.mp hdevice
  split at hid
  · rw [if_pos ‹_›]
  · exact absurd hid ‹_›

theorem AllForced.setForcedAvailability_other (h : AllForced interfaceId v u)
    (hne : other ≠ interfaceId) (w : ForcedDeviceAvailability) :
    AllForced interfaceId v (u.setForcedAvailability other w) := by
  intro device hdevice hid
  obtain ⟨before, hbefore, rfl⟩ := List.mem_map.mp hdevice
  split at hid
  next hother => exact absurd (hother.symm.trans hid) hne
  next hother =>
    rw [if_neg hother]
    exact h before hbefore hid

theorem devices_evaluateCentralState {trigger : String} (fromStart : Bool) :
    (u.evaluateCentralState trigger fromStart).devices = u.devices := by
  obtain ⟨stateMachine, h⟩ := evaluateCentralState_eq trigger fromStart u
  rw [h]

theorem not_isLoss_of_isReconnect (h : event.isReconnect = true) : event.isLoss = false := by
  simp only [ClientStateEvent.isReconnect, decide_eq_true_eq] at h
  rw [ClientStateEvent.isLoss, h.1]
  rfl

/-- The devices after an event: reset, forced or left. -/
theorem devices_onSystemStatusEvent (event : ClientStateEvent) (u : CentralUnit) :
    (u.onSystemStatusEvent event).devices =
      (if event.isReconnect then u.setForcedAvailability event.interfaceId .notSet
        else if event.isLoss ∧ u.currentClientState event ∈ [.disconnected, .failed] then
          u.setForcedAvailability event.interfaceId .forceFalse
        else u).devices := by
  have hevaluated (u : CentralUnit) :
      (if u.stateMachine.state ∈ [.starting, .stopped] then u
        else u.evaluateCentralState ("triggered by " ++ event.interfaceId) false).devices =
        u.devices := by
    split
    · rfl
    · exact devices_evaluateCentralState false
  simp only [onSystemStatusEvent]
  rw [hevaluated]
  cases hreconnect : event.isReconnect with
  | true =>
    have hloss := not_isLoss_of_isReconnect hreconnect
    simp only [hloss, Bool.false_eq_true, false_and, if_false, if_true]
  | false => simp only [Bool.false_eq_true, if_false]

/-- An event of another interface does not touch the devices. -/
theorem AllForced.onSystemStatusEvent_other (h : AllForced interfaceId v u)
    (hne : event.interfaceId ≠ interfaceId) :
    AllForced interfaceId v (u.onSystemStatusEvent event) := by
  refine AllForced.congr ?_ (devices_onSystemStatusEvent event u)
  split
  · exact h.setForcedAvailability_other hne .notSet
  · split
    · exact h.setForcedAvailability_other hne .forceFalse
    · exact h

theorem clients_markAllDevices :
    (u.markAllDevicesForcedAvailability interfaceId v).clients = u.clients := by
  unfold markAllDevicesForcedAvailability
  dsimp only
  split <;> rfl

theorem AllForced.markAllDevices_other (h : AllForced interfaceId v u)
    (hne : other ≠ interfaceId) (w : ForcedDeviceAvailability) :
    AllForced interfaceId v (u.markAllDevicesForcedAvailability other w) := by
  unfold markAllDevicesForcedAvailability
  dsimp only
  split
  · exact h.setForcedAvailability_other hne w
  · exact h

theorem allForced_markAllDevices (interfaceId : String) (u : CentralUnit) :
    AllForced interfaceId .forceFalse
      (u.markAllDevicesForcedAvailability interfaceId .forceFalse) :=
  allForced_setForcedAvailability interfaceId .forceFalse u

end CentralUnit

namespace CentralRun

open CentralUnit

variable {s t : CentralRun} {a : Action} {interfaceId other : String}

/-! ## What a step does to one interface -/

def client? (interfaceId : String) (s : CentralRun) : Option ClientStatus :=
  s.central.clients.get? interfaceId

/-- A step, as the client, the pending events and the devices of the interface see it. -/
inductive Moves (interfaceId : String) (s : CentralRun) (a : Action) (t : CentralRun) : Prop where
  | other (hclient : t.client? interfaceId = s.client? interfaceId)
      (hpending : ∀ event ∈ s.pending, event.interfaceId = interfaceId → event ∈ t.pending)
      (hdevices : ∀ v, AllForced interfaceId v s.central → AllForced interfaceId v t.central)
  | replaced (hclient : ∀ client, t.client? interfaceId = some client → client.state = .created)
  | transition (client client' : ClientStatus) (hclient : s.client? interfaceId = some client)
      (hclient' : t.client? interfaceId = some client')
      (hvalid : client.state.canTransitionTo client'.state = true)
      (hpending : ⟨interfaceId, client.state, client'.state⟩ ∈ t.pending)
  | forced (hclient : t.client? interfaceId = s.client? interfaceId)
      (hne : ∀ client, s.client? interfaceId = some client → client.state ≠ .connected)
      (hdevices : AllForced interfaceId .forceFalse t.central)
  | handled (i : Nat) (event : ClientStateEvent) (ha : a = .handle i)
      (hevent : s.pending[i]? = some event) (hid : event.interfaceId = interfaceId)
      (hclient : t.client? interfaceId = s.client? interfaceId)
      (hpending : ∀ e ∈ s.pending, e = event ∨ e ∈ t.pending)
      (hcentral : t.central = s.central.onSystemStatusEvent event)

theorem clientTransition_cases {target : ClientState} {failureReason : FailureReason}
    (h : s.clientTransition interfaceId target failureReason = some t) :
    ∃ client client', s.client? interfaceId = some client ∧
      client.state.canTransitionTo client'.state = true ∧
      t = { s with
        central := s.central.setClient interfaceId client'
        pending := s.pending ++ [⟨interfaceId, client.state, client'.state⟩] } := by
  simp only [clientTransition] at h
  split at h
  next client hclient =>
    obtain ⟨client', hclient', rfl⟩ := Option.map_eq_some_iff.mp h
    obtain ⟨state, hstate, rfl⟩ := Option.map_eq_some_iff.mp hclient'
    rw [ClientState.transitionTo] at hstate
    split at hstate
    · cases hstate
      exact ⟨client, _, hclient, ‹_›, rfl⟩
    · cases hstate
  next => cases h

theorem moves_clientTransition {target : ClientState} {failureReason : FailureReason}
    (h : s.clientTransition other target failureReason = some t) : Moves interfaceId s a t := by
  obtain ⟨client, client', hclient, hvalid, rfl⟩ := clientTransition_cases h
  by_cases hid : other = interfaceId
  · subst hid
    exact .transition client client' hclient (Dict.get?_set_self _ _ _) hvalid
      (List.mem_append_right _ List.mem_cons_self)
  · exact .other (Dict.get?_set_of_ne _ _ hid) (fun _ he _ => List.mem_append_left _ he)
      fun _ h => h

theorem client?_mark (interfaceId other : String) (v : ForcedDeviceAvailability)
    (s : CentralRun) :
    (s.mark other v).client? interfaceId = s.client? interfaceId := by
  rw [client?, client?, mark, clients_markAllDevices]

theorem moves_clientTransition_mark {target : ClientState} {failureReason : FailureReason}
    {v : ForcedDeviceAvailability}
    (h : (s.clientTransition other target failureReason).map (mark other v) = some t) :
    Moves interfaceId s a t := by
  obtain ⟨t, ht, rfl⟩ := Option.map_eq_some_iff.mp h
  obtain ⟨client, client', hclient, hvalid, rfl⟩ := clientTransition_cases ht
  by_cases hid : other = interfaceId
  · subst hid
    exact .transition client client' hclient
      ((client?_mark _ _ v _).trans (Dict.get?_set_self _ _ _)) hvalid
      (List.mem_append_right _ List.mem_cons_self)
  · refine .other ((client?_mark _ _ v _).trans (Dict.get?_set_of_ne _ _ hid))
      (fun _ he _ => List.mem_append_left _ he) fun w hw => ?_
    have hset : AllForced interfaceId w (s.central.setClient other client') := hw
    exact hset.markAllDevices_other hid v

theorem moves_connectionCheckFailed (h : s.step (.connectionCheckFailed other) = some t) :
    Moves interfaceId s a t := by
  have hmark := client?_mark other other .forceFalse s
  have hother (hid : other ≠ interfaceId) (w : ForcedDeviceAvailability)
      (hw : AllForced interfaceId w s.central) :
      AllForced interfaceId w (s.mark other .forceFalse).central :=
    hw.markAllDevices_other hid .forceFalse
  simp only [step] at h
  split at h
  next =>
    obtain ⟨client, client', hclient, hvalid, rfl⟩ := clientTransition_cases h
    by_cases hid : other = interfaceId
    · subst hid
      exact .transition client client' (hmark.symm.trans hclient) (Dict.get?_set_self _ _ _) hvalid
        (List.mem_append_right _ List.mem_cons_self)
    · exact .other ((Dict.get?_set_of_ne _ _ hid).trans (client?_mark _ _ .forceFalse s))
        (fun _ he _ => List.mem_append_left _ he) (hother hid)
  next hconnected =>
    cases h
    by_cases hid : other = interfaceId
    · subst hid
      refine .forced hmark (fun client hclient hs => hconnected ?_)
        (allForced_markAllDevices other s.central)
      have hclient' : (s.mark other .forceFalse).central.clients.get? other = some client :=
        hmark.trans hclient
      rw [hclient', Option.any_some, hs]
      rfl
    · exact .other (client?_mark _ _ .forceFalse s) (fun _ he _ => he) (hother hid)

theorem moves_handle {i : Nat} (h : s.step (.handle i) = some t) :
    Moves interfaceId s (.handle i) t := by
  obtain ⟨event, hevent, hcentral, hpending⟩ := step_handle h
  have hclient : t.client? interfaceId = s.client? interfaceId := by
    rw [client?, client?, hcentral, clients_onSystemStatusEvent]
  have hrest : ∀ e ∈ s.pending, e = event ∨ e ∈ t.pending := by
    intro e he
    obtain ⟨j, hj⟩ := List.mem_iff_getElem?.mp he
    by_cases hij : j = i
    · rw [hij, hevent] at hj
      cases hj
      exact .inl rfl
    · rw [hpending]
      exact .inr (List.mem_eraseIdx_iff_getElem?.mpr ⟨j, hij, hj⟩)
  by_cases hid : event.interfaceId = interfaceId
  · exact .handled i event rfl hevent hid hclient hrest hcentral
  · refine .other hclient (fun e he heid => (hrest e he).resolve_left ?_) fun v hv => ?_
    · rintro rfl
      exact hid heid
    · rw [hcentral]
      exact hv.onSystemStatusEvent_other hid

theorem step_moves (interfaceId : String) (h : s.step a = some t) : Moves interfaceId s a t := by
  -- the steps that touch neither the client nor the devices nor the events
  have hsame (hclient : t.client? interfaceId = s.client? interfaceId)
      (hpending : t.pending = s.pending) (hdevices : t.central.devices = s.central.devices) :
      Moves interfaceId s a t :=
    .other hclient (fun _ he _ => hpending ▸ he) fun _ hv => hv.congr hdevices
  cases a with
  | createClient other =>
    simp only [step] at h
    split at h
    · cases h
    · cases h
      by_cases hid : other = interfaceId
      · subst hid
        refine .replaced fun client hclient => ?_
        cases (Dict.get?_set_self s.central.clients other {}).symm.trans hclient
        rfl
      · exact hsame (Dict.get?_set_of_ne _ _ hid) rfl rfl
  | removeClient other =>
    cases h
    by_cases hid : other = interfaceId
    · subst hid
      refine .replaced fun client hclient => ?_
      cases (Dict.get?_erase_self s.central.clients other).symm.trans hclient
    · exact hsame (Dict.get?_erase_of_ne _ hid) rfl rfl
  | transition other target failureReason => exact moves_clientTransition h
  | proxyInitialized other => exact moves_clientTransition_mark h
  | proxyInitFailed other failureReason => exact moves_clientTransition_mark h
  | connectionCheckFailed other => exact moves_connectionCheckFailed h
  | handle i => exact moves_handle h
  | startCompleted failureReason failureInterfaceId =>
    cases h
    refine hsame ?_ rfl (devices_evaluateCentralState true)
    rw [client?, client?, clients_evaluateCentralState]
  | centralTransition transition =>
    obtain ⟨stateMachine, -, rfl⟩ := Option.map_eq_some_iff.mp h
    exact hsame rfl rfl rfl
  | recovery inRecovery =>
    cases h
    exact hsame rfl rfl rfl

/-! ## The invariants -/

/-- A connected client has an event of a reconnect pending, or its devices are reset. -/
def Resets (interfaceId : String) (s : CentralRun) : Prop :=
  ∀ client, s.client? interfaceId = some client → client.state = .connected →
    (∃ event ∈ s.pending, event.interfaceId = interfaceId ∧ event.isReconnect = true) ∨
      AllForced interfaceId .notSet s.central

/-- A lost client has an event of a loss pending, or its devices are forced unavailable. -/
def Forces (interfaceId : String) (s : CentralRun) : Prop :=
  ∀ client, s.client? interfaceId = some client → client.state ∈ [.disconnected, .failed] →
    (∃ event ∈ s.pending, event.interfaceId = interfaceId ∧ event.isLoss = true) ∨
      AllForced interfaceId .forceFalse s.central

/-- The pending event number `i` tells of a reconnect, and the client is lost again. -/
def lateReconnect (i : Nat) (s : CentralRun) : Bool :=
  s.pending[i]?.any fun event => event.isReconnect &&
    (s.client? event.interfaceId).any (·.state ∈ [.disconnected, .failed])

/-- The condition on the steps: no late event of a reconnect is handled. -/
def NoLateReconnect : CentralRun → Action → Prop
  | s, .handle i => s.lateReconnect i = false
  | _, _ => True

instance : DecidableRel NoLateReconnect
  | s, .handle i => inferInstanceAs (Decidable (s.lateReconnect i = false))
  | _, .createClient _ => .isTrue trivial
  | _, .removeClient _ => .isTrue trivial
  | _, .transition .. => .isTrue trivial
  | _, .proxyInitialized _ => .isTrue trivial
  | _, .proxyInitFailed .. => .isTrue trivial
  | _, .connectionCheckFailed _ => .isTrue trivial
  | _, .startCompleted .. => .isTrue trivial
  | _, .centralTransition _ => .isTrue trivial
  | _, .recovery _ => .isTrue trivial

theorem isReconnect_of_canTransitionTo {old : ClientState}
    (h : old.canTransitionTo .connected = true) :
    (⟨interfaceId, old, .connected⟩ : ClientStateEvent).isReconnect = true := by
  rw [ClientState.canTransitionTo_connected] at h
  simp only [List.mem_cons, List.not_mem_nil, or_false] at h
  rcases h with rfl | rfl <;> rfl

theorem currentClientState_of_client {event : ClientStateEvent} {client : ClientStatus}
    (h : s.client? event.interfaceId = some client) :
    s.central.currentClientState event = client.state := by
  have hget : s.central.clients.get? event.interfaceId = some client := h
  rw [currentClientState, hget]

theorem Resets.step (h : Resets interfaceId s) (hstep : s.step a = some t) :
    Resets interfaceId t := by
  intro client' hclient' hconnected
  cases step_moves interfaceId hstep with
  | other hclient hpending hdevices =>
    obtain ⟨event, hevent, hid, hr⟩ | hreset := h client' (hclient ▸ hclient') hconnected
    · exact .inl ⟨event, hpending event hevent hid, hid, hr⟩
    · exact .inr (hdevices .notSet hreset)
  | replaced hcreated =>
    rw [hcreated client' hclient'] at hconnected
    cases hconnected
  | transition client client'' hclient hclient'' hvalid hpending =>
    cases hclient''.symm.trans hclient'
    rw [hconnected] at hvalid hpending
    exact .inl ⟨_, hpending, rfl, isReconnect_of_canTransitionTo hvalid⟩
  | forced hclient hne hdevices =>
    exact absurd hconnected (hne client' (hclient ▸ hclient'))
  | handled i event ha hevent hid hclient hpending hcentral =>
    have hbefore : s.client? interfaceId = some client' := hclient ▸ hclient'
    have hdevices := devices_onSystemStatusEvent event s.central
    rw [← hcentral] at hdevices
    cases hreconnect : event.isReconnect with
    | true =>
      rw [hreconnect, if_pos rfl, hid] at hdevices
      exact .inr ((allForced_setForcedAvailability interfaceId .notSet s.central).congr hdevices)
    | false =>
      obtain ⟨e, he, heid, hr⟩ | hreset := h client' hbefore hconnected
      · refine .inl ⟨e, (hpending e he).resolve_left ?_, heid, hr⟩
        rintro rfl
        rw [hreconnect] at hr
        cases hr
      · -- the client is connected, so a loss is not acted upon
        rw [hreconnect, if_neg nofun, if_neg] at hdevices
        · exact .inr (hreset.congr hdevices)
        · rw [currentClientState_of_client (hid ▸ hbefore), hconnected]
          exact fun h => absurd h.2 (by decide)

theorem Forces.step (h : Forces interfaceId s) (ha : NoLateReconnect s a)
    (hstep : s.step a = some t) : Forces interfaceId t := by
  intro client' hclient' hlost
  cases step_moves interfaceId hstep with
  | other hclient hpending hdevices =>
    obtain ⟨event, hevent, hid, hl⟩ | hforced := h client' (hclient ▸ hclient') hlost
    · exact .inl ⟨event, hpending event hevent hid, hid, hl⟩
    · exact .inr (hdevices .forceFalse hforced)
  | replaced hcreated =>
    rw [hcreated client' hclient'] at hlost
    exact absurd hlost (by decide)
  | transition client client'' hclient hclient'' hvalid hpending =>
    cases hclient''.symm.trans hclient'
    exact .inl ⟨_, hpending, rfl, decide_eq_true hlost⟩
  | forced hclient hne hdevices => exact .inr hdevices
  | handled i event hi hevent hid hclient hpending hcentral =>
    have hbefore : s.client? event.interfaceId = some client' := by
      rw [hid, ← hclient]
      exact hclient'
    have hdevices := devices_onSystemStatusEvent event s.central
    have hreconnect : event.isReconnect = false := by
      subst hi
      have hlate : s.lateReconnect i = false := ha
      rw [lateReconnect, hevent, Option.any_some, hbefore, Option.any_some,
        decide_eq_true hlost, Bool.and_true] at hlate
      exact hlate
    rw [← hcentral, hreconnect, if_neg nofun, currentClientState_of_client hbefore] at hdevices
    cases hloss : event.isLoss with
    | true =>
      rw [if_pos ⟨hloss, hlost⟩, hid] at hdevices
      exact .inr
        ((allForced_setForcedAvailability interfaceId .forceFalse s.central).congr hdevices)
    | false =>
      rw [hloss, if_neg (fun h => Bool.noConfusion h.1)] at hdevices
      obtain ⟨e, he, heid, hl⟩ | hforced := h client' (hid ▸ hbefore) hlost
      · refine .inl ⟨e, (hpending e he).resolve_left ?_, heid, hl⟩
        rintro rfl
        rw [hloss] at hl
        cases hl
      · exact .inr (hforced.congr hdevices)

theorem reach_resets {devices : List DeviceStatus} {ok : CentralRun → Action → Prop}
    (h : (system devices).Reach ok s) : Resets interfaceId s := by
  refine h.invariant (P := Resets interfaceId) ?_ fun _ _ _ hs _ hstep => hs.step hstep
  intro client hclient
  cases hclient

theorem reach_forces {devices : List DeviceStatus} (h : (system devices).Reach NoLateReconnect s) :
    Forces interfaceId s := by
  refine h.invariant (P := Forces interfaceId) ?_ fun _ _ _ hs ha hstep => hs.step ha hstep
  intro client hclient
  cases hclient

/-- With no event of the interface pending, the devices of a connected client are reset, whatever
the order of the events was, and those of a lost client are forced unavailable, where no event of a
reconnect came late. -/
theorem forced_availability_settled (devices : List DeviceStatus) (interfaceId : String)
    (s : CentralRun) (client : ClientStatus) (hclient : s.client? interfaceId = some client)
    (hsettled : ∀ event ∈ s.pending, event.interfaceId ≠ interfaceId) :
    ((system devices).Reach Free s → client.state = .connected →
      AllForced interfaceId .notSet s.central) ∧
    ((system devices).Reach NoLateReconnect s → client.state ∈ [.disconnected, .failed] →
      AllForced interfaceId .forceFalse s.central) := by
  refine ⟨fun h hconnected => ?_, fun h hlost => ?_⟩
  · obtain ⟨event, hevent, hid, -⟩ | hreset := reach_resets h client hclient hconnected
    · exact absurd hid (hsettled event hevent)
    · exact hreset
  · obtain ⟨event, hevent, hid, -⟩ | hforced := reach_forces h client hclient hlost
    · exact absurd hid (hsettled event hevent)
    · exact hforced

/-- A client that connects and loses its connection, with the events of both pending. -/
def sampleFlap : List Action :=
  [.createClient "CCU-HmIP-RF", .transition "CCU-HmIP-RF" .initializing .none,
    .transition "CCU-HmIP-RF" .initialized .none, .transition "CCU-HmIP-RF" .connecting .none,
    .handle 0, .handle 0, .handle 0, .proxyInitialized "CCU-HmIP-RF",
    .connectionCheckFailed "CCU-HmIP-RF"]

theorem forced_availability_settled_flap :
    ∃ s, (system sampleDevices).replay NoLateReconnect (system sampleDevices).init
        (sampleFlap.take 8 ++ [.handle 0, .connectionCheckFailed "CCU-HmIP-RF", .handle 0]) =
          some s ∧ AllForced "CCU-HmIP-RF" .forceFalse s.central := by
  obtain ⟨s, hs, hpending, hdisconnected⟩ := replay_any
    (p := fun s : CentralRun => s.pending = [] ∧
      s.client? "CCU-HmIP-RF" = some { state := .disconnected })
    (show ((system sampleDevices).replay NoLateReconnect (system sampleDevices).init
      (sampleFlap.take 8 ++
        [.handle 0, .connectionCheckFailed "CCU-HmIP-RF", .handle 0])).any _ = true by decide)
  refine ⟨s, hs, (forced_availability_settled sampleDevices "CCU-HmIP-RF" s _ hdisconnected ?_).2
    (reach_of_replay hs) (by decide)⟩
  rw [hpending]
  nofun

/-- A client that is reconnecting, whose devices are still forced; and one whose reconnect event is
handled after that of the loss, whose devices are not. -/
theorem forced_availability_unsettled :
    (∃ s, (system sampleDevices).Reach Free s ∧ s.pending = [] ∧
      s.client? "CCU-HmIP-RF" = some { state := .reconnecting } ∧
      s.central.devices = [⟨"CCU-HmIP-RF", .forceFalse⟩]) ∧
    ∃ s, (system sampleDevices).Reach Free s ∧ s.pending = [] ∧
      s.client? "CCU-HmIP-RF" = some { state := .disconnected } ∧
      s.central.devices = [⟨"CCU-HmIP-RF", .notSet⟩] := by
  constructor
  · obtain ⟨s, hs, htest⟩ := replay_any
      (p := fun s : CentralRun => s.pending = [] ∧
        s.client? "CCU-HmIP-RF" = some { state := .reconnecting } ∧
        s.central.devices = [⟨"CCU-HmIP-RF", .forceFalse⟩])
      (show ((system sampleDevices).replay Free (system sampleDevices).init
        (sampleFlap ++ [.handle 0, .handle 0, .transition "CCU-HmIP-RF" .reconnecting .none,
          .handle 0])).any _ = true by decide)
    exact ⟨s, reach_of_replay hs, htest⟩
  · obtain ⟨s, hs, htest⟩ := replay_any
      (p := fun s : CentralRun => s.pending = [] ∧
        s.client? "CCU-HmIP-RF" = some { state := .disconnected } ∧
        s.central.devices = [⟨"CCU-HmIP-RF", .notSet⟩])
      (show ((system sampleDevices).replay Free (system sampleDevices).init
        (sampleFlap ++ [.handle 1, .handle 0])).any _ = true by decide)
    exact ⟨s, reach_of_replay hs, htest⟩

end CentralRun

end AioHomematic.Central
