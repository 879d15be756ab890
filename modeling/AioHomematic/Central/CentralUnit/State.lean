import AioHomematic.Central.CentralUnit

/-!
# The central state after a client event

What the handler of a client event makes of the central state, by the state
before it and the client states. An event only moves a central that is `RUNNING`
or `DEGRADED`, but for the move to `RUNNING`, which is made wherever the table
has it.

The handler also means to move a `RUNNING` central with no connected client to
`FAILED`; the table has no such transition, so that central stays `RUNNING`.
-/

namespace AioHomematic.Central

open Client Lib StepSystem

namespace CentralUnit

variable {u : CentralUnit} {trigger : String} {event : ClientStateEvent}

theorem anyConnected_of_allConnected (h : u.allConnected = true) : u.anyConnected = true := by
  simp only [allConnected, Bool.and_eq_true, Bool.not_eq_true', List.isEmpty_eq_false_iff] at h
  obtain ⟨hne, hall⟩ := h
  obtain ⟨client, hclient⟩ := List.exists_mem_of_ne_nil _ hne
  exact List.any_eq_true.mpr ⟨client, hclient, List.all_eq_true.mp hall client hclient⟩

/-- With every client connected only the transition to `RUNNING` is considered. -/
theorem state_evaluate_of_allConnected (hrec : u.inRecovery = false)
    (hall : u.allConnected = true) :
    (u.evaluateCentralState trigger false).stateMachine.state =
      if u.stateMachine.canTransitionTo .running then .running else u.stateMachine.state := by
  have hany := anyConnected_of_allConnected hall
  simp only [evaluateCentralState, hrec, hall, hany, Bool.false_eq_true, not_true_eq_false,
    not_false_eq_true, or_true, true_and, false_and, and_false, if_false]
  split <;> simp [enter]

/-- With some clients connected only a `RUNNING` central moves. -/
theorem state_evaluate_of_anyConnected (hall : u.allConnected = false)
    (hany : u.anyConnected = true) :
    (u.evaluateCentralState trigger false).stateMachine.state =
      if u.stateMachine.state = .running then .degraded else u.stateMachine.state := by
  simp only [evaluateCentralState, hall, hany, Bool.false_eq_true, not_true_eq_false,
    not_false_eq_true, true_and, false_and, false_or, if_false]
  by_cases hs : u.stateMachine.state = .running
  · have hcan : u.stateMachine.canTransitionTo .degraded = true := by
      rw [CentralStateMachine.canTransitionTo, hs]
      rfl
    rw [if_pos ⟨hs, hcan⟩, if_pos hs]
    exact CentralStateMachine.state_enter _ _
  · rw [if_neg fun h => hs h.1, if_neg hs]

/-- With no client connected only a `DEGRADED` central moves: the table does not lead from
`RUNNING` to `FAILED`. -/
theorem state_evaluate_of_none_connected (hany : u.anyConnected = false) :
    (u.evaluateCentralState trigger false).stateMachine.state =
      if u.stateMachine.state = .degraded then .failed else u.stateMachine.state := by
  have hall : u.allConnected = false :=
    Bool.eq_false_iff.mpr fun h => Bool.eq_false_iff.mp hany (anyConnected_of_allConnected h)
  simp only [evaluateCentralState, hall, hany, Bool.false_eq_true, not_false_eq_true, true_and,
    false_and, false_or, if_false]
  by_cases hs : u.stateMachine.state = .degraded
  · have hcan : u.stateMachine.canTransitionTo .failed = true := by
      rw [CentralStateMachine.canTransitionTo, hs]
      rfl
    rw [if_pos ⟨by simp [hs], hcan⟩, if_pos hs]
    simp only [enter, CentralStateMachine.state_enter]
  · rw [if_neg hs, if_neg]
    rintro ⟨hmem, hcan⟩
    have hrunning : u.stateMachine.state = .running := by simpa [hs] using hmem
    rw [CentralStateMachine.canTransitionTo, hrunning] at hcan
    cases hcan

/-- Evaluating the state touches the state machine only. -/
theorem evaluateCentralState_eq (trigger : String) (fromStart : Bool) (u : CentralUnit) :
    ∃ stateMachine,
      u.evaluateCentralState trigger fromStart = { u with stateMachine := stateMachine } := by
  unfold evaluateCentralState
  dsimp only
  split
  · exact ⟨_, rfl⟩
  · split
    · exact ⟨_, rfl⟩
    · split
      · exact ⟨_, rfl⟩
      · exact ⟨u.stateMachine, rfl⟩

theorem clients_evaluateCentralState (fromStart : Bool) :
    (u.evaluateCentralState trigger fromStart).clients = u.clients := by
  obtain ⟨stateMachine, h⟩ := evaluateCentralState_eq trigger fromStart u
  rw [h]

/-- The handler marks devices and evaluates the state. -/
theorem onSystemStatusEvent_eq (event : ClientStateEvent) (u : CentralUnit) :
    ∃ devices, u.onSystemStatusEvent event =
      if u.stateMachine.state ∈ [.starting, .stopped] then { u with devices := devices }
      else
        ({ u with devices := devices } : CentralUnit).evaluateCentralState
          ("triggered by " ++ event.interfaceId) false := by
  unfold onSystemStatusEvent
  dsimp only
  split
  · split
    · exact ⟨_, rfl⟩
    · exact ⟨_, rfl⟩
  · split
    · exact ⟨_, rfl⟩
    · exact ⟨u.devices, rfl⟩

theorem ne_of_idle {state state' : CentralState} (hidle : state ∈ [.starting, .stopped])
    (h : state' ∉ [CentralState.starting, .stopped]) : state ≠ state' := by
  rintro rfl
  exact h hidle

theorem clients_onSystemStatusEvent : (u.onSystemStatusEvent event).clients = u.clients := by
  obtain ⟨devices, h⟩ := onSystemStatusEvent_eq event u
  rw [h]
  split
  · rfl
  · exact clients_evaluateCentralState false

theorem state_onSystemStatusEvent_of_all (hrec : u.inRecovery = false)
    (hall : u.allConnected = true) :
    (u.onSystemStatusEvent event).stateMachine.state =
      if u.stateMachine.canTransitionTo .running then .running else u.stateMachine.state := by
  obtain ⟨devices, h⟩ := onSystemStatusEvent_eq event u
  rw [h]
  split
  next hidle =>
    have hcan : u.stateMachine.canTransitionTo .running = false := by
      simp only [List.mem_cons, List.not_mem_nil, or_false] at hidle
      rw [CentralStateMachine.canTransitionTo]
      rcases hidle with hs | hs <;> rw [hs] <;> rfl
    rw [hcan]
    rfl
  next =>
    exact state_evaluate_of_allConnected (u := { u with devices := devices }) hrec hall

theorem state_onSystemStatusEvent_of_any (hall : u.allConnected = false)
    (hany : u.anyConnected = true) :
    (u.onSystemStatusEvent event).stateMachine.state =
      if u.stateMachine.state = .running then .degraded else u.stateMachine.state := by
  obtain ⟨devices, h⟩ := onSystemStatusEvent_eq event u
  rw [h]
  split
  next hidle => rw [if_neg (ne_of_idle hidle (by decide))]
  next => exact state_evaluate_of_anyConnected (u := { u with devices := devices }) hall hany

/-- A `RUNNING` central stays what it is: the transition to `FAILED` is dropped. -/
theorem state_onSystemStatusEvent_of_none (hany : u.anyConnected = false) :
    (u.onSystemStatusEvent event).stateMachine.state =
      if u.stateMachine.state = .degraded then .failed else u.stateMachine.state := by
  obtain ⟨devices, h⟩ := onSystemStatusEvent_eq event u
  rw [h]
  split
  next hidle => rw [if_neg (ne_of_idle hidle (by decide))]
  next => exact state_evaluate_of_none_connected (u := { u with devices := devices }) hany

end CentralUnit

namespace CentralRun

open CentralUnit

variable {s t : CentralRun}

theorem step_handle {i : Nat} (h : s.step (.handle i) = some t) :
    ∃ event, s.pending[i]? = some event ∧ t.central = s.central.onSystemStatusEvent event ∧
      t.pending = s.pending.eraseIdx i := by
  simp only [step] at h
  split at h
  · cases h
    exact ⟨_, ‹_›, rfl, rfl⟩
  · cases h

/-- After an event is handled outside a recovery, but for an event that comes to a `RUNNING`
central with no connected client. -/
theorem central_state_after_event (devices : List DeviceStatus) (s t : CentralRun) (i : Nat)
    (hstep : (system devices).step s (.handle i) = some t) (hrec : s.central.inRecovery = false)
    (hlost : ¬(s.central.stateMachine.state = .running ∧ s.central.anyConnected = false)) :
    (t.central.stateMachine.state = .running → t.central.allConnected = true) ∧
      (t.central.allConnected = true → t.central.stateMachine.state =
        if s.central.stateMachine.canTransitionTo .running then .running
        else s.central.stateMachine.state) ∧
      (t.central.allConnected = false →
        (s.central.stateMachine.state ∈ [.running, .degraded, .failed] →
          t.central.stateMachine.state ∈ [.degraded, .failed]) ∧
        (s.central.stateMachine.state ∈ [.starting, .initializing, .recovering, .stopped] →
          t.central.stateMachine.state = s.central.stateMachine.state)) := by
  obtain ⟨event, -, ht, -⟩ := step_handle hstep
  have hsame : t.central.allConnected = s.central.allConnected := by
    rw [ht, allConnected, allConnected, clients_onSystemStatusEvent]
  rw [hsame]
  cases hall : s.central.allConnected with
  | true =>
    rw [ht, state_onSystemStatusEvent_of_all hrec hall]
    exact ⟨fun _ => rfl, fun _ => rfl, nofun⟩
  | false =>
    cases hany : s.central.anyConnected with
    | true =>
      rw [ht, state_onSystemStatusEvent_of_any hall hany]
      refine ⟨?_, nofun, fun _ => ?_⟩
      · cases s.central.stateMachine.state <;> decide
      · cases s.central.stateMachine.state <;> decide
    | false =>
      rw [ht, state_onSystemStatusEvent_of_none hany]
      have hne : s.central.stateMachine.state ≠ .running := fun hs => hlost ⟨hs, hany⟩
      refine ⟨?_, nofun, fun _ => ?_⟩
      · revert hne
        cases s.central.stateMachine.state <;> decide
      · revert hne
        cases s.central.stateMachine.state <;> decide

def sampleDevices : List DeviceStatus := [{ interfaceId := "CCU-HmIP-RF" }]

/-- Two clients that connect while the central starts, up to the last event but three. -/
def sampleStart : List Action :=
  [.createClient "CCU-HmIP-RF", .createClient "CCU-BidCos-RF",
    .centralTransition { target := .initializing },
    .transition "CCU-HmIP-RF" .initializing .none, .transition "CCU-HmIP-RF" .initialized .none,
    .transition "CCU-HmIP-RF" .connecting .none, .proxyInitialized "CCU-HmIP-RF",
    .transition "CCU-BidCos-RF" .initializing .none,
    .transition "CCU-BidCos-RF" .initialized .none,
    .transition "CCU-BidCos-RF" .connecting .none, .proxyInitialized "CCU-BidCos-RF",
    .handle 0, .handle 0, .handle 0, .handle 0, .handle 0, .handle 0, .handle 0, .handle 0]

/-- One of the two connected clients of a `RUNNING` central is lost. -/
theorem central_state_after_event_degraded :
    ∃ s t : CentralRun, (system sampleDevices).replay Free (system sampleDevices).init
        (sampleStart ++ [.connectionCheckFailed "CCU-BidCos-RF"]) = some s ∧
      s.step (.handle 0) = some t ∧ t.central.stateMachine.state ∈ [.degraded, .failed] := by
  obtain ⟨s, hs, ⟨hrec, hlost⟩, hrunning, hhandled⟩ := replay_any
    (p := fun s : CentralRun => (s.central.inRecovery = false ∧
        ¬(s.central.stateMachine.state = .running ∧ s.central.anyConnected = false)) ∧
      s.central.stateMachine.state = .running ∧
      (s.step (.handle 0)).any (·.central.allConnected = false) = true)
    (show ((system sampleDevices).replay Free (system sampleDevices).init
      (sampleStart ++ [.connectionCheckFailed "CCU-BidCos-RF"])).any _ = true by decide)
  obtain ⟨t, ht, hall⟩ := (Option.any_eq_true _ _).mp hhandled
  obtain ⟨-, -, hother⟩ := central_state_after_event sampleDevices s t 0 ht hrec hlost
  refine ⟨s, t, hs, ht, (hother (of_decide_eq_true hall)).1 ?_⟩
  rw [hrunning]
  decide

/-- The central stays what it is, although not every client is connected. -/
def Unmoved (s : CentralRun) : Prop :=
  s.central.inRecovery = false ∧
    (s.step (.handle 0)).any (fun t => t.central.allConnected = false ∧
      t.central.stateMachine.state = s.central.stateMachine.state) = true

instance : DecidablePred Unmoved := fun _ => inferInstanceAs (Decidable (_ ∧ _))

/-- The first event while the central starts, which leaves it `INITIALIZING`, and the loss of the
only client of a `RUNNING` central. -/
theorem central_state_unmoved :
    (∃ s, (system sampleDevices).Reach Free s ∧ Unmoved s ∧
      s.central.stateMachine.state = .initializing) ∧
    ∃ s, (system sampleDevices).Reach Free s ∧ Unmoved s ∧
      s.central.stateMachine.state = .running := by
  constructor
  · obtain ⟨s, hs, htest⟩ := replay_any
      (p := fun s : CentralRun => Unmoved s ∧ s.central.stateMachine.state = .initializing)
      (show ((system sampleDevices).replay Free (system sampleDevices).init
        [.createClient "CCU-HmIP-RF", .centralTransition { target := .initializing },
          .transition "CCU-HmIP-RF" .initializing .none]).any _ = true by decide)
    exact ⟨s, reach_of_replay hs, htest⟩
  · obtain ⟨s, hs, htest⟩ := replay_any
      (p := fun s : CentralRun => Unmoved s ∧ s.central.stateMachine.state = .running)
      (show ((system sampleDevices).replay Free (system sampleDevices).init
        [.createClient "CCU-HmIP-RF", .centralTransition { target := .initializing },
          .transition "CCU-HmIP-RF" .initializing .none,
          .transition "CCU-HmIP-RF" .initialized .none,
          .transition "CCU-HmIP-RF" .connecting .none, .proxyInitialized "CCU-HmIP-RF",
          .handle 0, .handle 0, .handle 0, .handle 0,
          .connectionCheckFailed "CCU-HmIP-RF"]).any _ = true by decide)
    exact ⟨s, reach_of_replay hs, htest⟩

end CentralRun

end AioHomematic.Central
