import AioHomematic.Central.CentralUnit.Availability
import AioHomematic.Central.Health

/-!
# What the tracker knows of the clients

The tracker follows the events of a client: what it shows is the state that the
client had when it published the last event that has been handled. So where
events are handled in the order in which they come, it shows the state of every
client that has no event pending (`Tracks`). Nothing updates the circuits that
it keeps, so for the tracker a client is available when it is connected, and
none is ever degraded (`CircuitsClosed`).
-/

namespace AioHomematic.Central

open AioHomematic.Client Lib

variable {interfaceId other : String}

/-! ## What an action does to the health of one client -/

namespace HealthRun

variable {s t : HealthRun} {a : Action} {run run' : CentralRun} {tracker : HealthTracker}

def health? (interfaceId : String) (tracker : HealthTracker) : Option ConnectionHealth :=
  tracker.centralHealth.clientHealth.get? interfaceId

/-- The action handles an event of the interface. -/
def Hears (interfaceId : String) (run : CentralRun) (a : Action) (event : ClientStateEvent) :
    Prop :=
  ∃ i, a = .handle i ∧ run.pending[i]? = some event ∧ event.interfaceId = interfaceId

/-- What becomes of the health of the client when an action is tracked. -/
inductive Told (interfaceId : String) (run : CentralRun) (a : Action) :
    Option ConnectionHealth → Option ConnectionHealth → Prop where
  | registered {h₀} (interface : Interface) (ha : a = .createClient interfaceId interface) :
      Told interfaceId run a h₀ (some { interfaceId, interface })
  | unregistered {h₀} : Told interfaceId run a h₀ none
  | heard {h₀} (event : ClientStateEvent) (hhears : Hears interfaceId run a event) :
      Told interfaceId run a h₀ (h₀.map (·.updateState event.oldState event.newState))
  | recorded {h₀} (f : ConnectionHealth → ConnectionHealth)
      (hf : ∀ h, (f h).clientState = h.clientState ∧ (f h).xmlRpcCircuit = h.xmlRpcCircuit ∧
        (f h).jsonRpcCircuit = h.jsonRpcCircuit)
      (hother : ∀ event, ¬Hears interfaceId run a event) :
      Told interfaceId run a h₀ (h₀.map f)

theorem Told.same {h₀ : Option ConnectionHealth}
    (hother : ∀ event, ¬Hears interfaceId run a event) : Told interfaceId run a h₀ h₀ := by
  have htold : Told interfaceId run a h₀ (h₀.map id) :=
    .recorded id (fun _ => ⟨rfl, rfl, rfl⟩) hother
  rwa [Option.map_id_fun, id] at htold

/-- A record of the client or of another one. -/
theorem Told.modify {f : ConnectionHealth → ConnectionHealth}
    (hf : ∀ h, (f h).clientState = h.clientState ∧ (f h).xmlRpcCircuit = h.xmlRpcCircuit ∧
      (f h).jsonRpcCircuit = h.jsonRpcCircuit)
    (hother : ∀ event, ¬Hears interfaceId run a event) :
    Told interfaceId run a (health? interfaceId tracker)
      ((tracker.centralHealth.clientHealth.modify other f).get? interfaceId) := by
  rw [Dict.get?_modify]
  split
  · exact .recorded f hf hother
  · exact .same hother

theorem clientHealth_updateClientHealth (other : String) (oldState newState : ClientState)
    (state : CentralState) (tracker : HealthTracker) :
    (tracker.updateClientHealth other oldState newState state).centralHealth.clientHealth =
      tracker.centralHealth.clientHealth.modify other (·.updateState oldState newState) := by
  unfold HealthTracker.updateClientHealth
  cases hget : tracker.centralHealth.getClientHealth other with
  | some h => rfl
  | none =>
    have hnone : tracker.centralHealth.clientHealth.get? other = none := hget
    unfold Dict.modify
    rw [hnone]
    rfl

theorem track_handle (i : Nat) : track run run' tracker (.handle i) =
    (run.pending[i]?).elim tracker (trackEvent · run.central tracker) := by
  rw [track]
  cases run.pending[i]? <;> rfl

theorem told_track (interfaceId : String) (a : Action) :
    Told interfaceId run a (health? interfaceId tracker)
      (health? interfaceId (track run run' tracker a)) := by
  -- only `handle` handles an event
  have hother (ha : ∀ i, a ≠ .handle i) (event : ClientStateEvent) :
      ¬Hears interfaceId run a event := by
    rintro ⟨i, hi, -⟩
    exact ha i hi
  cases a with
  | createClient other interface =>
    show Told _ _ _ _ ((tracker.centralHealth.clientHealth.set other _).get? interfaceId)
    rw [Dict.get?_set]
    split
    · subst_vars
      exact .registered interface rfl
    · exact .same (hother (by simp))
  | unregister other =>
    show Told _ _ _ _ ((tracker.centralHealth.clientHealth.erase other).get? interfaceId)
    rw [Dict.get?_erase]
    split
    · exact .unregistered
    · exact .same (hother (by simp))
  | handle i =>
    rw [track_handle]
    cases hevent : run.pending[i]? with
    | none =>
      refine .same fun event => ?_
      rintro ⟨j, hj, hget, -⟩
      cases hj
      rw [hevent] at hget
      cases hget
    | some event =>
      have hmodify : health? interfaceId (trackEvent event run.central tracker) =
          (tracker.centralHealth.clientHealth.modify event.interfaceId
            (·.updateState event.oldState event.newState)).get? interfaceId := by
        rw [← clientHealth_updateClientHealth event.interfaceId event.oldState event.newState
          run.central.stateMachine.state tracker]
        unfold trackEvent
        dsimp only
        split <;> rfl
      rw [Option.elim_some, hmodify, Dict.get?_modify]
      split
      next hid => exact .heard event ⟨i, rfl, hevent, hid⟩
      next hid =>
        refine .same fun event' => ?_
        rintro ⟨j, hj, hget, hid'⟩
        cases hj
        rw [hevent] at hget
        cases hget
        exact hid hid'
  | eventReceived other now => exact .modify (fun _ => ⟨rfl, rfl, rfl⟩) (hother (by simp))
  | healthRecorded other success now =>
    cases success with
    | true => exact .modify (fun _ => ⟨rfl, rfl, rfl⟩) (hother (by simp))
    | false => exact .modify (fun _ => ⟨rfl, rfl, rfl⟩) (hother (by simp))
  | _ => exact .same (hother (by simp))

theorem step_track (h : s.step a = some t) : t.tracker = track s.run t.run s.tracker a ∧
    (a.central = none ∧ t.run = s.run ∨ ∃ b, a.central = some b ∧ s.run.step b = some t.run) := by
  unfold step at h
  cases hcentral : a.central with
  | some b =>
    rw [hcentral] at h
    obtain ⟨run, hrun, rfl⟩ := Option.map_eq_some_iff.mp h
    exact ⟨rfl, .inr ⟨b, rfl, hrun⟩⟩
  | none =>
    rw [hcentral] at h
    cases h
    exact ⟨rfl, .inl ⟨rfl, rfl⟩⟩

theorem updateState_keeps (oldState newState : ClientState) (h : ConnectionHealth) :
    (h.updateState oldState newState).clientState = newState ∧
      (h.updateState oldState newState).xmlRpcCircuit = h.xmlRpcCircuit ∧
      (h.updateState oldState newState).jsonRpcCircuit = h.jsonRpcCircuit := by
  unfold ConnectionHealth.updateState
  dsimp only
  split <;> split <;> exact ⟨rfl, rfl, rfl⟩

/-- Where the health of a client comes from: it has been registered, or was there with the same
circuits and with a state that an event of the client changes. -/
theorem Told.cases {h₀ h₁ : Option ConnectionHealth} {h : ConnectionHealth}
    (htold : Told interfaceId run a h₀ h₁) (hsome : h₁ = some h) :
    (∃ interface, a = .createClient interfaceId interface ∧ h = { interfaceId, interface }) ∨
      ∃ h', h₀ = some h' ∧
        (h.xmlRpcCircuit = h'.xmlRpcCircuit ∧ h.jsonRpcCircuit = h'.jsonRpcCircuit) ∧
        ((∃ event, Hears interfaceId run a event ∧ h.clientState = event.newState) ∨
          (∀ event, ¬Hears interfaceId run a event) ∧ h.clientState = h'.clientState) := by
  cases htold with
  | registered interface ha =>
    cases hsome
    exact .inl ⟨interface, ha, rfl⟩
  | unregistered => cases hsome
  | heard event hhears =>
    obtain ⟨h', rfl, rfl⟩ := Option.map_eq_some_iff.mp hsome
    obtain ⟨hstate, hcircuits⟩ := updateState_keeps event.oldState event.newState h'
    exact .inr ⟨h', rfl, hcircuits, .inl ⟨event, hhears, hstate⟩⟩
  | recorded f hf hother =>
    obtain ⟨h', rfl, rfl⟩ := Option.map_eq_some_iff.mp hsome
    obtain ⟨hstate, hcircuits⟩ := hf h'
    exact .inr ⟨h', rfl, hcircuits, .inr ⟨hother, hstate⟩⟩

/-! ## The circuits -/

/-- The circuits that the tracker keeps are closed. -/
def CircuitsClosed (s : HealthRun) : Prop :=
  ∀ (interfaceId : String) (h : ConnectionHealth), health? interfaceId s.tracker = some h →
    h.xmlRpcCircuit = .closed ∧ h.jsonRpcCircuit = none

theorem CircuitsClosed.step (hs : CircuitsClosed s) (h : s.step a = some t) :
    CircuitsClosed t := by
  intro interfaceId health hhealth
  rw [(step_track h).1] at hhealth
  rcases (told_track interfaceId a).cases hhealth with
    ⟨interface, -, rfl⟩ | ⟨health', hbefore, ⟨hxml, hjson⟩, -⟩
  · exact ⟨rfl, rfl⟩
  · rw [hxml, hjson]
    exact hs interfaceId health' hbefore

/-! ## The order of events -/

/-- The pending events of the interface. -/
def queued (interfaceId : String) (run : CentralRun) : List ClientStateEvent :=
  run.pending.filter fun event => event.interfaceId = interfaceId

/-- The condition on the steps: the events of an interface are handled in the order in which they
come, and a client is created when none of its interface is pending. -/
def InOrder (s : HealthRun) : Action → Prop
  | .createClient interfaceId _ => ∀ event ∈ s.run.pending, event.interfaceId ≠ interfaceId
  | .handle i => ∀ event ∈ s.run.pending[i]?, ∀ e ∈ s.run.pending.take i,
      e.interfaceId ≠ event.interfaceId
  | _ => True

instance : DecidableRel InOrder := fun s a => by
  cases a
  case createClient interfaceId _ =>
    exact inferInstanceAs (Decidable (∀ event ∈ s.run.pending, event.interfaceId ≠ interfaceId))
  case handle i =>
    exact inferInstanceAs (Decidable (∀ event ∈ s.run.pending[i]?, ∀ e ∈ s.run.pending.take i,
      e.interfaceId ≠ event.interfaceId))
  all_goals exact .isTrue trivial

/-- The state that the events lead to. -/
def lastState (state : ClientState) (events : List ClientStateEvent) : ClientState :=
  events.foldl (fun _ event => event.newState) state

/-- A step, as the client and the events of the interface see it. -/
inductive Queues (interfaceId : String) (run : CentralRun) (b : CentralRun.Action)
    (run' : CentralRun) : Prop where
  | same (hclient : run'.client? interfaceId = run.client? interfaceId)
      (hqueued : queued interfaceId run' = queued interfaceId run)
      (hhandle : ∀ i event, b = .handle i → run.pending[i]? = some event →
        event.interfaceId ≠ interfaceId)
      (hcreate : b ≠ .createClient interfaceId)
  | created (hb : b = .createClient interfaceId) (hclient : run'.client? interfaceId = some {})
      (hpending : run'.pending = run.pending)
  | removed (hclient : run'.client? interfaceId = none)
  | moved (client client' : ClientStatus) (hclient : run.client? interfaceId = some client)
      (hclient' : run'.client? interfaceId = some client')
      (hqueued : queued interfaceId run' =
        queued interfaceId run ++ [⟨interfaceId, client.state, client'.state⟩])
      (hhandle : ∀ i, b ≠ .handle i) (hcreate : b ≠ .createClient interfaceId)
  | handled (i : Nat) (event : ClientStateEvent) (hb : b = .handle i)
      (hevent : run.pending[i]? = some event) (hid : event.interfaceId = interfaceId)
      (hclient : run'.client? interfaceId = run.client? interfaceId)
      (hpending : run'.pending = run.pending.eraseIdx i)

variable {b : CentralRun.Action}

theorem queued_concat (interfaceId : String) {run run' : CentralRun} {event : ClientStateEvent}
    (hpending : run'.pending = run.pending ++ [event]) : queued interfaceId run' =
      queued interfaceId run ++ if event.interfaceId = interfaceId then [event] else [] := by
  unfold queued
  rw [hpending, List.filter_append]
  by_cases hid : event.interfaceId = interfaceId
  · rw [if_pos hid, List.filter_cons_of_pos (by simpa using hid), List.filter_nil]
  · rw [if_neg hid, List.filter_cons_of_neg (by simpa using hid), List.filter_nil]

/-- The events before the one that is handled, the event and the others. -/
theorem queued_handle (interfaceId : String) {i : Nat} {event : ClientStateEvent}
    (hevent : run.pending[i]? = some event) (hpending : run'.pending = run.pending.eraseIdx i) :
    ∃ before after, queued interfaceId run' = before ++ after ∧
      queued interfaceId run =
        before ++ (if event.interfaceId = interfaceId then [event] else []) ++ after ∧
      ∀ e ∈ before, e ∈ run.pending.take i ∧ e.interfaceId = interfaceId := by
  obtain ⟨hi, rfl⟩ := List.getElem?_eq_some_iff.mp hevent
  refine ⟨(run.pending.take i).filter fun event => event.interfaceId = interfaceId,
    (run.pending.drop (i + 1)).filter fun event => event.interfaceId = interfaceId, ?_, ?_,
    fun e he => ?_⟩
  · unfold queued
    rw [hpending, List.eraseIdx_eq_take_drop_succ, List.filter_append]
  · unfold queued
    conv_lhs => rw [← List.take_append_drop i run.pending, List.drop_eq_getElem_cons hi]
    rw [List.filter_append, List.filter_cons]
    simp only [decide_eq_true_eq, List.append_assoc]
    split <;> rfl
  · rw [List.mem_filter, decide_eq_true_eq] at he
    exact he

/-- A client of any interface makes a transition, and may mark its devices. -/
theorem queues_transition {client client' : ClientStatus}
    (hclient : run.client? other = some client)
    (hclients : run'.central.clients = run.central.clients.set other client')
    (hpending : run'.pending = run.pending ++ [⟨other, client.state, client'.state⟩])
    (hhandle : ∀ i, b ≠ .handle i) (hcreate : ∀ other, b ≠ .createClient other) :
    Queues interfaceId run b run' := by
  have hqueued := queued_concat interfaceId hpending
  have hget : run'.client? interfaceId =
      if other = interfaceId then some client' else run.client? interfaceId := by
    unfold CentralRun.client?
    rw [hclients, Dict.get?_set]
  by_cases hid : other = interfaceId
  · subst hid
    rw [if_pos rfl] at hget hqueued
    exact .moved client client' hclient hget hqueued hhandle (hcreate other)
  · rw [if_neg hid] at hget hqueued
    rw [List.append_nil] at hqueued
    exact .same hget hqueued (fun i _ hi => absurd hi (hhandle i)) (hcreate interfaceId)

theorem queues_clientTransition {target : ClientState} {failureReason : FailureReason}
    (h : run.clientTransition other target failureReason = some run')
    (hhandle : ∀ i, b ≠ .handle i) (hcreate : ∀ other, b ≠ .createClient other) :
    Queues interfaceId run b run' := by
  obtain ⟨client, client', hclient, -, rfl⟩ := CentralRun.clientTransition_cases h
  exact queues_transition hclient rfl rfl hhandle hcreate

theorem queues_clientTransition_mark {target : ClientState} {failureReason : FailureReason}
    {v : ForcedDeviceAvailability}
    (h : (run.clientTransition other target failureReason).map (CentralRun.mark other v) =
      some run')
    (hhandle : ∀ i, b ≠ .handle i) (hcreate : ∀ other, b ≠ .createClient other) :
    Queues interfaceId run b run' := by
  obtain ⟨marked, hmarked, rfl⟩ := Option.map_eq_some_iff.mp h
  obtain ⟨client, client', hclient, -, rfl⟩ := CentralRun.clientTransition_cases hmarked
  exact queues_transition hclient CentralUnit.clients_markAllDevices rfl hhandle hcreate

theorem step_queues (interfaceId : String) (h : run.step b = some run') :
    Queues interfaceId run b run' := by
  have hsame (hclients : run'.central.clients = run.central.clients)
      (hpending : run'.pending = run.pending) (hhandle : ∀ i, b ≠ .handle i)
      (hcreate : b ≠ .createClient interfaceId) : Queues interfaceId run b run' :=
    .same (congrArg (Dict.get? · interfaceId) hclients)
      (congrArg (List.filter _) hpending) (fun i _ hi => absurd hi (hhandle i)) hcreate
  cases b with
  | createClient other =>
    simp only [CentralRun.step] at h
    split at h
    · cases h
    · cases h
      by_cases hid : other = interfaceId
      · subst hid
        exact .created rfl (Dict.get?_set_self _ _ _) rfl
      · exact .same (Dict.get?_set_of_ne _ _ hid) rfl (by simp) fun heq => by
          cases heq
          exact hid rfl
  | removeClient other =>
    cases h
    by_cases hid : other = interfaceId
    · subst hid
      exact .removed (Dict.get?_erase_self _ _)
    · exact .same (Dict.get?_erase_of_ne _ hid) rfl (by simp) (by simp)
  | transition => exact queues_clientTransition h (by simp) (by simp)
  | proxyInitialized => exact queues_clientTransition_mark h (by simp) (by simp)
  | proxyInitFailed => exact queues_clientTransition_mark h (by simp) (by simp)
  | connectionCheckFailed other =>
    have hclients : (run.mark other .forceFalse).central.clients = run.central.clients :=
      CentralUnit.clients_markAllDevices
    simp only [CentralRun.step] at h
    split at h
    · obtain ⟨client, client', hclient, -, rfl⟩ := CentralRun.clientTransition_cases h
      refine queues_transition ?_ ?_ rfl (by simp) (by simp)
      · exact (CentralRun.client?_mark other other .forceFalse run).symm.trans hclient
      · exact congrArg (Dict.set · other client') hclients
    · cases h
      exact hsame hclients rfl (by simp) (by simp)
  | handle i =>
    obtain ⟨event, hevent, hcentral, hpending⟩ := CentralRun.step_handle h
    have hclient : run'.client? interfaceId = run.client? interfaceId := by
      rw [CentralRun.client?, CentralRun.client?, hcentral,
        CentralUnit.clients_onSystemStatusEvent]
    by_cases hid : event.interfaceId = interfaceId
    · exact .handled i event rfl hevent hid hclient hpending
    · refine .same hclient ?_ (fun j event' hj hevent' => ?_) (by simp)
      · obtain ⟨before, after, hafter, hbefore, -⟩ := queued_handle interfaceId hevent hpending
        rw [hafter, hbefore, if_neg hid, List.append_nil]
      · cases hj
        rw [hevent] at hevent'
        cases hevent'
        exact hid
  | startCompleted =>
    cases h
    exact hsame (CentralUnit.clients_evaluateCentralState true) rfl (by simp) (by simp)
  | centralTransition =>
    obtain ⟨stateMachine, -, rfl⟩ := Option.map_eq_some_iff.mp h
    exact hsame rfl rfl (by simp) (by simp)
  | recovery =>
    cases h
    exact hsame rfl rfl (by simp) (by simp)

/-! ## What the tracker shows -/

/-- The tracker shows the state that the client had before its pending events. -/
def Tracks (s : HealthRun) : Prop :=
  ∀ (interfaceId : String) (client : ClientStatus) (h : ConnectionHealth),
    s.run.client? interfaceId = some client → health? interfaceId s.tracker = some h →
      lastState h.clientState (queued interfaceId s.run) = client.state

theorem hears_of_central_none (ha : a.central = none) (event : ClientStateEvent) :
    ¬Hears interfaceId run a event := by
  rintro ⟨i, rfl, -⟩
  cases ha

theorem hears_of_central {b : CentralRun.Action} (ha : a.central = some b)
    {event : ClientStateEvent} (h : Hears interfaceId run a event) :
    ∃ i, b = .handle i ∧ run.pending[i]? = some event ∧ event.interfaceId = interfaceId := by
  obtain ⟨i, rfl, hrest⟩ := h
  cases ha
  exact ⟨i, rfl, hrest⟩

theorem health?_createClient (interface : Interface) :
    health? interfaceId (track run run' tracker (.createClient interfaceId interface)) =
      some { interfaceId, interface } := Dict.get?_set_self _ _ _

theorem queued_of_fresh (h : ∀ event ∈ run.pending, event.interfaceId ≠ interfaceId) :
    queued interfaceId run = [] :=
  List.filter_eq_nil_iff.mpr fun event hevent => by simpa using h event hevent

theorem Tracks.step (hs : Tracks s) (hok : InOrder s a) (h : s.step a = some t) : Tracks t := by
  intro interfaceId client health hclient hhealth
  obtain ⟨htracker, hrun⟩ := step_track h
  rw [htracker] at hhealth
  have hcases := (told_track interfaceId a).cases hhealth
  rcases hrun with ⟨hcentral, hrun⟩ | ⟨b, hcentral, hstep⟩
  · -- the tracker alone
    rw [hrun] at hclient ⊢
    rcases hcases with ⟨interface, rfl, -⟩ | ⟨health', hbefore, -, ⟨event, hhears, -⟩ | ⟨-, hstate⟩⟩
    · cases hcentral
    · exact absurd hhears (hears_of_central_none hcentral event)
    · rw [hstate]
      exact hs interfaceId client health' hclient hbefore
  · have hnot_created (hcreate : b ≠ .createClient interfaceId) (interface : Interface) :
        a ≠ .createClient interfaceId interface := by
      rintro rfl
      cases hcentral
      exact hcreate rfl
    cases step_queues interfaceId hstep with
    | same hsame hqueued hhandle hcreate =>
      rw [hsame] at hclient
      rw [hqueued]
      rcases hcases with
        ⟨interface, ha, -⟩ | ⟨health', hbefore, -, ⟨event, hhears, -⟩ | ⟨-, hstate⟩⟩
      · exact absurd ha (hnot_created hcreate interface)
      · obtain ⟨i, hi, hevent, hid⟩ := hears_of_central hcentral hhears
        exact absurd hid (hhandle i event hi hevent)
      · rw [hstate]
        exact hs interfaceId client health' hclient hbefore
    | created hb hcreated hpending =>
      obtain ⟨interface, rfl⟩ : ∃ interface, a = .createClient interfaceId interface := by
        cases a <;> cases hcentral <;> cases hb
        exact ⟨_, rfl⟩
      have hfresh : queued interfaceId t.run = [] := by
        refine queued_of_fresh ?_
        rw [hpending]
        exact hok
      rw [health?_createClient] at hhealth
      cases hhealth
      rw [hcreated] at hclient
      cases hclient
      rw [hfresh]
      rfl
    | removed hremoved =>
      rw [hremoved] at hclient
      cases hclient
    | moved client₀ client' hclient₀ hclient' hqueued hhandle hcreate =>
      rw [hclient'] at hclient
      cases hclient
      rw [hqueued]
      unfold lastState
      rw [List.foldl_append]
      rfl
    | handled i event hb hevent hid hsame hpending =>
      rw [hsame] at hclient
      obtain ⟨before, after, hafter, hqueued, htake⟩ := queued_handle interfaceId hevent hpending
      obtain rfl : a = .handle i := by
        cases a <;> cases hcentral <;> cases hb
        rfl
      have hfirst : before = [] := by
        refine List.eq_nil_iff_forall_not_mem.mpr fun e he => ?_
        obtain ⟨hmem, heid⟩ := htake e he
        exact hok event hevent e hmem (heid.trans hid.symm)
      rw [hfirst, if_pos hid] at hqueued
      rw [hfirst] at hafter
      rcases hcases with
        ⟨interface, ha, -⟩ | ⟨health', hbefore, -, ⟨event', hhears, hstate⟩ | ⟨hnot, -⟩⟩
      · cases ha
      · obtain ⟨j, hj, hevent', -⟩ := hhears
        cases hj
        rw [hevent] at hevent'
        cases hevent'
        have hlast := hs interfaceId client health' hclient hbefore
        rw [hqueued] at hlast
        rw [hafter, hstate]
        exact hlast
      · exact absurd ⟨i, rfl, hevent, hid⟩ (hnot event)

end HealthRun

/-! ## What the central health says -/

namespace CentralHealth

variable {health : CentralHealth}

theorem mem_clientsWith {test : ConnectionHealth → Bool} : interfaceId ∈ health.clientsWith test ↔
    ∃ h, health.clientHealth.get? interfaceId = some h ∧ test h = true := by
  unfold clientsWith
  rw [List.mem_map]
  constructor
  · rintro ⟨⟨id, h⟩, hmem, rfl⟩
    obtain ⟨hmem, htest⟩ := List.mem_filter.mp hmem
    exact ⟨h, Dict.get?_eq_some.mpr hmem, htest⟩
  · rintro ⟨h, hget, htest⟩
    exact ⟨(interfaceId, h), List.mem_filter.mpr ⟨Dict.get?_eq_some.mp hget, htest⟩, rfl⟩

theorem allClientsHealthy_iff : health.allClientsHealthy = true ↔
    (∃ id h, health.clientHealth.get? id = some h) ∧
      ∀ id h, health.clientHealth.get? id = some h → h.isAvailable = true := by
  unfold allClientsHealthy
  rw [← Dict.entries_ne_nil]
  split
  next hnil => exact ⟨fun h => Bool.noConfusion h, fun h => absurd hnil h.1⟩
  next hne =>
    rw [List.all_eq_true]
    refine ⟨fun h => ⟨hne, fun id c hc => h c (Dict.mem_values.mpr ⟨id, hc⟩)⟩, fun h c hc => ?_⟩
    obtain ⟨id, hid⟩ := Dict.mem_values.mp hc
    exact h.2 id c hid

theorem anyClientHealthy_iff : health.anyClientHealthy = true ↔
    ∃ id h, health.clientHealth.get? id = some h ∧ h.isAvailable = true := by
  unfold anyClientHealthy
  rw [List.any_eq_true]
  constructor
  · rintro ⟨h, hmem, havailable⟩
    obtain ⟨id, hid⟩ := Dict.mem_values.mp hmem
    exact ⟨id, h, hid, havailable⟩
  · rintro ⟨id, h, hid, havailable⟩
    exact ⟨h, Dict.mem_values.mpr ⟨id, hid⟩, havailable⟩

theorem shouldBeDegraded_iff : health.shouldBeDegraded = true ↔
    (∃ id h, health.clientHealth.get? id = some h ∧ h.isAvailable = true) ∧
      ∃ id h, health.clientHealth.get? id = some h ∧ ¬h.isAvailable = true := by
  unfold shouldBeDegraded
  rw [Bool.and_eq_true, Bool.not_eq_true', ← Bool.not_eq_true, allClientsHealthy_iff,
    anyClientHealthy_iff]
  refine and_congr_right fun hany => ?_
  obtain ⟨id, h, hid, -⟩ := hany
  rw [not_and]
  constructor
  · intro hall
    by_contra hnone
    refine hall ⟨id, h, hid⟩ fun id' h' hid' => ?_
    by_contra hunavailable
    exact hnone ⟨id', h', hid', hunavailable⟩
  · rintro ⟨id', h', hid', hunavailable⟩ - hall
    exact hunavailable (hall id' h' hid')

theorem exists_of_primaryHealth {h : ConnectionHealth} (hprimary : health.primaryHealth = some h) :
    ∃ id, health.clientHealth.get? id = some h := by
  have hfound (interface : Interface) (hfind : health.findInterface interface = some h) :
      ∃ id, health.clientHealth.get? id = some h :=
    Dict.mem_values.mp (List.mem_of_find?_eq_some hfind)
  unfold primaryHealth at hprimary
  rw [Option.or_eq_some_iff, Option.or_eq_some_iff] at hprimary
  obtain (hset | ⟨-, hdefault⟩) | ⟨-, hfirst⟩ := hprimary
  · obtain ⟨interface, -, hfind⟩ := Option.bind_eq_some_iff.mp hset
    exact hfound interface hfind
  · exact hfound .hmipRf hdefault
  · exact Dict.mem_values.mp (List.mem_of_head? hfirst)

end CentralHealth

namespace CentralUnit

variable {u : CentralUnit}

theorem allConnected_iff : u.allConnected = true ↔ (∃ id c, u.clients.get? id = some c) ∧
    ∀ id c, u.clients.get? id = some c → c.state = .connected := by
  unfold allConnected
  rw [Bool.and_eq_true, List.all_eq_true]
  refine and_congr ?_ ⟨fun h id c hc => of_decide_eq_true (h c (Dict.mem_values.mpr ⟨id, hc⟩)),
    fun h c hc => ?_⟩
  · rw [← Dict.entries_ne_nil, Dict.values, Bool.not_eq_true', List.isEmpty_eq_false_iff, ne_eq,
      List.map_eq_nil_iff]
  · obtain ⟨id, hid⟩ := Dict.mem_values.mp hc
    exact decide_eq_true (h id c hid)

theorem anyConnected_iff : u.anyConnected = true ↔
    ∃ id c, u.clients.get? id = some c ∧ c.state = .connected := by
  unfold anyConnected
  rw [List.any_eq_true]
  constructor
  · rintro ⟨c, hmem, hconnected⟩
    obtain ⟨id, hid⟩ := Dict.mem_values.mp hmem
    exact ⟨id, c, hid, of_decide_eq_true hconnected⟩
  · rintro ⟨id, c, hid, hconnected⟩
    exact ⟨c, Dict.mem_values.mpr ⟨id, hid⟩, decide_eq_true hconnected⟩

end CentralUnit

namespace HealthRun

variable {s t : HealthRun} {devices : List DeviceStatus}

theorem reach_circuitsClosed {ok : HealthRun → Action → Prop} (h : (system devices).Reach ok s) :
    CircuitsClosed s :=
  h.invariant (fun _ _ hnone => by cases hnone) fun _ _ _ hs _ hstep => hs.step hstep

theorem reach_tracks (h : (system devices).Reach InOrder s) : Tracks s :=
  h.invariant (fun _ _ _ _ hnone => by cases hnone) fun _ _ _ hs hok hstep => hs.step hok hstep

/-- With closed circuits, available is connected and none is degraded. -/
theorem CircuitsClosed.available (hs : CircuitsClosed s) {h : ConnectionHealth}
    (hget : s.tracker.centralHealth.clientHealth.get? interfaceId = some h) :
    h.isAvailable = h.isConnected ∧ h.isDegraded = false := by
  obtain ⟨hxml, hjson⟩ := hs interfaceId h hget
  unfold ConnectionHealth.isAvailable ConnectionHealth.isConnected ConnectionHealth.isDegraded
  rw [hxml, hjson]
  refine ⟨by simp, ?_⟩
  split
  · rfl
  · simp

theorem isConnected_of_canReceiveEvents {now : ℚ} {h : ConnectionHealth}
    (hreceives : h.canReceiveEvents now = true) : h.isConnected = true := by
  unfold ConnectionHealth.canReceiveEvents at hreceives
  split at hreceives
  · cases hreceives
  next hconnected => exact not_not.mp hconnected

/-- The reasons of an event say that the client is lost, never that it is degraded. -/
def ReasonsOfLoss (s : HealthRun) : Prop :=
  ∀ e ∈ s.tracker.emitted, ∀ reason ∈ e.reason,
    e.healthy = false ∧ reason ∈ ["Client state: FAILED", "Client state: DISCONNECTED"]

theorem emitted_reason {h : ConnectionHealth} (hxml : h.xmlRpcCircuit = .closed)
    (hjson : h.jsonRpcCircuit = none) {reason : String}
    (hreason : reason ∈ (h.emitted interfaceId).reason) :
    (h.emitted interfaceId).healthy = false ∧
      reason ∈ ["Client state: FAILED", "Client state: DISCONNECTED"] := by
  have hdegraded : h.isDegraded = false := by
    unfold ConnectionHealth.isDegraded
    rw [hxml, hjson]
    split
    · rfl
    · simp
  unfold ConnectionHealth.emitted at hreason ⊢
  dsimp only at hreason ⊢
  split at hreason
  · cases hreason
  next hunavailable =>
    split at hreason
    next hfailed =>
      cases hreason
      refine ⟨by simpa using hunavailable, ?_⟩
      have hstate : h.clientState ∈ [ClientState.failed, .disconnected] := of_decide_eq_true hfailed
      rcases List.mem_cons.mp hstate with hs | hs
      · rw [hs]
        exact List.mem_cons_self
      · rw [List.mem_singleton.mp hs]
        exact List.mem_cons_of_mem _ List.mem_cons_self
    · rw [if_neg (by rw [hdegraded]; nofun)] at hreason
      cases hreason

theorem emitted_updateClientHealth (id : String) (oldState newState : ClientState)
    (state : CentralState) (tracker : HealthTracker) :
    (tracker.updateClientHealth id oldState newState state).emitted = tracker.emitted ++
      (health? id tracker).toList.map fun h => (h.updateState oldState newState).emitted id := by
  unfold HealthTracker.updateClientHealth
  have hget : tracker.centralHealth.getClientHealth id = health? id tracker := rfl
  rw [hget]
  cases health? id tracker with
  | some h => rfl
  | none => exact (List.append_nil _).symm

theorem emitted_trackEvent (event : ClientStateEvent) (central : CentralUnit)
    (tracker : HealthTracker) : (trackEvent event central tracker).emitted = tracker.emitted ++
      (health? event.interfaceId tracker).toList.map fun h =>
        (h.updateState event.oldState event.newState).emitted event.interfaceId := by
  rw [← emitted_updateClientHealth _ _ _ central.stateMachine.state]
  unfold trackEvent
  dsimp only
  split <;> rfl

theorem ReasonsOfLoss.step (hs : ReasonsOfLoss s) (hclosed : CircuitsClosed s)
    (h : s.step a = some t) : ReasonsOfLoss t := by
  have hevent (event : ClientStateEvent) :
      ReasonsOfLoss { s with tracker := trackEvent event s.run.central s.tracker } := by
    intro e he reason hreason
    dsimp only at he
    rw [emitted_trackEvent, List.mem_append] at he
    rcases he with he | he
    · exact hs e he reason hreason
    · obtain ⟨health, hmem, rfl⟩ := List.mem_map.mp he
      obtain ⟨hxml, hjson⟩ := hclosed event.interfaceId health (Option.mem_toList.mp hmem)
      obtain ⟨-, hxml', hjson'⟩ := updateState_keeps event.oldState event.newState health
      exact emitted_reason (hxml'.trans hxml) (hjson'.trans hjson) hreason
  have htracker := (step_track h).1
  unfold ReasonsOfLoss
  rw [htracker]
  cases a with
  | handle i =>
    rw [track_handle]
    cases s.run.pending[i]? with
    | none => exact hs
    | some event => exact hevent event
  | healthRecorded other success now => cases success <;> exact hs
  | _ => exact hs

/-! ## Health in sync -/

/-- For the tracker a client is available when it is connected, and none is degraded, in every run
and whatever the order of its events. So the verdicts on the central go by the states of the
clients alone, and the circuits stay those of a client that has just been registered. -/
theorem never_degraded (h : (system devices).Reach StepSystem.Free s) :
    s.tracker.centralHealth.degradedClients = [] ∧
      (∀ id, id ∈ s.tracker.centralHealth.healthyClients ↔
        ∃ h, health? id s.tracker = some h ∧ h.clientState = .connected) ∧
      (s.tracker.centralHealth.shouldBeRunning = true ↔ (∃ id h, health? id s.tracker = some h) ∧
        ∀ id h, health? id s.tracker = some h → h.clientState = .connected) ∧
      (s.tracker.centralHealth.shouldBeDegraded = true ↔
        (∃ id h, health? id s.tracker = some h ∧ h.clientState = .connected) ∧
          ∃ id h, health? id s.tracker = some h ∧ h.clientState ≠ .connected) ∧
      (s.tracker.centralHealth.primaryClientHealthy = true ↔
        ∃ h, s.tracker.centralHealth.primaryHealth = some h ∧ h.clientState = .connected) ∧
      (∀ now id h, health? id s.tracker = some h → h.canReceiveEvents now = true →
        id ∈ s.tracker.centralHealth.healthyClients) ∧
      CircuitsClosed s ∧
      ReasonsOfLoss s := by
  have hclosed := reach_circuitsClosed h
  have hreasons : CircuitsClosed s ∧ ReasonsOfLoss s :=
    h.invariant (P := fun s => CircuitsClosed s ∧ ReasonsOfLoss s)
      ⟨fun _ _ hnone => (by cases hnone), fun _ he => (by cases he)⟩
      fun _ _ _ hs _ hstep => ⟨hs.1.step hstep, hs.2.step hs.1 hstep⟩
  have havailable {id : String} {h : ConnectionHealth}
      (hget : s.tracker.centralHealth.clientHealth.get? id = some h) :
      h.isAvailable = true ↔ h.clientState = .connected := by
    rw [(hclosed.available hget).1, ConnectionHealth.isConnected, decide_eq_true_eq]
  refine ⟨?_, fun id => ?_, ?_, ?_, ?_, fun now id h hget hreceives => ?_, hclosed, hreasons.2⟩
  · refine List.eq_nil_iff_forall_not_mem.mpr fun id hmem => ?_
    obtain ⟨h, hget, hdegraded⟩ := CentralHealth.mem_clientsWith.mp hmem
    rw [(hclosed.available hget).2] at hdegraded
    cases hdegraded
  · refine CentralHealth.mem_clientsWith.trans (exists_congr fun h => ?_)
    exact and_congr_right fun hget => havailable hget
  · refine CentralHealth.allClientsHealthy_iff.trans (and_congr_right fun _ => ?_)
    exact forall_congr' fun id => forall_congr' fun h => imp_congr_right fun hget =>
      havailable hget
  · refine CentralHealth.shouldBeDegraded_iff.trans (and_congr ?_ ?_)
    · exact exists_congr fun id => exists_congr fun h => and_congr_right fun hget =>
        havailable hget
    · exact exists_congr fun id => exists_congr fun h => and_congr_right fun hget =>
        not_congr (havailable hget)
  · refine (Option.any_eq_true _ _).trans (exists_congr fun h => and_congr_right fun hprimary => ?_)
    obtain ⟨id, hget⟩ := CentralHealth.exists_of_primaryHealth hprimary
    exact havailable hget
  · refine CentralHealth.mem_clientsWith.mpr ⟨h, hget, ?_⟩
    rw [(hclosed.available hget).1]
    exact isConnected_of_canReceiveEvents hreceives

theorem centralState_of_handle {i : Nat} (h : s.step (.handle i) = some t) :
    t.tracker.centralHealth.centralState = t.run.central.stateMachine.state := by
  obtain ⟨htracker, ⟨hnone, -⟩ | ⟨b, hb, hstep⟩⟩ := step_track h
  · cases hnone
  · cases hb
    obtain ⟨event, hevent, hcentral, -⟩ := CentralRun.step_handle hstep
    rw [htracker, hcentral]
    rw [track_handle, hevent, Option.elim_some]
    dsimp only [trackEvent]
    split
    next hidle =>
      obtain ⟨devices, heq⟩ := CentralUnit.onSystemStatusEvent_eq event s.run.central
      rw [heq, if_pos hidle]
      rfl
    · rfl

/-- The tracker and the central both know the client, and its state, or neither knows it. -/
def Paired (interfaceId : String) (s : HealthRun) : Prop :=
  health? interfaceId s.tracker = none ∧ s.run.client? interfaceId = none ∨
    ∃ h client, health? interfaceId s.tracker = some h ∧
      s.run.client? interfaceId = some client ∧ h.clientState = client.state

theorem Paired.exists_iff (hs : Paired interfaceId s) (P : ClientState → Prop) :
    (∃ h, health? interfaceId s.tracker = some h ∧ P h.clientState) ↔
      ∃ client, s.run.client? interfaceId = some client ∧ P client.state := by
  rcases hs with ⟨hhealth, hclient⟩ | ⟨h, client, hhealth, hclient, hstate⟩
  · rw [hhealth, hclient]
    constructor
    · rintro ⟨_, hnone, _⟩
      cases hnone
    · rintro ⟨_, hnone, _⟩
      cases hnone
  · rw [hhealth, hclient]
    constructor
    · rintro ⟨_, hsome, hP⟩
      cases hsome
      exact ⟨client, rfl, hstate ▸ hP⟩
    · rintro ⟨_, hsome, hP⟩
      cases hsome
      exact ⟨h, rfl, hstate ▸ hP⟩

theorem Paired.forall_iff (hs : Paired interfaceId s) (P : ClientState → Prop) :
    (∀ h, health? interfaceId s.tracker = some h → P h.clientState) ↔
      ∀ client, s.run.client? interfaceId = some client → P client.state := by
  have hnot := not_congr (hs.exists_iff fun state => ¬P state)
  simp only [not_exists, not_and, not_not] at hnot
  exact hnot

/-- Where the events of each client are handled in their order, the tracker shows the state of a
client that has no event pending, and the state of the central after each event. With no event
pending at all, its verdicts are those by which the central is evaluated. -/
theorem health_in_sync (h : (system devices).Reach InOrder s) :
    (∀ id client h, s.run.client? id = some client → health? id s.tracker = some h →
      (∀ event ∈ s.run.pending, event.interfaceId ≠ id) → h.clientState = client.state) ∧
    (∀ i t, s.step (.handle i) = some t →
      t.tracker.centralHealth.centralState = t.run.central.stateMachine.state) ∧
    (s.run.pending = [] →
      (∀ id, (health? id s.tracker).isSome = (s.run.client? id).isSome) →
      s.tracker.centralHealth.allClientsHealthy = s.run.central.allConnected ∧
      s.tracker.centralHealth.anyClientHealthy = s.run.central.anyConnected ∧
      ∀ id, (id ∈ s.tracker.centralHealth.healthyClients ↔
          ∃ client, s.run.client? id = some client ∧ client.state = .connected) ∧
        (id ∈ s.tracker.centralHealth.failedClients ↔
          ∃ client, s.run.client? id = some client ∧
            client.state ∈ [ClientState.failed, .disconnected])) := by
  have htracks := reach_tracks h
  have hclosed := reach_circuitsClosed h
  have hstate (id client h) (hclient : s.run.client? id = some client)
      (hhealth : health? id s.tracker = some h)
      (hnone : ∀ event ∈ s.run.pending, event.interfaceId ≠ id) : h.clientState = client.state := by
    have hlast := htracks id client h hclient hhealth
    rwa [queued_of_fresh hnone] at hlast
  refine ⟨hstate, fun i t hstep => centralState_of_handle hstep, fun hpending hsame => ?_⟩
  have hpaired (id : String) : Paired id s := by
    have hid := hsame id
    cases hhealth : health? id s.tracker with
    | none =>
      rw [hhealth] at hid
      exact .inl ⟨hhealth, Option.not_isSome_iff_eq_none.mp (by rw [← hid]; nofun)⟩
    | some h =>
      rw [hhealth] at hid
      obtain ⟨client, hclient⟩ := Option.isSome_iff_exists.mp hid.symm
      refine .inr ⟨h, client, hhealth, hclient, hstate id client h hclient hhealth ?_⟩
      rw [hpending]
      nofun
  have havailable {id : String} {h : ConnectionHealth} (hget : health? id s.tracker = some h) :
      h.isAvailable = true ↔ h.clientState = .connected := by
    rw [(hclosed.available hget).1, ConnectionHealth.isConnected, decide_eq_true_eq]
  have hhealthy (id : String) :
      (∃ h, health? id s.tracker = some h ∧ h.isAvailable = true) ↔
        ∃ client, s.run.client? id = some client ∧ client.state = .connected :=
    (exists_congr fun _ => and_congr_right fun hget => havailable hget).trans
      ((hpaired id).exists_iff (· = .connected))
  refine ⟨?_, ?_, fun id => ⟨?_, ?_⟩⟩
  · refine Bool.eq_iff_iff.mpr (CentralHealth.allClientsHealthy_iff.trans
      (Iff.trans ?_ CentralUnit.allConnected_iff.symm))
    refine and_congr (exists_congr fun id => ?_) (forall_congr' fun id => ?_)
    · have hknown := (hpaired id).exists_iff fun _ => True
      simp only [and_true] at hknown
      exact hknown
    · exact (forall_congr' fun _ => imp_congr_right fun hget => havailable hget).trans
        ((hpaired id).forall_iff (· = .connected))
  · exact Bool.eq_iff_iff.mpr (CentralHealth.anyClientHealthy_iff.trans
      ((exists_congr hhealthy).trans CentralUnit.anyConnected_iff.symm))
  · exact CentralHealth.mem_clientsWith.trans (hhealthy id)
  · refine CentralHealth.mem_clientsWith.trans (Iff.trans ?_
      ((hpaired id).exists_iff (· ∈ [ClientState.failed, .disconnected])))
    exact exists_congr fun h => and_congr_right fun _ => decide_eq_true_iff

/-- Two clients connect, one of them is lost, and the events of each are handled in their order. -/
def sampleEvents : List Action :=
  [.createClient "a" .hmipRf, .createClient "b" .bidcosRf, .transition "a" .initializing .none,
    .transition "a" .initialized .none, .transition "b" .initializing .none, .handle 2,
    .transition "a" .connecting .none, .proxyInitialized "a", .handle 0, .handle 0, .handle 0,
    .handle 0, .transition "b" .failed .network, .handle 0, .transition "a" .reconnecting .none,
    .handle 0]

theorem health_in_sync_again :
    ∃ s, (system []).replay InOrder (system []).init sampleEvents = some s ∧
      s.run.pending = [] ∧
      s.tracker.centralHealth.allClientsHealthy = s.run.central.allConnected ∧
      "b" ∈ s.tracker.centralHealth.failedClients := by
  obtain ⟨s, hs, hpending, hb, hknown⟩ := StepSystem.replay_any
    (p := fun s : HealthRun => s.run.pending = [] ∧
      (s.run.client? "b").any (·.state = .failed) = true ∧
      s.tracker.centralHealth.clientHealth.keys = s.run.central.clients.keys)
    (show ((system []).replay InOrder (system []).init sampleEvents).any _ = true by decide)
  have hsame (id : String) : (health? id s.tracker).isSome = (s.run.client? id).isSome := by
    have hmem : id ∈ s.tracker.centralHealth.clientHealth.keys ↔
        id ∈ s.run.central.clients.keys := by
      rw [hknown]
    rw [Dict.mem_keys, Dict.mem_keys, ← Option.isSome_iff_exists,
      ← Option.isSome_iff_exists] at hmem
    exact Bool.eq_iff_iff.mpr hmem
  obtain ⟨hall, -, hlists⟩ := (health_in_sync (StepSystem.reach_of_replay hs)).2.2 hpending hsame
  obtain ⟨client, hclient, hfailed⟩ := (Option.any_eq_true _ _).mp hb
  refine ⟨s, hs, hpending, hall, (hlists "b").2.mpr ⟨client, hclient, ?_⟩⟩
  rw [of_decide_eq_true hfailed]
  exact List.mem_cons_self

theorem never_degraded_again :
    ∃ s, (system []).replay StepSystem.Free (system []).init sampleEvents = some s ∧
      s.tracker.emitted.length = 7 ∧ s.tracker.centralHealth.degradedClients = [] := by
  obtain ⟨s, hs, hlength⟩ := StepSystem.replay_any
    (p := fun s : HealthRun => s.tracker.emitted.length = 7)
    (show ((system []).replay StepSystem.Free (system []).init sampleEvents).any _ = true by decide)
  exact ⟨s, hs, hlength, (never_degraded (StepSystem.reach_of_replay hs)).1⟩

end HealthRun

end AioHomematic.Central
