import AioHomematic.Central.Coordinators.ConnectionRecovery.Moves

/-!
# The failed state and the heartbeat

An interface that exhausts its retries sets `inFailedState` and starts a
heartbeat loop, and a loop goes on while the flag is set. A step keeps both
(`Keeps`), unless it is the end of a recovery that the code takes for the last
one (`Finishes`): only there the flag is cleared, and only there a recovery
moves the central to `RUNNING`.
-/

namespace AioHomematic.Central

open Lib

namespace Recovery

/-- The interface whose retries the task has just found exhausted. -/
def exhausting : Recovery → List String
  | .start interfaceId (.exhausted _) => [interfaceId]
  | _ => []

end Recovery

namespace ConnectionRecoveryCoordinator

variable {c t : ConnectionRecoveryCoordinator} {a : Action} {interfaceIds : List String}
  {n : Nat} {r r' : Recovery} {iid : String}

def Tracked (iid : String) (c : ConnectionRecoveryCoordinator) : Prop :=
  ∃ state, c.recoveryStates.get? iid = some state

/-- A heartbeat loop goes on, or a recovery is about to start one. -/
def HeartbeatAlive (c : ConnectionRecoveryCoordinator) : Prop :=
  (∃ phase ∈ c.loops, phase ≠ .ended) ∨ ∃ r ∈ c.recoveries, r.exhausting ≠ []

structure Keeps (c t : ConnectionRecoveryCoordinator) : Prop where
  tracked : ∀ iid, Tracked iid c → Tracked iid t
  shutdown : t.shutdown = false → c.shutdown = false
  failed : c.inFailedState = true → t.inFailedState = true
  alive : t.shutdown = false → c.inFailedState = true → HeartbeatAlive c → HeartbeatAlive t

/-! ## What the operations keep -/

theorem tracked_set {states : Dict String InterfaceRecoveryState} {state : InterfaceRecoveryState}
    (own : String) (h : ∃ s, states.get? iid = some s) :
    ∃ s, (states.set own state).get? iid = some s := by
  rw [Dict.get?_set]
  split
  · exact ⟨state, rfl⟩
  · exact h

theorem tracked_modify {states : Dict String InterfaceRecoveryState} (own : String)
    (update : InterfaceRecoveryState → InterfaceRecoveryState)
    (h : ∃ s, states.get? iid = some s) : ∃ s, (states.modify own update).get? iid = some s := by
  obtain ⟨state, hstate⟩ := h
  rw [Dict.get?_modify, hstate]
  split
  · exact ⟨update state, rfl⟩
  · exact ⟨state, rfl⟩

theorem tracked_foldl {states : Dict String InterfaceRecoveryState} {ids : List String}
    {op : Dict String InterfaceRecoveryState → String → Dict String InterfaceRecoveryState}
    (hop : ∀ states own, (∃ s, states.get? iid = some s) → ∃ s, (op states own).get? iid = some s)
    (h : ∃ s, states.get? iid = some s) : ∃ s, (ids.foldl op states).get? iid = some s := by
  induction ids generalizing states with
  | nil => exact h
  | cons own ids ih => exact ih (hop states own h)

theorem tracked_of_not_canRetry (h : ¬c.canRetry iid = true) : Tracked iid c := by
  unfold canRetry at h
  cases hstate : c.recoveryStates.get? iid with
  | none => exact absurd (by rw [hstate]; rfl) h
  | some state => exact ⟨state, hstate⟩

theorem mem_failedInterfaces {unavailable : List String} :
    iid ∈ (c.failedInterfaces unavailable).ids ↔
      Tracked iid c ∧ (c.canRetry iid = true → iid ∈ unavailable) := by
  have hretry {state : InterfaceRecoveryState} (hstate : c.recoveryStates.get? iid = some state) :
      c.canRetry iid = state.canRetry := by
    rw [canRetry, hstate]
    rfl
  have hpass (state : InterfaceRecoveryState) :
      (!state.canRetry || decide (iid ∈ unavailable)) = true ↔
        (state.canRetry = true → iid ∈ unavailable) := by
    cases state.canRetry <;> simp
  constructor
  · intro hmem
    obtain ⟨⟨own, state⟩, hentry, rfl⟩ := List.mem_map.mp hmem
    obtain ⟨hentry, hfilter⟩ := List.mem_filter.mp hentry
    have hstate := Dict.get?_eq_some.mpr hentry
    rw [hretry hstate]
    exact ⟨⟨state, hstate⟩, (hpass state).mp hfilter⟩
  · rintro ⟨⟨state, hstate⟩, hiid⟩
    rw [hretry hstate] at hiid
    have hentry := Dict.get?_eq_some.mp hstate
    exact List.mem_map.mpr ⟨(iid, state), List.mem_filter.mpr ⟨hentry, (hpass state).mpr hiid⟩, rfl⟩

/-- A step that changes one recovery which starts no loop, and leaves the loops. -/
theorem Keeps.of_set (hr : c.recoveries[n]? = some r) (hexh : r.exhausting = [])
    (hrec : t.recoveries = c.recoveries.set n r')
    (htracked : ∀ iid, Tracked iid c → Tracked iid t) (hshutdown : t.shutdown = c.shutdown)
    (hfailed : c.inFailedState = true → t.inFailedState = true) (hloops : t.loops = c.loops) :
    Keeps c t where
  tracked := htracked
  shutdown := fun h => hshutdown ▸ h
  failed := hfailed
  alive := by
    rintro - - (halive | ⟨r₀, hmem, hne⟩)
    · exact .inl (hloops ▸ halive)
    · refine .inr ⟨r₀, ?_, hne⟩
      rw [hrec]
      apply mem_set_of_ne hr hmem
      rintro rfl
      exact hne hexh

/-- A step that leaves the recoveries, or adds one. -/
theorem Keeps.of_mem (hrec : ∀ r ∈ c.recoveries, r ∈ t.recoveries)
    (hloops : ∀ phase ∈ c.loops, phase ∈ t.loops)
    (htracked : ∀ iid, Tracked iid c → Tracked iid t) (hshutdown : t.shutdown = c.shutdown)
    (hfailed : c.inFailedState = true → t.inFailedState = true) : Keeps c t where
  tracked := htracked
  shutdown := fun h => hshutdown ▸ h
  failed := hfailed
  alive := by
    rintro - - (⟨phase, hmem, hne⟩ | ⟨r, hmem, hne⟩)
    · exact .inl ⟨phase, hloops phase hmem, hne⟩
    · exact .inr ⟨r, hrec r hmem, hne⟩

theorem Keeps.setRecovery (hr : c.recoveries[n]? = some r) (hexh : r.exhausting = [])
    (r' : Recovery) : Keeps c (c.setRecovery n r') :=
  .of_set hr hexh rfl (fun _ h => h) rfl id rfl

theorem Keeps.leave {phase : StartPhase} (hr : c.recoveries[n]? = some (.start iid phase))
    (hexh : (Recovery.start iid phase).exhausting = []) : Keeps c (c.leave n iid phase) :=
  .of_set hr hexh rfl (fun _ h => h) rfl id rfl

theorem Keeps.startRecovery {phase : StartPhase} (hr : c.recoveries[n]? = some (.start iid phase))
    (hexh : (Recovery.start iid phase).exhausting = []) :
    Keeps c (c.startRecovery n iid phase) := by
  unfold ConnectionRecoveryCoordinator.startRecovery
  split
  · exact .leave hr hexh
  · dsimp only
    split
    · exact .of_set hr hexh rfl (fun _ h => tracked_set iid h) rfl id rfl
    · exact .of_set hr hexh rfl (fun _ h => tracked_set iid h) rfl (fun _ => rfl) rfl

theorem Keeps.updateState {phase : StartPhase} (hr : c.recoveries[n]? = some (.start iid phase))
    (hexh : (Recovery.start iid phase).exhausting = [])
    (update : InterfaceRecoveryState → InterfaceRecoveryState) (phase' : StartPhase) :
    Keeps c ((c.updateState iid update).setRecovery n (.start iid phase')) :=
  .of_set hr hexh rfl (fun _ h => tracked_modify iid update h) rfl id rfl

theorem Keeps.discardAll {members : List (String × MemberPhase)}
    (hr : c.recoveries[n]? = some (.heartbeat (.running members))) :
    Keeps c (c.discardAll n members) :=
  .of_set hr rfl rfl (fun _ h => h) rfl id rfl

/-! ## The end of a recovery -/

/-- Recovery `n` is at its end, and the code takes it for the last one. -/
inductive Finishes (c : ConnectionRecoveryCoordinator) (n : Nat) : Prop
  | start (iid : String) (hr : c.recoveries[n]? = some (.start iid .restored))
      (hlast : c.activeRecoveries.erase iid = ∅)
  | heartbeat (members : List (String × MemberPhase))
      (hr : c.recoveries[n]? = some (.heartbeat (.running members)))
      (hall : ∀ m ∈ members, m.2 = .done true)

/-- A recovery goes on: it neither clears the flag nor moves the central to `RUNNING`, and it sets
the flag if it has found the retries of its interface exhausted. -/
structure Stays (c : ConnectionRecoveryCoordinator) (n : Nat) (t : ConnectionRecoveryCoordinator) :
    Prop where
  keeps : Keeps c t
  running : t.stateMachine.state = .running → c.stateMachine.state = .running
  exhausting : ∀ r ∈ t.recoveries[n]?, ∀ iid ∈ r.exhausting,
    t.inFailedState = true ∧ Tracked iid t

theorem running_of_transition {m : CentralStateMachine} {transition : CentralTransition}
    (target : CentralState) (htarget : transition.target = target) (h : target ≠ .running)
    (hrunning : (if m.canTransitionTo transition.target then m.enter transition
      else m).state = .running) : m.state = .running := by
  split at hrunning
  · rw [CentralStateMachine.state_enter] at hrunning
    exact absurd (htarget.symm.trans hrunning) h
  · exact hrunning

theorem Stays.of_set (hkeeps : Keeps c t)
    (hrunning : t.stateMachine.state = .running → c.stateMachine.state = .running)
    (hr : c.recoveries[n]? = some r) (hrec : t.recoveries = c.recoveries.set n r')
    (hexh : ∀ iid ∈ r'.exhausting, t.inFailedState = true ∧ Tracked iid t) : Stays c n t where
  keeps := hkeeps
  running := hrunning
  exhausting := by
    intro r₀ hr₀ iid hiid
    rw [eq_of_recoveries_set hr hrec hr₀] at hiid
    exact hexh iid hiid

theorem Stays.goesOn (hkeeps : Keeps c t)
    (hrunning : t.stateMachine.state = .running → c.stateMachine.state = .running)
    (hr : c.recoveries[n]? = some r) (hrec : t.recoveries = c.recoveries.set n r')
    (hexh : r'.exhausting = []) : Stays c n t := by
  refine .of_set hkeeps hrunning hr hrec fun iid hiid => ?_
  rw [hexh] at hiid
  cases hiid

theorem Stays.leave {phase : StartPhase} (hr : c.recoveries[n]? = some (.start iid phase))
    (hexh : (Recovery.start iid phase).exhausting = []) : Stays c n (c.leave n iid phase) :=
  .goesOn (.leave hr hexh) id hr rfl rfl

theorem Stays.startRecovery {phase : StartPhase} (hr : c.recoveries[n]? = some (.start iid phase))
    (hexh : (Recovery.start iid phase).exhausting = []) :
    Stays c n (c.startRecovery n iid phase) := by
  have hkeeps := Keeps.startRecovery hr hexh
  unfold ConnectionRecoveryCoordinator.startRecovery at hkeeps ⊢
  split
  · exact .leave hr hexh
  next hshutdown =>
    rw [if_neg hshutdown] at hkeeps
    dsimp only at hkeeps ⊢
    split
    next hretry =>
      rw [if_pos hretry] at hkeeps
      exact .goesOn hkeeps (running_of_transition .recovering rfl (by decide)) hr rfl rfl
    next hretry =>
      rw [if_neg hretry] at hkeeps
      refine .of_set hkeeps (running_of_transition .failed rfl (by decide)) hr rfl
        fun iid' hiid' => ?_
      cases List.mem_singleton.mp hiid'
      exact ⟨rfl, _, Dict.get?_set_self ..⟩

theorem stays_resumeStart {answer : Bool} {phase : StartPhase}
    (hr : c.recoveries[n]? = some (.start iid phase))
    (h : c.resumeStart n iid answer phase = some t) : Finishes c n ∨ Stays c n t := by
  cases phase with
  | scheduled => cases h; exact .inr (.startRecovery hr rfl)
  | notifying guarded =>
    simp only [resumeStart] at h
    split at h
    · cases h
      exact .inr (.goesOn (.setRecovery hr rfl _) id hr rfl rfl)
    · cases h
      exact .inr (.leave hr rfl)
  | waiting =>
    simp only [resumeStart] at h
    split at h
    · cases h
      exact .inr (.goesOn (.setRecovery hr rfl _) id hr rfl rfl)
    · cases h
  | executing =>
    simp only [resumeStart] at h
    split at h
    · cases h
      exact .inr (.goesOn (.updateState hr rfl _ _) id hr rfl rfl)
    · cases h
      exact .inr (.goesOn (.updateState hr rfl _ _) id hr rfl rfl)
  | completed =>
    cases h
    exact .inr (.goesOn (.updateState hr rfl _ _) id hr rfl rfl)
  | restored =>
    cases h
    unfold transitionAfterRecovery
    split
    next hlast => exact .inl (.start iid hr hlast)
    · exact .inr (.leave hr rfl)
  | attempted =>
    simp only [resumeStart] at h
    split at h
    · cases h
      exact .inr (.goesOn (.setRecovery hr rfl _) id hr rfl rfl)
    next hretry =>
      cases h
      have htracked := tracked_of_not_canRetry hretry
      refine .inr (.of_set (.of_set hr rfl rfl (fun _ h => h) rfl (fun _ => rfl) rfl)
        (running_of_transition .failed rfl (by decide)) hr rfl fun iid' hiid' => ?_)
      cases List.mem_singleton.mp hiid'
      exact ⟨rfl, htracked⟩
  | sleeping => cases h; exact .inr (.startRecovery hr rfl)
  | exhausted guarded =>
    cases h
    have hkeeps : Keeps c (c.startHeartbeatTimer.leave n iid (.exhausted guarded)) :=
      ⟨fun _ h => h, id, id, fun _ _ _ => .inl ⟨.scheduled,
        List.mem_append_right _ List.mem_cons_self, by decide⟩⟩
    exact .inr (.goesOn hkeeps id hr rfl rfl)
  | ended => cases h

theorem stays_resumeHeartbeat {phase : HeartbeatPhase}
    (hr : c.recoveries[n]? = some (.heartbeat phase))
    (h : c.resumeHeartbeat n phase = some t) : Finishes c n ∨ Stays c n t := by
  cases phase with
  | scheduled ids =>
    cases h
    unfold recoverAllInterfaces
    split
    · exact .inr (.goesOn (.setRecovery hr rfl _) id hr rfl rfl)
    · exact .inr (.goesOn (.of_set hr rfl rfl (fun _ h => h) rfl id rfl)
        (running_of_transition .recovering rfl (by decide)) hr rfl rfl)
  | running members =>
    simp only [resumeHeartbeat] at h
    split at h
    · cases h
      simp only [processResults]
      split
      next hcount =>
        refine .inl (.heartbeat members hr fun m hm => ?_)
        simpa using List.countP_eq_length.mp hcount m hm
      · split
        · exact .inr (.goesOn (.of_set hr rfl rfl (fun _ h => h) rfl id rfl)
            (running_of_transition .degraded rfl (by decide)) hr rfl rfl)
        · exact .inr (.goesOn (.discardAll hr) id hr rfl rfl)
    · cases h
  | ended => cases h

theorem stays_resume {answer : Bool} (h : c.step interfaceIds (.resume n answer) = some t) :
    Finishes c n ∨ Stays c n t := by
  simp only [step] at h
  split at h
  · exact stays_resumeStart ‹_› h
  · exact stays_resumeHeartbeat ‹_› h
  · cases h

/-! ## The other steps -/

theorem alive_setLoop {k : Nat} {phase phase' : LoopPhase} (hk : c.loops[k]? = some phase)
    (hloops : t.loops = c.loops.set k phase') (hne : phase' ≠ .ended) : HeartbeatAlive t := by
  refine .inl ⟨phase', ?_, hne⟩
  rw [hloops]
  exact List.mem_set (List.getElem?_eq_some_iff.mp hk).1 phase'

theorem Keeps.continueLoop {k : Nat} {phase : LoopPhase} (hk : c.loops[k]? = some phase) :
    Keeps c (c.continueLoop k) where
  tracked := fun _ h => h
  shutdown := id
  failed := id
  alive := by
    intro hshutdown hfailed _
    have hshutdown : c.shutdown = false := hshutdown
    apply alive_setLoop hk rfl
    simp [hfailed, hshutdown]

theorem keeps_wakeLoop {k : Nat} {unavailable : List String} {phase : LoopPhase}
    (hk : c.loops[k]? = some phase) : Keeps c (c.wakeLoop k unavailable) := by
  unfold wakeLoop
  split
  next hend =>
    refine ⟨fun _ h => h, id, id, fun hshutdown hfailed _ => ?_⟩
    have hshutdown : c.shutdown = false := hshutdown
    simp [hfailed, hshutdown] at hend
  · dsimp only
    split
    · exact .continueLoop hk
    · exact ⟨fun _ h => tracked_foldl (fun _ own h => tracked_modify own _ h) h, id, id,
        fun _ _ _ => alive_setLoop hk rfl (by simp)⟩

theorem keeps_resumeLoop {k : Nat} {unavailable : List String} {phase : LoopPhase}
    (hk : c.loops[k]? = some phase) (h : c.resumeLoop k unavailable phase = some t) :
    Keeps c t := by
  cases phase with
  | scheduled => cases h; exact .continueLoop hk
  | sleeping => cases h; exact keeps_wakeLoop hk
  | publishing ids =>
    cases h
    unfold onHeartbeatTimerFired
    split
    · exact ⟨fun _ h => h, id, id, fun _ _ _ => alive_setLoop hk rfl (by simp)⟩
    · exact ⟨fun _ h => h, id, id, fun _ _ _ => alive_setLoop hk rfl (by simp)⟩
  | published => cases h; exact .continueLoop hk
  | ended => cases h

theorem keeps_resumeMember {j : Nat} {members : List (String × MemberPhase)} {success : Bool}
    (hr : c.recoveries[n]? = some (.heartbeat (.running members)))
    (h : c.resumeMember n j members success = some t) : Keeps c t := by
  unfold resumeMember at h
  split at h
  · split at h
    · cases h
      exact .setRecovery hr rfl _
    · cases h
  · cases h
    exact .setRecovery hr rfl _
  · cases h

theorem keeps_cancelRecovery (hr : c.recoveries[n]? = some r)
    (hexh : r.exhausting ≠ [] → c.shutdown = true) (h : c.cancelRecovery n r = some t) :
    Keeps c t := by
  unfold cancelRecovery at h
  split at h
  · cases h
  next iid phase hphase =>
    cases h
    by_cases hnone : (Recovery.start iid phase).exhausting = []
    · exact .leave hr hnone
    · refine ⟨fun _ h => h, id, id, fun hshutdown _ _ => ?_⟩
      exact absurd (hshutdown.symm.trans (hexh hnone)) (by decide)
  · cases h
    exact .setRecovery hr rfl _
  · cases h
    exact .discardAll hr
  · cases h

theorem keeps_createRecovery : Keeps c (c.createRecovery iid) := by
  unfold createRecovery
  split
  · exact ⟨fun _ h => h, id, id, fun _ _ h => h⟩
  · split
    · exact ⟨fun _ h => h, id, id, fun _ _ h => h⟩
    · exact .of_mem (fun _ h => List.mem_append_left _ h) (fun _ h => h) (fun _ h => h) rfl id

theorem keeps_onCentralStateChanged {ids : List String} {oldState newState : CentralState}
    {trigger : Option String} :
    Keeps c (c.onCentralStateChanged ids oldState newState trigger) := by
  unfold onCentralStateChanged
  split
  · exact ⟨fun _ h => h, id, id, fun _ _ h => h⟩
  · split
    · exact ⟨fun _ h => h, id, id, fun _ _ h => h⟩
    · split
      · refine .of_mem (fun _ h => h) (fun _ h => List.mem_append_left _ h) (fun iid h => ?_) rfl
          fun _ => rfl
        refine tracked_foldl (fun states own h => ?_) h
        split
        · exact h
        · exact tracked_set own h
      · exact ⟨fun _ h => h, id, id, fun _ _ h => h⟩

/-- The condition on the steps: a loop, and a recovery that is about to start one, are not cancelled
before the coordinator is stopped. -/
def LeavesHeartbeat (c : ConnectionRecoveryCoordinator) : Action → Prop
  | .cancel n => ∀ r ∈ c.recoveries[n]?, r.exhausting ≠ [] → c.shutdown = true
  | .cancelLoop _ => c.shutdown = true
  | _ => True

instance : DecidableRel LeavesHeartbeat
  | c, .cancel n => inferInstanceAs (Decidable (∀ r ∈ c.recoveries[n]?,
      r.exhausting ≠ [] → c.shutdown = true))
  | c, .cancelLoop _ => inferInstanceAs (Decidable (c.shutdown = true))
  | _, .connectionLost _ => .isTrue trivial
  | _, .circuitBreakerTripped _ => .isTrue trivial
  | _, .centralStateChanged .. => .isTrue trivial
  | _, .resume .. => .isTrue trivial
  | _, .resumeMember .. => .isTrue trivial
  | _, .resumeLoop .. => .isTrue trivial
  | _, .transition _ => .isTrue trivial
  | _, .stop => .isTrue trivial

theorem keeps_step (ha : LeavesHeartbeat c a) (hresume : ∀ n answer, a ≠ .resume n answer)
    (h : c.step interfaceIds a = some t) : Keeps c t := by
  cases a with
  | connectionLost iid => cases h; exact keeps_createRecovery
  | circuitBreakerTripped iid => cases h; exact keeps_createRecovery
  | centralStateChanged oldState newState trigger => cases h; exact keeps_onCentralStateChanged
  | resume n answer => exact absurd rfl (hresume n answer)
  | resumeMember n j success =>
    simp only [step] at h
    split at h
    · exact keeps_resumeMember ‹_› h
    · cases h
  | cancel n =>
    obtain ⟨r, hr, h⟩ := Option.bind_eq_some_iff.mp h
    exact keeps_cancelRecovery hr (ha r hr) h
  | resumeLoop k unavailable =>
    obtain ⟨phase, hk, h⟩ := Option.bind_eq_some_iff.mp h
    exact keeps_resumeLoop hk h
  | cancelLoop k =>
    obtain ⟨phase, hk, rfl⟩ := Option.map_eq_some_iff.mp h
    refine ⟨fun _ h => h, id, id, fun hshutdown _ _ => ?_⟩
    exact absurd (hshutdown.symm.trans ha) (by decide)
  | transition transition => cases h; exact ⟨fun _ h => h, id, id, fun _ _ h => h⟩
  | stop =>
    cases h
    have hstopped : c.stop.shutdown ≠ false := by simp [stop]
    exact ⟨fun _ h => h, fun h => absurd h hstopped, id, fun h => absurd h hstopped⟩

end ConnectionRecoveryCoordinator

end AioHomematic.Central
