import AioHomematic.Central.Coordinators.ConnectionRecovery.Heartbeat

/-!
# Attempts

What a step does to the attempt counts. A run of `_start_recovery` holds the state of its interface
from the check of its retries on: it counts its attempt when the stages are over, and resets the
count when it has published its success. The heartbeat writes the counts of the interfaces it
publishes; its own recoveries leave them.
-/

namespace AioHomematic.Central

open Lib

/-- An attempt follows, unless the run is left. -/
def StartPhase.heading : StartPhase → Bool
  | notifying _ | waiting | executing => true
  | _ => false

namespace Recovery

/-- The attempts for the interface that the task is about to make. -/
def heading (iid : String) : Recovery → Nat
  | .start interfaceId phase => if interfaceId = iid ∧ phase.heading then 1 else 0
  | .heartbeat _ => 0

/-- The interface for which the task makes an attempt. -/
def attempting : Recovery → Option String
  | .start interfaceId .executing => some interfaceId
  | _ => none

/-- The interface that the task has recovered. -/
def completing : Recovery → Option String
  | .start interfaceId .completed => some interfaceId
  | _ => none

/-- The interface whose retries the task is about to check. -/
def starting : Recovery → Option String
  | .start interfaceId .scheduled | .start interfaceId .sleeping => some interfaceId
  | _ => none

/-- The run for one of the interfaces of a heartbeat. -/
def member (j : Nat) : Recovery → Option (String × MemberPhase)
  | .heartbeat (.running members) => members[j]?
  | _ => none

/-- The interface whose state the task holds. -/
def holding : Recovery → Option String
  | .start _ .scheduled | .start _ .ended => none
  | .start interfaceId _ => some interfaceId
  | .heartbeat _ => none

end Recovery

namespace ConnectionRecoveryCoordinator

variable {c t : ConnectionRecoveryCoordinator} {a : Action} {interfaceIds : List String}
  {n : Nat} {r r' : Recovery} {iid own : String}

def attemptCount (iid : String) (c : ConnectionRecoveryCoordinator) : Nat :=
  ((c.recoveryStates.get? iid).getD {}).attemptCount

def heading (iid : String) (c : ConnectionRecoveryCoordinator) : Nat :=
  (c.recoveries.map (Recovery.heading iid)).sum

/-! ## What changes the count -/

/-- An attempt of the event path ends with the step. -/
def Attempts (iid : String) (c : ConnectionRecoveryCoordinator) : Action → Prop
  | .resume n _ => (c.recoveries[n]?).bind Recovery.attempting = some iid
  | _ => False

/-- A successful recovery of the event path resets its state with the step. -/
def Completes (iid : String) (c : ConnectionRecoveryCoordinator) : Action → Prop
  | .resume n _ => (c.recoveries[n]?).bind Recovery.completing = some iid
  | _ => False

/-- The stages of the heartbeat path succeed with the step. -/
def HeartbeatRecovers (iid : String) (c : ConnectionRecoveryCoordinator) : Action → Prop
  | .resumeMember n j success =>
    (c.recoveries[n]?).bind (Recovery.member j) = some (iid, .executing) ∧ success = true
  | _ => False

/-- A run of the event path passes the check of its retries with the step. -/
def Starts (iid : String) (c : ConnectionRecoveryCoordinator) : Action → Prop
  | .resume n _ => (c.recoveries[n]?).bind Recovery.starting = some iid ∧ c.shutdown = false ∧
      c.attemptCount iid < MAX_RECOVERY_ATTEMPTS
  | _ => False

/-- The interfaces whose count the heartbeat writes with the step. -/
def rearmed (c : ConnectionRecoveryCoordinator) : Action → List String
  | .resumeLoop k unavailable =>
    if c.loops[k]? = some .sleeping ∧ c.inFailedState = true ∧ c.shutdown = false then
      (c.failedInterfaces unavailable).ids
    else []
  | _ => []

instance (iid : String) (c : ConnectionRecoveryCoordinator) : DecidablePred (Attempts iid c) :=
  fun a => by cases a <;> first | exact .isFalse id | exact inferInstanceAs (Decidable (_ = _))

instance (iid : String) (c : ConnectionRecoveryCoordinator) : DecidablePred (Completes iid c) :=
  fun a => by cases a <;> first | exact .isFalse id | exact inferInstanceAs (Decidable (_ = _))

instance (iid : String) (c : ConnectionRecoveryCoordinator) :
    DecidablePred (HeartbeatRecovers iid c) :=
  fun a => by cases a <;> first | exact .isFalse id | exact inferInstanceAs (Decidable (_ ∧ _))

instance (iid : String) (c : ConnectionRecoveryCoordinator) : DecidablePred (Starts iid c) :=
  fun a => by cases a <;> first | exact .isFalse id | exact inferInstanceAs (Decidable (_ ∧ _ ∧ _))

/-! ## One run of `_start_recovery` -/

/-- The moves of a run, with what they do to the states. -/
inductive Started (c : ConnectionRecoveryCoordinator) (iid : String) :
    StartPhase → StartPhase → Dict String InterfaceRecoveryState → Prop
  | head {phase : StartPhase} (guarded : Bool) (hphase : phase = .scheduled ∨ phase = .sleeping)
      (hshutdown : c.shutdown = false) (hretry : c.attemptCount iid < MAX_RECOVERY_ATTEMPTS) :
      Started c iid phase (.notifying guarded)
        (c.recoveryStates.set iid ((c.recoveryStates.get? iid).getD {}))
  | refuse {phase : StartPhase} (guarded : Bool)
      (hphase : phase = .scheduled ∨ phase = .sleeping) :
      Started c iid phase (.exhausted guarded)
        (c.recoveryStates.set iid ((c.recoveryStates.get? iid).getD {}))
  | goOn {phase phase' : StartPhase} (hhold : (Recovery.start iid phase).holding = some iid)
      (hhead : phase'.heading = true → phase.heading = true)
      (hphase : phase ≠ .executing ∧ phase ≠ .completed) :
      Started c iid phase phase' c.recoveryStates
  | leave {phase : StartPhase} (hphase : phase ≠ .executing ∧ phase ≠ .completed) :
      Started c iid phase .ended c.recoveryStates
  | attempt {phase' : StartPhase} (update : InterfaceRecoveryState → InterfaceRecoveryState)
      (hupdate : ∀ state, (update state).attemptCount = state.attemptCount + 1)
      (hphase' : phase' = .completed ∨ phase' = .attempted) :
      Started c iid .executing phase' (c.recoveryStates.modify iid update)
  | complete : Started c iid .completed .restored (c.recoveryStates.modify iid .reset)

theorem startRecovery_started {phase : StartPhase}
    (hphase : phase = .scheduled ∨ phase = .sleeping) :
    ∃ phase', (c.startRecovery n iid phase).recoveries =
        c.recoveries.set n (.start iid phase') ∧
      Started c iid phase phase' (c.startRecovery n iid phase).recoveryStates := by
  unfold startRecovery
  split
  · exact ⟨.ended, rfl, .leave (by rcases hphase with rfl | rfl <;> decide)⟩
  next hshutdown =>
    dsimp only
    split
    next hretry =>
      exact ⟨_, rfl, .head _ hphase (by simpa using hshutdown) (of_decide_eq_true hretry)⟩
    next => exact ⟨_, rfl, .refuse _ hphase⟩

theorem resumeStart_started {answer : Bool} {phase : StartPhase}
    (h : c.resumeStart n iid answer phase = some t) :
    ∃ phase', t.recoveries = c.recoveries.set n (.start iid phase') ∧
      Started c iid phase phase' t.recoveryStates := by
  cases phase with
  | scheduled =>
    cases h
    exact startRecovery_started (.inl rfl)
  | notifying guarded =>
    simp only [resumeStart] at h
    split at h
    · cases h
      exact ⟨.waiting, rfl, .goOn rfl (fun _ => rfl) (by simp)⟩
    · cases h
      exact ⟨.ended, rfl, .leave (by simp)⟩
  | waiting =>
    simp only [resumeStart] at h
    split at h
    · cases h
      exact ⟨.executing, rfl, .goOn rfl (fun _ => rfl) (by decide)⟩
    · cases h
  | executing =>
    simp only [resumeStart] at h
    split at h
    · cases h
      exact ⟨.completed, rfl, .attempt .recordSuccess (fun _ => rfl) (.inl rfl)⟩
    · cases h
      exact ⟨.attempted, rfl, .attempt .recordFailure (fun _ => rfl) (.inr rfl)⟩
  | completed =>
    cases h
    exact ⟨.restored, rfl, .complete⟩
  | restored =>
    cases h
    have hsame : (c.leave n iid .restored).transitionAfterRecovery.recoveries =
          c.recoveries.set n (.start iid .ended) ∧
        (c.leave n iid .restored).transitionAfterRecovery.recoveryStates = c.recoveryStates := by
      unfold transitionAfterRecovery
      split <;> exact ⟨rfl, rfl⟩
    refine ⟨.ended, hsame.1, ?_⟩
    rw [hsame.2]
    exact .leave (by decide)
  | attempted =>
    simp only [resumeStart] at h
    split at h
    · cases h
      exact ⟨.sleeping, rfl, .goOn rfl (by decide) (by decide)⟩
    · cases h
      exact ⟨.exhausted true, rfl, .goOn rfl (by decide) (by decide)⟩
  | sleeping =>
    cases h
    exact startRecovery_started (.inr rfl)
  | exhausted guarded =>
    cases h
    exact ⟨.ended, rfl, .leave (by simp)⟩
  | ended => cases h

/-! ## The steps -/

/-- A step that makes no attempt and changes no count. -/
structure Quiet (c t : ConnectionRecoveryCoordinator) : Prop where
  heading : ∀ iid, t.heading iid ≤ c.heading iid
  holding : ∀ r ∈ t.recoveries, r ∈ c.recoveries ∨ r.holding = none
  count : ∀ iid, t.attemptCount iid = c.attemptCount iid
  tracked : ∀ iid, Tracked iid c → Tracked iid t

/-- What a step does to the recoveries and to the states. -/
inductive Advance (c : ConnectionRecoveryCoordinator) :
    Action → ConnectionRecoveryCoordinator → Prop
  | start {t : ConnectionRecoveryCoordinator} (n : Nat) (own : String) (phase phase' : StartPhase)
      (answer : Bool) (hr : c.recoveries[n]? = some (.start own phase))
      (hrec : t.recoveries = c.recoveries.set n (.start own phase'))
      (hstarted : Started c own phase phase' t.recoveryStates) : Advance c (.resume n answer) t
  | rearm {t : ConnectionRecoveryCoordinator} (k : Nat) (unavailable : List String)
      (hrec : t.recoveries = c.recoveries)
      (hstates : t.recoveryStates =
        (c.resetAttemptCounts (c.rearmed (.resumeLoop k unavailable))).recoveryStates) :
      Advance c (.resumeLoop k unavailable) t
  | quiet {a : Action} {t : ConnectionRecoveryCoordinator} (hquiet : Quiet c t)
      (hattempts : ∀ iid, ¬Attempts iid c a) (hcompletes : ∀ iid, ¬Completes iid c a)
      (hrearmed : c.rearmed a = []) : Advance c a t

theorem heading_set (hr : c.recoveries[n]? = some r) (hrec : t.recoveries = c.recoveries.set n r')
    (iid : String) :
    t.heading iid + r.heading iid = c.heading iid + r'.heading iid := by
  unfold heading
  rw [hrec]
  exact sum_map_set _ hr r'

theorem attemptCount_congr (hstates : t.recoveryStates = c.recoveryStates) (iid : String) :
    t.attemptCount iid = c.attemptCount iid := by
  unfold attemptCount
  rw [hstates]

theorem tracked_congr (hstates : t.recoveryStates = c.recoveryStates) (h : Tracked iid c) :
    Tracked iid t := by
  unfold Tracked
  rw [hstates]
  exact h

theorem Quiet.of_eq (hrec : t.recoveries = c.recoveries)
    (hstates : t.recoveryStates = c.recoveryStates) : Quiet c t where
  heading := fun iid => by unfold ConnectionRecoveryCoordinator.heading; rw [hrec]
  holding := fun r hr => .inl (hrec ▸ hr)
  count := attemptCount_congr hstates
  tracked := fun _ => tracked_congr hstates

theorem Quiet.of_concat (hrec : t.recoveries = c.recoveries ++ [r])
    (hstates : t.recoveryStates = c.recoveryStates) (hhead : ∀ iid, r.heading iid = 0)
    (hhold : r.holding = none) : Quiet c t where
  heading := by
    intro iid
    unfold ConnectionRecoveryCoordinator.heading
    rw [hrec, sum_map_concat, hhead]
    exact Nat.le_refl _
  holding := by
    intro r₀ hr₀
    rw [hrec, List.mem_append, List.mem_singleton] at hr₀
    rcases hr₀ with hr₀ | rfl
    · exact .inl hr₀
    · exact .inr hhold
  count := attemptCount_congr hstates
  tracked := fun _ => tracked_congr hstates

theorem Quiet.of_set (hr : c.recoveries[n]? = some r)
    (hrec : t.recoveries = c.recoveries.set n r')
    (hstates : t.recoveryStates = c.recoveryStates) (hhead : ∀ iid, r'.heading iid = 0)
    (hhold : r'.holding = none) : Quiet c t where
  heading := by
    intro iid
    have hset := heading_set hr hrec iid
    have hzero := hhead iid
    omega
  holding := by
    intro r₀ hr₀
    rw [hrec] at hr₀
    rcases List.mem_or_eq_of_mem_set hr₀ with hr₀ | rfl
    · exact .inl hr₀
    · exact .inr hhold
  count := attemptCount_congr hstates
  tracked := fun _ => tracked_congr hstates

theorem advance_resumeHeartbeat {answer : Bool} {phase : HeartbeatPhase}
    (hr : c.recoveries[n]? = some (.heartbeat phase))
    (h : c.resumeHeartbeat n phase = some t) : Advance c (.resume n answer) t := by
  have hattempts (iid : String) : ¬Attempts iid c (.resume n answer) := by
    simp [Attempts, hr, Recovery.attempting]
  have hcompletes (iid : String) : ¬Completes iid c (.resume n answer) := by
    simp [Completes, hr, Recovery.completing]
  have hset {phase' : HeartbeatPhase}
      (hrec : t.recoveries = c.recoveries.set n (.heartbeat phase'))
      (hstates : t.recoveryStates = c.recoveryStates) : Advance c (.resume n answer) t :=
    .quiet (.of_set hr hrec hstates (fun _ => rfl) rfl) hattempts hcompletes rfl
  cases phase with
  | scheduled ids =>
    cases h
    unfold recoverAllInterfaces at hset ⊢
    split at hset
    next hshutdown =>
      rw [if_pos hshutdown]
      exact hset rfl rfl
    next hshutdown =>
      rw [if_neg hshutdown]
      exact hset rfl rfl
  | running members =>
    simp only [resumeHeartbeat] at h
    split at h
    · cases h
      have hsame : (c.processResults n members).recoveries =
            c.recoveries.set n (.heartbeat .ended) ∧
          (c.processResults n members).recoveryStates = c.recoveryStates := by
        simp only [processResults]
        split
        · exact ⟨rfl, rfl⟩
        · split <;> exact ⟨rfl, rfl⟩
      exact hset hsame.1 hsame.2
    · cases h
  | ended => cases h

theorem advance_resumeMember {j : Nat} {members : List (String × MemberPhase)} {success : Bool}
    (hr : c.recoveries[n]? = some (.heartbeat (.running members)))
    (h : c.resumeMember n j members success = some t) :
    Advance c (.resumeMember n j success) t := by
  have hset {members' : List (String × MemberPhase)}
      (ht : c.setRecovery n (.heartbeat (.running members')) = t) :
      Advance c (.resumeMember n j success) t := by
    subst ht
    exact .quiet (.of_set hr rfl rfl (fun _ => rfl) rfl) (fun _ => id) (fun _ => id) rfl
  unfold resumeMember at h
  split at h
  · split at h
    · exact hset (Option.some.inj h)
    · cases h
  · exact hset (Option.some.inj h)
  · cases h

theorem advance_cancelRecovery (hr : c.recoveries[n]? = some r)
    (h : c.cancelRecovery n r = some t) : Advance c (.cancel n) t := by
  have hset {r' : Recovery} (hrec : t.recoveries = c.recoveries.set n r')
      (hstates : t.recoveryStates = c.recoveryStates) (hhead : ∀ iid, r'.heading iid = 0)
      (hhold : r'.holding = none) : Advance c (.cancel n) t :=
    .quiet (.of_set hr hrec hstates hhead hhold) (fun _ => id) (fun _ => id) rfl
  unfold cancelRecovery at h
  split at h
  · cases h
  · cases h
    exact hset rfl rfl (fun _ => by simp [Recovery.heading, StartPhase.heading]) rfl
  · cases h
    exact hset rfl rfl (fun _ => rfl) rfl
  · cases h
    exact hset rfl rfl (fun _ => rfl) rfl
  · cases h

theorem advance_resumeLoop {k : Nat} {unavailable : List String} {phase : LoopPhase}
    (hk : c.loops[k]? = some phase) (h : c.resumeLoop k unavailable phase = some t) :
    Advance c (.resumeLoop k unavailable) t := by
  have hidle (hphase : phase ≠ .sleeping) (hquiet : Quiet c t) :
      Advance c (.resumeLoop k unavailable) t := by
    refine .quiet hquiet (fun _ => id) (fun _ => id) (if_neg ?_)
    rw [hk]
    exact fun hcond => hphase (Option.some.inj hcond.1)
  cases phase with
  | scheduled =>
    cases h
    exact hidle (by decide) (.of_eq rfl rfl)
  | sleeping =>
    cases h
    unfold wakeLoop
    split
    next hend =>
      refine .rearm k unavailable rfl ?_
      rw [rearmed, if_neg]
      · rfl
      · rintro ⟨-, hfailed, hshutdown⟩
        simp [hfailed, hshutdown] at hend
    next hgo =>
      have hrearmed : c.rearmed (.resumeLoop k unavailable) =
          (c.failedInterfaces unavailable).ids := if_pos ⟨hk, by simpa using hgo⟩
      dsimp only
      split
      next hnone =>
        refine .rearm k unavailable rfl ?_
        rw [hrearmed, hnone]
        rfl
      · refine .rearm k unavailable rfl ?_
        rw [hrearmed]
        rfl
  | publishing ids =>
    cases h
    refine hidle (by simp) ?_
    unfold onHeartbeatTimerFired
    split
    · exact .of_eq rfl rfl
    · exact .of_concat rfl rfl (fun _ => rfl) rfl
  | published =>
    cases h
    exact hidle (by decide) (.of_eq rfl rfl)
  | ended => cases h

theorem quiet_createRecovery : Quiet c (c.createRecovery iid) := by
  unfold createRecovery
  split
  · exact .of_eq rfl rfl
  · split
    · exact .of_eq rfl rfl
    · exact .of_concat rfl rfl (fun _ => by simp [Recovery.heading, StartPhase.heading]) rfl

/-- An interface that is new to the states starts with the count it already stands for. -/
theorem getD_foldl_contains (ids : List String) (states : Dict String InterfaceRecoveryState) :
    ((ids.foldl (fun states iid => if states.contains iid then states else states.set iid {})
      states).get? iid).getD {} = (states.get? iid).getD {} := by
  induction ids generalizing states with
  | nil => rfl
  | cons own ids ih =>
    rw [List.foldl_cons, ih]
    split
    · rfl
    next hnew =>
      rw [Dict.get?_set]
      split
      next heq =>
        subst heq
        have hnone : states.get? own = none := by simpa [Dict.contains] using hnew
        rw [hnone]
        rfl
      · rfl

theorem quiet_onCentralStateChanged {ids : List String} {oldState newState : CentralState}
    {trigger : Option String} :
    Quiet c (c.onCentralStateChanged ids oldState newState trigger) := by
  have hkeeps : Keeps c (c.onCentralStateChanged ids oldState newState trigger) :=
    keeps_onCentralStateChanged
  unfold onCentralStateChanged at hkeeps ⊢
  split
  · exact .of_eq rfl rfl
  next hshutdown =>
    rw [if_neg hshutdown] at hkeeps
    split
    · exact .of_eq rfl rfl
    next hfailed =>
      rw [if_neg hfailed] at hkeeps
      split
      next hstart =>
        rw [if_pos hstart] at hkeeps
        refine ⟨fun _ => Nat.le_refl _, fun _ hr => .inl hr, fun iid => ?_, hkeeps.tracked⟩
        exact congrArg InterfaceRecoveryState.attemptCount (getD_foldl_contains ids _)
      · exact .of_eq rfl rfl

theorem step_advance (h : c.step interfaceIds a = some t) : Advance c a t := by
  cases a with
  | connectionLost iid =>
    cases h
    exact .quiet quiet_createRecovery (fun _ => id) (fun _ => id) rfl
  | circuitBreakerTripped iid =>
    cases h
    exact .quiet quiet_createRecovery (fun _ => id) (fun _ => id) rfl
  | centralStateChanged oldState newState trigger =>
    cases h
    exact .quiet quiet_onCentralStateChanged (fun _ => id) (fun _ => id) rfl
  | resume n answer =>
    simp only [step] at h
    split at h
    next hr =>
      obtain ⟨phase', hrec, hstarted⟩ := resumeStart_started h
      exact .start n _ _ phase' answer hr hrec hstarted
    next hr => exact advance_resumeHeartbeat hr h
    · cases h
  | resumeMember n j success =>
    simp only [step] at h
    split at h
    · exact advance_resumeMember ‹_› h
    · cases h
  | cancel n =>
    obtain ⟨r, hr, h⟩ := Option.bind_eq_some_iff.mp h
    exact advance_cancelRecovery hr h
  | resumeLoop k unavailable =>
    obtain ⟨phase, hk, h⟩ := Option.bind_eq_some_iff.mp h
    exact advance_resumeLoop hk h
  | cancelLoop k =>
    obtain ⟨phase, -, rfl⟩ := Option.map_eq_some_iff.mp h
    exact .quiet (.of_eq rfl rfl) (fun _ => id) (fun _ => id) rfl
  | transition transition =>
    cases h
    exact .quiet (.of_eq rfl rfl) (fun _ => id) (fun _ => id) rfl
  | stop =>
    cases h
    exact .quiet (.of_eq rfl rfl) (fun _ => id) (fun _ => id) rfl

end ConnectionRecoveryCoordinator

end AioHomematic.Central
