import AioHomematic.Central.Coordinators.ConnectionRecovery.Attempts

/-!
# The retry budget

`attempts` records, beside the coordinator, the attempts made for each interface since its last
recovery by the event path. The count in the state of the interface is at least that, and with the
attempts on the way it stays within the maximum, until the heartbeat lowers the count of an
interface that has had all of its attempts, or two runs for an interface pass the check of its
retries before the other one has counted.
-/

namespace AioHomematic.Central

open Lib

namespace ConnectionRecoveryCoordinator

variable {c t : ConnectionRecoveryCoordinator} {a : Action} {interfaceIds : List String}
  {n : Nat} {r : Recovery} {iid own : String}

/-! ## The count -/

/-- A run that holds the state of its interface finds it in the states. -/
def HoldsStates (c : ConnectionRecoveryCoordinator) : Prop :=
  ∀ r ∈ c.recoveries, ∀ iid ∈ r.holding, Tracked iid c

/-- The attempt count after a step. -/
def countAfter (iid : String) (c : ConnectionRecoveryCoordinator) (a : Action) : Nat :=
  if Completes iid c a then 0
  else if Attempts iid c a then c.attemptCount iid + 1
  else if iid ∈ c.rearmed a then MAX_RECOVERY_ATTEMPTS - 1
  else c.attemptCount iid

theorem get?_resetAttemptCounts (ids : List String) (c : ConnectionRecoveryCoordinator)
    (iid : String) : (c.resetAttemptCounts ids).recoveryStates.get? iid =
      if iid ∈ ids then (c.recoveryStates.get? iid).map
        fun state => { state with attemptCount := MAX_RECOVERY_ATTEMPTS - 1 }
      else c.recoveryStates.get? iid := by
  induction ids generalizing c with
  | nil => rfl
  | cons own ids ih =>
    have hcons : c.resetAttemptCounts (own :: ids) =
        (c.updateState own fun state => { state with attemptCount := MAX_RECOVERY_ATTEMPTS - 1 }
          ).resetAttemptCounts ids := rfl
    rw [hcons, ih]
    simp only [updateState, Dict.get?_modify, List.mem_cons]
    by_cases hown : own = iid
    · subst hown
      cases c.recoveryStates.get? own <;> simp
    · simp [hown, Ne.symm hown]

theorem tracked_rearmed {k : Nat} {unavailable : List String}
    (h : iid ∈ c.rearmed (.resumeLoop k unavailable)) : Tracked iid c := by
  by_cases hwakes : c.loops[k]? = some .sleeping ∧ c.inFailedState = true ∧ c.shutdown = false
  · rw [rearmed, if_pos hwakes] at h
    exact (mem_failedInterfaces.mp h).1
  · rw [rearmed, if_neg hwakes] at h
    cases h

theorem attemptCount_modify {update : InterfaceRecoveryState → InterfaceRecoveryState}
    (ht : t.recoveryStates = c.recoveryStates.modify own update) (htracked : Tracked own c)
    (iid : String) : ∃ state, c.attemptCount own = state.attemptCount ∧
      t.attemptCount iid = if own = iid then (update state).attemptCount
        else c.attemptCount iid := by
  obtain ⟨state, hstate⟩ := htracked
  refine ⟨state, by rw [attemptCount, hstate]; rfl, ?_⟩
  rw [attemptCount, ht, Dict.get?_modify]
  split
  next heq =>
    subst heq
    rw [hstate]
    rfl
  · rfl

theorem attemptCount_started {phase phase' : StartPhase} {answer : Bool}
    (hinv : HoldsStates c) (hr : c.recoveries[n]? = some (.start own phase))
    (hstarted : Started c own phase phase' t.recoveryStates) (iid : String) :
    t.attemptCount iid = c.countAfter iid (.resume n answer) := by
  have hhold := hinv _ (List.mem_of_getElem? hr)
  have hattempts : Attempts iid c (.resume n answer) ↔ own = iid ∧ phase = .executing := by
    cases phase <;> simp [Attempts, hr, Recovery.attempting]
  have hcompletes : Completes iid c (.resume n answer) ↔ own = iid ∧ phase = .completed := by
    cases phase <;> simp [Completes, hr, Recovery.completing]
  have hnone : iid ∉ c.rearmed (.resume n answer) := List.not_mem_nil
  simp only [countAfter, hattempts, hcompletes, if_neg hnone]
  generalize hstates : t.recoveryStates = states at hstarted
  have hset (hs : states = c.recoveryStates.set own ((c.recoveryStates.get? own).getD {})) :
      t.attemptCount iid = c.attemptCount iid := by
    rw [attemptCount, hstates, hs, Dict.get?_set]
    split
    next heq =>
      subst heq
      rfl
    · rfl
  cases hstarted with
  | head guarded hphase =>
    rw [if_neg, if_neg, hset rfl]
    · rintro ⟨-, rfl⟩
      simp at hphase
    · rintro ⟨-, rfl⟩
      simp at hphase
  | refuse guarded hphase =>
    rw [if_neg, if_neg, hset rfl]
    · rintro ⟨-, rfl⟩
      simp at hphase
    · rintro ⟨-, rfl⟩
      simp at hphase
  | goOn _ _ hphase =>
    rw [if_neg fun h => hphase.2 h.2, if_neg fun h => hphase.1 h.2]
    exact attemptCount_congr hstates iid
  | leave hphase =>
    rw [if_neg fun h => hphase.2 h.2, if_neg fun h => hphase.1 h.2]
    exact attemptCount_congr hstates iid
  | attempt update hupdate hphase' =>
    obtain ⟨state, hstate, ht⟩ := attemptCount_modify hstates (hhold own rfl) iid
    rw [ht, hupdate]
    by_cases heq : own = iid
    · subst heq
      simp [hstate]
    · simp [heq]
  | complete =>
    obtain ⟨state, hstate, ht⟩ := attemptCount_modify hstates (hhold own rfl) iid
    rw [ht]
    by_cases heq : own = iid
    · simp [heq, InterfaceRecoveryState.reset]
    · simp [heq]

theorem attemptCount_step (hinv : HoldsStates c) (h : c.step interfaceIds a = some t)
    (iid : String) : t.attemptCount iid = c.countAfter iid a := by
  cases step_advance h with
  | start n own phase phase' answer hr hrec hstarted =>
    exact attemptCount_started hinv hr hstarted iid
  | rearm k unavailable hrec hstates =>
    have hattempts : ¬Attempts iid c (.resumeLoop k unavailable) := id
    have hcompletes : ¬Completes iid c (.resumeLoop k unavailable) := id
    rw [countAfter, if_neg hcompletes, if_neg hattempts, attemptCount, hstates,
      get?_resetAttemptCounts]
    split
    next hmem =>
      obtain ⟨state, hstate⟩ := tracked_rearmed hmem
      rw [hstate]
      rfl
    · rfl
  | quiet hquiet hattempts hcompletes hrearmed =>
    rw [countAfter, if_neg (hcompletes iid), if_neg (hattempts iid), hrearmed,
      if_neg List.not_mem_nil]
    exact hquiet.count iid

/-! ## The runs on the way -/

theorem tracked_started {phase phase' : StartPhase}
    (hstarted : Started c own phase phase' t.recoveryStates) (h : Tracked iid c) :
    Tracked iid t := by
  unfold Tracked
  generalize t.recoveryStates = states at hstarted
  cases hstarted with
  | head => exact tracked_set own h
  | refuse => exact tracked_set own h
  | goOn => exact h
  | leave => exact h
  | attempt => exact tracked_modify own _ h
  | complete => exact tracked_modify own _ h

/-- A run that starts puts the state of its interface among the states, and keeps it there. -/
theorem tracked_own {phase phase' : StartPhase}
    (hstarted : Started c own phase phase' t.recoveryStates)
    (hhold : ∀ iid ∈ (Recovery.start own phase).holding, Tracked iid c) :
    ∀ iid ∈ (Recovery.start own phase').holding, Tracked iid t := by
  have hkept : Tracked own c → Tracked own t := tracked_started hstarted
  intro iid hiid
  have hsame : own = iid := by
    cases phase' <;> simp_all [Recovery.holding]
  subst hsame
  unfold Tracked at hkept ⊢
  generalize t.recoveryStates = states at hstarted hkept ⊢
  cases hstarted with
  | head => exact ⟨_, Dict.get?_set_self ..⟩
  | refuse => exact ⟨_, Dict.get?_set_self ..⟩
  | goOn hphase => exact hkept (hhold own hphase)
  | leave => cases hiid
  | attempt => exact hkept (hhold own rfl)
  | complete => exact hkept (hhold own rfl)

theorem holdsStates_step (hinv : HoldsStates c) (h : c.step interfaceIds a = some t) :
    HoldsStates t := by
  cases step_advance h with
  | start n own phase phase' answer hr hrec hstarted =>
    have hown := tracked_own hstarted (hinv _ (List.mem_of_getElem? hr))
    intro r hr iid hiid
    rw [hrec] at hr
    rcases List.mem_or_eq_of_mem_set hr with hr | rfl
    · exact tracked_started hstarted (hinv r hr iid hiid)
    · exact hown iid hiid
  | rearm k unavailable hrec hstates =>
    intro r hr iid hiid
    obtain ⟨state, hstate⟩ := hinv r (hrec ▸ hr) iid hiid
    unfold Tracked
    rw [hstates, get?_resetAttemptCounts, hstate]
    split
    · exact ⟨_, rfl⟩
    · exact ⟨_, rfl⟩
  | quiet hquiet =>
    intro r hr iid hiid
    rcases hquiet.holding r hr with hr | hnone
    · exact hquiet.tracked iid (hinv r hr iid hiid)
    · rw [hnone] at hiid
      cases hiid

/-- An attempt is made by a run that was on the way, and only a run that starts joins these. -/
theorem heading_step (h : c.step interfaceIds a = some t) (iid : String) :
    (Attempts iid c a → t.heading iid + 1 ≤ c.heading iid) ∧
      t.heading iid ≤ c.heading iid + 1 ∧
      (¬Starts iid c a → t.heading iid ≤ c.heading iid) := by
  cases step_advance h with
  | start n own phase phase' answer hr hrec hstarted =>
    have hset := heading_set hr hrec iid
    have hattempts : Attempts iid c (.resume n answer) ↔ own = iid ∧ phase = .executing := by
      cases phase <;> simp [Attempts, hr, Recovery.attempting]
    rw [hattempts]
    simp only [Recovery.heading] at hset
    by_cases heq : own = iid
    · subst heq
      generalize t.recoveryStates = states at hstarted
      cases hstarted with
      | head guarded hphase hshutdown hretry =>
        have hidle : phase.heading = false := by rcases hphase with rfl | rfl <;> rfl
        have hgoing : (StartPhase.notifying guarded).heading = true := rfl
        simp [hidle, hgoing] at hset
        refine ⟨?_, by omega, fun hstarts => ?_⟩
        · rintro ⟨-, rfl⟩
          cases hidle
        · refine absurd ⟨?_, hshutdown, hretry⟩ hstarts
          rw [hr]
          rcases hphase with rfl | rfl <;> rfl
      | refuse guarded hphase =>
        have hidle : phase.heading = false := by rcases hphase with rfl | rfl <;> rfl
        have hrefused : (StartPhase.exhausted guarded).heading = false := rfl
        simp [hidle, hrefused] at hset
        refine ⟨?_, by omega, fun _ => by omega⟩
        rintro ⟨-, rfl⟩
        cases hidle
      | goOn hhold hhead hphase =>
        have hle : t.heading own ≤ c.heading own := by
          by_cases hgoing : phase'.heading = true
          · simp [hgoing, hhead hgoing] at hset
            omega
          · simp [hgoing] at hset
            omega
        exact ⟨fun h => absurd h.2 hphase.1, by omega, fun _ => hle⟩
      | leave hphase =>
        have hended : StartPhase.ended.heading = false := rfl
        simp [hended] at hset
        exact ⟨fun h => absurd h.2 hphase.1, by omega, fun _ => by omega⟩
      | attempt update hupdate hphase' =>
        have hdone : phase'.heading = false := by rcases hphase' with rfl | rfl <;> rfl
        have hgoing : StartPhase.executing.heading = true := rfl
        simp [hdone, hgoing] at hset
        exact ⟨fun _ => by omega, by omega, fun _ => by omega⟩
      | complete =>
        have hdone : StartPhase.restored.heading = false := rfl
        simp [hdone] at hset
        exact ⟨fun h => absurd h.2 (by decide), by omega, fun _ => by omega⟩
    · simp [heq] at hset
      exact ⟨fun h => absurd h.1 heq, by omega, fun _ => by omega⟩
  | rearm k unavailable hrec =>
    have hsame : t.heading iid = c.heading iid := by
      unfold heading
      rw [hrec]
    exact ⟨False.elim, by omega, fun _ => by omega⟩
  | quiet hquiet hattempts =>
    have hle := hquiet.heading iid
    exact ⟨fun h => absurd h (hattempts iid), by omega, fun _ => hle⟩

theorem eq_of_starting (h : r.starting = some iid) :
    ∃ phase, r = .start iid phase ∧ (phase = .scheduled ∨ phase = .sleeping) := by
  unfold Recovery.starting at h
  split at h
  · cases h
    exact ⟨.scheduled, rfl, .inl rfl⟩
  · cases h
    exact ⟨.sleeping, rfl, .inr rfl⟩
  · cases h

/-- A run that starts leaves the counts and joins the runs on the way. -/
theorem step_starts (hinv : HoldsStates c) (hstarts : Starts iid c a)
    (h : c.step interfaceIds a = some t) :
    t.attemptCount iid = c.attemptCount iid ∧ t.heading iid = c.heading iid + 1 := by
  cases a with
  | resume n answer =>
    obtain ⟨hr, hshutdown, hretry⟩ := hstarts
    obtain ⟨r, hr, hstarting⟩ := Option.bind_eq_some_iff.mp hr
    obtain ⟨phase, rfl, hphase⟩ := eq_of_starting hstarting
    have hidle : phase.heading = false := by rcases hphase with rfl | rfl <;> rfl
    have ht : c.startRecovery n iid phase = t := by
      rcases hphase with rfl | rfl
      · simpa only [step, hr, resumeStart, Option.some.injEq] using h
      · simpa only [step, hr, resumeStart, Option.some.injEq] using h
    have hcan : ((c.recoveryStates.get? iid).getD {}).canRetry = true := decide_eq_true hretry
    have hrec : t.recoveries = c.recoveries.set n (.start iid (.notifying phase.guarded)) := by
      rw [← ht, startRecovery, if_neg (by simp [hshutdown])]
      dsimp only
      rw [if_pos hcan]
      rfl
    constructor
    · have hcompletes : ¬Completes iid c (.resume n answer) := by
        rcases hphase with rfl | rfl <;> simp [Completes, hr, Recovery.completing]
      have hattempts : ¬Attempts iid c (.resume n answer) := by
        rcases hphase with rfl | rfl <;> simp [Attempts, hr, Recovery.attempting]
      have hnone : iid ∉ c.rearmed (.resume n answer) := List.not_mem_nil
      rw [attemptCount_step hinv h iid, countAfter, if_neg hcompletes, if_neg hattempts,
        if_neg hnone]
    · have hset := heading_set hr hrec iid
      have hgoing : (StartPhase.notifying phase.guarded).heading = true := rfl
      simp [Recovery.heading, hidle, hgoing] at hset
      exact hset
  | _ => cases hstarts

end ConnectionRecoveryCoordinator

/-- The coordinator, with the attempts made for each interface since its last recovery by the
event path. -/
structure RetryHistory where
  coordinator : ConnectionRecoveryCoordinator := {}
  attempts : String → Nat := fun _ => 0

namespace RetryHistory

open StepSystem ConnectionRecoveryCoordinator

variable {h t : RetryHistory} {a : Action} {interfaceIds : List String} {iid : String}

def attemptsAfter (iid : String) (h : RetryHistory) (a : Action) : Nat :=
  if Completes iid h.coordinator a then 0
  else if Attempts iid h.coordinator a then h.attempts iid + 1
  else h.attempts iid

def step (interfaceIds : List String) (h : RetryHistory) (a : Action) : Option RetryHistory :=
  (h.coordinator.step interfaceIds a).map fun t =>
    { coordinator := t, attempts := fun iid => attemptsAfter iid h a }

def system (interfaceIds : List String) : StepSystem RetryHistory Action where
  init := {}
  step := step interfaceIds

/-! ## The condition on the steps -/

/-- The heartbeat gives no interface another attempt that has had all of them. -/
def NotExtended (iid : String) (h : RetryHistory) (a : Action) : Prop :=
  iid ∈ h.coordinator.rearmed a → h.attempts iid < MAX_RECOVERY_ATTEMPTS

/-- A run starts only while the count leaves an attempt to it, beside the runs on the way. -/
def HasRoom (iid : String) (h : RetryHistory) (a : Action) : Prop :=
  Starts iid h.coordinator a →
    h.coordinator.attemptCount iid + h.coordinator.heading iid < MAX_RECOVERY_ATTEMPTS

/-- The heartbeat path recovers the interface only where its count is reset. -/
def FreshBefore (iid : String) (h : RetryHistory) (a : Action) : Prop :=
  HeartbeatRecovers iid h.coordinator a → h.coordinator.attemptCount iid = 0

def InBudget (iid : String) (h : RetryHistory) (a : Action) : Prop :=
  NotExtended iid h a ∧ HasRoom iid h a ∧ FreshBefore iid h a

/-- The heartbeat takes no attempt from an interface that has more than one left. -/
def NotShortened (iid : String) (h : RetryHistory) (a : Action) : Prop :=
  iid ∈ h.coordinator.rearmed a → MAX_RECOVERY_ATTEMPTS ≤ h.coordinator.attemptCount iid + 1

/-! ## The attempts -/

structure Inv (iid : String) (h : RetryHistory) : Prop where
  holds : HoldsStates h.coordinator
  counted : h.attempts iid ≤ h.coordinator.attemptCount iid
  bounded : h.attempts iid + h.coordinator.heading iid ≤ MAX_RECOVERY_ATTEMPTS

theorem step_spec (hstep : h.step interfaceIds a = some t) :
    h.coordinator.step interfaceIds a = some t.coordinator ∧
      ∀ iid, t.attempts iid = attemptsAfter iid h a := by
  obtain ⟨c, hc, rfl⟩ := Option.map_eq_some_iff.mp hstep
  exact ⟨hc, fun _ => rfl⟩

theorem inv_step (hinv : Inv iid h) (ha : InBudget iid h a)
    (hstep : h.step interfaceIds a = some t) : Inv iid t := by
  obtain ⟨hc, hattempts⟩ := step_spec hstep
  obtain ⟨hextended, hroom, -⟩ := ha
  obtain ⟨hmade, hjoined, hkept⟩ := heading_step hc iid
  have hcount := attemptCount_step hinv.holds hc iid
  have hcounted := hinv.counted
  have hbounded := hinv.bounded
  have hmax : MAX_RECOVERY_ATTEMPTS = 8 := rfl
  have hattempt := hattempts iid
  refine ⟨holdsStates_step hinv.holds hc, ?_, ?_⟩
  · rw [hattempt, hcount, attemptsAfter, countAfter]
    split
    · exact Nat.le_refl 0
    · split
      · exact Nat.succ_le_succ hcounted
      · split
        next hmem =>
          have hleft := hextended hmem
          omega
        · exact hcounted
  · have hgrown : t.attempts iid + t.coordinator.heading iid ≤
        h.attempts iid + t.coordinator.heading iid ∨
        Attempts iid h.coordinator a ∧ t.attempts iid = h.attempts iid + 1 := by
      rw [hattempt, attemptsAfter]
      split
      · exact .inl (by omega)
      · split
        next hown => exact .inr ⟨hown, rfl⟩
        · exact .inl (Nat.le_refl _)
    rcases hgrown with hgrown | ⟨hown, hgrown⟩
    · by_cases hstarts : Starts iid h.coordinator a
      · have hleft := hroom hstarts
        omega
      · have hsame := hkept hstarts
        omega
    · have hless := hmade hown
      omega

theorem reach_inv (hreach : (system interfaceIds).Reach (InBudget iid) h) : Inv iid h := by
  refine hreach.invariant (P := Inv iid) ⟨?_, Nat.le_refl 0, Nat.zero_le _⟩ ?_
  · intro r hr
    cases hr
  · intro s a t hs ha hstep
    exact inv_step hs ha hstep

/-- After a recovery on the one path or the other. -/
def Recovers (iid : String) (h : RetryHistory) (a : Action) : Prop :=
  Completes iid h.coordinator a ∨ HeartbeatRecovers iid h.coordinator a

theorem not_attempts_of_heartbeat {c : ConnectionRecoveryCoordinator}
    (h : HeartbeatRecovers iid c a) :
    ¬Completes iid c a ∧ ¬Attempts iid c a ∧ c.rearmed a = [] := by
  cases a with
  | resumeMember n j success => exact ⟨id, id, rfl⟩
  | _ => cases h

/-- The heartbeat path leaves the count of an interface that it recovers. -/
theorem attemptCount_of_heartbeat (hholds : HoldsStates h.coordinator)
    (hrecovers : HeartbeatRecovers iid h.coordinator a) (hstep : h.step interfaceIds a = some t) :
    t.coordinator.attemptCount iid = h.coordinator.attemptCount iid := by
  obtain ⟨hcompletes, hattempts, hrearmed⟩ := not_attempts_of_heartbeat hrecovers
  rw [attemptCount_step hholds (step_spec hstep).1 iid, countAfter, if_neg hcompletes,
    if_neg hattempts, hrearmed, if_neg List.not_mem_nil]

theorem fresh_of_recovers (hholds : HoldsStates h.coordinator) (ha : FreshBefore iid h a)
    (hrecovers : Recovers iid h a) (hstep : h.step interfaceIds a = some t) :
    t.coordinator.attemptCount iid = 0 := by
  rcases hrecovers with hcompletes | hheartbeat
  · rw [attemptCount_step hholds (step_spec hstep).1 iid, countAfter, if_pos hcompletes]
  · rw [attemptCount_of_heartbeat hholds hheartbeat hstep, ha hheartbeat]

theorem attempts_eq_of_reach
    (hreach : (system interfaceIds).Reach
      (fun h a => InBudget iid h a ∧ NotShortened iid h a) h) :
    Inv iid h ∧ h.coordinator.attemptCount iid = h.attempts iid := by
  refine hreach.invariant
    (P := fun h => Inv iid h ∧ h.coordinator.attemptCount iid = h.attempts iid) ?_ ?_
  · exact ⟨reach_inv .init, rfl⟩
  · rintro s a t ⟨hinv, heq⟩ ⟨ha, hshortened⟩ hstep
    obtain ⟨hc, hattempts⟩ := step_spec hstep
    refine ⟨inv_step hinv ha hstep, ?_⟩
    rw [hattempts, attemptCount_step hinv.holds hc iid, attemptsAfter, countAfter]
    split
    · rfl
    · split
      · rw [heq]
      · split
        next hmem =>
          have hleft := ha.1 hmem
          have hspent := hshortened hmem
          omega
        · exact heq

/-! ## Steps that are not covered -/

theorem canRetry_of_rearmed (hholds : HoldsStates h.coordinator)
    (hmem : iid ∈ h.coordinator.rearmed a) (hspent : MAX_RECOVERY_ATTEMPTS ≤ h.attempts iid)
    (hstep : h.step interfaceIds a = some t) :
    MAX_RECOVERY_ATTEMPTS ≤ t.attempts iid ∧ t.coordinator.canRetry iid = true := by
  obtain ⟨hc, hattempts⟩ := step_spec hstep
  cases a with
  | resumeLoop k unavailable =>
    refine ⟨hspent.trans (Nat.le_of_eq (hattempts iid).symm), ?_⟩
    have hcount : t.coordinator.attemptCount iid = MAX_RECOVERY_ATTEMPTS - 1 :=
      (attemptCount_step hholds hc iid).trans (if_pos hmem)
    rw [ConnectionRecoveryCoordinator.canRetry]
    rw [attemptCount] at hcount
    cases hstate : t.coordinator.recoveryStates.get? iid with
    | none => rfl
    | some state =>
      rw [hstate] at hcount
      simp only [Option.getD_some] at hcount
      simp [InterfaceRecoveryState.canRetry, hcount, MAX_RECOVERY_ATTEMPTS]
  | _ => cases hmem

theorem left_of_not_inBudget (hholds : HoldsStates h.coordinator)
    (ha : ¬InBudget iid h a) (hstep : h.step interfaceIds a = some t) :
    (Recovers iid h a ∧ t.coordinator.attemptCount iid ≠ 0) ∨
      (MAX_RECOVERY_ATTEMPTS ≤ t.attempts iid ∧ t.coordinator.canRetry iid = true) ∨
      MAX_RECOVERY_ATTEMPTS < t.coordinator.attemptCount iid + t.coordinator.heading iid := by
  unfold InBudget NotExtended HasRoom FreshBefore at ha
  by_cases hextended : iid ∈ h.coordinator.rearmed a → h.attempts iid < MAX_RECOVERY_ATTEMPTS
  · by_cases hroom : Starts iid h.coordinator a →
        h.coordinator.attemptCount iid + h.coordinator.heading iid < MAX_RECOVERY_ATTEMPTS
    · have hfresh : ¬(HeartbeatRecovers iid h.coordinator a →
          h.coordinator.attemptCount iid = 0) := fun hfresh => ha ⟨hextended, hroom, hfresh⟩
      push Not at hfresh
      obtain ⟨hrecovers, hcount⟩ := hfresh
      rw [← attemptCount_of_heartbeat hholds hrecovers hstep] at hcount
      exact .inl ⟨.inr hrecovers, hcount⟩
    · push Not at hroom
      obtain ⟨hstarts, hcrowded⟩ := hroom
      obtain ⟨hcount, hheading⟩ := step_starts hholds hstarts (step_spec hstep).1
      exact .inr (.inr (by omega))
  · push Not at hextended
    obtain ⟨hmem, hspent⟩ := hextended
    exact .inr (.inl (canRetry_of_rearmed hholds hmem hspent hstep))

instance (iid : String) : DecidableRel (InBudget iid) := fun h a =>
  inferInstanceAs (Decidable
    ((iid ∈ h.coordinator.rearmed a → h.attempts iid < MAX_RECOVERY_ATTEMPTS) ∧
    (Starts iid h.coordinator a →
      h.coordinator.attemptCount iid + h.coordinator.heading iid < MAX_RECOVERY_ATTEMPTS) ∧
    (HeartbeatRecovers iid h.coordinator a → h.coordinator.attemptCount iid = 0)))

/-- While the heartbeat gives no further attempt after all of them, runs of one interface do not
start beside each other for its last attempts, and the heartbeat path recovers an interface only
where its count is reset: the attempts between two recoveries stay within the maximum, those on
the way included, and every recovery leaves the count at 0. Where the heartbeat takes no attempts,
either, the count is the number of the attempts made, so that all of them are left after a
recovery. The first step that is not covered leaves a recovered interface with attempts counted,
allows it an attempt after all of them, or lets more runs go on than attempts are left. -/
theorem retry_budget (interfaceIds : List String) (iid : String) (h : RetryHistory)
    (hreach : (system interfaceIds).Reach (InBudget iid) h) :
    h.attempts iid + h.coordinator.heading iid ≤ MAX_RECOVERY_ATTEMPTS ∧
    (∀ (a : Action) (t : RetryHistory), InBudget iid h a →
      (system interfaceIds).step h a = some t → Recovers iid h a →
      t.coordinator.attemptCount iid = 0) ∧
    ((system interfaceIds).Reach (fun h a => InBudget iid h a ∧ NotShortened iid h a) h →
      h.coordinator.attemptCount iid = h.attempts iid) ∧
    (∀ (a : Action) (t : RetryHistory), ¬InBudget iid h a →
      (system interfaceIds).step h a = some t →
      (Recovers iid h a ∧ t.coordinator.attemptCount iid ≠ 0) ∨
      (MAX_RECOVERY_ATTEMPTS ≤ t.attempts iid ∧ t.coordinator.canRetry iid = true) ∨
      MAX_RECOVERY_ATTEMPTS < t.coordinator.attemptCount iid + t.coordinator.heading iid) := by
  have hinv := reach_inv hreach
  refine ⟨hinv.bounded, ?_, fun h => (attempts_eq_of_reach h).2, ?_⟩
  · intro a t ha hstep hrecovers
    exact fresh_of_recovers hinv.holds ha.2.2 hrecovers hstep
  · intro a t ha hstep
    exact left_of_not_inBudget hinv.holds ha hstep

/-- An attempt fails, and the next one succeeds; up to the step that resets the count. -/
def sampleRecovered : List Action :=
  [.connectionLost "CCU-HmIP-RF", .resume 0 false, .resume 0 true, .resume 0 false,
    .resume 0 false, .resume 0 false, .resume 0 false, .resume 0 true, .resume 0 false,
    .resume 0 true]

theorem retry_budget_recovered :
    ∃ h t,
      (system ["CCU-HmIP-RF"]).replay (InBudget "CCU-HmIP-RF") {} sampleRecovered = some h ∧
      h.attempts "CCU-HmIP-RF" = 2 ∧
      (system ["CCU-HmIP-RF"]).step h (.resume 0 false) = some t ∧
      t.coordinator.attemptCount "CCU-HmIP-RF" = 0 := by
  obtain ⟨h, hh, hattempts, ha, hrecovers, htest⟩ := replay_any
    (p := fun h : RetryHistory => h.attempts "CCU-HmIP-RF" = 2 ∧
      InBudget "CCU-HmIP-RF" h (.resume 0 false) ∧
      Completes "CCU-HmIP-RF" h.coordinator (.resume 0 false) ∧
      ((system ["CCU-HmIP-RF"]).step h (.resume 0 false)).isSome = true)
    (show ((system ["CCU-HmIP-RF"]).replay (InBudget "CCU-HmIP-RF") {} sampleRecovered).any _ =
      true by decide +kernel)
  obtain ⟨t, ht⟩ := Option.isSome_iff_exists.mp htest
  obtain ⟨-, hfresh, -⟩ := retry_budget ["CCU-HmIP-RF"] "CCU-HmIP-RF" h (reach_of_replay hh)
  exact ⟨h, t, hh, hattempts, ht, hfresh (.resume 0 false) t ha ht (.inl hrecovers)⟩

/-- The central does not start, and a heartbeat recovers the interface, up to the last step. -/
def sampleHeartbeat : List Action :=
  [.centralStateChanged .initializing .failed (some "no clients connected (start() completed)"),
    .resumeLoop 0 [], .resumeLoop 0 ["CCU-HmIP-RF"], .resumeLoop 0 [], .resume 0 false,
    .resumeMember 0 0 false]

/-- The heartbeat path leaves the interface it recovers with one attempt. -/
theorem not_fresh_after_heartbeat :
    ∃ h t, (system ["CCU-HmIP-RF"]).Reach Free h ∧
      HeartbeatRecovers "CCU-HmIP-RF" h.coordinator (.resumeMember 0 0 true) ∧
      (system ["CCU-HmIP-RF"]).step h (.resumeMember 0 0 true) = some t ∧
      t.coordinator.attemptCount "CCU-HmIP-RF" = 7 := by
  obtain ⟨h, hh, hrecovers, htest⟩ := replay_any
    (p := fun h : RetryHistory =>
      HeartbeatRecovers "CCU-HmIP-RF" h.coordinator (.resumeMember 0 0 true) ∧
      ((system ["CCU-HmIP-RF"]).step h (.resumeMember 0 0 true)).any (fun t =>
        decide (t.coordinator.attemptCount "CCU-HmIP-RF" = 7)) = true)
    (show ((system ["CCU-HmIP-RF"]).replay Free {} sampleHeartbeat).any _ = true by
      decide +kernel)
  obtain ⟨t, ht, htest⟩ := (Option.any_eq_true _ _).mp htest
  exact ⟨h, t, reach_of_replay hh, hrecovers, ht, of_decide_eq_true htest⟩

end RetryHistory

end AioHomematic.Central
