import AioHomematic.Central.Coordinators.ConnectionRecovery.Moves

/-!
# One recovery at a time

An interface is registered in `activeRecoveries` when its recovery starts, and
only the events look whether it is: a task that is created before the one that
was created first has started runs beside it, and so does a heartbeat. As long as
the tasks of an interface are created and started apart (`Apart`), an interface
has one recovery at a time, and the registered interfaces are no fewer than those
in recovery.
-/

namespace AioHomematic.Central

open Lib StepSystem

namespace ConnectionRecoveryCoordinator

variable {c t : ConnectionRecoveryCoordinator} {a : Action} {interfaceIds : List String}
  {n : Nat} {iid : String}

/-- A heartbeat recovers interfaces of which no recovery is in progress or waits for its start. -/
def StartsApart (c : ConnectionRecoveryCoordinator) : Recovery → Prop
  | .heartbeat (.scheduled ids) =>
    c.shutdown = false → ∀ iid ∈ ids.ids, c.executions iid = 0 ∧ c.pending iid = 0
  | _ => True

/-- The condition on the steps: the event of an interface that is not registered comes while no
recovery of it waits for its start, and a heartbeat starts apart. -/
def Apart (c : ConnectionRecoveryCoordinator) : Action → Prop
  | .connectionLost iid | .circuitBreakerTripped iid =>
    c.shutdown = false → iid ∉ c.activeRecoveries → c.pending iid = 0
  | .resume n _ => ∀ r ∈ c.recoveries[n]?, c.StartsApart r
  | _ => True

instance : DecidablePred c.StartsApart
  | .heartbeat (.scheduled ids) => inferInstanceAs (Decidable (c.shutdown = false →
      ∀ iid ∈ ids.ids, c.executions iid = 0 ∧ c.pending iid = 0))
  | .heartbeat (.running _) => .isTrue trivial
  | .heartbeat .ended => .isTrue trivial
  | .start .. => .isTrue trivial

instance : DecidableRel Apart
  | c, .connectionLost iid => inferInstanceAs (Decidable (c.shutdown = false →
      iid ∉ c.activeRecoveries → c.pending iid = 0))
  | c, .circuitBreakerTripped iid => inferInstanceAs (Decidable (c.shutdown = false →
      iid ∉ c.activeRecoveries → c.pending iid = 0))
  | c, .resume n _ => inferInstanceAs (Decidable (∀ r ∈ c.recoveries[n]?, c.StartsApart r))
  | _, .centralStateChanged .. => .isTrue trivial
  | _, .resumeMember .. => .isTrue trivial
  | _, .cancel _ => .isTrue trivial
  | _, .resumeLoop .. => .isTrue trivial
  | _, .cancelLoop _ => .isTrue trivial
  | _, .transition _ => .isTrue trivial
  | _, .stop => .isTrue trivial

/-- An interface has one recovery, in progress or about to start, and is registered if it is in
progress. -/
def Exclusive (c : ConnectionRecoveryCoordinator) : Prop :=
  ∀ iid, c.executions iid + c.pending iid ≤ 1 ∧
    (c.executions iid ≠ 0 → iid ∈ c.activeRecoveries)

theorem Apart.pending_eq_zero (ha : Apart c a)
    (hevent : a = .connectionLost iid ∨ a = .circuitBreakerTripped iid)
    (hshutdown : c.shutdown = false) (hnew : iid ∉ c.activeRecoveries) : c.pending iid = 0 := by
  rcases hevent with rfl | rfl
  · exact ha hshutdown hnew
  · exact ha hshutdown hnew

theorem exclusive_step (h : Exclusive c) (ha : Apart c a)
    (hstep : c.step interfaceIds a = some t) : Exclusive t := by
  intro iid
  obtain ⟨hone, hactive⟩ := h iid
  cases step_move hstep with
  | idle hrec hact =>
    rw [executions_congr hrec, pending_congr hrec, hact]
    exact h iid
  | create own hevent hshutdown hnew hrec hact =>
    have hpending := ha.pending_eq_zero hevent hshutdown hnew
    have hexec := executions_concat hrec iid
    have hpend := pending_concat hrec iid
    rw [Recovery.executions_scheduled] at hexec
    rw [Recovery.pending_scheduled] at hpend
    rw [hact]
    by_cases hown : own = iid
    · subst hown
      have hidle : c.executions own = 0 := not_not.mp fun hne => hnew (hactive hne)
      rw [if_pos rfl] at hpend
      omega
    · rw [if_neg hown] at hpend
      exact ⟨by omega, fun hne => hactive (by omega)⟩
  | createHeartbeat ids hrec hact =>
    have hexec := executions_concat hrec iid
    have hpend := pending_concat hrec iid
    rw [hact, hexec, hpend]
    exact h iid
  | begin n own hr hrec hact =>
    have hexec := executions_set hr hrec iid
    have hpend := pending_set hr hrec iid
    rw [Recovery.executions_scheduled, Recovery.executions_notifying] at hexec
    rw [Recovery.pending_scheduled, Recovery.pending_of_ne _ _ (by decide)] at hpend
    rw [hact, Finset.mem_insert]
    by_cases hown : own = iid
    · subst hown
      rw [if_pos rfl] at hexec hpend
      exact ⟨by omega, fun _ => .inl rfl⟩
    · rw [if_neg hown] at hexec hpend
      exact ⟨by omega, fun hne => .inr (hactive (by omega))⟩
  | beginHeartbeat n answer ids hshutdown hr hrec hact =>
    have hexec := executions_set hr hrec iid
    have hpend := pending_set hr hrec iid
    rw [executions_members] at hexec
    rw [hact, Finset.mem_union, List.mem_toFinset]
    simp only [Recovery.executions, Recovery.pending] at hexec hpend
    by_cases hmem : iid ∈ ids.ids
    · have hapart := ha _ hr hshutdown iid hmem
      rw [if_pos hmem] at hexec
      exact ⟨by omega, fun _ => .inr hmem⟩
    · rw [if_neg hmem] at hexec
      exact ⟨by omega, fun hne => .inl (hactive (by omega))⟩
  | proceed n r r' hr hrec hsame hsamep hkept hown =>
    have hexec := executions_set hr hrec iid
    have hpend := pending_set hr hrec iid
    have hsame := hsame iid
    have hsamep := hsamep iid
    exact ⟨by omega, fun hne => hkept iid (hactive (by omega))⟩
  | leave n r r' hr hrec hzero hzerop hact =>
    have hexec := executions_set hr hrec iid
    have hpend := pending_set hr hrec iid
    have hle := executions_le hr iid
    have hzero := hzero iid
    have hzerop := hzerop iid
    refine ⟨by omega, fun hne => (hact iid).mpr ⟨hactive (by omega), ?_⟩⟩
    -- the task that ends was the only one of the interface
    omega
  | abandon n own _ hr hrec hact =>
    have hexec := executions_set hr hrec iid
    have hpend := pending_set hr hrec iid
    rw [Recovery.executions_ended] at hexec
    rw [Recovery.pending_of_ne _ _ (by decide : StartPhase.ended ≠ .scheduled)] at hpend
    rw [hact]
    exact ⟨by omega, fun hne => hactive (by omega)⟩

theorem reach_exclusive (h : (system interfaceIds).Reach Apart c) : Exclusive c := by
  refine h.invariant (P := Exclusive) ?_ ?_
  · exact fun iid => ⟨Nat.zero_le 1, fun hne => absurd rfl hne⟩
  · intro s a t hs ha hstep
    exact exclusive_step hs ha hstep

/-- A step that is not apart leaves two recoveries of one interface, in progress or about to
start. -/
theorem two_of_not_apart (h : Exclusive c) (ha : ¬Apart c a)
    (hstep : c.step interfaceIds a = some t) :
    ∃ iid, t.executions iid + t.pending iid = 2 := by
  have hevent {iid : String} (hbroken : ¬(c.shutdown = false → iid ∉ c.activeRecoveries →
      c.pending iid = 0)) (ht : t = c.createRecovery iid) :
      ∃ iid, t.executions iid + t.pending iid = 2 := by
    push Not at hbroken
    obtain ⟨hshutdown, hnew, hpending⟩ := hbroken
    have hrec : t.recoveries = c.recoveries ++ [.start iid .scheduled] := by
      rw [ht, createRecovery, if_neg (by simp [hshutdown]), if_neg hnew]
    have hexec := executions_concat hrec iid
    have hpend := pending_concat hrec iid
    rw [Recovery.executions_scheduled] at hexec
    rw [Recovery.pending_scheduled, if_pos rfl] at hpend
    have hone := (h iid).1
    exact ⟨iid, by omega⟩
  cases a with
  | connectionLost iid => exact hevent ha (Option.some.inj hstep).symm
  | circuitBreakerTripped iid => exact hevent ha (Option.some.inj hstep).symm
  | resume n answer =>
    simp only [Apart] at ha
    push Not at ha
    obtain ⟨r, hr, hbroken⟩ := ha
    unfold StartsApart at hbroken
    split at hbroken
    next ids =>
      push Not at hbroken
      obtain ⟨hshutdown, iid, hmem, hbusy⟩ := hbroken
      have hr : c.recoveries[n]? = some (.heartbeat (.scheduled ids)) := hr
      have hrec := step_heartbeat_scheduled hr hshutdown hstep
      have hexec := executions_set hr hrec iid
      have hpend := pending_set hr hrec iid
      rw [executions_members, if_pos hmem] at hexec
      simp only [Recovery.executions, Recovery.pending] at hexec hpend
      have hone := (h iid).1
      exact ⟨iid, by omega⟩
    · exact absurd trivial hbroken
  | _ => exact absurd trivial ha

/-- While all tasks are apart, an interface has at most one recovery in progress; and the first
that is not apart leaves two of them in progress or about to start. -/
theorem executions_le_one (interfaceIds : List String) (c : ConnectionRecoveryCoordinator)
    (h : (system interfaceIds).Reach Apart c) :
    (∀ iid, c.executions iid ≤ 1) ∧
    ∀ a t, ¬Apart c a → (system interfaceIds).step c a = some t →
      ∃ iid, t.executions iid + t.pending iid = 2 := by
  have hc := reach_exclusive h
  refine ⟨fun iid => ?_, fun a t ha hstep => two_of_not_apart hc ha hstep⟩
  have hone := (hc iid).1
  omega

/-- A recovery that fails once and is retried. -/
def sampleRetry : List Action :=
  [.connectionLost "CCU-HmIP-RF", .resume 0 false, .resume 0 true, .resume 0 false,
    .resume 0 false, .resume 0 false, .connectionLost "CCU-HmIP-RF", .resume 0 false]

theorem executions_le_one_retry :
    ∃ c, (system ["CCU-HmIP-RF"]).replay Apart {} sampleRetry = some c ∧
      c.executions "CCU-HmIP-RF" = 1 := by
  obtain ⟨c, hc, hne⟩ := replay_any
    (p := fun c : ConnectionRecoveryCoordinator => c.executions "CCU-HmIP-RF" ≠ 0)
    (show ((system ["CCU-HmIP-RF"]).replay Apart {} sampleRetry).any _ = true by decide)
  obtain ⟨hone, -⟩ := executions_le_one ["CCU-HmIP-RF"] c (reach_of_replay hc)
  have hle := hone "CCU-HmIP-RF"
  exact ⟨c, hc, by omega⟩

/-- The connection is lost and the breaker trips before the first task has started: the stages of
the interface are executed twice at a time. -/
theorem two_executions_after_two_events :
    ∃ c, (system ["CCU-HmIP-RF"]).Reach Free c ∧ c.executions "CCU-HmIP-RF" = 2 ∧
      c.executing = 2 := by
  obtain ⟨c, hc, htest⟩ := replay_any
    (p := fun c : ConnectionRecoveryCoordinator =>
      c.executions "CCU-HmIP-RF" = 2 ∧ c.executing = 2)
    (show ((system ["CCU-HmIP-RF"]).replay Free {}
      [.connectionLost "CCU-HmIP-RF", .circuitBreakerTripped "CCU-HmIP-RF", .resume 0 false,
        .resume 1 false, .resume 0 true, .resume 1 true, .resume 0 false,
        .resume 1 false]).any _ = true by decide)
  exact ⟨c, reach_of_replay hc, htest⟩

end ConnectionRecoveryCoordinator

end AioHomematic.Central
