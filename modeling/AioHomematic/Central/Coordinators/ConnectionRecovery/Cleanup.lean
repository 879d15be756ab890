import AioHomematic.Central.Coordinators.ConnectionRecovery.Moves

/-!
# The interface of a recovery that ends

The `finally` of `_start_recovery` takes the interface out of `activeRecoveries`
whichever way the run ends, but the interface is registered before the `try`:
between the two the run publishes an event and looks up the client. A run that
is cancelled there, or finds no client, leaves the interface registered. While
neither happens (`CleansUp`), only interfaces in recovery are registered.
-/

namespace AioHomematic.Central

open Lib StepSystem

/-- The run has registered its interface and is not inside a `try` yet. -/
def Recovery.unguarded : Recovery → Bool
  | .start _ (.notifying false) => true
  | _ => false

theorem Recovery.eq_of_unguarded {r : Recovery} (h : r.unguarded ≠ false) :
    ∃ iid, r = .start iid (.notifying false) := by
  unfold unguarded at h
  split at h
  next iid => exact ⟨iid, rfl⟩
  · exact absurd rfl h

namespace ConnectionRecoveryCoordinator

variable {c t : ConnectionRecoveryCoordinator} {a : Action} {interfaceIds : List String}
  {n : Nat} {r r' : Recovery} {iid : String}

/-- The condition on the steps: an unguarded run finds its client and is not cancelled. -/
def CleansUp (c : ConnectionRecoveryCoordinator) : Action → Prop
  | .resume n answer => answer = true ∨ ∀ r ∈ c.recoveries[n]?, r.unguarded = false
  | .cancel n => ∀ r ∈ c.recoveries[n]?, r.unguarded = false
  | _ => True

instance : DecidableRel CleansUp
  | c, .resume n answer =>
    inferInstanceAs (Decidable (answer = true ∨ ∀ r ∈ c.recoveries[n]?, r.unguarded = false))
  | c, .cancel n => inferInstanceAs (Decidable (∀ r ∈ c.recoveries[n]?, r.unguarded = false))
  | _, .connectionLost _ => .isTrue trivial
  | _, .circuitBreakerTripped _ => .isTrue trivial
  | _, .centralStateChanged .. => .isTrue trivial
  | _, .resumeMember .. => .isTrue trivial
  | _, .resumeLoop .. => .isTrue trivial
  | _, .cancelLoop _ => .isTrue trivial
  | _, .transition _ => .isTrue trivial
  | _, .stop => .isTrue trivial

/-- Only interfaces in recovery are registered. -/
def RegisteredOnlyInRecovery (c : ConnectionRecoveryCoordinator) : Prop :=
  ∀ iid ∈ c.activeRecoveries, c.executions iid ≠ 0

theorem CleansUp.guarded (ha : CleansUp c a) (hend : a = .resume n false ∨ a = .cancel n)
    (hr : c.recoveries[n]? = some r) : r.unguarded = false := by
  rcases hend with rfl | rfl
  · exact ha.resolve_left nofun r hr
  · exact ha r hr

theorem registered_step (h : RegisteredOnlyInRecovery c) (ha : CleansUp c a)
    (hstep : c.step interfaceIds a = some t) : RegisteredOnlyInRecovery t := by
  intro iid hiid
  cases step_move hstep with
  | idle hrec hact =>
    rw [hact] at hiid
    rw [executions_congr hrec]
    exact h iid hiid
  | create own _ _ _ hrec hact =>
    rw [hact] at hiid
    have hexec := executions_concat hrec iid
    have hne := h iid hiid
    omega
  | createHeartbeat ids hrec hact =>
    rw [hact] at hiid
    have hexec := executions_concat hrec iid
    have hne := h iid hiid
    omega
  | begin n own hr hrec hact =>
    rw [hact, Finset.mem_insert] at hiid
    have hexec := executions_set hr hrec iid
    rw [Recovery.executions_scheduled, Recovery.executions_notifying] at hexec
    rcases hiid with rfl | hiid
    · rw [if_pos rfl] at hexec
      omega
    · have hne := h iid hiid
      omega
  | beginHeartbeat n answer ids _ hr hrec hact =>
    rw [hact, Finset.mem_union, List.mem_toFinset] at hiid
    have hexec := executions_set hr hrec iid
    rw [executions_members] at hexec
    have hnone : Recovery.executions iid (.heartbeat (.scheduled ids)) = 0 := rfl
    rcases hiid with hiid | hmem
    · have hne := h iid hiid
      omega
    · rw [if_pos hmem] at hexec
      omega
  | proceed n r r' hr hrec hsame _ _ hown =>
    have hexec := executions_set hr hrec iid
    have hsame := hsame iid
    have hle := executions_le hr iid
    rcases hown iid hiid with hiid | hne
    · have hne := h iid hiid
      omega
    · omega
  | leave n r r' hr hrec hzero _ hact =>
    obtain ⟨hiid, hnone⟩ := (hact iid).mp hiid
    have hexec := executions_set hr hrec iid
    have hne := h iid hiid
    omega
  | abandon n own hend hr _ _ => cases ha.guarded hend hr

theorem reach_registered (h : (system interfaceIds).Reach CleansUp c) :
    RegisteredOnlyInRecovery c := by
  refine h.invariant (P := RegisteredOnlyInRecovery) ?_ ?_
  · intro iid hiid
    cases hiid
  · intro s a t hs ha hstep
    exact registered_step hs ha hstep

/-- The recovery that a step changes, and the others. -/
theorem recovery_set_cases {m : Nat} {r₀ : Recovery} (hr : c.recoveries[n]? = some r)
    (hrec : t.recoveries = c.recoveries.set m r₀) (hr' : t.recoveries[n]? = some r') :
    m = n ∧ r' = r₀ ∨ r' = r := by
  rw [hrec] at hr'
  rcases getElem?_set_cases hr' with ⟨hm, heq⟩ | ⟨-, hsame⟩
  · exact .inl ⟨hm, heq⟩
  · exact .inr (Option.some.inj (hsame.symm.trans hr))

/-- A recovery of the interface that ends in a step takes the interface out. -/
theorem not_mem_of_ends (ha : CleansUp c a) (hstep : c.step interfaceIds a = some t)
    (hr : c.recoveries[n]? = some r) (hr' : t.recoveries[n]? = some r')
    (hexec : r.executions iid ≠ 0) (hend : r'.executions iid = 0) : iid ∉ t.activeRecoveries := by
  have hsame : r' ≠ r := by
    rintro rfl
    exact hexec hend
  have hconcat {r₀ : Recovery} (hrec : t.recoveries = c.recoveries ++ [r₀]) : False := by
    rw [hrec, getElem?_concat_of_some hr] at hr'
    exact hsame (Option.some.inj hr').symm
  have hset {m : Nat} {r₀ r₁ : Recovery} (hr₀ : c.recoveries[m]? = some r₀)
      (hrec : t.recoveries = c.recoveries.set m r₁) : r₀ = r ∧ r₁ = r' := by
    obtain ⟨rfl, rfl⟩ := (recovery_set_cases hr hrec hr').resolve_right hsame
    exact ⟨Option.some.inj (hr₀.symm.trans hr), rfl⟩
  cases step_move hstep with
  | idle hrec _ =>
    rw [hrec, hr] at hr'
    exact absurd (Option.some.inj hr').symm hsame
  | create _ _ _ _ hrec _ => exact (hconcat hrec).elim
  | createHeartbeat _ hrec _ => exact (hconcat hrec).elim
  | begin m own hr₀ hrec _ =>
    obtain ⟨rfl, -⟩ := hset hr₀ hrec
    exact absurd (Recovery.executions_scheduled iid own) hexec
  | beginHeartbeat m answer ids _ hr₀ hrec _ =>
    obtain ⟨rfl, -⟩ := hset hr₀ hrec
    exact absurd rfl hexec
  | proceed m r₀ r₁ hr₀ hrec hexecs _ _ _ =>
    obtain ⟨rfl, rfl⟩ := hset hr₀ hrec
    exact absurd (hend.symm.trans (hexecs iid)).symm hexec
  | leave m r₀ r₁ hr₀ hrec _ _ hact =>
    obtain ⟨rfl, -⟩ := hset hr₀ hrec
    exact fun hmem => hexec ((hact iid).mp hmem).2
  | abandon m own hcause hr₀ _ _ => cases ha.guarded hcause hr₀

/-- A run that has registered its interface ends between `c` and `t`, and the registered interfaces
are left as they are. -/
def Abandons (c t : ConnectionRecoveryCoordinator) : Prop :=
  ∃ (n : Nat) (iid : String), c.recoveries[n]? = some (.start iid (.notifying false)) ∧
    t.recoveries[n]? = some (.start iid .ended) ∧ t.activeRecoveries = c.activeRecoveries

theorem abandons_of_not_cleansUp (ha : ¬CleansUp c a)
    (hstep : c.step interfaceIds a = some t) : Abandons c t := by
  have hleft {n : Nat} {iid : String} (hr : c.recoveries[n]? = some (.start iid (.notifying false)))
      (ht : t = c.leave n iid (.notifying false)) : Abandons c t := by
    refine ⟨n, iid, hr, ?_, ?_⟩
    · rw [ht]
      exact getElem?_set_self_of_some hr _
    · rw [ht]
      rfl
  cases a with
  | resume n answer =>
    simp only [CleansUp] at ha
    push Not at ha
    obtain ⟨hanswer, r, hr, hunguarded⟩ := ha
    obtain ⟨iid, rfl⟩ := Recovery.eq_of_unguarded hunguarded
    have hr : c.recoveries[n]? = some (.start iid (.notifying false)) := hr
    refine hleft hr (Option.some.inj ?_)
    rw [← hstep]
    simp [step, hr, resumeStart, hanswer]
  | cancel n =>
    simp only [CleansUp] at ha
    push Not at ha
    obtain ⟨r, hr, hunguarded⟩ := ha
    obtain ⟨iid, rfl⟩ := Recovery.eq_of_unguarded hunguarded
    have hr : c.recoveries[n]? = some (.start iid (.notifying false)) := hr
    refine hleft hr (Option.some.inj ?_)
    rw [← hstep]
    simp [step, hr, cancelRecovery]
  | _ => exact absurd trivial ha

/-- While unguarded runs find their client and are not cancelled, only interfaces in recovery are
registered, each end of a recovery takes its interface out, and the loss of a connection of any
other interface creates a task; and the first unguarded run that does not go on leaves its
interface registered. -/
theorem registered_only_in_recovery (interfaceIds : List String)
    (c : ConnectionRecoveryCoordinator) (h : (system interfaceIds).Reach CleansUp c) :
    (∀ iid ∈ c.activeRecoveries, c.executions iid ≠ 0) ∧
    (∀ (a : Action) (t : ConnectionRecoveryCoordinator) (n : Nat) (r r' : Recovery) (iid : String),
      CleansUp c a → (system interfaceIds).step c a = some t →
      c.recoveries[n]? = some r → t.recoveries[n]? = some r' →
      r.executions iid ≠ 0 → r'.executions iid = 0 → iid ∉ t.activeRecoveries) ∧
    (∀ iid, c.shutdown = false → c.executions iid = 0 →
      (system interfaceIds).step c (.connectionLost iid) =
        some { c with recoveries := c.recoveries ++ [.start iid .scheduled] }) ∧
    ∀ a t, ¬CleansUp c a → (system interfaceIds).step c a = some t → Abandons c t := by
  have hregistered := reach_registered h
  refine ⟨hregistered, ?_, ?_, ?_⟩
  · intro a t n r r' iid ha hstep hr hr' hexec hend
    exact not_mem_of_ends ha hstep hr hr' hexec hend
  · intro iid hshutdown hidle
    have hnew : iid ∉ c.activeRecoveries := fun hmem => hregistered iid hmem hidle
    simp only [system, step, onConnectionLost, createRecovery, hshutdown, if_neg hnew]
    rfl
  · intro a t ha hstep
    exact abandons_of_not_cleansUp ha hstep

/-- A recovery that is cancelled while it sleeps. -/
def sampleCancelled : List Action :=
  [.connectionLost "CCU-HmIP-RF", .resume 0 false, .resume 0 true, .resume 0 false,
    .resume 0 false, .resume 0 false, .cancel 0]

theorem registered_only_in_recovery_cancelled :
    ∃ c, (system ["CCU-HmIP-RF"]).replay CleansUp {} sampleCancelled = some c ∧
      "CCU-HmIP-RF" ∉ c.activeRecoveries := by
  obtain ⟨c, hc, hidle⟩ := replay_any
    (p := fun c : ConnectionRecoveryCoordinator => c.executions "CCU-HmIP-RF" = 0)
    (show ((system ["CCU-HmIP-RF"]).replay CleansUp {} sampleCancelled).any _ = true by decide)
  obtain ⟨hregistered, -⟩ :=
    registered_only_in_recovery ["CCU-HmIP-RF"] c (reach_of_replay hc)
  exact ⟨c, hc, fun hmem => hregistered "CCU-HmIP-RF" hmem hidle⟩

/-- The recovery of an interface without a client: it ends with the lookup, its interface stays
registered, and the next loss of the connection starts nothing. -/
theorem registered_after_unknown_client :
    ∃ c, (system ["CCU-HmIP-RF"]).Reach Free c ∧ "CCU-HmIP-RF" ∈ c.activeRecoveries ∧
      c.executions "CCU-HmIP-RF" = 0 ∧
      (c.onConnectionLost "CCU-HmIP-RF").recoveries.length = c.recoveries.length := by
  obtain ⟨c, hc, htest⟩ := replay_any
    (p := fun c : ConnectionRecoveryCoordinator => "CCU-HmIP-RF" ∈ c.activeRecoveries ∧
      c.executions "CCU-HmIP-RF" = 0 ∧
      (c.onConnectionLost "CCU-HmIP-RF").recoveries.length = c.recoveries.length)
    (show ((system ["CCU-HmIP-RF"]).replay Free {}
      [.connectionLost "CCU-HmIP-RF", .resume 0 false, .resume 0 false]).any _ = true by decide)
  exact ⟨c, reach_of_replay hc, htest⟩

end ConnectionRecoveryCoordinator

end AioHomematic.Central
