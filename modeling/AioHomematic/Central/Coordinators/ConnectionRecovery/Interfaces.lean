import AioHomematic.Central.Coordinators.ConnectionRecovery.Exclusive
import AioHomematic.Central.Coordinators.ConnectionRecovery.Heartbeat

/-!
# Several interfaces

`exhausted` records, beside the coordinator, the interfaces that have exhausted
their retries and were not recovered since. The end of a recovery clears the
failed state and moves the central to `RUNNING` when no other interface is
registered; the end of a heartbeat's recovery does so when all of its own
interfaces are recovered. Neither looks for an interface that has exhausted its
retries. While there is none (`EndsLast`), and a heartbeat finds the clients of
those it has retried before unavailable (`Wakes`), every heartbeat retries the
exhausted interfaces, and no recovery reports success beside a failed one.
-/

namespace AioHomematic.Central

open Lib StepSystem ConnectionRecoveryCoordinator

/-- The interfaces that the task, at its end, leaves recovered. -/
def Recovery.recovered : Recovery → List String
  | .start interfaceId .restored => [interfaceId]
  | .heartbeat (.running members) => (members.filter (·.2 = .done true)).map Prod.fst
  | _ => []

structure RecoveryHistory where
  coordinator : ConnectionRecoveryCoordinator := {}
  exhausted : Finset String := ∅

namespace RecoveryHistory

variable {h t : RecoveryHistory} {a : Action} {interfaceIds : List String} {n : Nat}
  {r : Recovery} {j : String}

/-- The exhausted interfaces after a step from `c` to `t`; only a recovery that goes on changes
them. -/
def exhaustedAfter (c t : ConnectionRecoveryCoordinator) (exhausted : Finset String) :
    Action → Finset String
  | .resume n _ =>
    exhausted \ ((c.recoveries[n]?).elim [] Recovery.recovered).toFinset ∪
      ((t.recoveries[n]?).elim [] Recovery.exhausting).toFinset
  | _ => exhausted

def step (interfaceIds : List String) (h : RecoveryHistory) (a : Action) :
    Option RecoveryHistory :=
  (h.coordinator.step interfaceIds a).map fun t =>
    { coordinator := t, exhausted := exhaustedAfter h.coordinator t h.exhausted a }

def system (interfaceIds : List String) : StepSystem RecoveryHistory Action where
  init := {}
  step := step interfaceIds

/-! ## The condition on the steps -/

/-- Where the code takes a recovery for the last one, no other interface is exhausted; and where
that is a heartbeat's, no other interface is registered, either. -/
def EndsLast (h : RecoveryHistory) : Recovery → Prop
  | .start iid phase =>
    phase = .restored → h.coordinator.activeRecoveries.erase iid = ∅ → ∀ j ∈ h.exhausted, j = iid
  | .heartbeat (.running members) =>
    (∀ m ∈ members, m.2 = .done true) →
      ∀ j ∈ h.exhausted ∪ h.coordinator.activeRecoveries, j ∈ members.map Prod.fst
  | _ => True

/-- An exhausted interface that a heartbeat has given another attempt has no available client. -/
def Wakes (h : RecoveryHistory) (unavailable : List String) : Prop :=
  ∀ j ∈ h.exhausted, h.coordinator.canRetry j = true → j ∈ unavailable

def EndsAndWakes (h : RecoveryHistory) : Action → Prop
  | .resume n _ => ∀ r ∈ h.coordinator.recoveries[n]?, h.EndsLast r
  | .resumeLoop k unavailable => h.coordinator.loops[k]? = some .sleeping → h.Wakes unavailable
  | _ => True

def Covered (h : RecoveryHistory) (a : Action) : Prop :=
  Apart h.coordinator a ∧ LeavesHeartbeat h.coordinator a ∧ h.EndsAndWakes a

instance : DecidablePred h.EndsLast
  | .start iid phase => inferInstanceAs (Decidable (phase = .restored →
      h.coordinator.activeRecoveries.erase iid = ∅ → ∀ j ∈ h.exhausted, j = iid))
  | .heartbeat (.running members) => inferInstanceAs (Decidable ((∀ m ∈ members, m.2 = .done true) →
      ∀ j ∈ h.exhausted ∪ h.coordinator.activeRecoveries, j ∈ members.map Prod.fst))
  | .heartbeat (.scheduled _) => .isTrue trivial
  | .heartbeat .ended => .isTrue trivial

instance : DecidablePred h.Wakes := fun unavailable =>
  inferInstanceAs (Decidable (∀ j ∈ h.exhausted, h.coordinator.canRetry j = true →
    j ∈ unavailable))

instance : DecidablePred h.EndsAndWakes
  | .resume n _ => inferInstanceAs (Decidable (∀ r ∈ h.coordinator.recoveries[n]?, h.EndsLast r))
  | .resumeLoop k unavailable => inferInstanceAs (Decidable
      (h.coordinator.loops[k]? = some .sleeping → h.Wakes unavailable))
  | .connectionLost _ => .isTrue trivial
  | .circuitBreakerTripped _ => .isTrue trivial
  | .centralStateChanged .. => .isTrue trivial
  | .resumeMember .. => .isTrue trivial
  | .cancel _ => .isTrue trivial
  | .cancelLoop _ => .isTrue trivial
  | .transition _ => .isTrue trivial
  | .stop => .isTrue trivial

instance : DecidableRel Covered := fun h a =>
  inferInstanceAs (Decidable
    (Apart h.coordinator a ∧ LeavesHeartbeat h.coordinator a ∧ h.EndsAndWakes a))

/-! ## The exhausted interfaces -/

structure Inv (h : RecoveryHistory) : Prop where
  exclusive : Exclusive h.coordinator
  tracked : ∀ j ∈ h.exhausted, Tracked j h.coordinator
  watched : h.coordinator.shutdown = false → ∀ j ∈ h.exhausted,
    h.coordinator.inFailedState = true ∧ HeartbeatAlive h.coordinator

theorem mem_exhaustedAfter {c t : ConnectionRecoveryCoordinator} {E : Finset String}
    {answer : Bool} : j ∈ exhaustedAfter c t E (.resume n answer) ↔
      (j ∈ E ∧ ∀ r ∈ c.recoveries[n]?, j ∉ r.recovered) ∨
        ∃ r ∈ t.recoveries[n]?, j ∈ r.exhausting := by
  unfold exhaustedAfter
  rw [Finset.mem_union, Finset.mem_sdiff, List.mem_toFinset, List.mem_toFinset]
  refine or_congr (and_congr_right fun _ => ?_) ?_
  · cases c.recoveries[n]? with
    | none => simp
    | some r => simp
  · cases t.recoveries[n]? with
    | none => simp
    | some r => simp

theorem step_spec (hstep : h.step interfaceIds a = some t) :
    h.coordinator.step interfaceIds a = some t.coordinator ∧
      t.exhausted = exhaustedAfter h.coordinator t.coordinator h.exhausted a := by
  obtain ⟨c, hc, rfl⟩ := Option.map_eq_some_iff.mp hstep
  exact ⟨hc, rfl⟩

/-- A recovery that ends does not exhaust its interface. -/
theorem exhausting_of_finishes {c t : ConnectionRecoveryCoordinator} {answer : Bool}
    (hfinishes : Finishes c n) (hstep : c.step interfaceIds (.resume n answer) = some t) :
    ∀ r ∈ t.recoveries[n]?, r.exhausting = [] := by
  have hended {r : Recovery} (r' : Recovery) (hr : c.recoveries[n]? = some r)
      (hrec : t.recoveries = c.recoveries.set n r') (hexh : r'.exhausting = []) :
      ∀ r ∈ t.recoveries[n]?, r.exhausting = [] := by
    intro r₀ hr₀
    rw [eq_of_recoveries_set hr hrec hr₀, hexh]
  cases hfinishes with
  | start iid hr hlast =>
    refine hended (.start iid .ended) hr ?_ rfl
    rw [step_restored hr hstep, transitionAfterRecovery]
    split <;> rfl
  | heartbeat members hr hall =>
    refine hended (.heartbeat .ended) hr ?_ rfl
    rw [step_heartbeat_running hr hstep]
    simp only [processResults]
    split
    · rfl
    · split <;> rfl

theorem mem_recovered_of_done {members : List (String × MemberPhase)}
    (hall : ∀ m ∈ members, m.2 = .done true) (hj : j ∈ members.map Prod.fst) :
    j ∈ (Recovery.heartbeat (.running members)).recovered := by
  obtain ⟨m, hm, rfl⟩ := List.mem_map.mp hj
  exact List.mem_map.mpr ⟨m, List.mem_filter.mpr ⟨hm, by simpa using hall m hm⟩, rfl⟩

/-- No interface is exhausted after a recovery that the code takes for the last one. -/
theorem not_mem_of_finishes {answer : Bool} (ha : Covered h (.resume n answer))
    (hfinishes : Finishes h.coordinator n)
    (hstep : h.step interfaceIds (.resume n answer) = some t) : j ∉ t.exhausted := by
  obtain ⟨hc, hexh⟩ := step_spec hstep
  obtain ⟨-, -, hlast⟩ := ha
  rw [hexh, mem_exhaustedAfter]
  rintro (⟨hj, hrecovered⟩ | ⟨r, hr, hj⟩)
  · cases hfinishes with
    | start iid hr hempty =>
      cases hlast _ hr rfl hempty j hj
      exact hrecovered _ hr List.mem_cons_self
    | heartbeat members hr hall =>
      have hmember := hlast _ hr hall j (Finset.mem_union_left _ hj)
      exact hrecovered _ hr (mem_recovered_of_done hall hmember)
  · rw [exhausting_of_finishes hfinishes hc r hr] at hj
    cases hj

theorem inv_step (hinv : Inv h) (ha : Covered h a) (hstep : h.step interfaceIds a = some t) :
    Inv t := by
  obtain ⟨hc, hexh⟩ := step_spec hstep
  have hexclusive := exclusive_step hinv.exclusive ha.1 hc
  by_cases hresume : ∃ n answer, a = .resume n answer
  · obtain ⟨n, answer, rfl⟩ := hresume
    rcases stays_resume hc with hfinishes | hstays
    · exact ⟨hexclusive, fun j hj => absurd hj (not_mem_of_finishes ha hfinishes hstep),
        fun _ j hj => absurd hj (not_mem_of_finishes ha hfinishes hstep)⟩
    · refine ⟨hexclusive, fun j hj => ?_, fun hshutdown j hj => ?_⟩
      all_goals rw [hexh, mem_exhaustedAfter] at hj
      · rcases hj with ⟨hj, -⟩ | ⟨r, hr, hj⟩
        · exact hstays.keeps.tracked j (hinv.tracked j hj)
        · exact (hstays.exhausting r hr j hj).2
      · rcases hj with ⟨hj, -⟩ | ⟨r, hr, hj⟩
        · obtain ⟨hfailed, halive⟩ := hinv.watched (hstays.keeps.shutdown hshutdown) j hj
          exact ⟨hstays.keeps.failed hfailed, hstays.keeps.alive hshutdown hfailed halive⟩
        · refine ⟨(hstays.exhausting r hr j hj).1, .inr ⟨r, List.mem_of_getElem? hr, ?_⟩⟩
          exact List.ne_nil_of_mem hj
  · have hkeeps := keeps_step ha.2.1 (fun n answer h => hresume ⟨n, answer, h⟩) hc
    have hsame : t.exhausted = h.exhausted := by
      rw [hexh]
      unfold exhaustedAfter
      split
      next n answer => exact absurd ⟨n, answer, rfl⟩ hresume
      · rfl
    refine ⟨hexclusive, fun j hj => ?_, fun hshutdown j hj => ?_⟩
    all_goals rw [hsame] at hj
    · exact hkeeps.tracked j (hinv.tracked j hj)
    · obtain ⟨hfailed, halive⟩ := hinv.watched (hkeeps.shutdown hshutdown) j hj
      exact ⟨hkeeps.failed hfailed, hkeeps.alive hshutdown hfailed halive⟩

theorem reach_inv (hreach : (system interfaceIds).Reach Covered h) : Inv h := by
  refine hreach.invariant (P := Inv) ⟨?_, ?_, ?_⟩ ?_
  · exact fun iid => ⟨Nat.zero_le 1, fun hne => absurd rfl hne⟩
  · exact fun j hj => absurd hj (Finset.notMem_empty j)
  · exact fun _ j hj => absurd hj (Finset.notMem_empty j)
  · intro s a t hs ha hstep
    exact inv_step hs ha hstep

/-! ## The end of a recovery -/

/-- The step moves the central to `RUNNING`, or clears the flag that the heartbeat goes by. -/
def ReportsRecovered (h t : RecoveryHistory) : Prop :=
  (t.coordinator.stateMachine.state = .running ∧ h.coordinator.stateMachine.state ≠ .running) ∨
    (h.coordinator.inFailedState = true ∧ t.coordinator.inFailedState = false)

theorem finishes_of_reports {answer : Bool} (hreports : ReportsRecovered h t)
    (hc : h.coordinator.step interfaceIds (.resume n answer) = some t.coordinator) :
    Finishes h.coordinator n := by
  rcases stays_resume hc with hfinishes | hstays
  · exact hfinishes
  · rcases hreports with ⟨hrunning, hnot⟩ | ⟨hfailed, hcleared⟩
    · exact absurd (hstays.running hrunning) hnot
    · rw [hstays.keeps.failed hfailed] at hcleared
      cases hcleared

theorem not_failed_of_finishes {answer : Bool} (hexclusive : Exclusive h.coordinator)
    (ha : Covered h (.resume n answer)) (hfinishes : Finishes h.coordinator n)
    (hr : h.coordinator.recoveries[n]? = some r) (hj : r.executions j = 0) :
    j ∉ h.exhausted ∧ h.coordinator.executions j = 0 := by
  obtain ⟨-, -, hlast⟩ := ha
  have hactive := (hexclusive j).2
  cases hfinishes with
  | start iid hr' hempty =>
    cases Option.some.inj (hr.symm.trans hr')
    have hne : j ≠ iid := by
      rintro rfl
      exact Recovery.executions_start_ne_zero.mpr ⟨rfl, rfl⟩ hj
    refine ⟨fun hmem => hne (hlast _ hr rfl hempty j hmem), not_not.mp fun hexec => ?_⟩
    have hmem := Finset.mem_erase.mpr ⟨hne, hactive hexec⟩
    rw [hempty] at hmem
    cases hmem
  | heartbeat members hr' hall =>
    cases Option.some.inj (hr.symm.trans hr')
    have hout : j ∉ members.map Prod.fst := List.count_eq_zero.mp hj
    refine ⟨fun hmem => hout ?_, not_not.mp fun hexec => hout ?_⟩
    · exact hlast _ hr hall j (Finset.mem_union_left _ hmem)
    · exact hlast _ hr hall j (Finset.mem_union_right _ (hactive hexec))

/-! ## The heartbeat -/

/-- What loop `k` does in the step from `h` to `t` retries `j`: it wakes up with `j` among the
interfaces it publishes, what it has published becomes a task, and it sleeps again. -/
def Retries (j : String) (k : Nat) (h t : RecoveryHistory) : Prop :=
  match h.coordinator.loops[k]? with
  | some .sleeping => ∃ ids : InterfaceIds, t.coordinator.loops[k]? = some (.publishing ids) ∧
      j ∈ ids.ids
  | some (.publishing ids) =>
    t.coordinator.recoveries = h.coordinator.recoveries ++ [.heartbeat (.scheduled ids)] ∧
      t.coordinator.loops[k]? = some .published
  | _ => t.coordinator.loops[k]? = some .sleeping

theorem retries_step {k : Nat} {unavailable : List String} (hinv : Inv h)
    (hshutdown : h.coordinator.shutdown = false) (hj : j ∈ h.exhausted)
    (ha : Covered h (.resumeLoop k unavailable))
    (hstep : h.step interfaceIds (.resumeLoop k unavailable) = some t) : Retries j k h t := by
  obtain ⟨hc, -⟩ := step_spec hstep
  obtain ⟨hfailed, -⟩ := hinv.watched hshutdown j hj
  obtain ⟨phase, hk, hresume⟩ := Option.bind_eq_some_iff.mp hc
  have hset := getElem?_set_self_of_some hk
  have hcontinue : (h.coordinator.continueLoop k).loops[k]? = some .sleeping := by
    simp only [continueLoop, hfailed, hshutdown]
    exact hset .sleeping
  unfold Retries
  rw [hk]
  cases phase with
  | scheduled =>
    rw [← Option.some.inj hresume]
    exact hcontinue
  | sleeping =>
    have hmem := mem_failedInterfaces.mpr ⟨hinv.tracked j hj, ha.2.2 hk j hj⟩
    refine ⟨h.coordinator.failedInterfaces unavailable, ?_, hmem⟩
    rw [← Option.some.inj hresume, wakeLoop, if_neg (by simp [hfailed, hshutdown])]
    simp only [if_neg (List.ne_nil_of_mem hmem)]
    exact hset _
  | publishing ids =>
    rw [← Option.some.inj hresume, onHeartbeatTimerFired, if_neg (by simp [hfailed, hshutdown])]
    exact ⟨rfl, hset .published⟩
  | published =>
    rw [← Option.some.inj hresume]
    exact hcontinue
  | ended => cases hresume

theorem executions_of_heartbeat {answer : Bool} {ids : InterfaceIds}
    (hshutdown : h.coordinator.shutdown = false)
    (hr : h.coordinator.recoveries[n]? = some (.heartbeat (.scheduled ids))) (hj : j ∈ ids.ids)
    (hstep : h.step interfaceIds (.resume n answer) = some t) : t.coordinator.executions j ≠ 0 := by
  obtain ⟨hc, -⟩ := step_spec hstep
  have hexec := executions_set hr (step_heartbeat_scheduled hr hshutdown hc) j
  rw [executions_members, if_pos hj] at hexec
  have hnone : Recovery.executions j (.heartbeat (.scheduled ids)) = 0 := rfl
  omega

/-! ## Steps that are not covered -/

theorem left_of_not_endsLast {answer : Bool}
    (hr : h.coordinator.recoveries[n]? = some r) (hlast : ¬EndsLast h r)
    (hstep : h.step interfaceIds (.resume n answer) = some t) :
    t.coordinator.inFailedState = false ∧
      ∃ j, r.executions j = 0 ∧ (j ∈ h.exhausted ∨ j ∈ h.coordinator.activeRecoveries) := by
  obtain ⟨hc, -⟩ := step_spec hstep
  unfold EndsLast at hlast
  split at hlast
  next iid phase =>
    push Not at hlast
    obtain ⟨rfl, hempty, j, hj, hne⟩ := hlast
    refine ⟨?_, j, ?_, .inl hj⟩
    · have hempty : (h.coordinator.leave n iid .restored).activeRecoveries = ∅ := hempty
      rw [step_restored hr hc, transitionAfterRecovery, if_pos hempty]
    · simp [Recovery.executions, hne.symm]
  next members =>
    push Not at hlast
    obtain ⟨hall, j, hj, hout⟩ := hlast
    have hcount : members.countP (·.2 = .done true) = members.length :=
      List.countP_eq_length.mpr fun m hm => by simp [hall m hm]
    refine ⟨?_, j, List.count_eq_zero.mpr hout, Finset.mem_union.mp hj⟩
    rw [step_heartbeat_running hr hc]
    simp only [processResults, hcount, if_true]
    rfl
  · exact absurd trivial hlast

theorem left_of_not_wakes {k : Nat} {unavailable : List String}
    (hk : h.coordinator.loops[k]? = some .sleeping) (hwakes : ¬h.Wakes unavailable)
    (hstep : h.step interfaceIds (.resumeLoop k unavailable) = some t) :
    ∃ j ∈ h.exhausted, ∀ ids : InterfaceIds,
      t.coordinator.loops[k]? = some (.publishing ids) → j ∉ ids.ids := by
  obtain ⟨hc, -⟩ := step_spec hstep
  unfold Wakes at hwakes
  push Not at hwakes
  obtain ⟨j, hj, hretry, hout⟩ := hwakes
  have ht : h.coordinator.wakeLoop k unavailable = t.coordinator := by
    simpa [ConnectionRecoveryCoordinator.step, hk, resumeLoop] using hc
  have hset := getElem?_set_self_of_some hk
  refine ⟨j, hj, fun ids hids => ?_⟩
  rw [← ht, wakeLoop] at hids
  split at hids
  · cases (hset _).symm.trans hids
  · dsimp only at hids
    split at hids
    · rw [continueLoop] at hids
      have hphase := (hset _).symm.trans hids
      split at hphase <;> cases hphase
    · cases (hset _).symm.trans hids
      exact fun hmem => hout ((mem_failedInterfaces.mp hmem).2 hretry)

/-- While the steps are covered, a recovery that moves the central to `RUNNING` or ends the
heartbeat leaves no other interface exhausted or in recovery; and as long as an interface is
exhausted, a heartbeat loop goes on, and each round of it recovers the interface again. The first
recovery that does not end as the last one ends the heartbeat beside another interface, and the
first loop that does not wake as it should passes over an exhausted interface. -/
theorem exhausted_retried (interfaceIds : List String) (h : RecoveryHistory)
    (hreach : (system interfaceIds).Reach Covered h) :
    (∀ (n : Nat) (answer : Bool) (t : RecoveryHistory) (r : Recovery),
      h.coordinator.recoveries[n]? = some r → Covered h (.resume n answer) →
      (system interfaceIds).step h (.resume n answer) = some t → ReportsRecovered h t →
      ∀ j, r.executions j = 0 → j ∉ h.exhausted ∧ h.coordinator.executions j = 0) ∧
    (h.coordinator.shutdown = false → ∀ j ∈ h.exhausted,
      h.coordinator.inFailedState = true ∧ HeartbeatAlive h.coordinator ∧
      (∀ (k : Nat) (unavailable : List String) (t : RecoveryHistory),
        Covered h (.resumeLoop k unavailable) →
        (system interfaceIds).step h (.resumeLoop k unavailable) = some t → Retries j k h t) ∧
      (∀ (n : Nat) (answer : Bool) (ids : InterfaceIds) (t : RecoveryHistory),
        h.coordinator.recoveries[n]? = some (.heartbeat (.scheduled ids)) → j ∈ ids.ids →
        (system interfaceIds).step h (.resume n answer) = some t →
        t.coordinator.executions j ≠ 0)) ∧
    (∀ (n : Nat) (answer : Bool) (t : RecoveryHistory) (r : Recovery),
      h.coordinator.recoveries[n]? = some r → ¬h.EndsLast r →
      (system interfaceIds).step h (.resume n answer) = some t →
      t.coordinator.inFailedState = false ∧
        ∃ j, r.executions j = 0 ∧ (j ∈ h.exhausted ∨ j ∈ h.coordinator.activeRecoveries)) ∧
    (∀ (k : Nat) (unavailable : List String) (t : RecoveryHistory),
      h.coordinator.loops[k]? = some .sleeping → ¬h.Wakes unavailable →
      (system interfaceIds).step h (.resumeLoop k unavailable) = some t →
      ∃ j ∈ h.exhausted, ∀ ids : InterfaceIds,
        t.coordinator.loops[k]? = some (.publishing ids) → j ∉ ids.ids) := by
  have hinv := reach_inv hreach
  refine ⟨?_, fun hshutdown j hj => ?_, ?_, ?_⟩
  · intro n answer t r hr ha hstep hreports j hj
    have hfinishes := finishes_of_reports hreports (step_spec hstep).1
    exact not_failed_of_finishes hinv.exclusive ha hfinishes hr hj
  · obtain ⟨hfailed, halive⟩ := hinv.watched hshutdown j hj
    refine ⟨hfailed, halive, ?_, ?_⟩
    · intro k unavailable t ha hstep
      exact retries_step hinv hshutdown hj ha hstep
    · intro n answer ids t hr hmem hstep
      exact executions_of_heartbeat hshutdown hr hmem hstep
  · intro n answer t r hr hlast hstep
    exact left_of_not_endsLast hr hlast hstep
  · intro k unavailable t hk hwakes hstep
    exact left_of_not_wakes hk hwakes hstep

/-- The central is running, and the recovery of an interface fails eight times. -/
def sampleExhausted : List Action :=
  [.transition { target := .initializing }, .transition { target := .running },
    .connectionLost "CCU-HmIP-RF", .resume 0 false] ++
  (List.replicate 8 [.resume 0 true, .resume 0 false, .resume 0 false, .resume 0 false,
    .resume 0 false]).flatten ++
  [.resumeLoop 0 []]

/-- Then a heartbeat retries it and fails, too. -/
def sampleHeartbeat : List Action :=
  sampleExhausted ++ [.resumeLoop 0 [], .resumeLoop 0 [], .resume 1 false,
    .resumeMember 1 0 false, .resumeLoop 0 [], .resumeMember 1 0 false, .resume 1 false]

theorem exhausted_retried_heartbeat :
    ∃ h, (system ["CCU-HmIP-RF"]).replay Covered {} sampleHeartbeat = some h ∧
      h.coordinator.inFailedState = true := by
  obtain ⟨h, hh, hshutdown, hexhausted⟩ := replay_any
    (p := fun h : RecoveryHistory => h.coordinator.shutdown = false ∧
      "CCU-HmIP-RF" ∈ h.exhausted)
    (show ((system ["CCU-HmIP-RF"]).replay Covered {} sampleHeartbeat).any _ = true by
      decide +kernel)
  obtain ⟨-, hretried, -⟩ := exhausted_retried ["CCU-HmIP-RF"] h (reach_of_replay hh)
  exact ⟨h, hh, (hretried hshutdown "CCU-HmIP-RF" hexhausted).1⟩

/-- After `sampleExhausted`, another interface is lost and recovered, up to the last step. -/
def sampleOther : List Action :=
  sampleExhausted ++ [.connectionLost "CCU-BidCos-RF", .resume 1 false, .resume 1 true,
    .resume 1 false, .resume 1 true, .resume 1 false]

/-- The recovery of the other interface moves the central to `RUNNING` while the first one is still
exhausted and nothing recovers it; the heartbeat loop ends at its next wake. -/
theorem running_beside_exhausted :
    ∃ h t, (system ["CCU-HmIP-RF", "CCU-BidCos-RF"]).Reach Free h ∧
      (system ["CCU-HmIP-RF", "CCU-BidCos-RF"]).step h (.resume 1 false) = some t ∧
      h.coordinator.stateMachine.state = .recovering ∧
      t.coordinator.stateMachine.state = .running ∧
      "CCU-HmIP-RF" ∈ t.exhausted ∧ t.coordinator.executions "CCU-HmIP-RF" = 0 ∧
      (t.coordinator.wakeLoop 0 ["CCU-HmIP-RF"]).loops = [.ended] := by
  obtain ⟨h, hh, hstate, htest⟩ := replay_any
    (p := fun h : RecoveryHistory => h.coordinator.stateMachine.state = .recovering ∧
      ((system ["CCU-HmIP-RF", "CCU-BidCos-RF"]).step h (.resume 1 false)).any (fun t =>
        decide (t.coordinator.stateMachine.state = .running ∧
          "CCU-HmIP-RF" ∈ t.exhausted ∧ t.coordinator.executions "CCU-HmIP-RF" = 0 ∧
          (t.coordinator.wakeLoop 0 ["CCU-HmIP-RF"]).loops = [.ended])) = true)
    (show ((system ["CCU-HmIP-RF", "CCU-BidCos-RF"]).replay Free {} sampleOther).any _ = true by
      decide +kernel)
  obtain ⟨t, ht, htest⟩ := (Option.any_eq_true _ _).mp htest
  exact ⟨h, t, reach_of_replay hh, ht, hstate, of_decide_eq_true htest⟩

end RecoveryHistory

end AioHomematic.Central
