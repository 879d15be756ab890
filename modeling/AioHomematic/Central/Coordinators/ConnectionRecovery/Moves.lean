import AioHomematic.Central.Coordinators.ConnectionRecovery
import AioHomematic.Lib.Numbered

/-!
# The moves of the recoveries

`executions` counts, for each interface, the recoveries in progress: from the
registration in `activeRecoveries` to the end. `pending` counts the tasks that
an event has created for the interface and that have not started yet. A step
creates a task, starts one, goes on with one or ends one (`step_move`); the
lemmas about `executions` and `pending` say what that does to the counts.
-/

namespace AioHomematic.Central

open Lib

namespace Recovery

/-- The recoveries of the interface that the task is in the middle of. -/
def executions (iid : String) : Recovery → Nat
  | .start interfaceId phase => if interfaceId = iid ∧ phase.inProgress then 1 else 0
  | .heartbeat (.running members) => (members.map Prod.fst).count iid
  | .heartbeat _ => 0

/-- The recoveries of the interface that an event has asked for and that wait for their start. -/
def pending (iid : String) : Recovery → Nat
  | .start interfaceId phase => if interfaceId = iid ∧ phase = .scheduled then 1 else 0
  | .heartbeat _ => 0

theorem executions_start_ne_zero {iid interfaceId : String} {phase : StartPhase} :
    executions iid (.start interfaceId phase) ≠ 0 ↔ interfaceId = iid ∧ phase.inProgress := by
  simp [executions]

@[simp] theorem executions_scheduled (iid interfaceId : String) :
    executions iid (.start interfaceId .scheduled) = 0 := by
  simp [executions, StartPhase.inProgress, StartPhase.guarded]

@[simp] theorem executions_notifying (iid interfaceId : String) (guarded : Bool) :
    executions iid (.start interfaceId (.notifying guarded)) =
      if interfaceId = iid then 1 else 0 := by
  simp [executions, StartPhase.inProgress]

@[simp] theorem executions_exhausted (iid interfaceId : String) :
    executions iid (.start interfaceId (.exhausted false)) = 0 := by
  simp [executions, StartPhase.inProgress, StartPhase.guarded]

@[simp] theorem executions_ended (iid interfaceId : String) :
    executions iid (.start interfaceId .ended) = 0 := by
  simp [executions, StartPhase.inProgress, StartPhase.guarded]

@[simp] theorem pending_scheduled (iid interfaceId : String) :
    pending iid (.start interfaceId .scheduled) = if interfaceId = iid then 1 else 0 := by
  simp [pending]

theorem pending_of_ne {phase : StartPhase} (iid interfaceId : String) (h : phase ≠ .scheduled) :
    pending iid (.start interfaceId phase) = 0 := by
  simp [pending, h]

end Recovery

namespace ConnectionRecoveryCoordinator

variable {c t : ConnectionRecoveryCoordinator} {a : Action} {interfaceIds : List String}
  {n : Nat} {r r' : Recovery} {iid : String}

def executions (iid : String) (c : ConnectionRecoveryCoordinator) : Nat :=
  (c.recoveries.map (Recovery.executions iid)).sum

def pending (iid : String) (c : ConnectionRecoveryCoordinator) : Nat :=
  (c.recoveries.map (Recovery.pending iid)).sum

/-! ## The counts -/

theorem executions_set (hr : c.recoveries[n]? = some r) (ht : t.recoveries = c.recoveries.set n r')
    (iid : String) :
    t.executions iid + r.executions iid = c.executions iid + r'.executions iid := by
  unfold executions
  rw [ht]
  exact sum_map_set _ hr r'

theorem pending_set (hr : c.recoveries[n]? = some r) (ht : t.recoveries = c.recoveries.set n r')
    (iid : String) : t.pending iid + r.pending iid = c.pending iid + r'.pending iid := by
  unfold pending
  rw [ht]
  exact sum_map_set _ hr r'

theorem executions_concat (ht : t.recoveries = c.recoveries ++ [r]) (iid : String) :
    t.executions iid = c.executions iid + r.executions iid := by
  unfold executions
  rw [ht]
  exact sum_map_concat _ _ r

theorem pending_concat (ht : t.recoveries = c.recoveries ++ [r]) (iid : String) :
    t.pending iid = c.pending iid + r.pending iid := by
  unfold pending
  rw [ht]
  exact sum_map_concat _ _ r

theorem executions_congr (ht : t.recoveries = c.recoveries) (iid : String) :
    t.executions iid = c.executions iid := by
  unfold executions
  rw [ht]

theorem pending_congr (ht : t.recoveries = c.recoveries) (iid : String) :
    t.pending iid = c.pending iid := by
  unfold pending
  rw [ht]

theorem executions_le (hr : c.recoveries[n]? = some r) (iid : String) :
    r.executions iid ≤ c.executions iid :=
  le_sum_map _ hr

/-- The changed recovery, looked up. -/
theorem eq_of_recoveries_set {r₀ : Recovery} (hr : c.recoveries[n]? = some r)
    (ht : t.recoveries = c.recoveries.set n r') (hr₀ : r₀ ∈ t.recoveries[n]?) : r₀ = r' := by
  rw [ht, getElem?_set_self_of_some hr] at hr₀
  exact (Option.some.inj hr₀).symm

/-- A heartbeat that starts recovers each of its interfaces once. -/
theorem executions_members (ids : InterfaceIds) (iid : String) :
    Recovery.executions iid (.heartbeat (.running (ids.ids.map fun iid => (iid, .waiting)))) =
      if iid ∈ ids.ids then 1 else 0 := by
  have hids : (ids.ids.map fun iid => (iid, MemberPhase.waiting)).map Prod.fst = ids.ids := by
    rw [List.map_map]
    exact List.map_id _
  simp only [Recovery.executions, hids]
  split
  · exact List.count_eq_one_of_mem ids.nodup ‹_›
  · exact List.count_eq_zero.mpr ‹_›

/-! ## The moves -/

/-- What a step does to the tasks of the recoveries and to the active interfaces. -/
inductive Move (c : ConnectionRecoveryCoordinator) : Action → ConnectionRecoveryCoordinator → Prop
  | idle {a : Action} {t : ConnectionRecoveryCoordinator} (hrec : t.recoveries = c.recoveries)
      (hactive : t.activeRecoveries = c.activeRecoveries) : Move c a t
  | create {a : Action} {t : ConnectionRecoveryCoordinator} (iid : String)
      (ha : a = .connectionLost iid ∨ a = .circuitBreakerTripped iid)
      (hshutdown : c.shutdown = false) (hnew : iid ∉ c.activeRecoveries)
      (hrec : t.recoveries = c.recoveries ++ [.start iid .scheduled])
      (hactive : t.activeRecoveries = c.activeRecoveries) : Move c a t
  | createHeartbeat {a : Action} {t : ConnectionRecoveryCoordinator} (ids : InterfaceIds)
      (hrec : t.recoveries = c.recoveries ++ [.heartbeat (.scheduled ids)])
      (hactive : t.activeRecoveries = c.activeRecoveries) : Move c a t
  | begin {a : Action} {t : ConnectionRecoveryCoordinator} (n : Nat) (iid : String)
      (hr : c.recoveries[n]? = some (.start iid .scheduled))
      (hrec : t.recoveries = c.recoveries.set n (.start iid (.notifying false)))
      (hactive : t.activeRecoveries = insert iid c.activeRecoveries) : Move c a t
  | beginHeartbeat {t : ConnectionRecoveryCoordinator} (n : Nat) (answer : Bool)
      (ids : InterfaceIds) (hshutdown : c.shutdown = false)
      (hr : c.recoveries[n]? = some (.heartbeat (.scheduled ids)))
      (hrec : t.recoveries =
        c.recoveries.set n (.heartbeat (.running (ids.ids.map fun iid => (iid, .waiting)))))
      (hactive : t.activeRecoveries = c.activeRecoveries ∪ ids.ids.toFinset) :
      Move c (.resume n answer) t
  /-- The task goes on; it may register its interface again. -/
  | proceed {a : Action} {t : ConnectionRecoveryCoordinator} (n : Nat) (r r' : Recovery)
      (hr : c.recoveries[n]? = some r) (hrec : t.recoveries = c.recoveries.set n r')
      (hexec : ∀ iid, r'.executions iid = r.executions iid)
      (hpend : ∀ iid, r'.pending iid = r.pending iid)
      (hkept : ∀ iid ∈ c.activeRecoveries, iid ∈ t.activeRecoveries)
      (hown : ∀ iid ∈ t.activeRecoveries, iid ∈ c.activeRecoveries ∨ r.executions iid ≠ 0) :
      Move c a t
  /-- The task ends, or gives up before it has registered its interface. -/
  | leave {a : Action} {t : ConnectionRecoveryCoordinator} (n : Nat) (r r' : Recovery)
      (hr : c.recoveries[n]? = some r) (hrec : t.recoveries = c.recoveries.set n r')
      (hexec : ∀ iid, r'.executions iid = 0) (hpend : ∀ iid, r'.pending iid = 0)
      (hactive : ∀ iid, iid ∈ t.activeRecoveries ↔
        iid ∈ c.activeRecoveries ∧ r.executions iid = 0) : Move c a t
  /-- The task ends and leaves its interface registered. -/
  | abandon {a : Action} {t : ConnectionRecoveryCoordinator} (n : Nat) (iid : String)
      (ha : a = .resume n false ∨ a = .cancel n)
      (hr : c.recoveries[n]? = some (.start iid (.notifying false)))
      (hrec : t.recoveries = c.recoveries.set n (.start iid .ended))
      (hactive : t.activeRecoveries = c.activeRecoveries) : Move c a t

theorem move_leave {phase : StartPhase} (hr : c.recoveries[n]? = some (.start iid phase))
    (hphase : phase = .notifying false → a = .resume n false ∨ a = .cancel n)
    (hrec : t.recoveries = c.recoveries.set n (.start iid .ended))
    (hactive : t.activeRecoveries =
      if phase.guarded then c.activeRecoveries.erase iid else c.activeRecoveries) : Move c a t := by
  by_cases hnotifying : phase = .notifying false
  · subst hnotifying
    exact .abandon n iid (hphase rfl) hr hrec hactive
  · have hguarded : phase.inProgress = phase.guarded := by
      cases phase with
      | notifying guarded =>
        cases guarded
        · exact absurd rfl hnotifying
        · rfl
      | _ => rfl
    refine .leave n _ _ hr hrec (fun _ => Recovery.executions_ended _ _)
      (fun _ => Recovery.pending_of_ne _ _ (by decide)) fun iid' => ?_
    rw [hactive]
    simp only [Recovery.executions, hguarded]
    by_cases hg : phase.guarded
    · simp [hg, and_comm, eq_comm]
    · simp [hg]

theorem move_proceed {phase : StartPhase} (phase' : StartPhase)
    (hr : c.recoveries[n]? = some (.start iid phase)) (hphase : phase.inProgress = true)
    (hphase' : phase'.inProgress = true)
    (hrec : t.recoveries = c.recoveries.set n (.start iid phase'))
    (hactive : t.activeRecoveries = c.activeRecoveries ∨
      t.activeRecoveries = insert iid c.activeRecoveries) : Move c a t := by
  have hscheduled {p : StartPhase} (hp : p.inProgress = true) : p ≠ .scheduled := by
    rintro rfl
    cases hp
  refine .proceed n _ _ hr hrec ?_ ?_ ?_ ?_
  · intro iid'
    simp [Recovery.executions, hphase, hphase']
  · intro iid'
    rw [Recovery.pending_of_ne _ _ (hscheduled hphase),
      Recovery.pending_of_ne _ _ (hscheduled hphase')]
  · intro iid' hiid'
    rcases hactive with h | h <;> simp [h, hiid']
  · intro iid' hiid'
    rcases hactive with h | h
    · exact .inl (h ▸ hiid')
    · rw [h, Finset.mem_insert] at hiid'
      rcases hiid' with rfl | hiid'
      · exact .inr (Recovery.executions_start_ne_zero.mpr ⟨rfl, hphase⟩)
      · exact .inl hiid'

theorem move_startRecovery {answer : Bool} {phase : StartPhase}
    (hr : c.recoveries[n]? = some (.start iid phase))
    (hphase : phase = .scheduled ∨ phase = .sleeping) :
    Move c (.resume n answer) (c.startRecovery n iid phase) := by
  unfold startRecovery
  split
  · refine move_leave hr ?_ rfl rfl
    rintro rfl
    simp at hphase
  · dsimp only
    rcases hphase with rfl | rfl
    · split
      · exact .begin n iid hr rfl rfl
      · refine .leave n _ _ hr rfl (fun _ => Recovery.executions_exhausted _ _)
          (fun _ => Recovery.pending_of_ne _ _ (by decide)) fun iid' => ?_
        rw [Recovery.executions_scheduled]
        exact (and_iff_left rfl).symm
    · split
      · exact move_proceed (.notifying true) hr rfl rfl rfl (.inr rfl)
      · exact move_proceed (.exhausted true) hr rfl rfl rfl (.inl rfl)

theorem move_resumeStart {answer : Bool} {phase : StartPhase}
    (hr : c.recoveries[n]? = some (.start iid phase))
    (h : c.resumeStart n iid answer phase = some t) : Move c (.resume n answer) t := by
  cases phase with
  | scheduled => cases h; exact move_startRecovery hr (.inl rfl)
  | notifying guarded =>
    simp only [resumeStart] at h
    split at h
    · cases h
      exact move_proceed .waiting hr rfl rfl rfl (.inl rfl)
    · cases h
      refine move_leave hr (fun _ => .inl ?_) rfl rfl
      simp [*]
  | waiting =>
    simp only [resumeStart] at h
    split at h
    · cases h
      exact move_proceed .executing hr rfl rfl rfl (.inl rfl)
    · cases h
  | executing =>
    simp only [resumeStart] at h
    split at h
    · cases h
      exact move_proceed .completed hr rfl rfl rfl (.inl rfl)
    · cases h
      exact move_proceed .attempted hr rfl rfl rfl (.inl rfl)
  | completed =>
    cases h
    exact move_proceed .restored hr rfl rfl rfl (.inl rfl)
  | restored =>
    cases h
    refine move_leave hr nofun ?_ ?_
    · unfold transitionAfterRecovery
      split <;> rfl
    · unfold transitionAfterRecovery
      split <;> rfl
  | attempted =>
    simp only [resumeStart] at h
    split at h
    · cases h
      exact move_proceed .sleeping hr rfl rfl rfl (.inl rfl)
    · cases h
      exact move_proceed (.exhausted true) hr rfl rfl rfl (.inl rfl)
  | sleeping => cases h; exact move_startRecovery hr (.inr rfl)
  | exhausted guarded =>
    cases h
    exact move_leave hr nofun rfl rfl
  | ended => cases h

theorem move_discardAll {members : List (String × MemberPhase)}
    (hr : c.recoveries[n]? = some (.heartbeat (.running members)))
    (hrec : t.recoveries = c.recoveries.set n (.heartbeat .ended))
    (hactive : t.activeRecoveries = c.activeRecoveries \ (members.map Prod.fst).toFinset) :
    Move c a t := by
  refine .leave n _ _ hr hrec (fun _ => rfl) (fun _ => rfl) fun iid => ?_
  rw [hactive, Finset.mem_sdiff, List.mem_toFinset]
  simp only [Recovery.executions, List.count_eq_zero]

theorem move_resumeHeartbeat {answer : Bool} {phase : HeartbeatPhase}
    (hr : c.recoveries[n]? = some (.heartbeat phase))
    (h : c.resumeHeartbeat n phase = some t) : Move c (.resume n answer) t := by
  cases phase with
  | scheduled ids =>
    cases h
    unfold recoverAllInterfaces
    split
    · exact .leave n _ _ hr rfl (fun _ => rfl) (fun _ => rfl)
        fun _ => by simp [Recovery.executions, setRecovery]
    next hshutdown => exact .beginHeartbeat n answer ids (by simpa using hshutdown) hr rfl rfl
  | running members =>
    simp only [resumeHeartbeat] at h
    split at h
    · cases h
      refine move_discardAll hr ?_ ?_
      · simp only [processResults]
        split
        · rfl
        · split <;> rfl
      · simp only [processResults]
        split
        · rfl
        · split <;> rfl
    · cases h
  | ended => cases h

theorem map_fst_set {members : List (String × MemberPhase)} {j : Nat} {phase : MemberPhase}
    (hj : members[j]? = some (iid, phase)) (phase' : MemberPhase) :
    (members.set j (iid, phase')).map Prod.fst = members.map Prod.fst := by
  rw [List.map_set]
  refine List.ext_getElem? fun i => ?_
  have hj' : (members.map Prod.fst)[j]? = some iid := by rw [List.getElem?_map, hj]; rfl
  rw [getElem?_set_of_some hj']
  split
  · subst_vars
    exact hj'.symm
  · rfl

theorem move_resumeMember {j : Nat} {members : List (String × MemberPhase)} {success : Bool}
    (hr : c.recoveries[n]? = some (.heartbeat (.running members)))
    (h : c.resumeMember n j members success = some t) : Move c a t := by
  have hproceed {iid : String} {phase : MemberPhase} (hj : members[j]? = some (iid, phase))
      (phase' : MemberPhase) :
      Move c a (c.setRecovery n (.heartbeat (.running (members.set j (iid, phase'))))) := by
    refine .proceed n _ _ hr rfl (fun iid' => ?_) (fun _ => rfl) (fun _ h => h) fun _ h => .inl h
    simp only [Recovery.executions, map_fst_set hj]
  unfold resumeMember at h
  split at h
  · split at h
    · cases h
      exact hproceed ‹_› _
    · cases h
  · cases h
    exact hproceed ‹_› _
  · cases h

theorem move_cancelRecovery (hr : c.recoveries[n]? = some r)
    (h : c.cancelRecovery n r = some t) : Move c (.cancel n) t := by
  unfold cancelRecovery at h
  split at h
  · cases h
  · cases h
    exact move_leave hr (fun _ => .inr rfl) rfl rfl
  · cases h
    exact .leave n _ _ hr rfl (fun _ => rfl) (fun _ => rfl)
      fun _ => by simp [Recovery.executions, setRecovery]
  · cases h
    exact move_discardAll hr rfl rfl
  · cases h

theorem move_resumeLoop {k : Nat} {unavailable : List String} {phase : LoopPhase}
    (h : c.resumeLoop k unavailable phase = some t) : Move c a t := by
  cases phase with
  | scheduled => cases h; exact .idle rfl rfl
  | sleeping =>
    cases h
    unfold wakeLoop
    split
    · exact .idle rfl rfl
    · dsimp only
      split
      · exact .idle rfl rfl
      · exact .idle rfl rfl
  | publishing ids =>
    cases h
    unfold onHeartbeatTimerFired
    split
    · exact .idle rfl rfl
    · exact .createHeartbeat ids rfl rfl
  | published => cases h; exact .idle rfl rfl
  | ended => cases h

theorem move_createRecovery (ha : a = .connectionLost iid ∨ a = .circuitBreakerTripped iid) :
    Move c a (c.createRecovery iid) := by
  unfold createRecovery
  split
  · exact .idle rfl rfl
  next hshutdown =>
    split
    · exact .idle rfl rfl
    next hnew => exact .create iid ha (by simpa using hshutdown) hnew rfl rfl

theorem step_move (h : c.step interfaceIds a = some t) : Move c a t := by
  cases a with
  | connectionLost iid => cases h; exact move_createRecovery (.inl rfl)
  | circuitBreakerTripped iid => cases h; exact move_createRecovery (.inr rfl)
  | centralStateChanged oldState newState trigger =>
    cases h
    unfold onCentralStateChanged
    split
    · exact .idle rfl rfl
    · split
      · exact .idle rfl rfl
      · split <;> exact .idle rfl rfl
  | resume n answer =>
    simp only [step] at h
    split at h
    · exact move_resumeStart ‹_› h
    · exact move_resumeHeartbeat ‹_› h
    · cases h
  | resumeMember n j success =>
    simp only [step] at h
    split at h
    · exact move_resumeMember ‹_› h
    · cases h
  | cancel n =>
    obtain ⟨r, hr, h⟩ := Option.bind_eq_some_iff.mp h
    exact move_cancelRecovery hr h
  | resumeLoop k unavailable =>
    obtain ⟨phase, -, h⟩ := Option.bind_eq_some_iff.mp h
    exact move_resumeLoop h
  | cancelLoop k =>
    obtain ⟨phase, -, rfl⟩ := Option.map_eq_some_iff.mp h
    exact .idle rfl rfl
  | transition transition => cases h; exact .idle rfl rfl
  | stop => cases h; exact .idle rfl rfl

/-! ## Single steps -/

theorem step_restored {answer : Bool} (hr : c.recoveries[n]? = some (.start iid .restored))
    (h : c.step interfaceIds (.resume n answer) = some t) :
    t = (c.leave n iid .restored).transitionAfterRecovery := by
  simp only [step, hr, resumeStart] at h
  exact (Option.some.inj h).symm

/-- The task of a heartbeat that starts, unless the coordinator is stopped. -/
theorem step_heartbeat_scheduled {answer : Bool} {ids : InterfaceIds}
    (hr : c.recoveries[n]? = some (.heartbeat (.scheduled ids))) (hshutdown : c.shutdown = false)
    (h : c.step interfaceIds (.resume n answer) = some t) : t.recoveries =
      c.recoveries.set n (.heartbeat (.running (ids.ids.map fun iid => (iid, .waiting)))) := by
  simp only [step, hr, resumeHeartbeat] at h
  rw [← Option.some.inj h, recoverAllInterfaces, if_neg (by simp [hshutdown])]
  rfl

theorem step_heartbeat_running {answer : Bool} {members : List (String × MemberPhase)}
    (hr : c.recoveries[n]? = some (.heartbeat (.running members)))
    (h : c.step interfaceIds (.resume n answer) = some t) : t = c.processResults n members := by
  simp only [step, hr, resumeHeartbeat] at h
  split at h
  · exact (Option.some.inj h).symm
  · cases h

end ConnectionRecoveryCoordinator

end AioHomematic.Central
