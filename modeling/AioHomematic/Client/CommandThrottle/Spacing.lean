import AioHomematic.Client.CommandThrottle.Purge

/-!
# The spacing of grants

The worker reads the time of the last command before its delay and writes it
after it, with the grant. `Rested` is what holds in between: whatever it has in
its hand is not granted before the interval has passed since then.
-/

namespace AioHomematic.Client.CommandThrottle

open Lib

variable {cfg : Config} {s t u : CommandThrottle} {a : Action} {now : Int}

/-- A command in the worker's hand has to wait for the interval. -/
structure Rested (cfg : Config) (s : CommandThrottle) : Prop where
  enabled : s.worker ≠ .noTask → 0 < cfg.interval
  sleeping : ∀ cmd wakeAt, s.worker = .sleeping cmd wakeAt →
    s.lastCommandTime + cfg.interval ≤ wakeAt
  granting : ∀ cmd, s.worker = .granting cmd → s.lastCommandTime + cfg.interval ≤ s.clock

/-- The time of a grant: the worker resolves a future that is waited for. -/
def grantedAt (s : CommandThrottle) : Action → Option Int
  | .worker now =>
    match s.worker with
    | .granting cmd => if s.Undone cmd then some now else none
    | _ => none
  | _ => none

/-- The times of the grants of a run. -/
def grants (cfg : Config) (s : CommandThrottle) : List Action → List Int
  | [] => []
  | a :: as =>
    match step cfg s a with
    | none => []
    | some t => (s.grantedAt a).toList ++ grants cfg t as

/-! ## The delay -/

theorem init_rested : Rested cfg (init cfg) := by
  unfold init
  split
  next hpos => exact ⟨fun _ => hpos, nofun, nofun⟩
  · exact ⟨fun h => absurd rfl h, nofun, nofun⟩

/-- What leaves the worker and the last command time alone. -/
theorem Rested.congr (hs : Rested cfg s) (hworker : t.worker = s.worker)
    (hlast : t.lastCommandTime = s.lastCommandTime) (hclock : s.clock ≤ t.clock) :
    Rested cfg t where
  enabled := by
    rw [hworker]
    exact hs.enabled
  sleeping := by
    rw [hworker, hlast]
    exact hs.sleeping
  granting := by
    intro cmd hgranting
    rw [hworker] at hgranting
    rw [hlast]
    exact Int.le_trans (hs.granting cmd hgranting) hclock

theorem Worked.rested (h : Worked cfg now s u) (hs : Rested cfg s) (hpos : 0 < cfg.interval) :
    Rested cfg { u with clock := now } := by
  cases h with
  | idle hqueue hlast hheld =>
    refine ⟨fun _ => hpos, fun cmd wakeAt hworker => ?_, fun cmd hworker => ?_⟩
    · rw [show u.worker = _ from hworker] at hheld
      cases hheld
    · rw [show u.worker = _ from hworker] at hheld
      cases hheld
  | pop hheld hpop hqueue hlast hnext =>
    refine ⟨fun _ => hpos, fun cmd wakeAt hworker => ?_, fun cmd hworker => ?_⟩
    · rw [show u.worker = _ from hworker] at hnext
      obtain heq | ⟨heq, -⟩ := hnext
      · cases heq
        exact Int.le_of_eq (congrArg (· + cfg.interval) hlast)
      · cases heq
    · rw [show u.worker = _ from hworker] at hnext
      obtain heq | ⟨-, hle⟩ := hnext
      · cases heq
      · exact hlast ▸ hle
  | wake hworker hwake =>
    refine ⟨fun _ => hpos, nofun, fun _ _ => ?_⟩
    exact Int.le_trans (hs.sleeping _ _ hworker) hwake
  | grant => exact ⟨fun _ => hpos, nofun, nofun⟩

theorem worker_ne_noTask (h : s.workerStep cfg now = some u) : s.worker ≠ .noTask := by
  intro hworker
  rw [workerStep, hworker] at h
  cases h

theorem step_rested (hs : Rested cfg s) (h : step cfg s a = some t) : Rested cfg t := by
  have hclock := clock_le_of_step h
  cases step_cases h with
  | acquire => exact hs.congr (acquire_frame rfl).1 (acquire_frame rfl).2.2.1 hclock
  | answer => exact hs.congr rfl rfl hclock
  | worker hu => exact (workerStep_worked hu).rested hs (hs.enabled (worker_ne_noTask hu))
  | cancelWorker => exact hs.congr rfl rfl hclock
  | stop =>
    refine hs.congr ?_ ?_ hclock
    · unfold stop
      split <;> rfl
    · unfold stop
      split <;> rfl

/-! ## The grants -/

theorem grantedAt_eq_some (h : s.grantedAt a = some now) :
    a = .worker now ∧ ∃ cmd, s.worker = .granting cmd := by
  unfold grantedAt at h
  split at h
  · split at h
    next cmd hworker =>
      split at h
      · cases h
        exact ⟨rfl, cmd, hworker⟩
      · cases h
    · cases h
  · cases h

/-- A grant comes an interval after the last command, and is the last one then. -/
theorem rested_grant (hs : Rested cfg s) (h : step cfg s a = some t)
    (hgrant : s.grantedAt a = some now) :
    s.lastCommandTime + cfg.interval ≤ now ∧ t.lastCommandTime = now := by
  obtain ⟨rfl, cmd, hworker⟩ := grantedAt_eq_some hgrant
  have hclock := clock_le_of_step h
  simp only [step, workerStep, hworker] at h
  split at h
  next hle =>
    cases h
    exact ⟨Int.le_trans (hs.granting cmd hworker) hle, rfl⟩
  · cases h

theorem lastCommandTime_le (hs : Rested cfg s) (h : step cfg s a = some t) :
    s.lastCommandTime ≤ t.lastCommandTime := by
  have hclock := clock_le_of_step h
  cases step_cases h with
  | acquire => exact Int.le_of_eq (acquire_frame rfl).2.2.1.symm
  | answer => exact Int.le_refl _
  | worker hu =>
    have hpos := hs.enabled (worker_ne_noTask hu)
    cases workerStep_worked hu with
    | idle _ hlast => exact Int.le_of_eq hlast.symm
    | pop _ _ _ hlast => exact Int.le_of_eq hlast.symm
    | wake => exact Int.le_refl _
    | grant hworker =>
      have hlast := hs.granting _ hworker
      simp only [grant] at hclock ⊢
      omega
  | cancelWorker => exact Int.le_refl _
  | stop =>
    unfold stop
    split <;> exact Int.le_refl _

/-- From the last command on, each grant comes an interval after the one before. -/
theorem isChain_grants (hs : Rested cfg s) (as : List Action) :
    (s.lastCommandTime :: grants cfg s as).IsChain fun time time' =>
      time + cfg.interval ≤ time' := by
  induction as generalizing s with
  | nil => exact .singleton _
  | cons a as ih =>
    rw [grants]
    split
    · exact .singleton _
    next t hstep =>
      have hnext := ih (step_rested hs hstep)
      cases hgrant : s.grantedAt a with
      | some now =>
        obtain ⟨hle, hlast⟩ := rested_grant hs hstep hgrant
        rw [hlast] at hnext
        exact List.isChain_cons_cons.mpr ⟨hle, hnext⟩
      | none =>
        have hle := lastCommandTime_le hs hstep
        rw [Option.toList_none, List.nil_append]
        cases hgrants : grants cfg t as with
        | nil => exact .singleton _
        | cons time times =>
          rw [hgrants, List.isChain_cons_cons] at hnext
          refine List.isChain_cons_cons.mpr ⟨?_, hnext.2⟩
          have hfirst := hnext.1
          omega

/-- Two grants of the worker, one after the other, are at least the interval apart. -/
theorem spaced_grants (cfg : Config) (as : List Action) :
    (grants cfg (init cfg) as).IsChain fun time time' => time + cfg.interval ≤ time' :=
  (isChain_grants init_rested as).of_cons

/-- The second command comes at once and has to wait. -/
example : grants ⟨100, 5, 500⟩ (init ⟨100, 5, 500⟩)
    [.acquire .high "VCU1:1" [] 1000 1000, .acquire .high "VCU1:1" [] 1001 1001, .worker 1001,
      .worker 1001, .worker 1001, .worker 1002, .worker 1102, .worker 1103] = [1001, 1103] := by
  decide

end AioHomematic.Client.CommandThrottle
