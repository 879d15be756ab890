import AioHomematic.Central.StateMachine
import AioHomematic.Lib.SlidingWindow
import AioHomematic.Lib.StepSystem

/-!
# The background scheduler

`_run_scheduler_loop`, step by step: a step goes from one reading of the clock, of the flags or of
the outcome of a task to the next. How long a step takes is up to its input, so that a sleep, a task
or a central that is not operational may take any time. Times are microseconds.

A job is due at fixed times (`schedule_next_execution` adds the interval to the time when it was
due, not to the current one), so a job that comes late is started again at once until it has caught
up. `countIn_iff` says which runs space the starts of a job nevertheless, and `countIn_le_of_due`
what every run does.
-/

namespace AioHomematic.Central.Scheduler

open Lib

structure SchedulerJob where
  name : String
  /-- In seconds. -/
  runInterval : Nat
  pos : 0 < runInterval

/-- `timedelta(seconds=self._run_interval)`. -/
def SchedulerJob.interval (job : SchedulerJob) : Int := job.runInterval * 1000000

theorem SchedulerJob.interval_pos (job : SchedulerJob) : 0 < job.interval := by
  have := job.pos
  unfold interval
  omega

def schedulerLoopSleep : Int := 5000000

def schedulerNotStartedSleep : Int := 10000000

inductive Outcome where
  | done
  | failed
  | cancelled
deriving DecidableEq

/-- What the environment does in a step. -/
structure Input where
  elapsed : Nat := 0
  isActive : Bool := true
  centralState : CentralState := .running
  hasConnectionIssue : Bool := false
  outcome : Outcome := .done

/-- Where the loop is. -/
inductive Pc where
  | top
  | job (k : Nat) (hasIssue anyExecuted : Bool)
  /-- At the second reading of `ready`. -/
  | skipping (k : Nat) (anyExecuted : Bool)
  | running (k : Nat) (hasIssue : Bool)
  | sleeping (delay : Int)
  | ended
deriving DecidableEq

/-- What a run has done with its jobs. -/
inductive Event where
  | started (k : Nat) (time lateness : Int)
  /-- A due time has passed without a start. -/
  | dropped (k : Nat)
deriving DecidableEq

structure State where
  now : Int
  pc : Pc := .top
  /-- When the `k`-th job is due. -/
  nextRun : Nat → Int
  /-- The newest first. -/
  log : List Event := []

namespace State

def ready (s : State) (k : Nat) : Bool := s.nextRun k < s.now

def scheduleNextExecution (s : State) (k : Nat) (job : SchedulerJob) : State :=
  { s with nextRun := fun j => if j = k then s.nextRun k + job.interval else s.nextRun j }

/-- How long a job has been due. -/
def lateness (s : State) (k : Nat) : Int := s.now - s.nextRun k

def advance (s : State) (elapsed : Nat) : State := { s with now := s.now + elapsed }

end State

variable (jobs : List SchedulerJob)

/-- Skipped while there is a connection issue. -/
def pauses (job : SchedulerJob) (hasIssue : Bool) : Bool :=
  hasIssue && job.name ≠ "_check_connection"

/-- How long the loop sleeps after its jobs. -/
def delay (s : State) (hasIssue anyExecuted : Bool) : Int :=
  if anyExecuted then schedulerLoopSleep
  else
    let eligible := jobs.zipIdx.filter fun e => !pauses e.1 hasIssue
    match (eligible.map fun e => s.nextRun e.2).min? with
    | some nextDue => min 1000000 (max 0 (nextDue - s.now))
    | none => schedulerLoopSleep

/-- A step, at the time at which it has come. -/
def act (i : Input) (s : State) : State :=
  match s.pc with
  | .top =>
    if i.isActive then
      if i.centralState ∈ [.running, .degraded] then { s with pc := .job 0 i.hasConnectionIssue false }
      else { s with pc := .sleeping schedulerNotStartedSleep }
    else { s with pc := .ended }
  | .job k hasIssue anyExecuted =>
    match jobs[k]? with
    | some job =>
      if i.isActive && s.ready k then
        if pauses job hasIssue then { s with pc := .skipping k anyExecuted }
        else
          { s with pc := .running k hasIssue, log := .started k s.now (s.lateness k) :: s.log }
      else { s with pc := .job (k + 1) hasIssue anyExecuted }
    | none =>
      if i.isActive then { s with pc := .sleeping (delay jobs s hasIssue anyExecuted) }
      else { s with pc := .ended }
  | .skipping k anyExecuted =>
    match jobs[k]? with
    | some job =>
      if s.ready k then
        { s.scheduleNextExecution k job with
          pc := .job (k + 1) true anyExecuted, log := .dropped k :: s.log }
      else { s with pc := .job (k + 1) true anyExecuted }
    | none => s
  | .running k hasIssue =>
    match jobs[k]?, i.outcome with
    | some job, .done | some job, .failed =>
      { s.scheduleNextExecution k job with pc := .job (k + 1) hasIssue true }
    | _, _ => { s with pc := .ended }
  | .sleeping _ => if i.outcome = .cancelled then { s with pc := .ended } else { s with pc := .top }
  | .ended => s

def step (s : State) (i : Input) : State := act jobs i (s.advance i.elapsed)

def system (init : State) : StepSystem State Input where
  init := init
  step s i := some (step jobs s i)

def run (init : State) (inputs : List Input) : State := inputs.foldl (step jobs) init

/-! ## The starts of a job -/

/-- When the job was started, and how late. -/
def startsOf (k : Nat) (log : List Event) : List (Int × Int) :=
  log.filterMap fun
    | .started j time lateness => if j = k then some (time, lateness) else none
    | .dropped _ => none

def starts (k : Nat) (log : List Event) : List Int := (startsOf k log).map Prod.fst

/-- When the starts were due. -/
def dues (k : Nat) (log : List Event) : List Int := (startsOf k log).map fun e => e.1 - e.2

/-- The last start of a job, and how many due times have been dropped since. -/
structure Last where
  time : Int
  lateness : Int
  dropped : Nat := 0

def last (k : Nat) : List Event → Option Last
  | [] => none
  | .started j time lateness :: log => if j = k then some { time, lateness } else last k log
  | .dropped j :: log =>
    if j = k then (last k log).map fun l => { l with dropped := l.dropped + 1 } else last k log

/-- A step at this time starts the job. -/
def Starts (k : Nat) (job : SchedulerJob) (i : Input) (s : State) : Prop :=
  ∃ hasIssue anyExecuted, s.pc = .job k hasIssue anyExecuted ∧ i.isActive = true ∧
    s.ready k = true ∧ pauses job hasIssue = false

/--
A start of the job comes no less late than its last one. A due time dropped in between counts for
an interval.
-/
def InPace (k : Nat) (job : SchedulerJob) (s : State) (i : Input) : Prop :=
  Starts k job i (s.advance i.elapsed) → ∀ l, last k s.log = some l →
    l.lateness ≤ (s.advance i.elapsed).lateness k + l.dropped * job.interval

/-! ## What a step does to a job -/

def Pc.runs (k : Nat) : Pc → Bool
  | .running j _ => j = k
  | _ => false

inductive Effect (k : Nat) (job : SchedulerJob) (i : Input) (s t : State) : Prop where
  | started (h : Starts k job i s) (hlog : t.log = .started k s.now (s.lateness k) :: s.log)
      (hnext : t.nextRun k = s.nextRun k) (hruns : t.pc.runs k = true)
  | dropped (h : ¬Starts k job i s) (hpc : s.pc ≠ .ended) (hlog : t.log = .dropped k :: s.log)
      (hnext : t.nextRun k = s.nextRun k + job.interval) (hruns : s.pc.runs k = false)
      (hruns' : t.pc.runs k = false)
  | finished (h : ¬Starts k job i s) (hpc : s.pc ≠ .ended) (hlog : t.log = s.log)
      (hnext : t.nextRun k = s.nextRun k + job.interval) (hruns : s.pc.runs k = true)
      (hruns' : t.pc.runs k = false)
  | ended (h : ¬Starts k job i s) (hlog : t.log = s.log) (hpc : t.pc = .ended)
  /-- What the step does is about another job. -/
  | other (h : ¬Starts k job i s) (hpc : s.pc ≠ .ended) (hstarts : startsOf k t.log = startsOf k s.log)
      (hlast : last k t.log = last k s.log) (hnext : t.nextRun k = s.nextRun k)
      (hruns : t.pc.runs k = s.pc.runs k)

variable {jobs} {k : Nat} {job : SchedulerJob} {i : Input} {s t : State}

theorem now_act (i : Input) (s : State) : (act jobs i s).now = s.now := by
  unfold act
  repeat' split
  all_goals rfl

theorem not_starts_of_pc (h : ∀ hasIssue anyExecuted, s.pc ≠ .job k hasIssue anyExecuted) :
    ¬Starts k job i s := fun ⟨hasIssue, anyExecuted, hpc, _⟩ => h hasIssue anyExecuted hpc

theorem starts_iff_of_pc {j : Nat} {hasIssue anyExecuted : Bool}
    (hpc : s.pc = .job j hasIssue anyExecuted) :
    Starts k job i s ↔
      j = k ∧ i.isActive = true ∧ s.ready k = true ∧ pauses job hasIssue = false := by
  unfold Starts
  rw [hpc]
  refine ⟨?_, ?_⟩
  · rintro ⟨_, _, heq, h⟩
    cases heq
    exact ⟨rfl, h⟩
  · rintro ⟨rfl, h⟩
    exact ⟨hasIssue, anyExecuted, rfl, h⟩

theorem effect_act (hk : jobs[k]? = some job) : Effect k job i s (act jobs i s) := by
  have hstay : ∀ {t : State} {pc : Pc}, t.pc = pc → ¬Starts k job i s → s.pc ≠ .ended →
      t.log = s.log → t.nextRun = s.nextRun → pc.runs k = s.pc.runs k → Effect k job i s t := by
    intro t pc hpc h hne hlog hnext hruns
    exact .other h hne (by rw [hlog]) (by rw [hlog]) (by rw [hnext]) (by rw [hpc, hruns])
  unfold act
  cases hpc : s.pc with
  | top =>
    have hno : ¬Starts k job i s := not_starts_of_pc (by simp [hpc])
    simp only
    split
    · split
      · exact hstay rfl hno (by simp [hpc]) rfl rfl (by simp [hpc, Pc.runs])
      · exact hstay rfl hno (by simp [hpc]) rfl rfl (by simp [hpc, Pc.runs])
    · exact .ended hno rfl rfl
  | job j hasIssue anyExecuted =>
    have hstarts : Starts k job i s ↔
        j = k ∧ i.isActive = true ∧ s.ready k = true ∧ pauses job hasIssue = false :=
      starts_iff_of_pc hpc
    have hne : s.pc ≠ .ended := by simp [hpc]
    cases hj : jobs[j]? with
    | none =>
      have hno : ¬Starts k job i s := by
        rw [hstarts]
        rintro ⟨rfl, -⟩
        cases hj.symm.trans hk
      simp only [hj]
      split
      · exact hstay rfl hno hne rfl rfl (by simp [hpc, Pc.runs])
      · exact .ended hno rfl rfl
    | some job' =>
      simp only [hj]
      split
      next hready =>
        rw [Bool.and_eq_true] at hready
        split
        next hpauses =>
          refine hstay rfl ?_ hne rfl rfl (by simp [hpc, Pc.runs])
          rw [hstarts]
          rintro ⟨rfl, -, -, hgo⟩
          obtain rfl : job' = job := Option.some.inj (hj.symm.trans hk)
          rw [hpauses] at hgo
          cases hgo
        next hpauses =>
          by_cases hjk : j = k
          · subst hjk
            obtain rfl : job' = job := Option.some.inj (hj.symm.trans hk)
            refine .started (hstarts.mpr ⟨rfl, hready.1, hready.2, by simpa using hpauses⟩) rfl rfl ?_
            exact decide_eq_true rfl
          · refine .other (fun h => hjk (hstarts.mp h).1) hne ?_ ?_ rfl ?_
            · simp [startsOf, hjk]
            · simp [last, hjk]
            · simp [hpc, Pc.runs, hjk]
      next hwait =>
        refine hstay rfl ?_ hne rfl rfl (by simp [hpc, Pc.runs])
        rw [hstarts]
        rintro ⟨rfl, hactive, hready, -⟩
        exact hwait (by rw [hactive, hready]; rfl)
  | skipping j anyExecuted =>
    have hno : ¬Starts k job i s := not_starts_of_pc (by simp [hpc])
    have hne : s.pc ≠ .ended := by simp [hpc]
    cases hj : jobs[j]? with
    | none =>
      simp only [hj]
      exact .other hno hne rfl rfl rfl rfl
    | some job' =>
      simp only [hj]
      split
      next =>
        by_cases hjk : j = k
        · subst hjk
          obtain rfl : job' = job := Option.some.inj (hj.symm.trans hk)
          exact .dropped hno hne rfl (if_pos rfl) (by simp [hpc, Pc.runs]) rfl
        · refine .other hno hne ?_ ?_ ?_ ?_
          · simp [startsOf]
          · simp [last, hjk]
          · exact if_neg (Ne.symm hjk)
          · simp [hpc, Pc.runs]
      next => exact hstay rfl hno hne rfl rfl (by simp [hpc, Pc.runs])
  | running j hasIssue =>
    have hno : ¬Starts k job i s := not_starts_of_pc (by simp [hpc])
    have hne : s.pc ≠ .ended := by simp [hpc]
    cases hj : jobs[j]? with
    | none =>
      simp only [hj]
      exact .ended hno rfl rfl
    | some job' =>
      have hdone : Effect k job i s
          { s.scheduleNextExecution j job' with pc := .job (j + 1) hasIssue true } := by
        by_cases hjk : j = k
        · subst hjk
          obtain rfl : job' = job := Option.some.inj (hj.symm.trans hk)
          exact .finished hno hne rfl (if_pos rfl) (by simp [hpc, Pc.runs]) rfl
        · refine .other hno hne rfl rfl (if_neg (Ne.symm hjk)) ?_
          simp [hpc, Pc.runs, hjk]
      cases houtcome : i.outcome with
      | done => simpa only [hj, houtcome] using hdone
      | failed => simpa only [hj, houtcome] using hdone
      | cancelled =>
        simp only [hj]
        exact .ended hno rfl rfl
  | sleeping delay =>
    have hno : ¬Starts k job i s := not_starts_of_pc (by simp [hpc])
    simp only
    split
    · exact .ended hno rfl rfl
    · exact hstay rfl hno (by simp [hpc]) rfl rfl (by simp [hpc, Pc.runs])
  | ended => exact .ended (not_starts_of_pc (by simp [hpc])) rfl hpc

/-! ## Due times -/

theorem startsOf_started (k : Nat) (time lateness : Int) (log : List Event) :
    startsOf k (.started k time lateness :: log) = (time, lateness) :: startsOf k log :=
  List.filterMap_cons_some (if_pos rfl)

theorem startsOf_dropped (k j : Nat) (log : List Event) :
    startsOf k (.dropped j :: log) = startsOf k log :=
  List.filterMap_cons_none rfl

theorem starts_started (k : Nat) (time lateness : Int) (log : List Event) :
    starts k (.started k time lateness :: log) = time :: starts k log := by
  rw [starts, startsOf_started]
  rfl

theorem starts_dropped (k j : Nat) (log : List Event) : starts k (.dropped j :: log) = starts k log := by
  rw [starts, startsOf_dropped]
  rfl

/-- The last start is the newest one. -/
theorem head?_starts (k : Nat) (log : List Event) :
    (starts k log).head? = (last k log).map Last.time := by
  induction log with
  | nil => rfl
  | cons e log ih =>
    cases e with
    | started j time lateness =>
      by_cases hjk : j = k
      · subst hjk
        simp [starts_started, last]
      · simpa [starts, startsOf, last, hjk] using ih
    | dropped j =>
      rw [starts_dropped, ih]
      by_cases hjk : j = k
      · cases h : last k log <;> simp [last, hjk, h]
      · simp [last, hjk]

/-- The job is due an interval after its last start was, and another one after each drop. -/
structure Tracked (k : Nat) (job : SchedulerJob) (s : State) : Prop where
  sorted : (starts k s.log).Pairwise fun t u => u ≤ t
  past : ∀ t ∈ starts k s.log, t ≤ s.now
  due : ∀ l, last k s.log = some l → s.pc ≠ .ended →
    if s.pc.runs k then s.nextRun k = l.time - l.lateness ∧ l.dropped = 0
    else s.nextRun k = l.time - l.lateness + (l.dropped + 1) * job.interval

theorem tracked_init (k : Nat) (job : SchedulerJob) {s : State} (h : s.log = []) :
    Tracked k job s := by
  refine ⟨?_, ?_, ?_⟩
  · rw [h]; exact .nil
  · rw [h]; nofun
  · rw [h]; nofun

theorem Tracked.advance (h : Tracked k job s) (elapsed : Nat) : Tracked k job (s.advance elapsed) := by
  refine ⟨h.sorted, fun t ht => ?_, h.due⟩
  have := h.past t ht
  show t ≤ s.now + elapsed
  omega

theorem Tracked.effect (h : Tracked k job s) (hnow : t.now = s.now) (he : Effect k job i s t) :
    Tracked k job t := by
  cases he with
  | started hgo hlog hnext hruns =>
    rw [← hnow] at hlog
    refine ⟨?_, ?_, ?_⟩
    · rw [hlog, starts_started]
      refine List.pairwise_cons.mpr ⟨fun u hu => ?_, h.sorted⟩
      rw [hnow]
      exact h.past u hu
    · rw [hlog, starts_started]
      intro u hu
      rcases List.mem_cons.mp hu with rfl | hu
      · exact le_refl _
      · rw [hnow]
        exact h.past u hu
    · intro l hl _
      rw [hlog, last, if_pos rfl] at hl
      obtain rfl := Option.some.inj hl
      rw [if_pos hruns, hnext, hnow]
      refine ⟨?_, rfl⟩
      show s.nextRun k = s.now - (s.now - s.nextRun k)
      omega
  | dropped hno hpc hlog hnext hruns hruns' =>
    refine ⟨?_, ?_, ?_⟩
    · rw [hlog, starts_dropped]
      exact h.sorted
    · rw [hlog, starts_dropped, hnow]
      exact h.past
    · intro l hl _
      rw [hlog, last, if_pos rfl] at hl
      obtain ⟨l, hbefore, rfl⟩ := Option.map_eq_some_iff.mp hl
      have hdue := h.due l hbefore hpc
      rw [hruns] at hdue
      rw [hruns', hnext]
      simp only [Bool.false_eq_true, if_false] at hdue ⊢
      rw [hdue, Int.natCast_succ, Int.add_mul (_ + 1), Int.one_mul, Int.add_assoc]
  | finished hno hpc hlog hnext hruns hruns' =>
    refine ⟨?_, ?_, ?_⟩
    · rw [hlog]
      exact h.sorted
    · rw [hlog, hnow]
      exact h.past
    · intro l hl _
      rw [hlog] at hl
      have hdue := h.due l hl hpc
      rw [if_pos hruns] at hdue
      rw [hruns', hnext, hdue.1, hdue.2]
      simp
  | ended hno hlog hpc =>
    refine ⟨?_, ?_, fun _ _ hne => absurd hpc hne⟩
    · rw [hlog]
      exact h.sorted
    · rw [hlog, hnow]
      exact h.past
  | other hno hpc hstarts hlast hnext hruns =>
    refine ⟨?_, ?_, ?_⟩
    · rw [starts, hstarts]
      exact h.sorted
    · rw [starts, hstarts, hnow]
      exact h.past
    · intro l hl _
      rw [hlast] at hl
      rw [hruns, hnext]
      exact h.due l hl hpc

theorem Tracked.step (hk : jobs[k]? = some job) (h : Tracked k job s) (i : Input) :
    Tracked k job (step jobs s i) :=
  (h.advance i.elapsed).effect (now_act i _) (effect_act hk)

/-! ## Runs -/

/-- A start comes an interval after those before it exactly if it is in pace. -/
theorem spaced_started_iff (h : Tracked k job s) (hgo : Starts k job i s) :
    Spaced job.interval (s.now :: starts k s.log) ↔
      Spaced job.interval (starts k s.log) ∧
        ∀ l, last k s.log = some l → l.lateness ≤ s.lateness k + l.dropped * job.interval := by
  obtain ⟨hasIssue, anyExecuted, hpc, -⟩ := hgo
  have hhead := head?_starts k s.log
  unfold Spaced
  rw [List.pairwise_cons, and_comm]
  refine and_congr_right fun _ => ?_
  cases hlast : last k s.log with
  | none =>
    rw [hlast, Option.map_none, List.head?_eq_none_iff] at hhead
    rw [hhead]
    exact iff_of_true nofun nofun
  | some l =>
    rw [hlast, Option.map_some, List.head?_eq_some_iff] at hhead
    obtain ⟨earlier, hstarts⟩ := hhead
    have hdue := h.due l hlast (by simp [hpc])
    rw [hpc] at hdue
    simp only [Pc.runs, Bool.false_eq_true, if_false, Int.add_mul, Int.one_mul] at hdue
    have hlate : s.lateness k = s.now - s.nextRun k := rfl
    refine ⟨fun hgap l' hl' => ?_, fun hpace u hu => ?_⟩
    · obtain rfl := Option.some.inj hl'
      have := hgap l.time (by rw [hstarts]; exact List.mem_cons_self)
      omega
    · have hle : u ≤ l.time := by
        have hsorted := h.sorted
        rw [hstarts] at hu hsorted
        rcases List.mem_cons.mp hu with rfl | hu
        · exact le_refl _
        · exact (List.pairwise_cons.mp hsorted).1 u hu
      have := hpace l rfl
      omega

theorem spaced_step_iff (hk : jobs[k]? = some job) (h : Tracked k job s) (i : Input) :
    Spaced job.interval (starts k (step jobs s i).log) ↔
      Spaced job.interval (starts k s.log) ∧ InPace k job s i := by
  have hadvanced := h.advance i.elapsed
  have hno : ¬Starts k job i (s.advance i.elapsed) →
      starts k (step jobs s i).log = starts k s.log →
      (Spaced job.interval (starts k (step jobs s i).log) ↔
        Spaced job.interval (starts k s.log) ∧ InPace k job s i) := by
    intro hno heq
    rw [heq]
    exact (and_iff_left fun hgo => absurd hgo hno).symm
  rcases effect_act (i := i) (s := s.advance i.elapsed) hk with
    ⟨hgo, hlog, -, -⟩ | ⟨hgo, -, hlog, -, -, -⟩ | ⟨hgo, -, hlog, -, -, -⟩ | ⟨hgo, hlog, -⟩ |
      ⟨hgo, -, hstarts, -, -, -⟩
  · show Spaced _ (starts k (act jobs i (s.advance i.elapsed)).log) ↔ _
    rw [hlog, starts_started, spaced_started_iff hadvanced hgo]
    exact and_congr_right fun _ => ⟨fun hpace _ => hpace, fun hpace => hpace hgo⟩
  · exact hno hgo (by rw [step, hlog, starts_dropped]; rfl)
  · exact hno hgo (by rw [step, hlog]; rfl)
  · exact hno hgo (by rw [step, hlog]; rfl)
  · exact hno hgo (congrArg (List.map Prod.fst) hstarts)

/-- In a run the starts are spaced exactly if each step of it is in pace. -/
theorem spaced_run_iff (hk : jobs[k]? = some job) (h : Tracked k job s) (init : State)
    (inputs : List Input) :
    Spaced job.interval (starts k (run jobs s inputs).log) ↔
      Spaced job.interval (starts k s.log) ∧
        (system jobs init).Steps (InPace k job) s inputs (run jobs s inputs) := by
  induction inputs generalizing s with
  | nil => exact (and_iff_left (.nil s)).symm
  | cons i inputs ih =>
    rw [show run jobs s (i :: inputs) = run jobs (step jobs s i) inputs from rfl,
      ih (h.step hk i), spaced_step_iff hk h i, and_assoc]
    refine and_congr_right fun _ => ⟨fun ⟨hpace, hsteps⟩ => .cons hpace rfl hsteps, fun hsteps => ?_⟩
    cases hsteps with
    | cons hpace hstep hsteps =>
      obtain rfl := Option.some.inj hstep
      exact ⟨hpace, hsteps⟩

theorem tracked_run (hk : jobs[k]? = some job) (h : Tracked k job s) (inputs : List Input) :
    Tracked k job (run jobs s inputs) := by
  induction inputs generalizing s with
  | nil => exact h
  | cons i inputs ih => exact ih (h.step hk i)

/--
In every run, whatever the windows: a window of this length has at most `length / interval + 1`
starts of a job, exactly if each of its starts in the run is in pace.
-/
theorem countIn_iff (jobs : List SchedulerJob) (now : Int) (nextRun : Nat → Int)
    (inputs : List Input) (k : Fin jobs.length) :
    (∀ start length : Int, 0 ≤ length →
      (countIn start length (starts k (run jobs { now, nextRun } inputs).log) : Int) ≤
        length / jobs[k].interval + 1) ↔
      (system jobs { now, nextRun }).Steps (InPace k jobs[k]) { now, nextRun } inputs
        (run jobs { now, nextRun } inputs) := by
  have hk : jobs[(k : Nat)]? = some jobs[k] := List.getElem?_eq_getElem k.isLt
  have hinit : Tracked k jobs[k] { now, nextRun } := tracked_init k jobs[k] rfl
  have hrun := tracked_run hk hinit inputs
  rw [← spaced_iff_countIn_le jobs[k].interval_pos hrun.sorted,
    spaced_run_iff hk hinit { now, nextRun } inputs]
  exact and_iff_right .nil

/-- The central recovers for two minutes, then three rounds of the loop run. -/
def sampleInputs : List Input :=
  (List.replicate 12 [{ centralState := .recovering }, { elapsed := 10000000 }]).flatten ++
    (List.replicate 3 [{ elapsed := 0 }, { elapsed := 0 }, { elapsed := 100000 }, { elapsed := 0 },
      { elapsed := 5000000 }]).flatten

/-- After the pause a job that is to run every 30 seconds is started three times in 15 seconds. -/
theorem not_countIn_le : ¬∀ (jobs : List SchedulerJob) (now : Int) (nextRun : Nat → Int)
    (inputs : List Input) (k : Fin jobs.length) (start length : Int), 0 ≤ length →
      (countIn start length (starts k (run jobs { now, nextRun } inputs).log) : Int) ≤
        length / jobs[k].interval + 1 := by
  intro h
  have hthree := h [⟨"_refresh_sysvar_data", 30, by decide⟩] 0 (fun _ => 0) sampleInputs
    ⟨0, by decide⟩ 120000000 15000000 (by decide)
  revert hthree
  decide

/-! ## What every run does -/

/-- The starts are late, what they were due for is spaced, and so is what is due next. -/
structure DuesSpaced (k : Nat) (job : SchedulerJob) (s : State) : Prop where
  spaced : Spaced job.interval (dues k s.log)
  late : ∀ e ∈ startsOf k s.log, 0 < e.2
  next : s.pc ≠ .ended → ∀ d ∈ dues k s.log,
    d + (if s.pc.runs k then 0 else job.interval) ≤ s.nextRun k

theorem duesSpaced_init (k : Nat) (job : SchedulerJob) {s : State} (h : s.log = []) :
    DuesSpaced k job s := by
  refine ⟨?_, ?_, fun _ => ?_⟩
  · rw [h]; exact .nil
  · rw [h]; nofun
  · rw [h]; nofun

theorem DuesSpaced.effect (h : DuesSpaced k job s) (he : Effect k job i s t) :
    DuesSpaced k job t := by
  have hpos := job.interval_pos
  cases he with
  | started hgo hlog hnext hruns =>
    obtain ⟨hasIssue, anyExecuted, hpc, -, hready, -⟩ := hgo
    have hgap : ∀ d ∈ dues k s.log, d + job.interval ≤ s.nextRun k := by
      have := h.next (by simp [hpc])
      rw [hpc] at this
      exact this
    have hdues : dues k t.log = s.nextRun k :: dues k s.log := by
      rw [hlog, dues, startsOf_started, List.map_cons]
      congr 1
      show s.now - (s.now - s.nextRun k) = _
      omega
    refine ⟨?_, ?_, fun _ d hd => ?_⟩
    · rw [hdues]
      exact List.pairwise_cons.mpr ⟨hgap, h.spaced⟩
    · rw [hlog, startsOf_started]
      intro e he
      rcases List.mem_cons.mp he with rfl | he
      · have hlt : s.nextRun k < s.now := of_decide_eq_true hready
        show 0 < s.now - s.nextRun k
        omega
      · exact h.late e he
    · rw [if_pos hruns, hnext]
      rw [hdues] at hd
      rcases List.mem_cons.mp hd with rfl | hd
      · omega
      · have := hgap d hd
        omega
  | dropped hno hpc hlog hnext hruns hruns' =>
    have hsame : startsOf k t.log = startsOf k s.log := by rw [hlog, startsOf_dropped]
    refine ⟨?_, ?_, fun _ d hd => ?_⟩
    · rw [dues, hsame]
      exact h.spaced
    · rw [hsame]
      exact h.late
    · rw [dues, hsame] at hd
      have := h.next hpc d hd
      rw [hruns] at this
      rw [hruns', hnext]
      simp only [Bool.false_eq_true, if_false] at this ⊢
      omega
  | finished hno hpc hlog hnext hruns hruns' =>
    refine ⟨?_, ?_, fun _ d hd => ?_⟩
    · rw [hlog]
      exact h.spaced
    · rw [hlog]
      exact h.late
    · rw [hlog] at hd
      have := h.next hpc d hd
      rw [if_pos hruns] at this
      rw [hruns', hnext]
      simp only [Bool.false_eq_true, if_false]
      omega
  | ended hno hlog hpc =>
    refine ⟨?_, ?_, fun hne => absurd hpc hne⟩
    · rw [hlog]
      exact h.spaced
    · rw [hlog]
      exact h.late
  | other hno hpc hstarts hlast hnext hruns =>
    refine ⟨?_, ?_, fun _ d hd => ?_⟩
    · rw [dues, hstarts]
      exact h.spaced
    · rw [hstarts]
      exact h.late
    · rw [dues, hstarts] at hd
      rw [hruns, hnext]
      exact h.next hpc d hd

theorem duesSpaced_run (hk : jobs[k]? = some job) (h : DuesSpaced k job s) (inputs : List Input) :
    DuesSpaced k job (run jobs s inputs) := by
  induction inputs generalizing s with
  | nil => exact h
  | cons i inputs ih =>
    have hadvanced : DuesSpaced k job (s.advance i.elapsed) := ⟨h.spaced, h.late, h.next⟩
    exact ih (hadvanced.effect (effect_act hk))

/-- A window has one start more than intervals, counted from `late` before it, if none of its starts
was due before that. -/
theorem countIn_le_of_due (hk : jobs[k]? = some job) {start length late : Int} (inputs : List Input)
    (hinit : s.log = []) (hlen : 0 ≤ length + late)
    (hdue : ∀ e ∈ startsOf k (run jobs s inputs).log, start ≤ e.1 → start - late ≤ e.1 - e.2) :
    (countIn start length (starts k (run jobs s inputs).log) : Int) ≤
      (length + late) / job.interval + 1 := by
  have hrun := duesSpaced_run hk (duesSpaced_init k job hinit) inputs
  have hpos := job.interval_pos
  have hspaced := hrun.spaced
  have hcount : countIn start length (starts k (run jobs s inputs).log) ≤
      countIn (start - late) (length + late) (dues k (run jobs s inputs).log) := by
    unfold countIn starts dues
    rw [List.countP_map, List.countP_map]
    refine List.countP_mono_left fun e he hin => ?_
    obtain ⟨hge, hle⟩ : start ≤ e.1 ∧ e.1 ≤ start + length := by simpa using hin
    have hlate := hrun.late e he
    have hfrom := hdue e he hge
    have : start - late ≤ e.1 - e.2 ∧ e.1 - e.2 ≤ start - late + (length + late) := by omega
    simpa using this
  have hle : (countIn (start - late) (length + late) (dues k (run jobs s inputs).log) : Int) ≤
      (length + late) / job.interval + 1 := hspaced.countIn_le hpos hlen
  omega

end AioHomematic.Central.Scheduler
