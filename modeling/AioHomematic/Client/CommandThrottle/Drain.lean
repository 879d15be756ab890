import AioHomematic.Client.CommandThrottle.Order

/-!
# The worker serves every call

A throttle in service neither spins nor stalls. `due` is a potential for the
steps of the worker: each of them takes from it, and an `acquire()` adds at most
five. And while a call waits, the worker has a step to make, at the latest when
its delay is over. So the worker alone answers all calls that wait, in boundedly
many steps.
-/

namespace AioHomematic.Client

open Lib

/-- The steps of the worker until its next pop. -/
def Worker.due : Worker → Nat
  | noTask => 0
  | created => 2
  | top => 1
  | waiting => 0
  | sleeping _ _ => 3
  | granting _ => 2
  | done => 0

namespace CommandThrottle

variable {cfg : Config} {s t u : CommandThrottle} {a : Action} {as : List Action} {now : Int}

/-! ## The worker does not spin -/

/-- The steps for what is in the heap: three for a command, and two for the wake-up event. -/
def queueDue (s : CommandThrottle) : Nat :=
  3 * s.queue.length + (if s.commandAvailable then 2 else 0)

/-- A bound on the steps that the worker can make alone. -/
def due (s : CommandThrottle) : Nat := s.queueDue + s.worker.due

def isWorker : Action → Bool
  | .worker _ => true
  | _ => false

def isAcquire : Action → Bool
  | .acquire .. => true
  | _ => false

theorem length_heappop {queue rest : List PrioritizedCommand} {cmd : PrioritizedCommand}
    (h : Heapq.heappop PrioritizedCommand.sortKey queue = some (cmd, rest)) :
    queue.length = rest.length + 1 :=
  (Heapq.heappop_perm h).length_eq

theorem popNext_due :
    (s.popNext cfg now).due ≤ s.queueDue + (if s.queue = [] then 1 else 0) := by
  unfold popNext
  split
  next hpop =>
    rw [if_pos (Heapq.heappop_eq_none.mp hpop)]
    exact Nat.le_refl (s.queueDue + 1)
  next cmd rest hpop =>
    have hlength := length_heappop hpop
    dsimp only
    split <;> simp only [due, queueDue, Worker.due] <;> omega

theorem afterWait_due (hstopped : s.stopped = false) :
    (s.afterWait cfg now).due ≤ 3 * s.queue.length + 1 := by
  unfold afterWait
  dsimp only
  rw [hstopped]
  refine Nat.le_trans popNext_due (Nat.add_le_add_left (?_ : ite _ _ _ ≤ 1) _)
  split
  · exact Nat.le_refl 1
  · exact Nat.zero_le 1

theorem queueDue_of_available (h : s.commandAvailable = true) :
    s.queueDue = 3 * s.queue.length + 2 := by
  rw [queueDue, if_pos h]

/-- Each step of the worker takes from what it has to do. -/
theorem workerStep_due (hcancel : s.cancelRequested = false) (hstopped : s.stopped = false)
    (h : s.workerStep cfg now = some u) : u.due < s.due := by
  unfold workerStep at h
  rw [hcancel] at h
  have hs : s.due = s.queueDue + s.worker.due := rfl
  cases hworker : s.worker with
  | noTask | done =>
    rw [hworker] at h
    cases h
  | created =>
    rw [hworker] at h hs
    cases h
    rw [hs]
    exact Nat.lt_succ_self (s.queueDue + 1)
  | top =>
    rw [hworker] at h hs
    cases h
    rw [hs]
    unfold loopTop
    rw [if_neg (by rw [hstopped]; nofun)]
    split
    · split
      next havailable =>
        have hafter : (s.afterWait cfg now).due ≤ 3 * s.queue.length + 1 := afterWait_due hstopped
        rw [queueDue_of_available havailable]
        exact Nat.lt_of_le_of_lt hafter (by simp only [Worker.due]; omega)
      · exact Nat.lt_succ_self s.queueDue
    next hqueue =>
      have hpop : (s.popNext cfg now).due ≤ s.queueDue + (if s.queue = [] then 1 else 0) :=
        popNext_due
      rw [if_neg hqueue] at hpop
      exact Nat.lt_succ_of_le hpop
  | waiting =>
    rw [hworker] at h hs
    simp only [Bool.false_eq_true, if_false] at h
    split at h
    next havailable =>
      cases h
      rw [hs, queueDue_of_available havailable]
      exact Nat.lt_succ_of_le (afterWait_due hstopped)
    · cases h
  | sleeping cmd wakeAt =>
    rw [hworker] at h hs
    simp only [Bool.false_eq_true, if_false] at h
    split at h
    · cases h
      rw [hs]
      exact Nat.lt_succ_self (s.queueDue + 2)
    · cases h
  | granting cmd =>
    rw [hworker] at h hs
    cases h
    rw [hs]
    exact Nat.lt_succ_self (s.queueDue + 1)

/-! ## Throttles in service -/

/-- A throttle that has its worker, and keeps it. -/
structure InService (s : CommandThrottle) : Prop where
  running : s.stopped = false
  kept : s.cancelRequested = false
  worker : s.worker ≠ .noTask
  alive : s.worker ≠ .done

theorem init_inService (hpos : 0 < cfg.interval) : InService (init cfg) := by
  unfold init
  rw [if_pos hpos]
  exact ⟨rfl, rfl, nofun, nofun⟩

theorem popNext_inService (hs : InService s) : InService (s.popNext cfg now) := by
  unfold popNext
  split
  · exact ⟨hs.running, hs.kept, nofun, nofun⟩
  · dsimp only
    split <;> exact ⟨hs.running, hs.kept, nofun, nofun⟩

theorem afterWait_inService (hs : InService s) : InService (s.afterWait cfg now) := by
  unfold afterWait
  dsimp only
  rw [if_neg (by rw [hs.running]; nofun)]
  exact popNext_inService (s := { s with commandAvailable := false }) ⟨hs.running, hs.kept,
    hs.worker, hs.alive⟩

theorem loopTop_inService (hs : InService s) : InService (s.loopTop cfg now) := by
  unfold loopTop
  rw [if_neg (by rw [hs.running]; nofun)]
  split
  · split
    · exact afterWait_inService hs
    · exact ⟨hs.running, hs.kept, nofun, nofun⟩
  · exact popNext_inService hs

theorem workerStep_inService (hs : InService s) (h : s.workerStep cfg now = some u) :
    InService u := by
  have hcancel : ¬ s.cancelRequested = true := by
    rw [hs.kept]
    nofun
  unfold workerStep at h
  split at h
  · cases h
  · rw [if_neg hcancel] at h
    cases h
    exact ⟨hs.running, hs.kept, nofun, nofun⟩
  · cases h
    exact loopTop_inService hs
  · rw [if_neg hcancel] at h
    split at h
    · cases h
      exact afterWait_inService hs
    · cases h
  · rw [if_neg hcancel] at h
    split at h
    · cases h
      exact ⟨hs.running, hs.kept, nofun, nofun⟩
    · cases h
  · cases h
    exact ⟨hs.running, hs.kept, nofun, nofun⟩
  · cases h

theorem step_inService (hs : InService s) (hok : Serving s a) (h : step cfg s a = some t) :
    InService t := by
  cases step_cases h with
  | acquire =>
    obtain ⟨hworker, hcancel, -, hstopped⟩ := acquire_frame rfl
    refine ⟨hstopped.trans hs.running, hcancel.trans hs.kept, ?_, ?_⟩
    · dsimp only
      rw [hworker]
      exact hs.worker
    · dsimp only
      rw [hworker]
      exact hs.alive
  | answer => exact ⟨hs.running, hs.kept, hs.worker, hs.alive⟩
  | worker hu =>
    have hu := workerStep_inService hs hu
    exact ⟨hu.running, hu.kept, hu.worker, hu.alive⟩
  | cancelWorker => cases hok
  | stop => cases hok

theorem Queued.length_le (h : Queued cfg s a t) : t.queue.length ≤ s.queue.length + 1 := by
  cases h with
  | push cmd _ _ _ _ hqueue => exact Nat.le_of_eq hqueue.length_eq
  | shrink hqueue => exact Nat.le_succ_of_le hqueue.length_le
  | pop cmd hpop =>
    have hlength := length_heappop hpop
    omega

theorem due_le (hworker : t.worker = s.worker) (hlength : t.queue.length ≤ s.queue.length + 1) :
    t.due ≤ s.due + 5 := by
  unfold due queueDue
  rw [hworker]
  split <;> split <;> omega

/-- A step costs the worker what it does itself, and an `acquire()` brings five at most. -/
theorem step_due (hs : InService s) (hok : Serving s a) (h : step cfg s a = some t) :
    t.due + (if isWorker a then 1 else 0) ≤ s.due + 5 * (if isAcquire a then 1 else 0) := by
  cases a with
  | worker now =>
    simp only [step] at h
    split at h
    · obtain ⟨u, hu, rfl⟩ := Option.map_eq_some_iff.mp h
      have hdue : u.due < s.due := workerStep_due hs.kept hs.running hu
      exact hdue
    · cases h
  | acquire =>
    refine due_le ?_ (step_queued h).length_le
    cases step_cases h with
    | acquire => exact (acquire_frame rfl).1
    | answer => rfl
  | resume | cancelAcquire =>
    cases step_cases h with
    | answer => exact Nat.le_refl s.due
  | cancelWorker | stop => cases hok

/-! ## The worker does not stall -/

/-- Late enough for the worker to go on. -/
def wakeTime (s : CommandThrottle) : Int :=
  match s.worker with
  | .sleeping _ wakeAt => max s.clock wakeAt
  | _ => s.clock

/-- While a call waits, the worker goes on as soon as its delay is over. -/
theorem worker_enabled (hs : InService s) (hkept : NoLostCommand s) {w : Waiter}
    (hw : w ∈ s.waiters) (hpending : w.future = .pending) (hnow : s.wakeTime ≤ now) :
    ∃ t, step cfg s (.worker now) = some t := by
  obtain ⟨i, hw⟩ := List.mem_iff_getElem?.mp hw
  have hclock : s.clock ≤ now := by
    unfold wakeTime at hnow
    split at hnow <;> omega
  have hcancel : ¬ s.cancelRequested = true := by
    rw [hs.kept]
    nofun
  simp only [step, if_pos hclock]
  unfold workerStep
  cases hworker : s.worker with
  | noTask => exact absurd hworker hs.worker
  | done => exact absurd hworker hs.alive
  | created => exact ⟨_, rfl⟩
  | top => exact ⟨_, rfl⟩
  | granting cmd => exact ⟨_, rfl⟩
  | waiting =>
    have havailable : s.commandAvailable = true := by
      refine (hkept.wakeup hworker).resolve_left fun hqueue => ?_
      rcases hkept.owner i w hw hpending with hmem | ⟨hheld, -⟩
      · rw [hqueue] at hmem
        cases hmem
      · rw [hworker] at hheld
        cases hheld
    simp only [if_neg hcancel, if_pos havailable]
    exact ⟨_, rfl⟩
  | sleeping cmd wakeAt =>
    have hwake : wakeAt ≤ now := by
      simp only [wakeTime, hworker] at hnow
      omega
    simp only [if_neg hcancel, if_pos hwake]
    exact ⟨_, rfl⟩

/-! ## Every call is answered -/

theorem reach_inService (hpos : 0 < cfg.interval) (h : (system cfg).Reach Serving s) :
    InService s :=
  h.invariant (init_inService hpos) fun _ _ _ hs hok hstep => step_inService hs hok hstep

theorem reach_unhanded (h : (system cfg).Reach Serving s) : (system cfg).Reach Unhanded s := by
  obtain ⟨as, h⟩ := h
  exact ⟨as, h.mono fun _ _ => Serving.unhanded⟩

/-- The steps of the worker alone. -/
def Alone (_ : CommandThrottle) (a : Action) : Prop := ∃ now, a = .worker now

theorem Alone.serving (h : Alone s a) : Serving s a := by
  obtain ⟨now, rfl⟩ := h
  trivial

@[simp] theorem popNext_waiters : (s.popNext cfg now).waiters = s.waiters := by
  unfold popNext
  split
  · rfl
  · dsimp only
    split <;> rfl

@[simp] theorem afterWait_waiters : (s.afterWait cfg now).waiters = s.waiters := by
  unfold afterWait
  dsimp only
  split
  · rfl
  · exact popNext_waiters

@[simp] theorem loopTop_waiters : (s.loopTop cfg now).waiters = s.waiters := by
  unfold loopTop
  split
  · rfl
  · split
    · split
      · exact afterWait_waiters
      · rfl
    · exact popNext_waiters

theorem workerStep_waiters (h : s.workerStep cfg now = some u) :
    u.waiters = s.waiters ∨ ∃ cmd, u.waiters = resolve .result s.waiters cmd := by
  unfold workerStep at h
  split at h
  · cases h
  · cases h
    exact .inl rfl
  · cases h
    exact .inl loopTop_waiters
  · split at h
    · cases h
      exact .inl rfl
    · split at h
      · cases h
        exact .inl afterWait_waiters
      · cases h
  · split at h
    · cases h
      exact .inl rfl
    · split at h
      · cases h
        exact .inl rfl
      · cases h
  next cmd _ =>
    cases h
    exact .inr ⟨cmd, rfl⟩
  · cases h

/-- The call waits, or its command has been granted. -/
def WaitsOrGranted (i : Nat) (s : CommandThrottle) : Prop :=
  ∃ w, s.waiters[i]? = some w ∧ (w.future = .pending ∨ w.future = .result)

theorem step_waitsOrGranted {i : Nat} (hs : WaitsOrGranted i s) (halone : Alone s a)
    (h : step cfg s a = some t) : WaitsOrGranted i t := by
  obtain ⟨now, rfl⟩ := halone
  simp only [step] at h
  split at h
  · obtain ⟨u, hu, rfl⟩ := Option.map_eq_some_iff.mp h
    obtain ⟨w, hw, hwaits⟩ := hs
    rcases workerStep_waiters hu with hsame | ⟨cmd, hgrant⟩
    · exact ⟨w, hsame ▸ hw, hwaits⟩
    · refine ⟨if cmd.future = i then w.resolve .result else w, ?_, ?_⟩
      · dsimp only
        rw [hgrant, resolve, List.getElem?_modify, hw]
        rfl
      · split
        · unfold Waiter.resolve
          split
          · exact .inr rfl
          · exact hwaits
        · exact hwaits
  · cases h

theorem sum_map_ite (p : Action → Bool) (as : List Action) (k : Nat) :
    (as.map fun a => k * if p a then 1 else 0).sum = k * as.countP p := by
  induction as with
  | nil => rfl
  | cons a as ih =>
    rw [List.map_cons, List.sum_cons, ih, List.countP_cons, Nat.mul_add, Nat.add_comm]

/-- A throttle in service answers its calls: over any run the worker makes at most five steps for
each `acquire()`, besides those it had to make before; while a call waits the worker goes on as soon
as its delay is over; and where the worker alone can go no further, every call that waited has its
command granted. -/
theorem calls_served (hpos : 0 < cfg.interval) (h : (system cfg).Reach Serving s) :
    (∀ as t, (system cfg).Steps Serving s as t →
      as.countP isWorker ≤ s.due + 5 * as.countP isAcquire) ∧
    (∀ w ∈ s.waiters, w.future = .pending → ∀ now, s.wakeTime ≤ now →
      ∃ t, step cfg s (.worker now) = some t) ∧
    ∀ as t, (system cfg).Steps Alone s as t → (∀ now, step cfg t (.worker now) = none) →
      ∀ (i : Nat) (w : Waiter), s.waiters[i]? = some w → w.future = .pending →
        ∃ w', t.waiters[i]? = some w' ∧ w'.future = .result := by
  have hs := reach_inService hpos h
  refine ⟨fun as t hsteps => ?_, fun w hw hpending now hnow => ?_,
    fun as t hsteps hend i w hw hpending => ?_⟩
  · have hpaid : t.due + (as.map fun a => 1 * if isWorker a then 1 else 0).sum ≤
        s.due + (as.map fun a => 5 * if isAcquire a then 1 else 0).sum :=
      hsteps.amortized (fun _ _ _ hs hok hstep => step_inService hs hok hstep)
        (fun _ _ _ hs hok hstep => by
          rw [Nat.one_mul]
          exact step_due hs hok hstep) hs
    rw [sum_map_ite, sum_map_ite] at hpaid
    omega
  · exact worker_enabled hs (no_lost_command (reach_unhanded h)) hw hpending hnow
  · have ht : (system cfg).Reach Serving t := h.steps (hsteps.mono fun _ _ => Alone.serving)
    obtain ⟨w', hw', hwaits | hgranted⟩ : WaitsOrGranted i t :=
      hsteps.invariant (fun _ _ _ hs hok hstep => step_waitsOrGranted hs hok hstep)
        ⟨w, hw, .inl hpending⟩
    · obtain ⟨u, hu⟩ := worker_enabled (reach_inService hpos ht)
        (no_lost_command (reach_unhanded ht)) (List.mem_of_getElem? hw') hwaits (Int.le_refl _)
      rw [hend] at hu
      cases hu
    · exact ⟨w', hw', hgranted⟩

/-- Two commands wait, and a critical one has purged a third. -/
theorem calls_served_two :
    ∃ s, (system ⟨100, 5, 500⟩).replay Serving (init ⟨100, 5, 500⟩)
        [.worker 900, .worker 900, .acquire .low "VCU1:1" [] 1000 1000,
          .acquire .low "VCU2:1" [] 1001 1001, .acquire .high "VCU1:2" [] 1002 1002,
          .acquire .critical "VCU2:1" ["VCU2:1"] 1003 1003] =
      some s ∧
      s.waiters.map (·.future) = [.pending, .superseded, .pending] ∧
      ∀ as t, (system ⟨100, 5, 500⟩).Steps Alone s as t →
        (∀ now, step ⟨100, 5, 500⟩ t (.worker now) = none) →
        ∃ w', t.waiters[2]? = some w' ∧ w'.future = .result := by
  obtain ⟨s, hs, hfutures⟩ := StepSystem.replay_any
    (p := fun s => s.waiters.map (·.future) = [.pending, .superseded, .pending])
    (show ((system ⟨100, 5, 500⟩).replay Serving (init ⟨100, 5, 500⟩)
      [.worker 900, .worker 900, .acquire .low "VCU1:1" [] 1000 1000,
        .acquire .low "VCU2:1" [] 1001 1001, .acquire .high "VCU1:2" [] 1002 1002,
        .acquire .critical "VCU2:1" ["VCU2:1"] 1003 1003]).any _ = true by decide)
  refine ⟨s, hs, hfutures, fun as t hsteps hend => ?_⟩
  have hw : (s.waiters.map (·.future))[2]? = some .pending := by rw [hfutures]; rfl
  rw [List.getElem?_map] at hw
  obtain ⟨w, hw, hpending⟩ := Option.map_eq_some_iff.mp hw
  exact (calls_served (by decide) (StepSystem.reach_of_replay hs)).2.2 as t hsteps hend 2 w hw
    hpending

end CommandThrottle

end AioHomematic.Client
