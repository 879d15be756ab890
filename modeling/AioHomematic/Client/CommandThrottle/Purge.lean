import AioHomematic.Client.CommandThrottle.Ownership

/-!
# The purge of a critical command

`acquire(priority=CRITICAL, purge_addresses=S)` fails what is still in the heap
for an address in `S` and leaves everything else as it is (`Purged`). A command
that the worker has already popped is not reached; by the ownership law that is
the only way to escape. The order of the rest is that of the heap, which the
purge rebuilds: on pairwise different keys it is the same order.
-/

namespace AioHomematic.Client.CommandThrottle

open Lib

variable {cfg : Config} {s t u : CommandThrottle} {a : Action}

/-! ## Invariants of service -/

/-- The steps of a throttle in service: no `stop()` and no cancelled worker. -/
def Serving (_ : CommandThrottle) : Action → Prop
  | .cancelWorker => False
  | .stop => False
  | _ => True

instance : DecidableRel Serving
  | _, .cancelWorker => .isFalse id
  | _, .stop => .isFalse id
  | _, .acquire .. => .isTrue trivial
  | _, .resume _ => .isTrue trivial
  | _, .cancelAcquire _ => .isTrue trivial
  | _, .worker _ => .isTrue trivial

theorem Serving.unhanded (h : Serving s a) : Unhanded s a := by
  cases a <;> trivial

def Ordered (s : CommandThrottle) : Prop := Heapq.IsHeap PrioritizedCommand.sortKey s.queue

theorem isHeap_nil : Heapq.IsHeap PrioritizedCommand.sortKey [] :=
  fun _ _ _ => Heapq.Ordered.of_size_le (Nat.zero_le _)

theorem popNext_ordered {now : Int} (hs : Ordered s) : Ordered (s.popNext cfg now) := by
  unfold popNext
  split
  · exact hs
  · rename_i hpop
    have hrest := Heapq.heappop_isHeap hs hpop
    dsimp only
    split <;> exact hrest

theorem afterWait_ordered {now : Int} (hs : Ordered s) : Ordered (s.afterWait cfg now) := by
  unfold afterWait
  dsimp only
  split
  · exact hs
  · exact popNext_ordered hs

theorem workerStep_ordered {now : Int} (hs : Ordered s) (h : s.workerStep cfg now = some t) :
    Ordered t := by
  unfold workerStep at h
  split at h
  · cases h
  · cases h; exact hs
  · cases h
    unfold loopTop
    split
    · exact hs
    · split
      · split
        · exact afterWait_ordered hs
        · exact hs
      · exact popNext_ordered hs
  · split at h
    · cases h; exact hs
    · split at h
      · cases h; exact afterWait_ordered hs
      · cases h
  · split at h
    · cases h; exact hs
    · split at h
      · cases h; exact hs
      · cases h
  · cases h; exact hs
  · cases h

theorem purgeCommands_ordered {purgeAddresses : List String} (hs : Ordered s) :
    Ordered (s.purgeCommands purgeAddresses) := by
  unfold purgeCommands
  dsimp only
  split
  · exact hs
  · exact Heapq.heapify_isHeap _

theorem acquire_ordered {priority : CommandPriority} {deviceAddress : String}
    {purgeAddresses : List String} {tBurst tStamp : Int} (hs : Ordered s) :
    Ordered (s.acquire cfg priority deviceAddress purgeAddresses tBurst tStamp).2 := by
  obtain ⟨stamps, count, hdown⟩ := downgrade_frame cfg s priority tBurst
  unfold acquire
  split
  · exact hs
  · split
    · unfold bypass
      dsimp only
      split
      · exact hs
      · exact purgeCommands_ordered hs
    · dsimp only
      rw [hdown]
      dsimp only
      split
      · exact hs
      · exact Heapq.heappush_isHeap hs

theorem stop_ordered (hs : Ordered s) : Ordered s.stop := by
  unfold stop
  split
  · exact hs
  · exact isHeap_nil

theorem step_ordered (hs : Ordered s) (h : step cfg s a = some t) : Ordered t := by
  cases step_cases h with
  | acquire => exact acquire_ordered hs
  | answer => exact hs
  | worker hu =>
    have hstep := workerStep_ordered hs hu
    exact hstep
  | cancelWorker => exact hs
  | stop => exact stop_ordered hs

theorem reach_ordered {ok : CommandThrottle → Action → Prop} (h : (system cfg).Reach ok s) :
    Ordered s :=
  h.invariant isHeap_nil fun s _ _ hs _ hstep => step_ordered (s := s) hs hstep

/-- A call has only returned if it was granted. -/
def Granted (s : CommandThrottle) : Prop :=
  ∀ (i : Nat) (w : Waiter), s.waiters[i]? = some w → w.result = some .returned →
    w.future = .result

/-- A waiter is an earlier one later on, or that of a command pushed just now. -/
theorem Effect.origin (h : Effect s t) {i : Nat} {w' : Waiter} (hw' : t.waiters[i]? = some w') :
    (∃ w, s.waiters[i]? = some w ∧ w.Later w') ∨ w'.result = none := by
  cases hw : s.waiters[i]? with
  | some w =>
    obtain ⟨w'', hw'', hlater⟩ := h.later hw
    rw [hw'] at hw''
    cases hw''
    exact .inl ⟨w, rfl, hlater⟩
  | none =>
    cases h with
    | push cmd hcmd ho hwaiters =>
      rw [hwaiters] at hw'
      rcases getElem?_concat_cases hw' with hold | ⟨-, rfl⟩
      · rw [hw] at hold
        cases hold
      · exact .inr rfl
    | settle r hr cmds ho hwaiters =>
      rw [hwaiters, getElem?_resolveAll, hw] at hw'
      cases hw'
    | drop hc ho hwaiters =>
      rw [hwaiters, hw] at hw'
      cases hw'
    | answer j f hf hp ho hwaiters =>
      rw [hwaiters, List.getElem?_modify, hw] at hw'
      cases hw'

theorem Effect.granted (h : Effect s t) (hs : Granted s) : Granted t := by
  intro i w' hw' hret
  obtain ⟨w, hw, hlater⟩ | hnew := h.origin hw'
  · have hres : w.future = .result := by
      by_cases hr : w.result = some .returned
      · exact hs i w hw hr
      · exact hlater.returned hr hret
    rw [hlater.future (by simp [hres]), hres]
  · simp [hnew] at hret

theorem reach_granted {ok : CommandThrottle → Action → Prop} (h : (system cfg).Reach ok s) :
    Granted s :=
  h.invariant (fun i w hw => by simp [system, init] at hw) fun s _ _ hs _ hstep =>
    (step_effect (s := s) hstep).granted hs

/-- Without a throttle interval, nothing ever waits. -/
structure Idle (s : CommandThrottle) : Prop where
  worker : s.worker = .noTask
  queue : s.queue = []
  waiters : s.waiters = []

theorem step_idle (h0 : cfg.interval = 0) (hs : Idle s) (h : step cfg s a = some t) : Idle t := by
  obtain ⟨hworker, hqueue, hwaiters⟩ := hs
  cases a with
  | acquire =>
    simp only [step, acquire, h0, if_true] at h
    split at h
    · cases h; exact ⟨hworker, hqueue, hwaiters⟩
    · cases h
  | resume => simp [step, resume, hwaiters] at h
  | cancelAcquire => simp [step, cancelAcquire, hwaiters] at h
  | worker => simp [step, workerStep, hworker] at h
  | cancelWorker => simp [step, hworker, Worker.alive] at h
  | stop =>
    simp only [step, stop, hworker, hqueue, hwaiters] at h
    split at h
    · cases h
    · split at h <;> (cases h; constructor <;> first | assumption | rfl)

theorem reach_idle {ok : CommandThrottle → Action → Prop} (h0 : cfg.interval = 0)
    (h : (system cfg).Reach ok s) : Idle s :=
  h.invariant ⟨by simp [system, init, h0], rfl, rfl⟩ fun s _ _ hs _ hstep =>
    step_idle (s := s) h0 hs hstep

/-! ## The purge -/

variable {S : List String}

theorem purgeCommands_failed {i : Nat} {w : Waiter} (hw : s.waiters[i]? = some w)
    (hS : w.command.deviceAddress ∈ S) (hp : w.future = .pending) (hqueue : w.command ∈ s.queue)
    (hfuture : w.command.future = i) :
    (s.purgeCommands S).waiters[i]? = some { w with future := .superseded } := by
  have hpurged : w.command ∈ s.queue.filter (·.deviceAddress ∈ S) :=
    List.mem_filter.mpr ⟨hqueue, by simpa using hS⟩
  unfold purgeCommands
  dsimp only
  rw [if_neg (List.ne_nil_of_mem hpurged), getElem?_resolveAll, hw, Option.map_some,
    if_pos (List.mem_map.mpr ⟨_, hpurged, hfuture⟩), Waiter.resolve, if_pos hp]

theorem purgeCommands_spared (hs : Recorded s) {i : Nat} {w : Waiter}
    (hw : s.waiters[i]? = some w) (hS : w.command.deviceAddress ∉ S) :
    (s.purgeCommands S).waiters[i]? = some w := by
  unfold purgeCommands
  dsimp only
  split
  · exact hw
  · rw [getElem?_resolveAll, hw, Option.map_some, if_neg]
    intro hmem
    obtain ⟨c, hc, rfl⟩ := List.mem_map.mp hmem
    obtain ⟨hqueue, hcS⟩ := List.mem_filter.mp hc
    obtain ⟨v, hv, rfl⟩ := hs c (List.mem_append_left _ hqueue)
    rw [hw] at hv
    cases hv
    exact hS (by simpa using hcS)

theorem purgeCommands_order (hs : Ordered s)
    (hkeys : ∀ c ∈ s.queue, ∀ d ∈ s.queue, c.sortKey = d.sortKey → c = d) :
    Heapq.drain PrioritizedCommand.sortKey (s.purgeCommands S).queue =
      (Heapq.drain PrioritizedCommand.sortKey s.queue).filter (·.deviceAddress ∉ S) := by
  unfold purgeCommands
  dsimp only
  split
  · rename_i hnone
    refine (List.filter_eq_self.mpr fun c hc => ?_).symm
    have := List.filter_eq_nil_iff.mp hnone c (Heapq.drain_perm.mem_iff.mp hc)
    simpa using this
  · exact Heapq.drain_heapify_filter hs hkeys

theorem bypass_eq (S : List String) (s : CommandThrottle) :
    (s.bypass S).waiters = (s.purgeCommands S).waiters ∧
      (s.bypass S).queue = (s.purgeCommands S).queue := by
  unfold bypass
  dsimp only
  split
  · rename_i hS
    simp [purgeCommands, hS]
  · unfold purgeCommands
    dsimp only
    split <;> exact ⟨rfl, rfl⟩

theorem step_critical {deviceAddress : String} {tBurst tStamp : Int} (h0 : cfg.interval ≠ 0)
    (hstep : step cfg s (.acquire .critical deviceAddress S tBurst tStamp) = some t) :
    t.waiters = (s.purgeCommands S).waiters ∧ t.queue = (s.purgeCommands S).queue := by
  simp only [step, acquire, h0, if_false, if_true] at hstep
  split at hstep
  · cases hstep; exact bypass_eq S s
  · cases hstep

/-- A failed command stays failed, and its call never returns. -/
theorem steps_superseded {ok : CommandThrottle → Action → Prop} {as : List Action} {i : Nat}
    {w : Waiter} (h : (system cfg).Steps ok t as u) (ht : Granted t)
    (hw : t.waiters[i]? = some w) (hf : w.future = .superseded) :
    ∃ w', u.waiters[i]? = some w' ∧ w'.future = .superseded ∧ w'.result ≠ some .returned := by
  have hgranted : Granted u :=
    h.invariant (fun s _ _ hs _ hstep => (step_effect (s := s) hstep).granted hs) ht
  have hfuture : ∃ w', u.waiters[i]? = some w' ∧ w'.future = .superseded := by
    refine h.invariant (P := fun s => ∃ w', s.waiters[i]? = some w' ∧ w'.future = .superseded) ?_
      ⟨w, hw, hf⟩
    rintro s _ v ⟨w, hw, hf⟩ _ hstep
    obtain ⟨w', hw', hlater⟩ := (step_effect hstep).later hw
    exact ⟨w', hw', (hlater.future (by simp [hf])).trans hf⟩
  obtain ⟨w', hw', hf'⟩ := hfuture
  exact ⟨w', hw', hf', fun hret => by simpa [hf'] using hgranted i w' hw' hret⟩

/-- **A critical command** fails every command for `S` that the worker has not popped and that was
not granted before, for good. All other calls, and the order in which the heap serves what is left,
are as they were; the order as long as no two commands in the heap have one priority and one
timestamp. -/
theorem critical_purge {deviceAddress : String} {tBurst tStamp : Int}
    (h : (system cfg).Reach Serving s)
    (hstep : step cfg s (.acquire .critical deviceAddress S tBurst tStamp) = some t) :
    (∀ (i : Nat) (w : Waiter), s.waiters[i]? = some w → w.command.deviceAddress ∈ S →
      w.future = .pending → w.command ∉ s.worker.held →
      t.waiters[i]? = some { w with future := .superseded } ∧
      ∀ as u, (system cfg).Steps StepSystem.Free t as u →
        ∃ w', u.waiters[i]? = some w' ∧ w'.future = .superseded ∧ w'.result ≠ some .returned) ∧
    (∀ (i : Nat) (w : Waiter), s.waiters[i]? = some w → w.command.deviceAddress ∉ S →
      t.waiters[i]? = some w) ∧
    ((∀ c ∈ s.queue, ∀ d ∈ s.queue, c.sortKey = d.sortKey → c = d) →
      Heapq.drain PrioritizedCommand.sortKey t.queue =
        (Heapq.drain PrioritizedCommand.sortKey s.queue).filter (·.deviceAddress ∉ S)) := by
  have hsound : Sound s := by
    obtain ⟨as, hsteps⟩ := h
    exact reach_sound ⟨as, hsteps.mono fun _ _ => Serving.unhanded⟩
  have hgranted : Granted t := (step_effect hstep).granted (reach_granted h)
  by_cases h0 : cfg.interval = 0
  · obtain ⟨-, hqueue, hwaiters⟩ := reach_idle h0 h
    have ht : t.queue = [] := (step_idle h0 (reach_idle h0 h) hstep).queue
    refine ⟨fun i w hw => ?_, fun i w hw => ?_, fun _ => ?_⟩
    · simp [hwaiters] at hw
    · simp [hwaiters] at hw
    · rw [ht, hqueue]; rfl
  · obtain ⟨hwaiters, hqueue⟩ := step_critical h0 hstep
    rw [hwaiters, hqueue]
    refine ⟨fun i w hw hS hp hheld => ?_, fun i w => purgeCommands_spared hsound.recorded,
      purgeCommands_order (reach_ordered h)⟩
    obtain ⟨hc, hfuture⟩ := hsound.owned hw hp
    have hfailed := purgeCommands_failed hw hS hp ((List.mem_append.mp hc).resolve_right hheld)
      hfuture
    exact ⟨hfailed, fun as u hsteps => steps_superseded hsteps hgranted (hwaiters ▸ hfailed) rfl⟩

/-- One command for `"VCU1:3"` in the worker's hand, one in the heap and one for `"VCU2:1"`: the
critical command fails the one in the heap. -/
theorem critical_purge_cover :
    ∃ s t w, (system ⟨100, 5, 500⟩).replay Serving (init ⟨100, 5, 500⟩)
        [.acquire .high "VCU1:3" [] 1000 1000, .worker 1000, .worker 1000, .worker 1000,
          .worker 1000, .worker 1000, .acquire .high "VCU1:3" [] 1010 1010, .worker 1010,
          .acquire .high "VCU1:3" [] 1020 1020, .acquire .high "VCU2:1" [] 1030 1030] = some s ∧
      step ⟨100, 5, 500⟩ s (.acquire .critical "VCU1:3" ["VCU1:3", "VCU1:4"] 1050 1050) = some t ∧
      s.waiters[2]? = some w ∧ w.future = .pending ∧
      t.waiters[2]? = some { w with future := .superseded } := by
  obtain ⟨s, hs, hstep, hw⟩ := StepSystem.replay_any
    (p := fun s =>
      (step ⟨100, 5, 500⟩ s (.acquire .critical "VCU1:3" ["VCU1:3", "VCU1:4"] 1050 1050)).isSome ∧
      (s.waiters[2]?.any fun w => w.command.deviceAddress = "VCU1:3" ∧ w.future = .pending ∧
        w.command ∉ s.worker.held) = true)
    (show ((system ⟨100, 5, 500⟩).replay Serving (init ⟨100, 5, 500⟩)
      [.acquire .high "VCU1:3" [] 1000 1000, .worker 1000, .worker 1000, .worker 1000,
        .worker 1000, .worker 1000, .acquire .high "VCU1:3" [] 1010 1010, .worker 1010,
        .acquire .high "VCU1:3" [] 1020 1020, .acquire .high "VCU2:1" [] 1030 1030]).any _ = true
      by decide)
  obtain ⟨t, ht⟩ := Option.isSome_iff_exists.mp hstep
  obtain ⟨w, hw, htest⟩ := (Option.any_eq_true _ _).mp hw
  obtain ⟨haddress, hp, hheld⟩ := of_decide_eq_true htest
  have hpurge := critical_purge (StepSystem.reach_of_replay hs) ht
  exact ⟨s, t, w, hs, ht, hw, hp, (hpurge.1 2 w hw (by simp [haddress]) hp hheld).1⟩

/-- The worker grants the command it held when the critical command came; and of three commands
with one timestamp, the two that are left change places. -/
theorem critical_purge_escapes :
    (∃ s t u as, (system ⟨100, 5, 500⟩).Reach Serving s ∧
      step ⟨100, 5, 500⟩ s (.acquire .critical "VCU1:3" ["VCU1:3"] 1050 1050) = some t ∧
      (system ⟨100, 5, 500⟩).Steps Serving t as u ∧
      (s.waiters[1]?.map fun w => (w.command.deviceAddress, w.future)) =
        some ("VCU1:3", .pending) ∧
      u.waiters[1]?.map (·.result) = some (some .returned)) ∧
    ∃ s t, (system ⟨100, 5, 500⟩).Reach Serving s ∧
      step ⟨100, 5, 500⟩ s (.acquire .critical "VCU1:3" ["VCU1:3"] 1050 1050) = some t ∧
      ((Heapq.drain PrioritizedCommand.sortKey s.queue).filter
        (·.deviceAddress ∉ ["VCU1:3"])).map (·.future) = [3, 4] ∧
      (Heapq.drain PrioritizedCommand.sortKey t.queue).map (·.future) = [4, 3] := by
  constructor
  · obtain ⟨s, hs, hw, hrest⟩ := StepSystem.replay_any
      (p := fun s => (s.waiters[1]?.map fun w => (w.command.deviceAddress, w.future)) =
          some ("VCU1:3", .pending) ∧
        ((step ⟨100, 5, 500⟩ s (.acquire .critical "VCU1:3" ["VCU1:3"] 1050 1050)).any fun t =>
          ((system ⟨100, 5, 500⟩).replay Serving t [.worker 1100, .worker 1100, .worker 1100,
            .resume 1]).any
            fun u => u.waiters[1]?.map (·.result) = some (some .returned)) = true)
      (show ((system ⟨100, 5, 500⟩).replay Serving (init ⟨100, 5, 500⟩)
        [.acquire .high "VCU1:3" [] 1000 1000, .worker 1000, .worker 1000, .worker 1000,
          .worker 1000, .worker 1000, .acquire .high "VCU1:3" [] 1010 1010,
          .worker 1010]).any _ = true by decide)
    obtain ⟨t, ht, hrest⟩ := (Option.any_eq_true _ _).mp hrest
    obtain ⟨u, hu, hret⟩ := (Option.any_eq_true _ _).mp hrest
    exact ⟨s, t, u, _, StepSystem.reach_of_replay hs, ht, StepSystem.steps_of_replay hu, hw,
      of_decide_eq_true hret⟩
  · obtain ⟨s, hs, hbefore, hafter⟩ := StepSystem.replay_any
      (p := fun s => ((Heapq.drain PrioritizedCommand.sortKey s.queue).filter
          (·.deviceAddress ∉ ["VCU1:3"])).map (·.future) = [3, 4] ∧
        ((step ⟨100, 5, 500⟩ s (.acquire .critical "VCU1:3" ["VCU1:3"] 1050 1050)).any fun t =>
          (Heapq.drain PrioritizedCommand.sortKey t.queue).map (·.future) = [4, 3]) = true)
      (show ((system ⟨100, 5, 500⟩).replay Serving (init ⟨100, 5, 500⟩)
        [.acquire .high "VCU1:3" [] 1000 1000, .worker 1000, .worker 1000, .worker 1000,
          .worker 1000, .worker 1000, .acquire .high "VCU1:3" [] 1010 1010, .worker 1010,
          .acquire .high "VCU1:3" [] 1020 1020, .acquire .high "VCU2:1" [] 1020 1020,
          .acquire .high "VCU2:1" [] 1020 1020]).any _ = true by decide)
    obtain ⟨t, ht, hafter⟩ := (Option.any_eq_true _ _).mp hafter
    exact ⟨s, t, StepSystem.reach_of_replay hs, ht, hbefore, of_decide_eq_true hafter⟩

end AioHomematic.Client.CommandThrottle

/-!
## One step of the worker

`Worked` says once what a step of the worker does to the heap, to what the
worker has in its hand and to the time of the last command.
-/

namespace AioHomematic.Client.CommandThrottle

open Lib

variable {cfg : Config} {s s' t : CommandThrottle} {a : Action} {now : Int}

/-- The steps of the worker, with what they lead to. -/
inductive Worked (cfg : Config) (now : Int) (s : CommandThrottle) : CommandThrottle → Prop where
  /-- The worker starts, waits, goes on to the head of its loop or ends. -/
  | idle {u} (hqueue : u.queue = s.queue) (hlast : u.lastCommandTime = s.lastCommandTime)
      (hheld : u.worker.held = []) : Worked cfg now s u
  | pop {u cmd rest} (hheld : s.worker.held = [])
      (hpop : Heapq.heappop PrioritizedCommand.sortKey s.queue = some (cmd, rest))
      (hqueue : u.queue = rest) (hlast : u.lastCommandTime = s.lastCommandTime)
      (hworker : u.worker = .sleeping cmd (s.lastCommandTime + cfg.interval) ∨
        u.worker = .granting cmd ∧ s.lastCommandTime + cfg.interval ≤ now) : Worked cfg now s u
  | wake {cmd wakeAt} (hworker : s.worker = .sleeping cmd wakeAt) (hwake : wakeAt ≤ now) :
      Worked cfg now s { s with worker := .granting cmd }
  | grant {cmd} (hworker : s.worker = .granting cmd) : Worked cfg now s (s.grant cmd now)

theorem popNext_worked (hheld : s.worker.held = []) (hqueue : s'.queue = s.queue)
    (hlast : s'.lastCommandTime = s.lastCommandTime) : Worked cfg now s (s'.popNext cfg now) := by
  unfold popNext
  split
  · exact .idle hqueue hlast rfl
  next cmd rest hpop =>
    rw [hqueue] at hpop
    dsimp only
    split
    · have htime : now + (cfg.interval - (now - s'.lastCommandTime)) =
          s.lastCommandTime + cfg.interval := by omega
      exact .pop hheld hpop rfl hlast (.inl (congrArg (Worker.sleeping cmd) htime))
    next hslow =>
      refine .pop hheld hpop rfl hlast (.inr ⟨rfl, ?_⟩)
      rw [hlast] at hslow
      omega

theorem afterWait_worked (hheld : s.worker.held = []) : Worked cfg now s (s.afterWait cfg now) := by
  unfold afterWait
  dsimp only
  split
  · exact .idle rfl rfl rfl
  · exact popNext_worked hheld rfl rfl

theorem loopTop_worked (hheld : s.worker.held = []) : Worked cfg now s (s.loopTop cfg now) := by
  unfold loopTop
  split
  · exact .idle rfl rfl rfl
  · split
    · split
      · exact afterWait_worked hheld
      · exact .idle rfl rfl rfl
    · exact popNext_worked hheld rfl rfl

theorem workerStep_worked {u : CommandThrottle} (h : s.workerStep cfg now = some u) :
    Worked cfg now s u := by
  unfold workerStep at h
  split at h
  · cases h
  · cases h
    refine .idle rfl rfl ?_
    split <;> rfl
  next hworker =>
    cases h
    exact loopTop_worked (by rw [hworker]; rfl)
  next hworker =>
    split at h
    · cases h
      exact .idle rfl rfl rfl
    · split at h
      · cases h
        exact afterWait_worked (by rw [hworker]; rfl)
      · cases h
  next cmd wakeAt hworker =>
    split at h
    · cases h
      exact .idle rfl rfl rfl
    · split at h
      next hwake =>
        cases h
        exact .wake hworker hwake
      · cases h
  next cmd hworker =>
    cases h
    exact .grant hworker
  · cases h

theorem clock_le_of_step (h : step cfg s a = some t) : s.clock ≤ t.clock := by
  cases a with
  | acquire =>
    simp only [step] at h
    split at h
    next hen =>
      cases h
      exact Int.le_trans hen.2.1 hen.2.2
    · cases h
  | worker now =>
    simp only [step] at h
    split at h
    next hle =>
      obtain ⟨u, -, rfl⟩ := Option.map_eq_some_iff.mp h
      exact hle
    · cases h
  | stop =>
    cases step_cases h with
    | answer => exact Int.le_refl _
    | stop =>
      unfold stop
      split <;> exact Int.le_refl _
  | _ => cases step_cases h <;> exact Int.le_refl _

end AioHomematic.Client.CommandThrottle
