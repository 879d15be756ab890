import AioHomematic.Client.CommandThrottle.Purge

/-!
# The order of grants

The heap compares commands by class and timestamp, so it keeps the order in which they were
enqueued as long as no two commands of a class wait with one timestamp (`Distinct`). The worker
takes a command before its delay; a command of a better class that comes during the delay is served
after it (`Unovertaken` rules that out).
-/

namespace AioHomematic.Client.CommandThrottle

open Lib

variable {cfg : Config} {s t u : CommandThrottle} {a : Action} {now : Int}

/-- Of a better class, or of the same class and enqueued before. -/
def Before (c d : PrioritizedCommand) : Prop :=
  c.priority.value < d.priority.value ∨ c.priority = d.priority ∧ c.future < d.future

instance : DecidableRel Before := fun _ _ => inferInstanceAs (Decidable (_ ∨ _))

/-- The command that the worker takes goes before all others in the heap. -/
def TakesFirst (cfg : Config) (s : CommandThrottle) : Prop :=
  ∀ now t cmd, step cfg s (.worker now) = some t → s.worker.held = [] → cmd ∈ t.worker.held →
    ∀ c ∈ s.queue, c ≠ cmd → Before cmd c

/-- The command that the worker grants goes before all others that wait. -/
def GrantsFirst (s : CommandThrottle) : Prop :=
  ∀ cmd, s.worker = .granting cmd → ∀ (i : Nat) (w : Waiter), s.waiters[i]? = some w →
    w.future = .pending → w.command ≠ cmd → Before cmd w.command

/-- The class and the timestamp with which a command is enqueued. -/
def enqueued (cfg : Config) (s : CommandThrottle) : Action → Option (CommandPriority × Int)
  | .acquire priority _ _ tBurst tStamp =>
    if cfg.interval = 0 ∨ priority = .critical ∨ s.stopped = true then none
    else some ((s.downgrade cfg priority tBurst).1, tStamp)
  | _ => none

/-- No command of its class waits in the heap with the same timestamp. -/
def Distinct (cfg : Config) (s : CommandThrottle) (a : Action) : Prop :=
  ∀ e ∈ s.enqueued cfg a, ∀ c ∈ s.queue, c.priority = e.1 → c.timestamp ≠ e.2

/-- The worker has no command of a lower class in its hand. -/
def Unovertaken (cfg : Config) (s : CommandThrottle) (a : Action) : Prop :=
  ∀ e ∈ s.enqueued cfg a, ∀ c ∈ s.worker.held, c.priority.value ≤ e.1.value

def InTurn (cfg : Config) (s : CommandThrottle) (a : Action) : Prop :=
  Distinct cfg s a ∧ Unovertaken cfg s a

instance (cfg : Config) : DecidableRel (Distinct cfg) := fun s a =>
  inferInstanceAs (Decidable (∀ e ∈ s.enqueued cfg a, _))

instance (cfg : Config) : DecidableRel (Unovertaken cfg) := fun s a =>
  inferInstanceAs (Decidable (∀ e ∈ s.enqueued cfg a, _))

instance (cfg : Config) : DecidableRel (InTurn cfg) := fun _ _ =>
  inferInstanceAs (Decidable (_ ∧ _))

/-! ## What a step does to the heap -/

inductive Queued (cfg : Config) (s : CommandThrottle) (a : Action) (t : CommandThrottle) :
    Prop where
  | push (cmd : PrioritizedCommand) (hcmd : s.enqueued cfg a = some (cmd.priority, cmd.timestamp))
      (hfuture : cmd.future = s.waiters.length) (hclock : s.clock ≤ cmd.timestamp)
      (hstamp : cmd.timestamp ≤ t.clock) (hqueue : t.queue.Perm (cmd :: s.queue))
      (hheld : t.worker.held = s.worker.held)
  | shrink (hqueue : t.queue.Subperm s.queue)
      (hheld : t.worker.held = s.worker.held ∨ t.worker.held = [])
  | pop (cmd : PrioritizedCommand)
      (hpop : Heapq.heappop PrioritizedCommand.sortKey s.queue = some (cmd, t.queue))
      (hheld : t.worker.held = [cmd])

theorem Queued.same (hqueue : t.queue = s.queue)
    (hheld : t.worker.held = s.worker.held ∨ t.worker.held = []) : Queued cfg s a t :=
  .shrink (List.Perm.of_eq hqueue).subperm hheld

theorem bypass_subperm (purgeAddresses : List String) :
    (s.bypass purgeAddresses).queue.Subperm s.queue := by
  rw [(bypass_eq purgeAddresses s).2, purgeCommands]
  split
  · exact List.Subperm.refl s.queue
  · exact Heapq.heapify_perm.subperm.trans List.filter_sublist.subperm

theorem acquire_queued {priority : CommandPriority} {deviceAddress : String}
    {purgeAddresses : List String} {tBurst tStamp : Int} (hclock : s.clock ≤ tStamp) :
    Queued cfg s (.acquire priority deviceAddress purgeAddresses tBurst tStamp)
      { (s.acquire cfg priority deviceAddress purgeAddresses tBurst tStamp).2 with
        clock := tStamp } := by
  have hheld : (s.acquire cfg priority deviceAddress purgeAddresses tBurst tStamp).2.worker.held =
      s.worker.held := by
    rw [(acquire_frame rfl).1]
  obtain ⟨stamps, count, hdown⟩ := downgrade_frame cfg s priority tBurst
  by_cases hinterval : cfg.interval = 0
  · refine .same ?_ (.inl hheld)
    simp only [acquire, hinterval, if_true]
  · by_cases hcritical : priority = .critical
    · refine .shrink ?_ (.inl hheld)
      simp only [acquire, hinterval, hcritical, if_true, if_false]
      exact bypass_subperm purgeAddresses
    · by_cases hstopped : s.stopped = true
      · refine .same ?_ (.inl hheld)
        simp only [acquire, hinterval, hcritical, hdown, hstopped, if_true, if_false]
      · refine .push ⟨(s.downgrade cfg priority tBurst).1, tStamp, s.waiters.length, deviceAddress⟩
          ?_ rfl hclock (Int.le_refl _) ?_ hheld
        · rw [enqueued, if_neg (by simp [hinterval, hcritical, hstopped])]
        · simp only [acquire, hinterval, hcritical, hdown, hstopped, if_false]
          exact Heapq.heappush_perm

theorem step_queued (h : step cfg s a = some t) : Queued cfg s a t := by
  have hclock := clock_le_of_step h
  cases step_cases h with
  | acquire => exact acquire_queued hclock
  | answer => exact .same rfl (.inl rfl)
  | worker hu =>
    cases workerStep_worked hu with
    | idle hqueue _ hheld => exact .same hqueue (.inr hheld)
    | pop _ hpop hqueue _ hworker =>
      refine .pop _ (by rw [hpop, hqueue]) ?_
      obtain heq | ⟨heq, -⟩ := hworker
      · rw [heq]
        rfl
      · rw [heq]
        rfl
    | wake hworker => exact .same rfl (.inl (by rw [hworker]; rfl))
    | grant => exact .same rfl (.inr rfl)
  | cancelWorker => exact .same rfl (.inl rfl)
  | stop =>
    unfold stop
    split
    · exact .same rfl (.inl rfl)
    · exact .shrink (List.nil_sublist s.queue).subperm (.inl rfl)

/-! ## First in, first out -/

/-- The commands of a class have their timestamps in the order in which they were enqueued. -/
structure Fifo (s : CommandThrottle) : Prop where
  stamped : ∀ c ∈ s.queue, c.timestamp ≤ s.clock
  distinct : (s.queue.map (·.future)).Nodup
  sorted : ∀ c ∈ s.queue, ∀ d ∈ s.queue, c.priority = d.priority → c.future < d.future →
    c.timestamp < d.timestamp

theorem init_fifo : Fifo (init cfg) := ⟨nofun, .nil, nofun⟩

theorem Fifo.of_subperm (hs : Fifo s) (hqueue : t.queue.Subperm s.queue)
    (hclock : s.clock ≤ t.clock) : Fifo t := by
  have hmem : ∀ c ∈ t.queue, c ∈ s.queue := fun c hc => hqueue.subset hc
  refine ⟨fun c hc => ?_, ?_, fun c hc d hd => hs.sorted c (hmem c hc) d (hmem d hd)⟩
  · exact Int.le_trans (hs.stamped c (hmem c hc)) hclock
  · obtain ⟨l, hperm, hsub⟩ := hqueue
    exact (hperm.map _).nodup_iff.mp ((hsub.map _).nodup hs.distinct)

theorem number_lt (hrec : Recorded s) {c : PrioritizedCommand} (hc : c ∈ s.owned) :
    c.future < s.waiters.length := by
  obtain ⟨w, hw, -⟩ := hrec c hc
  exact (List.getElem?_eq_some_iff.mp hw).1

theorem Fifo.push (hs : Fifo s) (hrec : Recorded s) {cmd : PrioritizedCommand}
    (hfuture : cmd.future = s.waiters.length) (hclock : s.clock ≤ cmd.timestamp)
    (hstamp : cmd.timestamp ≤ t.clock) (hqueue : t.queue.Perm (cmd :: s.queue))
    (hdistinct : ∀ c ∈ s.queue, c.priority = cmd.priority → c.timestamp ≠ cmd.timestamp) :
    Fifo t := by
  have hnumber : ∀ c ∈ s.queue, c.future < cmd.future := fun c hc =>
    hfuture ▸ number_lt hrec (List.mem_append_left _ hc)
  have hmem : ∀ c ∈ t.queue, c = cmd ∨ c ∈ s.queue := fun c hc =>
    List.mem_cons.mp (hqueue.mem_iff.mp hc)
  refine ⟨fun c hc => ?_, ?_, fun c hc d hd hclass hlt => ?_⟩
  · obtain rfl | hc := hmem c hc
    · exact hstamp
    · exact Int.le_trans (hs.stamped c hc) (Int.le_trans hclock hstamp)
  · rw [(hqueue.map _).nodup_iff, List.map_cons, List.nodup_cons]
    refine ⟨fun hin => ?_, hs.distinct⟩
    obtain ⟨c, hc, heq⟩ := List.mem_map.mp hin
    have hlt := hnumber c hc
    omega
  · obtain rfl | hd := hmem d hd
    · obtain rfl | hc := hmem c hc
      · exact absurd hlt (Nat.lt_irrefl _)
      · have hle := Int.le_trans (hs.stamped c hc) hclock
        exact Int.lt_iff_le_and_ne.mpr ⟨hle, hdistinct c hc hclass⟩
    · obtain rfl | hc := hmem c hc
      · exact absurd hlt (Nat.lt_asymm (hnumber d hd))
      · exact hs.sorted c hc d hd hclass hlt

theorem heappop_subperm {queue rest : List PrioritizedCommand} {cmd : PrioritizedCommand}
    (h : Heapq.heappop PrioritizedCommand.sortKey queue = some (cmd, rest)) :
    rest.Subperm queue :=
  (List.sublist_cons_self cmd rest).subperm.trans (Heapq.heappop_perm h).symm.subperm

theorem step_fifo (hs : Fifo s) (hrec : Recorded s) (hdistinct : Distinct cfg s a)
    (h : step cfg s a = some t) : Fifo t := by
  have hclock := clock_le_of_step h
  cases step_queued h with
  | push cmd hcmd hfuture hstamp hstamp' hqueue =>
    exact hs.push hrec hfuture hstamp hstamp' hqueue (hdistinct _ hcmd)
  | shrink hqueue => exact hs.of_subperm hqueue hclock
  | pop cmd hpop => exact hs.of_subperm (heappop_subperm hpop) hclock

theorem reach_fifo (h : (system cfg).Reach (Distinct cfg) s) : Fifo s := by
  have hboth : Recorded s ∧ Fifo s := by
    refine h.invariant (P := fun s => Recorded s ∧ Fifo s) ⟨init_recorded, init_fifo⟩
      fun s a t hs hdistinct hstep => ?_
    exact ⟨(step_effect hstep).recorded hs.1, step_fifo hs.2 hs.1 hdistinct hstep⟩
  exact hboth.2

theorem value_injective {p q : CommandPriority} (h : p.value = q.value) : p = q := by
  cases p <;> cases q <;> first | rfl | cases h

/-- What comes out of the heap goes before all that is left. -/
theorem heappop_before (hs : Fifo s) (hheap : Ordered s) {cmd : PrioritizedCommand}
    {rest : List PrioritizedCommand}
    (hpop : Heapq.heappop PrioritizedCommand.sortKey s.queue = some (cmd, rest)) :
    ∀ c ∈ rest, Before cmd c := by
  intro c hc
  have hmem := mem_heappop hpop
  have hcq := (hmem c).mpr (.inr hc)
  have hle := hheap.head_le hpop c hcq
  rw [PrioritizedCommand.sortKey, PrioritizedCommand.sortKey, Prod.Lex.toLex_le_toLex] at hle
  obtain hlt | ⟨hvalue, hstamp⟩ := hle
  · exact .inl hlt
  · have hclass := value_injective hvalue
    have hdistinct := hs.distinct
    rw [((Heapq.heappop_perm hpop).map _).nodup_iff, List.map_cons, List.nodup_cons] at hdistinct
    have hne : c.future ≠ cmd.future := fun heq =>
      hdistinct.1 (List.mem_map.mpr ⟨c, hc, heq⟩)
    refine .inr ⟨hclass, Nat.lt_of_le_of_ne (Nat.le_of_not_lt fun hlt => ?_) hne.symm⟩
    have hsorted := hs.sorted c hcq cmd ((hmem cmd).mpr (.inl rfl)) hclass.symm hlt
    exact absurd hstamp (Int.not_le.mpr hsorted)

theorem takesFirst_of_fifo (hs : Fifo s) (hheap : Ordered s) : TakesFirst cfg s := by
  intro now t cmd hstep hheld hcmd c hc hne
  cases step_queued hstep with
  | push _ hnone => cases hnone
  | shrink _ hsame =>
    rw [hheld, or_self] at hsame
    rw [hsame] at hcmd
    cases hcmd
  | pop cmd' hpop hheld' =>
    rw [hheld', List.mem_singleton] at hcmd
    subst hcmd
    exact heappop_before hs hheap hpop c (((mem_heappop hpop c).mp hc).resolve_left hne)

/-! ## The command in the worker's hand -/

/-- What the worker has in its hand goes before what is in the heap. -/
def HeldFirst (s : CommandThrottle) : Prop :=
  ∀ c ∈ s.worker.held, ∀ d ∈ s.queue, Before c d

theorem HeldFirst.of_subset (hs : HeldFirst s)
    (hheld : t.worker.held = s.worker.held ∨ t.worker.held = [])
    (hqueue : ∀ d ∈ t.queue, d ∈ s.queue) : HeldFirst t := by
  intro c hc d hd
  obtain heq | heq := hheld
  · exact hs c (heq ▸ hc) d (hqueue d hd)
  · rw [heq] at hc
    cases hc

theorem init_heldFirst : HeldFirst (init cfg) := fun _ _ d hd => by cases hd

theorem step_heldFirst (hs : HeldFirst s) (hfifo : Fifo s) (hheap : Ordered s) (hrec : Recorded s)
    (hunovertaken : Unovertaken cfg s a) (h : step cfg s a = some t) : HeldFirst t := by
  cases step_queued h with
  | push cmd hcmd hfuture _ _ hqueue hheld =>
    intro c hc d hd
    rw [hheld] at hc
    obtain rfl | hd := List.mem_cons.mp (hqueue.mem_iff.mp hd)
    · obtain hlt | heq := Nat.lt_or_eq_of_le (hunovertaken _ hcmd c hc)
      · exact .inl hlt
      · refine .inr ⟨value_injective heq, ?_⟩
        rw [hfuture]
        exact number_lt hrec (List.mem_append_right _ hc)
    · exact hs c hc d hd
  | shrink hqueue hheld =>
    exact hs.of_subset hheld fun d hd => hqueue.subset hd
  | pop cmd hpop hheld =>
    intro c hc d hd
    rw [hheld, List.mem_singleton] at hc
    subst hc
    exact heappop_before hfifo hheap hpop d hd

/-- A cancellation that has been asked for is not taken back. -/
theorem cancelRequested_of_step (h : step cfg s a = some t) (ht : t.cancelRequested = false) :
    s.cancelRequested = false := by
  cases step_cases h with
  | acquire => rwa [(acquire_frame rfl).2.1] at ht
  | answer => exact ht
  | worker hu => rwa [workerStep_cancelRequested hu] at ht
  | cancelWorker => cases ht
  | stop =>
    unfold stop at ht
    split at ht
    · exact ht
    · exact (Bool.or_eq_false_iff.mp ht).1

theorem init_kept : Kept (init cfg) := fun i w hw => by
  simp [init] at hw

/-- As long as the worker is not cancelled, every waiting call has its command somewhere. -/
theorem step_kept (hs : s.cancelRequested = false → Kept s) (h : step cfg s a = some t) :
    t.cancelRequested = false → Kept t := by
  intro hcancel
  have hbefore : s.cancelRequested = false := cancelRequested_of_step h hcancel
  have hreleased : Released s := fun htrue => by
    rw [hbefore] at htrue
    cases htrue
  exact (step_effect h).kept hreleased (hs hbefore)

theorem grantsFirst_of_held (hs : HeldFirst s) (hrec : Recorded s) (hcontrol : Control s)
    (hkept : s.cancelRequested = false → Kept s) : GrantsFirst s := by
  intro cmd hworker i w hw hpending hne
  have hcancel : s.cancelRequested = false := by
    cases hc : s.cancelRequested with
    | false => rfl
    | true =>
      have hrun := hcontrol.paused hc
      rw [hworker] at hrun
      cases hrun
  obtain ⟨c, hc, rfl⟩ := hkept hcancel i w hw hpending
  obtain ⟨w', hw', rfl⟩ := hrec c hc
  rw [hw, Option.some_inj] at hw'
  subst hw'
  obtain hqueue | hheld := List.mem_append.mp hc
  · exact hs cmd (by rw [hworker]; exact List.mem_singleton_self cmd) _ hqueue
  · rw [hworker] at hheld
    exact absurd (List.mem_singleton.mp hheld) hne

theorem reach_grantsFirst (h : (system cfg).Reach (InTurn cfg) s) : GrantsFirst s := by
  have hrec := reach_recorded h
  have hcontrol := reach_control h
  have hkept : s.cancelRequested = false → Kept s :=
    h.invariant (P := fun s => s.cancelRequested = false → Kept s) (fun _ => init_kept)
      fun _ _ _ hs _ hstep => step_kept hs hstep
  have hheld : Recorded s ∧ Ordered s ∧ Fifo s ∧ HeldFirst s := by
    have hinit : Recorded (init cfg) ∧ Ordered (init cfg) ∧ Fifo (init cfg) ∧
        HeldFirst (init cfg) := ⟨init_recorded, isHeap_nil, init_fifo, init_heldFirst⟩
    refine h.invariant (P := fun s => Recorded s ∧ Ordered s ∧ Fifo s ∧ HeldFirst s) hinit
      fun s a t hs hturn hstep => ?_
    obtain ⟨hrec, hheap, hfifo, hheld⟩ := hs
    exact ⟨(step_effect hstep).recorded hrec, step_ordered hheap hstep,
      step_fifo hfifo hrec hturn.1 hstep, step_heldFirst hheld hfifo hheap hrec hturn.2 hstep⟩
  exact grantsFirst_of_held hheld.2.2.2 hrec hcontrol hkept

/-- With different timestamps in each class, the worker takes the commands by class and, in a
class, as they were enqueued; it grants them like that if no command of a better class comes
during the delay of another. -/
theorem first_of_reach (cfg : Config) :
    (∀ s, (system cfg).Reach (Distinct cfg) s → TakesFirst cfg s) ∧
      ∀ s, (system cfg).Reach (InTurn cfg) s → GrantsFirst s :=
  ⟨fun _ h => takesFirst_of_fifo (reach_fifo h) (reach_ordered h), fun _ => reach_grantsFirst⟩

/-- A command of a better class comes last and goes first; then it is the turn of the others, as
they came. -/
def sampleThree : List Action :=
  [.acquire .low "VCU1:1" [] 1000 1000, .acquire .low "VCU1:2" [] 1001 1001,
    .acquire .high "VCU1:3" [] 1002 1002, .worker 1002, .worker 1002, .worker 1002, .worker 1003,
    .worker 1102]

theorem first_of_reach_three :
    ∃ s, (system ⟨100, 5, 500⟩).replay (InTurn ⟨100, 5, 500⟩) (init ⟨100, 5, 500⟩)
        sampleThree = some s ∧
      s.waiters.map (·.future) = [.pending, .pending, .result] ∧
      s.worker = .granting ⟨.low, 1000, 0, "VCU1:1"⟩ ∧
      TakesFirst ⟨100, 5, 500⟩ s ∧ GrantsFirst s := by
  obtain ⟨s, hs, hwaiters, hworker⟩ := StepSystem.replay_any
    (p := fun s => s.waiters.map (·.future) = [.pending, .pending, .result] ∧
      s.worker = .granting ⟨.low, 1000, 0, "VCU1:1"⟩)
    (show ((system ⟨100, 5, 500⟩).replay (InTurn ⟨100, 5, 500⟩) (init ⟨100, 5, 500⟩)
      sampleThree).any _ = true by decide)
  obtain ⟨as, hsteps⟩ := StepSystem.reach_of_replay hs
  obtain ⟨htakes, hgrants⟩ := first_of_reach ⟨100, 5, 500⟩
  refine ⟨s, hs, hwaiters, hworker, htakes s ⟨as, ?_⟩, hgrants s ⟨as, hsteps⟩⟩
  exact hsteps.mono fun _ _ hturn => hturn.1

/-- Four commands of one class come at one reading of the clock, and the third goes before the
second. -/
theorem not_grantsFirst_four :
    ∃ s, (system ⟨100, 5, 500⟩).Reach (Unovertaken ⟨100, 5, 500⟩) s ∧
      s.worker = .granting ⟨.low, 1000, 2, "VCU1:3"⟩ ∧
      s.waiters[1]? = some { command := ⟨.low, 1000, 1, "VCU1:2"⟩ } ∧ ¬ GrantsFirst s := by
  obtain ⟨s, hs, hworker, hw⟩ := StepSystem.replay_any
    (p := fun s => s.worker = .granting ⟨.low, 1000, 2, "VCU1:3"⟩ ∧
      s.waiters[1]? = some { command := ⟨.low, 1000, 1, "VCU1:2"⟩ })
    (show ((system ⟨100, 5, 500⟩).replay (Unovertaken ⟨100, 5, 500⟩) (init ⟨100, 5, 500⟩)
      [.acquire .low "VCU1:1" [] 1000 1000, .acquire .low "VCU1:2" [] 1000 1000,
        .acquire .low "VCU1:3" [] 1000 1000, .acquire .low "VCU1:4" [] 1000 1000,
        .worker 1000, .worker 1000, .worker 1000, .worker 1000, .worker 1100]).any _ = true
      by decide)
  refine ⟨s, StepSystem.reach_of_replay hs, hworker, hw, fun h => ?_⟩
  exact absurd (h _ hworker 1 _ hw rfl (by decide)) (by decide)

end AioHomematic.Client.CommandThrottle
