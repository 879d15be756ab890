import AioHomematic.Client.CommandThrottle
import AioHomematic.Lib.Numbered

/-!
# Who holds a waiting command

A command that `acquire()` has enqueued is in the heap or held by the worker
until its future is done. `Effect` says once what a step can do to the commands
owned by heap and worker and to the waiters; `Control` is the invariant of the
worker's flags. `Kept` is the ownership law itself: it survives every step but
one, the end of a worker that was cancelled with an undone command in hand
(`Unhanded` rules that out).
-/

namespace AioHomematic.Client

open Lib

/-! ## Waiters over time -/

theorem getElem?_resolveAll (r : FutureState) (waiters : List Waiter)
    (cmds : List PrioritizedCommand) (i : Nat) :
    (resolveAll r waiters cmds)[i]? =
      waiters[i]?.map fun w => if i ∈ cmds.map (·.future) then w.resolve r else w := by
  induction cmds generalizing waiters with
  | nil => simp [resolveAll]
  | cons cmd cmds ih =>
    have hfold : resolveAll r waiters (cmd :: cmds) = resolveAll r (resolve r waiters cmd) cmds :=
      rfl
    have hidem : ∀ w : Waiter, (w.resolve r).resolve r = w.resolve r := by
      intro w; unfold Waiter.resolve; split <;> simp_all
    rw [hfold, ih, resolve, List.getElem?_modify]
    by_cases hi : cmd.future = i
    · subst hi
      cases waiters[cmd.future]? <;> simp [hidem]
    · cases waiters[i]? <;> simp [hi, Ne.symm hi]

/-- `w'` is `w` later on: a done future and the end of a call are final. -/
structure Waiter.Later (w w' : Waiter) : Prop where
  command : w'.command = w.command
  future : w.future ≠ .pending → w'.future = w.future
  result : ∀ r, w.result = some r → w'.result = some r
  returned : w.result ≠ some .returned → w'.result = some .returned → w.future = .result

theorem Waiter.Later.refl (w : Waiter) : w.Later w :=
  ⟨rfl, fun _ => rfl, fun _ => id, fun h h' => absurd h' h⟩

theorem Waiter.later_resolve (r : FutureState) (w : Waiter) : w.Later (w.resolve r) := by
  unfold Waiter.resolve
  split
  · exact ⟨rfl, fun h => absurd ‹_› h, fun _ => id, fun h h' => absurd h' h⟩
  · exact .refl w

theorem Waiter.future_resolve_ne {r : FutureState} (hr : r ≠ .pending) (w : Waiter) :
    (w.resolve r).future ≠ .pending := by
  unfold Waiter.resolve; split <;> simp_all

namespace CommandThrottle

variable {cfg : Config} {s t : CommandThrottle} {a : Action}

/-! ## What a step can do -/

/-- The commands in the heap or in the worker's hand. -/
def owned (s : CommandThrottle) : List PrioritizedCommand := s.queue ++ s.worker.held

inductive Effect (s t : CommandThrottle) : Prop where
  /-- `acquire()` pushes a new command. -/
  | push (cmd : PrioritizedCommand) (hcmd : cmd.future = s.waiters.length)
      (howned : ∀ c, c ∈ t.owned ↔ c = cmd ∨ c ∈ s.owned)
      (hwaiters : t.waiters = s.waiters ++ [{ command := cmd }])
  /-- Commands change hands, and those that leave have their futures resolved. -/
  | settle (r : FutureState) (hr : r ≠ .pending) (cmds : List PrioritizedCommand)
      (howned : ∀ c, c ∈ s.owned ↔ c ∈ t.owned ∨ c ∈ cmds)
      (hwaiters : t.waiters = resolveAll r s.waiters cmds)
  /-- A cancelled worker ends, and what it held is gone. -/
  | drop (hcancel : s.cancelRequested = true) (hqueue : t.owned = s.queue)
      (hwaiters : t.waiters = s.waiters)
  /-- One call ends. -/
  | answer (i : Nat) (f : Waiter → Waiter) (hf : ∀ w, s.waiters[i]? = some w → w.Later (f w))
      (hfuture : ∀ w, (f w).future = w.future ∨ (f w).future = .cancelled)
      (howned : t.owned = s.owned) (hwaiters : t.waiters = s.waiters.modify i f)

theorem Effect.same (howned : ∀ c, c ∈ s.owned ↔ c ∈ t.owned) (hwaiters : t.waiters = s.waiters) :
    Effect s t :=
  .settle .stopped (by decide) [] (by simpa using howned) hwaiters

/-- An effect only depends on heap, hand, waiters and a requested cancellation. -/
theorem Effect.congr {s' t' : CommandThrottle} (h : Effect s' t')
    (hqueue : s'.queue = s.queue := by rfl) (howned : s'.owned = s.owned := by rfl)
    (hwaiters : s'.waiters = s.waiters := by rfl)
    (hcancel : s'.cancelRequested = s.cancelRequested := by rfl)
    (howned' : t'.owned = t.owned := by rfl) (hwaiters' : t'.waiters = t.waiters := by rfl) :
    Effect s t := by
  cases h with
  | push cmd hcmd ho hw =>
    exact .push cmd (hwaiters ▸ hcmd) (howned ▸ howned' ▸ ho) (hwaiters ▸ hwaiters' ▸ hw)
  | settle r hr cmds ho hw =>
    exact .settle r hr cmds (howned ▸ howned' ▸ ho) (hwaiters ▸ hwaiters' ▸ hw)
  | drop hc ho hw => exact .drop (hcancel ▸ hc) (hqueue ▸ howned' ▸ ho) (hwaiters ▸ hwaiters' ▸ hw)
  | answer i f hf hp ho hw =>
    exact .answer i f (hwaiters ▸ hf) hp (howned ▸ howned' ▸ ho) (hwaiters ▸ hwaiters' ▸ hw)

theorem mem_heappop {queue rest : List PrioritizedCommand} {cmd : PrioritizedCommand}
    (h : Heapq.heappop PrioritizedCommand.sortKey queue = some (cmd, rest))
    (c : PrioritizedCommand) : c ∈ queue ↔ c = cmd ∨ c ∈ rest := by
  rw [(Heapq.heappop_perm h).mem_iff, List.mem_cons]

theorem popNext_effect {now : Int} (hheld : s.worker.held = []) : Effect s (s.popNext cfg now) := by
  unfold popNext
  split
  · exact .same (by simp [owned, hheld]) rfl
  · rename_i cmd rest hpop
    refine .same (fun c => ?_) (by dsimp only; split <;> rfl)
    simp only [owned, hheld, List.append_nil, mem_heappop hpop]
    split <;> simp [or_comm]

theorem afterWait_effect {now : Int} (hheld : s.worker.held = []) :
    Effect s (s.afterWait cfg now) := by
  unfold afterWait
  dsimp only
  split
  · exact .same (by simp [owned, hheld]) rfl
  · exact (popNext_effect (s := { s with commandAvailable := false }) hheld).congr

theorem loopTop_effect {now : Int} (hheld : s.worker.held = []) : Effect s (s.loopTop cfg now) := by
  unfold loopTop
  split
  · exact .same (by simp [owned, hheld]) rfl
  · split
    · split
      · exact afterWait_effect hheld
      · exact .same (by simp [owned, hheld]) rfl
    · exact popNext_effect hheld

theorem workerStep_effect {now : Int} (h : s.workerStep cfg now = some t) : Effect s t := by
  unfold workerStep at h
  split at h
  · cases h
  · cases h
    exact .same (by simp [owned, *]; split <;> simp [Worker.held]) rfl
  · cases h
    exact loopTop_effect (by simp [*])
  · split at h
    · cases h
      exact .same (by simp [owned, *]) rfl
    · split at h
      · cases h
        exact afterWait_effect (by simp [*])
      · cases h
  · split at h
    · cases h
      exact .drop ‹_› (by simp [owned]) rfl
    · split at h
      · cases h
        exact .same (by simp [owned, *]) rfl
      · cases h
  · rename_i cmd hw
    cases h
    exact .settle .result (by decide) [cmd] (by simp [owned, hw, grant]) rfl
  · cases h

theorem purgeCommands_effect {purgeAddresses : List String} :
    Effect s (s.purgeCommands purgeAddresses) := by
  unfold purgeCommands
  dsimp only
  split
  · exact .same (fun _ => .rfl) rfl
  · refine .settle .superseded (by decide) _ (fun c => ?_) rfl
    simp only [owned, List.mem_append, (Heapq.heapify_perm).mem_iff, List.mem_filter,
      decide_eq_true_eq]
    tauto

theorem downgrade_frame (cfg : Config) (s : CommandThrottle) (priority : CommandPriority)
    (now : Int) :
    ∃ stamps count, (s.downgrade cfg priority now).2 =
      { s with burstTimestamps := stamps, burstCount := count } := by
  unfold downgrade detectBurst
  split
  · split
    · exact ⟨_, _, rfl⟩
    · dsimp only
      split <;> exact ⟨_, _, rfl⟩
  · exact ⟨_, _, rfl⟩

theorem acquire_effect {priority : CommandPriority} {deviceAddress : String}
    {purgeAddresses : List String} {tBurst tStamp : Int} :
    Effect s (s.acquire cfg priority deviceAddress purgeAddresses tBurst tStamp).2 := by
  obtain ⟨stamps, count, hdown⟩ := downgrade_frame cfg s priority tBurst
  unfold acquire
  split
  · exact .same (fun _ => .rfl) rfl
  · split
    · unfold bypass
      dsimp only
      split
      · exact .same (fun _ => .rfl) rfl
      · exact (purgeCommands_effect (s := { s with criticalCount := s.criticalCount + 1 })).congr
    · dsimp only
      rw [hdown]
      dsimp only
      split
      · exact .same (fun _ => .rfl) rfl
      · refine .push ⟨(s.downgrade cfg priority tBurst).1, tStamp, _, deviceAddress⟩ rfl
          (fun c => ?_) rfl
        simp only [owned, enqueue, List.mem_append, (Heapq.heappush_perm).mem_iff, List.mem_cons]
        tauto

theorem stop_effect : Effect s s.stop := by
  unfold stop
  split
  · exact .same (fun _ => .rfl) rfl
  · refine .settle .stopped (by decide) _ (fun c => ?_) rfl
    simp only [owned, List.nil_append, List.mem_append, (Heapq.drain_perm).mem_iff]
    tauto

theorem resume_effect {future : Nat} (h : s.resume future = some t) : Effect s t := by
  unfold resume at h
  split at h
  · rename_i c f hw
    split at h
    · rename_i r hr
      cases h
      refine .answer future ({ · with result := some r }) (fun w hw' => ?_) (fun _ => .inl rfl)
        rfl rfl
      rw [hw] at hw'
      cases hw'
      refine ⟨rfl, fun _ => rfl, fun _ => by simp, fun _ hret => ?_⟩
      cases f <;> simp_all [FutureState.acquireResult]
    · cases h
  · cases h

theorem cancelAcquire_effect {future : Nat} (h : s.cancelAcquire future = some t) :
    Effect s t := by
  unfold cancelAcquire at h
  split at h
  · rename_i c f hw
    cases h
    refine .answer future _ (fun w hw' => ?_) (fun w => ?_) rfl rfl
    · rw [hw] at hw'
      cases hw'
      have := Waiter.later_resolve .cancelled { command := c, future := f, result := none }
      exact ⟨this.command, this.future, fun _ => by simp, fun _ => by simp⟩
    · unfold Waiter.resolve
      split
      · exact .inr rfl
      · exact .inl rfl
  · cases h

/-- The steps, with what they lead to. -/
inductive Stepped (cfg : Config) (s : CommandThrottle) : Action → CommandThrottle → Prop where
  | acquire {priority deviceAddress purgeAddresses tBurst tStamp}
      (hrun : s.worker.running = false) :
      Stepped cfg s (.acquire priority deviceAddress purgeAddresses tBurst tStamp)
        { (s.acquire cfg priority deviceAddress purgeAddresses tBurst tStamp).2 with
          clock := tStamp }
  | answer {a waiters} (heff : Effect s { s with waiters }) : Stepped cfg s a { s with waiters }
  | worker {now u} (hu : s.workerStep cfg now = some u) :
      Stepped cfg s (.worker now) { u with clock := now }
  | cancelWorker (hrun : s.worker.running = false) :
      Stepped cfg s .cancelWorker { s with cancelRequested := true }
  | stop (hrun : s.worker.running = false) : Stepped cfg s .stop s.stop

theorem step_cases (h : step cfg s a = some t) : Stepped cfg s a t := by
  cases a with
  | acquire =>
    simp only [step] at h
    split at h
    · rename_i hen
      cases h
      exact .acquire hen.1
    · cases h
  | resume =>
    simp only [step] at h
    split at h
    · cases h
    · have heff := resume_effect h
      unfold resume at h
      split at h
      · split at h
        · cases h; exact .answer heff
        · cases h
      · cases h
  | cancelAcquire =>
    simp only [step] at h
    split at h
    · cases h
    · have heff := cancelAcquire_effect h
      unfold cancelAcquire at h
      split at h
      · cases h; exact .answer heff
      · cases h
  | worker =>
    simp only [step] at h
    split at h
    · obtain ⟨u, hu, rfl⟩ := Option.map_eq_some_iff.mp h
      exact .worker hu
    · cases h
  | cancelWorker =>
    simp only [step] at h
    split at h
    · rename_i hen
      cases h
      exact .cancelWorker hen.1
    · cases h
  | stop =>
    simp only [step] at h
    split at h
    · cases h
    · cases h
      exact .stop (by simp_all)

theorem step_effect (h : step cfg s a = some t) : Effect s t := by
  cases step_cases h with
  | acquire => exact acquire_effect.congr
  | answer heff => exact heff
  | worker hu => exact (workerStep_effect hu).congr
  | cancelWorker => exact .same (fun _ => .rfl) rfl
  | stop => exact stop_effect

theorem Effect.later (h : Effect s t) {i : Nat} {w : Waiter} (hw : s.waiters[i]? = some w) :
    ∃ w', t.waiters[i]? = some w' ∧ w.Later w' := by
  cases h with
  | push cmd hcmd ho hwaiters =>
    refine ⟨w, ?_, .refl w⟩
    rw [hwaiters]
    exact getElem?_concat_of_some hw _
  | settle r hr cmds ho hwaiters =>
    rw [hwaiters, getElem?_resolveAll, hw, Option.map_some]
    refine ⟨_, rfl, ?_⟩
    split
    · exact w.later_resolve r
    · exact .refl w
  | drop hc ho hwaiters => exact ⟨w, hwaiters ▸ hw, .refl w⟩
  | answer j f hf hp ho hwaiters =>
    rw [hwaiters, List.getElem?_modify, hw, Option.map_eq_map, Option.map_some]
    refine ⟨_, rfl, ?_⟩
    split
    · subst_vars; exact hf w hw
    · exact .refl w

/-- A waiting command is that of the call that made it. -/
theorem acquire_waiting {config : Config} {throttle throttle' : CommandThrottle}
    {priority : CommandPriority} {deviceAddress : String} {purgeAddresses : List String}
    {tBurst tStamp : Int} {future : Nat}
    (hstep : step config throttle
      (.acquire priority deviceAddress purgeAddresses tBurst tStamp) = some throttle')
    (hacquire : (throttle.acquire config priority deviceAddress purgeAddresses tBurst tStamp).1 =
      .waiting future) :
    ∃ w, throttle'.waiters[future]? = some w ∧ w.command.deviceAddress = deviceAddress := by
  simp only [step] at hstep
  split at hstep
  · simp only [acquire] at hstep hacquire
    split at hacquire
    · cases hacquire
    · split at hacquire
      · cases hacquire
      · split at hacquire
        · cases hacquire
        · rename_i h0 hprio hstopped
          rw [if_neg h0, if_neg hprio, if_neg hstopped] at hstep
          cases hacquire
          have hstep := Option.some.inj hstep
          rw [← hstep]
          exact ⟨_, List.getElem?_concat_length, rfl⟩
  · cases hstep

/-! ## The law of ownership -/

/-- The future of `cmd` is still waited for. -/
def Undone (s : CommandThrottle) (cmd : PrioritizedCommand) : Prop :=
  s.waiters[cmd.future]?.map (·.future) = some .pending

theorem undone_iff {cmd : PrioritizedCommand} :
    s.Undone cmd ↔ ∃ w, s.waiters[cmd.future]? = some w ∧ w.future = .pending :=
  Option.map_eq_some_iff

instance : DecidableRel Undone := fun _ _ => inferInstanceAs (Decidable (_ = _))

/-- Every owned command is the one that its future was created for. -/
def Recorded (s : CommandThrottle) : Prop :=
  ∀ c ∈ s.owned, ∃ w, s.waiters[c.future]? = some w ∧ w.command = c

/-- Every call that waits for its future has its command in the heap or in the worker's hand. -/
def Kept (s : CommandThrottle) : Prop :=
  ∀ i w, s.waiters[i]? = some w → w.future = .pending → ∃ c ∈ s.owned, c.future = i

/-- A worker that is about to be cancelled holds no command that is still waited for. -/
def Released (s : CommandThrottle) : Prop :=
  s.cancelRequested = true → ∀ c ∈ s.worker.held, ¬ s.Undone c

structure Control (s : CommandThrottle) : Prop where
  paused : s.cancelRequested = true → s.worker.running = false
  wakeup : s.worker = .waiting → s.queue = [] ∨ s.commandAvailable = true
  closed : s.stopped = true → s.queue = []
  halted : s.stopped = true → s.cancelRequested = true ∨ s.worker.held = []

/-- The condition on a step: neither `stop()` nor a cancellation finds the worker holding a
command that is still waited for. -/
def Unhanded (s : CommandThrottle) : Action → Prop
  | .cancelWorker => ∀ c ∈ s.worker.held, ¬ s.Undone c
  | .stop => ∀ c ∈ s.worker.held, ¬ s.Undone c
  | _ => True

instance : DecidableRel Unhanded := fun s a => by
  cases a
  case cancelWorker => exact inferInstanceAs (Decidable (∀ c ∈ s.worker.held, ¬ s.Undone c))
  case stop => exact inferInstanceAs (Decidable (∀ c ∈ s.worker.held, ¬ s.Undone c))
  all_goals exact .isTrue trivial

theorem Effect.recorded (h : Effect s t) (hs : Recorded s) : Recorded t := by
  intro c hc
  have keep : c ∈ s.owned → ∃ w, t.waiters[c.future]? = some w ∧ w.command = c := by
    intro hc
    obtain ⟨w, hw, rfl⟩ := hs c hc
    obtain ⟨w', hw', hlater⟩ := h.later hw
    exact ⟨w', hw', hlater.command⟩
  cases h with
  | push cmd hcmd howned hwaiters =>
    obtain rfl | hc := (howned c).mp hc
    · exact ⟨_, by rw [hwaiters, hcmd, List.getElem?_concat_length], rfl⟩
    · exact keep hc
  | settle r hr cmds howned hwaiters => exact keep ((howned c).mpr (.inl hc))
  | drop hc' hqueue hwaiters => exact keep (List.mem_append_left _ (hqueue ▸ hc))
  | answer i f hf hp howned hwaiters => exact keep (howned ▸ hc)

/-- No step makes a done future wait again. -/
theorem Effect.undone (h : Effect s t) {c : PrioritizedCommand} (hc : t.Undone c) :
    s.Undone c ∨ c.future = s.waiters.length := by
  obtain ⟨w', hw', hp⟩ := undone_iff.mp hc
  cases hw : s.waiters[c.future]? with
  | some w =>
    obtain ⟨w'', hw'', hlater⟩ := h.later hw
    rw [hw'] at hw''
    cases hw''
    refine .inl (undone_iff.mpr ⟨w, hw, ?_⟩)
    by_contra hne
    exact hne (hlater.future hne ▸ hp)
  | none =>
    have hle := List.getElem?_eq_none_iff.mp hw
    have hlt := (List.getElem?_eq_some_iff.mp hw').1
    cases h with
    | push cmd hcmd ho hwaiters => simp [hwaiters] at hlt; omega
    | settle r hr cmds ho hwaiters =>
      rw [hwaiters, getElem?_resolveAll, hw] at hw'
      cases hw'
    | drop hc ho hwaiters => rw [hwaiters] at hlt; omega
    | answer j f hf hp ho hwaiters => simp [hwaiters] at hlt; omega

theorem Effect.kept (h : Effect s t) (hrel : Released s) (hs : Kept s) : Kept t := by
  intro i w hw hp
  cases h with
  | push cmd hcmd howned hwaiters =>
    rw [hwaiters] at hw
    rcases getElem?_concat_cases hw with hw | ⟨rfl, -⟩
    · obtain ⟨c, hc, hci⟩ := hs i w hw hp
      exact ⟨c, (howned c).mpr (.inr hc), hci⟩
    · exact ⟨cmd, (howned cmd).mpr (.inl rfl), hcmd⟩
  | settle r hr cmds howned hwaiters =>
    rw [hwaiters, getElem?_resolveAll] at hw
    obtain ⟨v, hv, rfl⟩ := Option.map_eq_some_iff.mp hw
    by_cases hi : i ∈ cmds.map (·.future)
    · rw [if_pos hi] at hp
      exact absurd hp (Waiter.future_resolve_ne hr v)
    · rw [if_neg hi] at hp
      obtain ⟨c, hc, hci⟩ := hs i v hv hp
      refine ⟨c, ((howned c).mp hc).resolve_right fun hcmds => hi ?_, hci⟩
      exact List.mem_map.mpr ⟨c, hcmds, hci⟩
  | drop hcancel hqueue hwaiters =>
    rw [hwaiters] at hw
    obtain ⟨c, hc, hci⟩ := hs i w hw hp
    refine ⟨c, ?_, hci⟩
    rw [hqueue]
    exact (List.mem_append.mp hc).resolve_right fun hheld =>
      hrel hcancel c hheld (undone_iff.mpr ⟨w, hci ▸ hw, hp⟩)
  | answer j f hf hfuture howned hwaiters =>
    rw [hwaiters, List.getElem?_modify] at hw
    obtain ⟨v, hv, rfl⟩ := Option.map_eq_some_iff.mp hw
    rw [howned]
    refine hs i v hv ?_
    split at hp
    · rcases hfuture v with heq | heq <;> simp_all
    · exact hp

/-- Nobody will grant the future any more: it is done without a grant, or no command in the heap
or in the worker's hand is for it. -/
def Ungranted (s : CommandThrottle) (future : Nat) : Prop :=
  ∃ w, s.waiters[future]? = some w ∧ w.future ≠ .result ∧
    (w.future = .pending → ∀ c ∈ s.owned, c.future ≠ future)

theorem Effect.ungranted (h : Effect s t) {future : Nat} (hs : Ungranted s future) :
    Ungranted t future := by
  obtain ⟨w, hw, hne, howner⟩ := hs
  obtain ⟨w', hw', hlater⟩ := h.later hw
  refine ⟨w', hw', ?_⟩
  by_cases hp : w.future = .pending
  · cases h with
    | push cmd hcmd howned hwaiters =>
      have hlt := (List.getElem?_eq_some_iff.mp hw).1
      rw [hwaiters, getElem?_concat_of_some hw] at hw'
      cases hw'
      refine ⟨hne, fun _ c hc => ?_⟩
      rcases (howned c).mp hc with rfl | hc
      · omega
      · exact howner hp c hc
    | settle r hr cmds howned hwaiters =>
      have hnot : future ∉ cmds.map (·.future) := fun hmem => by
        obtain ⟨c, hc, hcf⟩ := List.mem_map.mp hmem
        exact howner hp c ((howned c).mpr (.inr hc)) hcf
      rw [hwaiters, getElem?_resolveAll, hw, Option.map_some, if_neg hnot] at hw'
      cases hw'
      exact ⟨hne, fun _ c hc => howner hp c ((howned c).mpr (.inl hc))⟩
    | drop hc hqueue hwaiters =>
      rw [hwaiters, hw] at hw'
      cases hw'
      exact ⟨hne, fun _ c hc => howner hp c (List.mem_append_left _ (hqueue ▸ hc))⟩
    | answer i f hf hfuture howned hwaiters =>
      rw [hwaiters, List.getElem?_modify, hw] at hw'
      rw [howned]
      cases hw'
      refine ⟨?_, fun _ => howner hp⟩
      split
      · rcases hfuture w with heq | heq <;> simp [heq, hne]
      · exact hne
  · rw [hlater.future hp]
    exact ⟨hne, fun h => absurd h hp⟩

/-! ## Worker and flags -/

theorem popNext_control {now : Int} (hclosed : s.stopped = true → s.queue = [])
    (hrun : s.cancelRequested = false) : Control (s.popNext cfg now) := by
  unfold popNext
  split
  · exact ⟨fun hc => by simp [hrun] at hc, by simp, hclosed, fun _ => .inr rfl⟩
  · rename_i cmd rest hpop
    have hne : s.queue ≠ [] := fun hq => by
      rw [Heapq.heappop_eq_none.mpr hq] at hpop
      cases hpop
    dsimp only
    split <;> exact ⟨fun hc => by simp [hrun] at hc, by simp, fun hst => absurd (hclosed hst) hne,
      fun hst => absurd (hclosed hst) hne⟩

theorem done_control (hclosed : s.stopped = true → s.queue = []) :
    Control { s with worker := .done } :=
  ⟨fun _ => rfl, by simp, hclosed, fun _ => .inr rfl⟩

theorem afterWait_control {now : Int} (hclosed : s.stopped = true → s.queue = [])
    (hrun : s.cancelRequested = false) : Control (s.afterWait cfg now) := by
  unfold afterWait
  dsimp only
  split
  · exact done_control (s := { s with commandAvailable := false }) hclosed
  · exact popNext_control hclosed hrun

theorem loopTop_control {now : Int} (hclosed : s.stopped = true → s.queue = [])
    (hrun : s.cancelRequested = false) : Control (s.loopTop cfg now) := by
  unfold loopTop
  split
  · exact done_control hclosed
  · split
    · split
      · exact afterWait_control hclosed hrun
      · exact ⟨fun _ => rfl, fun _ => .inl ‹_›, hclosed, fun _ => .inr rfl⟩
    · exact popNext_control hclosed hrun

theorem workerStep_control {now : Int} (hs : Control s) (h : s.workerStep cfg now = some t) :
    Control t := by
  have hpaused := hs.paused
  have hhalted := hs.halted
  unfold workerStep at h
  split at h
  · cases h
  · cases h
    split
    · exact done_control hs.closed
    · exact ⟨fun hc => by simp_all, by simp, hs.closed, fun _ => .inr rfl⟩
  · rename_i hw
    cases h
    exact loopTop_control hs.closed (by simpa [hw, Worker.running] using hpaused)
  · split at h
    · cases h
      exact done_control hs.closed
    · split at h
      · cases h
        exact afterWait_control hs.closed (by simp_all)
      · cases h
  · split at h
    · cases h
      exact done_control hs.closed
    · split at h
      · cases h
        exact ⟨fun hc => by simp_all, by simp, hs.closed, fun hst => by simpa [*] using hhalted hst⟩
      · cases h
  · rename_i cmd hw
    cases h
    refine ⟨fun hc => ?_, by simp [grant], hs.closed, fun _ => .inr rfl⟩
    simpa [hw, Worker.running] using hpaused hc
  · cases h

theorem purgeCommands_control {purgeAddresses : List String} (hs : Control s) :
    Control (s.purgeCommands purgeAddresses) := by
  unfold purgeCommands
  dsimp only
  split
  · exact hs
  · rename_i hne
    have hempty : s.queue ≠ [] := by
      rintro hq
      simp [hq] at hne
    exact ⟨hs.paused, fun hw => .inr ((hs.wakeup hw).resolve_left hempty),
      fun hst => absurd (hs.closed hst) hempty, hs.halted⟩

theorem acquire_control {priority : CommandPriority} {deviceAddress : String}
    {purgeAddresses : List String} {tBurst tStamp : Int} (hs : Control s) :
    Control (s.acquire cfg priority deviceAddress purgeAddresses tBurst tStamp).2 := by
  unfold acquire
  split
  · exact hs
  · split
    · unfold bypass
      dsimp only
      have hcount : Control { s with criticalCount := s.criticalCount + 1 } :=
        ⟨hs.paused, hs.wakeup, hs.closed, hs.halted⟩
      split
      · exact hcount
      · exact purgeCommands_control hcount
    · obtain ⟨stamps, count, hdown⟩ := downgrade_frame cfg s priority tBurst
      dsimp only
      rw [hdown]
      dsimp only
      split
      · exact ⟨hs.paused, hs.wakeup, hs.closed, hs.halted⟩
      · exact ⟨hs.paused, fun _ => .inr rfl, fun hst => absurd hst ‹_›, hs.halted⟩

theorem stop_control (hs : Control s) (hrun : s.worker.running = false) : Control s.stop := by
  unfold stop
  split
  · exact hs
  · refine ⟨fun _ => hrun, fun _ => .inl rfl, fun _ => rfl, fun _ => ?_⟩
    cases hw : s.worker <;> simp [Worker.alive]

theorem Control.tick (h : Control s) (now : Int) : Control { s with clock := now } :=
  ⟨h.paused, h.wakeup, h.closed, h.halted⟩

theorem step_control (hs : Control s) (h : step cfg s a = some t) : Control t := by
  cases step_cases h with
  | acquire => exact (acquire_control hs).tick _
  | answer => exact ⟨hs.paused, hs.wakeup, hs.closed, hs.halted⟩
  | worker hu => exact (workerStep_control hs hu).tick _
  | cancelWorker hrun => exact ⟨fun _ => hrun, hs.wakeup, hs.closed, fun _ => .inl rfl⟩
  | stop hrun => exact stop_control hs hrun

/-! ## Runs -/

@[simp] theorem popNext_cancelRequested {now : Int} :
    (s.popNext cfg now).cancelRequested = s.cancelRequested := by
  unfold popNext
  split
  · rfl
  · dsimp only; split <;> rfl

@[simp] theorem afterWait_cancelRequested {now : Int} :
    (s.afterWait cfg now).cancelRequested = s.cancelRequested := by
  unfold afterWait
  dsimp only
  split
  · rfl
  · exact popNext_cancelRequested

@[simp] theorem loopTop_cancelRequested {now : Int} :
    (s.loopTop cfg now).cancelRequested = s.cancelRequested := by
  unfold loopTop
  split
  · rfl
  · split
    · split
      · exact afterWait_cancelRequested
      · rfl
    · exact popNext_cancelRequested

theorem workerStep_cancelRequested {now : Int} (h : s.workerStep cfg now = some t) :
    t.cancelRequested = s.cancelRequested := by
  unfold workerStep at h
  split at h
  · cases h
  · cases h; rfl
  · cases h; exact loopTop_cancelRequested
  · split at h
    · cases h; rfl
    · split at h
      · cases h; exact afterWait_cancelRequested
      · cases h
  · split at h
    · cases h; rfl
    · split at h
      · cases h; rfl
      · cases h
  · cases h; rfl
  · cases h

/-- A cancelled worker only ends. -/
theorem workerStep_cancelled {now : Int} (hs : Control s) (hc : s.cancelRequested = true)
    (h : s.workerStep cfg now = some t) : t.worker = .done := by
  have hpaused := hs.paused hc
  unfold workerStep at h
  split at h <;> simp_all [Worker.running]
  all_goals subst h; rfl

/-- An acquire leaves the worker, the times and the stop flag alone. -/
theorem acquire_frame {priority : CommandPriority} {deviceAddress : String}
    {purgeAddresses : List String} {tBurst tStamp : Int} {t : CommandThrottle}
    (h : (s.acquire cfg priority deviceAddress purgeAddresses tBurst tStamp).2 = t) :
    t.worker = s.worker ∧ t.cancelRequested = s.cancelRequested ∧
      t.lastCommandTime = s.lastCommandTime ∧ t.stopped = s.stopped := by
  subst h
  obtain ⟨stamps, count, hdown⟩ := downgrade_frame cfg s priority tBurst
  unfold acquire
  split
  · exact ⟨rfl, rfl, rfl, rfl⟩
  · split
    · unfold bypass purgeCommands
      dsimp only
      split
      · exact ⟨rfl, rfl, rfl, rfl⟩
      · split <;> exact ⟨rfl, rfl, rfl, rfl⟩
    · dsimp only
      rw [hdown]
      dsimp only
      split <;> exact ⟨rfl, rfl, rfl, rfl⟩

theorem step_released (hs : Control s) (hrec : Recorded s) (hrel : Released s)
    (hok : Unhanded s a) (h : step cfg s a = some t) : Released t := by
  have heff := step_effect h
  have keep (hheld : t.worker.held = s.worker.held)
      (hprev : t.cancelRequested = true → ∀ c ∈ s.worker.held, ¬ s.Undone c) : Released t := by
    intro hc c hct hund
    rw [hheld] at hct
    obtain hund | hlen := heff.undone hund
    · exact hprev hc c hct hund
    · obtain ⟨w, hw, -⟩ := hrec c (List.mem_append_right _ hct)
      simp [hlen] at hw
  cases step_cases h with
  | acquire =>
    exact keep (by dsimp only; rw [(acquire_frame rfl).1]) fun hc =>
      hrel ((acquire_frame rfl).2.1 ▸ hc)
  | answer => exact keep rfl hrel
  | worker hu =>
    intro hc c hct
    have hcs : s.cancelRequested = true := workerStep_cancelRequested hu ▸ hc
    dsimp only at hct
    rw [workerStep_cancelled hs hcs hu] at hct
    cases hct
  | cancelWorker => exact keep rfl fun _ => hok
  | stop =>
    refine keep ?_ fun _ => hok
    unfold stop
    split <;> rfl

/-- The invariants of a run in which no worker is cancelled with an undone command in hand. -/
structure Sound (s : CommandThrottle) : Prop where
  recorded : Recorded s
  kept : Kept s
  released : Released s
  control : Control s

theorem init_recorded : Recorded (init cfg) := by
  intro c hc
  have : (init cfg).worker.held = [] := by unfold init; dsimp only; split <;> rfl
  simp [owned, this] at hc
  simp [init] at hc

theorem init_control : Control (init cfg) := by
  refine ⟨by simp [init], fun _ => .inl rfl, fun _ => rfl, by simp [init]⟩

theorem reach_recorded {ok : CommandThrottle → Action → Prop} (h : (system cfg).Reach ok s) :
    Recorded s :=
  h.invariant init_recorded fun s _ _ hs _ hstep => (step_effect (s := s) hstep).recorded hs

theorem reach_control {ok : CommandThrottle → Action → Prop} (h : (system cfg).Reach ok s) :
    Control s :=
  h.invariant init_control fun s _ _ hs _ hstep => step_control (s := s) hs hstep

theorem init_sound : Sound (init cfg) :=
  ⟨init_recorded, fun i w hw => by simp [init] at hw, fun hc => by simp [init] at hc, init_control⟩

theorem reach_sound (h : (system cfg).Reach Unhanded s) : Sound s := by
  refine h.invariant init_sound fun u a v hu hok hstep => ?_
  · exact ⟨(step_effect hstep).recorded hu.recorded, (step_effect hstep).kept hu.released hu.kept,
      step_released hu.control hu.recorded hu.released hok hstep, step_control hu.control hstep⟩

theorem Sound.owned (h : Sound s) {i : Nat} {w : Waiter} (hw : s.waiters[i]? = some w)
    (hp : w.future = .pending) : w.command ∈ s.owned ∧ w.command.future = i := by
  obtain ⟨c, hc, rfl⟩ := h.kept i w hw hp
  obtain ⟨v, hv, hcmd⟩ := h.recorded c hc
  rw [hw] at hv
  cases hv
  exact ⟨hcmd ▸ hc, hcmd ▸ rfl⟩

theorem Sound.owner (h : Sound s) {i : Nat} {w : Waiter} (hw : s.waiters[i]? = some w)
    (hp : w.future = .pending) :
    w.command ∈ s.queue ∨ w.command ∈ s.worker.held ∧ s.cancelRequested = false := by
  obtain ⟨hc, rfl⟩ := h.owned hw hp
  refine (List.mem_append.mp hc).imp_right fun hheld => ⟨hheld, ?_⟩
  by_contra hcancel
  exact h.released (by simpa using hcancel) _ hheld (undone_iff.mpr ⟨w, hw, hp⟩)

/-- Every waiting call has its command in the heap or in the hand of a live worker, a worker waits
on its wake-up event only with an empty heap or a set event, and after `stop()` no call waits. -/
structure NoLostCommand (s : CommandThrottle) : Prop where
  owner : ∀ (i : Nat) (w : Waiter), s.waiters[i]? = some w → w.future = .pending →
    w.command ∈ s.queue ∨
      w.command ∈ s.worker.held ∧ s.worker.alive = true ∧ s.cancelRequested = false
  wakeup : s.worker = .waiting → s.queue = [] ∨ s.commandAvailable = true
  rejected : s.stopped = true → ∀ (i : Nat) (w : Waiter), s.waiters[i]? = some w → w.future ≠ .pending

/-- **No lost command**, in every run that does not cancel a worker with an undone command in
hand. -/
theorem no_lost_command (h : (system cfg).Reach Unhanded s) : NoLostCommand s := by
  have hs := reach_sound h
  refine ⟨fun i w hw hp => ?_, hs.control.wakeup, fun hst i w hw hp => ?_⟩
  · refine (hs.owner hw hp).imp_right fun ⟨hheld, hcancel⟩ => ⟨hheld, ?_, hcancel⟩
    cases hworker : s.worker <;> simp_all [Worker.alive]
  · obtain hqueue | ⟨hheld, hcancel⟩ := hs.owner hw hp
    · simp [hs.control.closed hst] at hqueue
    · obtain hc | hh := hs.control.halted hst
      · simp [hcancel] at hc
      · simp [hh] at hheld

/-- A second command waits in the heap when `stop()` comes. -/
theorem no_lost_command_stop :
    ∃ s, (system ⟨100, 5, 500⟩).replay Unhanded (init ⟨100, 5, 500⟩)
        [.acquire .low "VCU1:1" [] 1000 1000, .worker 1000, .worker 1000, .worker 1000,
          .worker 1000, .worker 1000, .acquire .low "VCU1:1" [] 1010 1010, .stop,
          .worker 1020] = some s ∧
      s.stopped = true ∧ s.waiters.map (·.future) = [.result, .stopped] ∧ NoLostCommand s := by
  obtain ⟨s, hs, hstopped, hfutures⟩ := StepSystem.replay_any
    (p := fun s => s.stopped = true ∧ s.waiters.map (·.future) = [.result, .stopped])
    (show ((system ⟨100, 5, 500⟩).replay Unhanded (init ⟨100, 5, 500⟩)
      [.acquire .low "VCU1:1" [] 1000 1000, .worker 1000, .worker 1000, .worker 1000, .worker 1000,
        .worker 1000, .acquire .low "VCU1:1" [] 1010 1010, .stop, .worker 1020]).any _ = true
      by decide)
  exact ⟨s, hs, hstopped, hfutures, no_lost_command (StepSystem.reach_of_replay hs)⟩

/-- `stop()` cancels the worker in its throttle sleep: the command it holds is waited for
for ever. -/
theorem lost_command_stop :
    ∃ s, (system ⟨100, 5, 500⟩).Reach StepSystem.Free s ∧ s.stopped = true ∧ s.worker = .done ∧
      s.queue = [] ∧ s.waiters.map (·.future) = [.result, .pending] ∧ ¬ NoLostCommand s := by
  obtain ⟨s, hs, hstopped, hworker, hqueue, hfutures⟩ := StepSystem.replay_any
    (p := fun s => s.stopped = true ∧ s.worker = .done ∧ s.queue = [] ∧
      s.waiters.map (·.future) = [.result, .pending])
    (show ((system ⟨100, 5, 500⟩).replay StepSystem.Free (init ⟨100, 5, 500⟩)
      [.acquire .low "VCU1:1" [] 1000 1000, .worker 1000, .worker 1000, .worker 1000, .worker 1000,
        .worker 1000, .acquire .low "VCU1:1" [] 1010 1010, .worker 1010, .stop,
        .worker 1020]).any _ = true by decide)
  refine ⟨s, StepSystem.reach_of_replay hs, hstopped, hworker, hqueue, hfutures, fun h => ?_⟩
  have hw : (s.waiters.map (·.future))[1]? = some .pending := by rw [hfutures]; rfl
  rw [List.getElem?_map] at hw
  obtain ⟨w, hw, hp⟩ := Option.map_eq_some_iff.mp hw
  exact h.rejected hstopped 1 w hw hp

end CommandThrottle

end AioHomematic.Client
