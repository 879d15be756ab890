import AioHomematic.Client.CommandThrottle.Order
import AioHomematic.Lib.SlidingWindow

/-!
# Burst detection

`_detect_burst` keeps the readings of HIGH acquires in a deque and drops those
that lie before the window. The readings do not go back, so the deque has what
the whole history has in the window, and `downgraded_iff` speaks of the history.
-/

namespace AioHomematic.Client.CommandThrottle

open Lib

variable {cfg : Config} {s t : CommandThrottle} {a : Action} {as : List Action}

/-- The clock reading that a HIGH acquire makes for the burst detection. -/
def burstReading : Action → Option Int
  | .acquire .high _ _ tBurst _ => some tBurst
  | _ => none

/-- How many of the HIGH acquires were within the burst window before `now`. -/
def countInWindow (cfg : Config) (as : List Action) (now : Int) : Nat :=
  (as.filterMap burstReading).countP (now - cfg.burstWindow ≤ ·)

/-- With the acquire at `now` as the last of the actions `as`, its window has too many of them. A
throttle that is off, or a threshold of 0, knows no bursts. -/
def IsBurst (cfg : Config) (as : List Action) (now : Int) : Prop :=
  cfg.interval ≠ 0 ∧ cfg.burstThreshold ≠ 0 ∧ cfg.burstThreshold < countInWindow cfg as now

instance (cfg : Config) (as : List Action) (now : Int) : Decidable (IsBurst cfg as now) :=
  inferInstanceAs (Decidable (_ ∧ _))

/-- Where the burst window begins. -/
def cutoff (cfg : Config) (now : Int) : Int := now - cfg.burstWindow

theorem cutoff_le_cutoff (cfg : Config) {now now' : Int} (h : now ≤ now') :
    cutoff cfg now ≤ cutoff cfg now' := by
  unfold cutoff
  omega

theorem detectBurst_eq (hthreshold : cfg.burstThreshold ≠ 0) (now : Int) :
    s.detectBurst cfg now =
      (decide (cfg.burstThreshold < (slide (cutoff cfg) s.burstTimestamps now).length),
        { s with burstTimestamps := slide (cutoff cfg) s.burstTimestamps now }) :=
  if_neg hthreshold

variable (cfg s) in
/-- The priority of a HIGH acquire, and what it leaves of the deque and the counter. -/
theorem downgrade_high (now : Int) :
    (s.downgrade cfg .high now).1 = (if (s.detectBurst cfg now).1 then .low else .high) ∧
      (s.downgrade cfg .high now).2.burstTimestamps =
        (s.detectBurst cfg now).2.burstTimestamps ∧
      (s.downgrade cfg .high now).2.burstCount =
        s.burstCount + (if (s.detectBurst cfg now).1 then 1 else 0) := by
  have hcount : (s.detectBurst cfg now).2.burstCount = s.burstCount := by
    unfold detectBurst
    split <;> rfl
  unfold downgrade
  rw [if_pos rfl]
  dsimp only
  split
  · exact ⟨rfl, rfl, congrArg (· + 1) hcount⟩
  · exact ⟨rfl, rfl, hcount⟩

/-! ## What the steps do to the deque -/

theorem bursts_bypass (purgeAddresses : List String) :
    (s.bypass purgeAddresses).burstTimestamps = s.burstTimestamps := by
  unfold bypass purgeCommands
  dsimp only
  split
  · rfl
  · split <;> rfl

theorem bursts_popNext {now : Int} :
    (s.popNext cfg now).burstTimestamps = s.burstTimestamps := by
  unfold popNext
  split
  · rfl
  · dsimp only
    split <;> rfl

theorem bursts_afterWait {now : Int} :
    (s.afterWait cfg now).burstTimestamps = s.burstTimestamps := by
  unfold afterWait
  dsimp only
  split
  · rfl
  · exact bursts_popNext

theorem bursts_workerStep {now : Int} (h : s.workerStep cfg now = some t) :
    t.burstTimestamps = s.burstTimestamps := by
  unfold workerStep at h
  split at h
  · cases h
  · cases h
    rfl
  · cases h
    unfold loopTop
    split
    · rfl
    · split
      · split
        · exact bursts_afterWait
        · rfl
      · exact bursts_popNext
  · split at h
    · cases h
      rfl
    · split at h
      · cases h
        exact bursts_afterWait
      · cases h
  · split at h
    · cases h
      rfl
    · split at h <;> cases h
      rfl
  · cases h
    rfl
  · cases h

theorem bursts_acquire {priority : CommandPriority} {deviceAddress : String}
    {purgeAddresses : List String} {tBurst tStamp : Int} :
    (s.acquire cfg priority deviceAddress purgeAddresses tBurst tStamp).2.burstTimestamps =
      if cfg.interval ≠ 0 ∧ priority = .high then
        (s.detectBurst cfg tBurst).2.burstTimestamps
      else s.burstTimestamps := by
  unfold acquire
  by_cases hinterval : cfg.interval = 0
  · rw [if_pos hinterval, if_neg fun h => h.1 hinterval]
  · rw [if_neg hinterval]
    by_cases hcritical : priority = .critical
    · subst hcritical
      rw [if_pos rfl, if_neg nofun]
      exact bursts_bypass purgeAddresses
    · rw [if_neg hcritical]
      have hkept : (s.downgrade cfg priority tBurst).2.burstTimestamps =
          if cfg.interval ≠ 0 ∧ priority = .high then
            (s.detectBurst cfg tBurst).2.burstTimestamps
          else s.burstTimestamps := by
        by_cases hhigh : priority = .high
        · rw [if_pos ⟨hinterval, hhigh⟩, hhigh]
          exact (downgrade_high cfg s tBurst).2.1
        · rw [if_neg fun h => hhigh h.2, downgrade, if_neg hhigh]
      dsimp only
      split <;> exact hkept

theorem bursts_step (h : step cfg s a = some t) :
    t.burstTimestamps =
      match burstReading a with
      | some tBurst =>
        if cfg.interval ≠ 0 then (s.detectBurst cfg tBurst).2.burstTimestamps
        else s.burstTimestamps
      | none => s.burstTimestamps := by
  cases a with
  | acquire priority deviceAddress purgeAddresses tBurst tStamp =>
    simp only [step] at h
    split at h
    · cases h
      rw [show CommandThrottle.burstTimestamps _ = _ from bursts_acquire]
      cases priority with
      | high => simp only [burstReading, and_true]
      | low => exact if_neg fun h => absurd h.2 (by decide)
      | critical => exact if_neg fun h => absurd h.2 (by decide)
    · cases h
  | worker now =>
    cases step_cases h with
    | answer => rfl
    | worker hu =>
      have hkept := bursts_workerStep hu
      exact hkept
  | stop =>
    cases step_cases h with
    | answer => rfl
    | stop =>
      unfold stop
      split <;> rfl
  | _ => cases step_cases h <;> rfl

/-! ## The deque and the history -/

/-- The deque is what is left of the readings of a run. -/
structure Windowed (cfg : Config) (as : List Action) (s : CommandThrottle) : Prop where
  past : ∀ r ∈ as.filterMap burstReading, r ≤ s.clock
  kept : cfg.interval ≠ 0 → cfg.burstThreshold ≠ 0 →
    KeptOf (cutoff cfg) (as.filterMap burstReading) s.burstTimestamps

theorem le_clock_of_burstReading {r : Int} (h : step cfg s a = some t)
    (hr : burstReading a = some r) : s.clock ≤ r ∧ r ≤ t.clock := by
  unfold burstReading at hr
  split at hr
  · cases hr
    simp only [step] at h
    split at h
    next hen =>
      cases h
      exact hen.2
    · cases h
  · cases hr

theorem Windowed.step (hs : Windowed cfg as s) (h : step cfg s a = some t) :
    Windowed cfg (as ++ [a]) t := by
  have hclock := clock_le_of_step h
  have hbursts := bursts_step h
  cases hr : burstReading a with
  | none =>
    rw [hr] at hbursts
    refine ⟨?_, ?_⟩
    · rw [List.filterMap_append, List.filterMap_cons_none hr, List.filterMap_nil, List.append_nil]
      exact fun r hmem => (hs.past r hmem).trans hclock
    · rw [List.filterMap_append, List.filterMap_cons_none hr, List.filterMap_nil, List.append_nil,
        hbursts]
      exact hs.kept
  | some r =>
    rw [hr] at hbursts
    obtain ⟨hlow, hhigh⟩ := le_clock_of_burstReading h hr
    refine ⟨?_, ?_⟩
    · rw [List.filterMap_append, List.filterMap_cons_some hr, List.filterMap_nil]
      intro u hu
      rcases List.mem_append.mp hu with hu | hu
      · exact (hs.past u hu).trans hclock
      · rw [List.mem_singleton.mp hu]
        exact hhigh
    · intro hinterval hthreshold
      rw [List.filterMap_append, List.filterMap_cons_some hr, List.filterMap_nil, hbursts]
      simp only [if_pos hinterval, detectBurst_eq hthreshold]
      exact (hs.kept hinterval hthreshold).slide (fun _ _ => cutoff_le_cutoff cfg) fun u hu =>
        (hs.past u hu).trans hlow

theorem steps_windowed {ok : CommandThrottle → Action → Prop}
    (h : (system cfg).Steps ok (init cfg) as s) : Windowed cfg as s := by
  have hinit : Windowed cfg [] (init cfg) := ⟨nofun, fun _ _ => .nil⟩
  exact h.history (fun _ _ _ _ hs _ hstep => hs.step hstep) hinit

/-- The deque is as long as the history has readings in the window. -/
theorem detectBurst_iff {now : Int} (hs : Windowed cfg as s) (hinterval : cfg.interval ≠ 0)
    (hclock : s.clock ≤ now) (ha : burstReading a = some now) :
    (s.detectBurst cfg now).1 = true ↔ IsBurst cfg (as ++ [a]) now := by
  unfold IsBurst
  by_cases hthreshold : cfg.burstThreshold = 0
  · simp [detectBurst, hthreshold]
  · have hcount : (slide (cutoff cfg) s.burstTimestamps now).length =
        countInWindow cfg (as ++ [a]) now := by
      have hfilter := (hs.kept hinterval hthreshold).slide_eq_filter
        (fun _ _ => cutoff_le_cutoff cfg) fun u hu => (hs.past u hu).trans hclock
      rw [hfilter, ← List.countP_eq_length_filter]
      unfold countInWindow
      rw [List.filterMap_append, List.filterMap_cons_some ha, List.filterMap_nil]
      rfl
    rw [detectBurst_eq hthreshold, hcount, decide_eq_true_iff]
    exact ⟨fun h => ⟨hinterval, hthreshold, h⟩, fun h => h.2.2⟩

/-- After any run, a HIGH acquire is downgraded if and only if it is in a burst: then it is counted
as one, and it is enqueued as LOW unless the throttle is stopped. -/
theorem downgraded_iff {ok : CommandThrottle → Action → Prop} {deviceAddress : String}
    {purgeAddresses : List String} {tBurst tStamp : Int}
    (h : (system cfg).Steps ok (init cfg) as s)
    (hstep : step cfg s (.acquire .high deviceAddress purgeAddresses tBurst tStamp) = some t) :
    let a := Action.acquire .high deviceAddress purgeAddresses tBurst tStamp
    t.burstCount = s.burstCount + (if IsBurst cfg (as ++ [a]) tBurst then 1 else 0) ∧
      (cfg.interval ≠ 0 → s.stopped = false → ∃ w, t.waiters = s.waiters ++ [w] ∧
        w.command.priority = if IsBurst cfg (as ++ [a]) tBurst then .low else .high) := by
  intro a
  have hs := steps_windowed h
  have hclock := (le_clock_of_burstReading hstep rfl).1
  have hcritical : ¬CommandPriority.high = .critical := by decide
  obtain ⟨hpriority, -, hcount⟩ := downgrade_high cfg s tBurst
  obtain ⟨stamps, count, hframe⟩ := downgrade_frame cfg s .high tBurst
  simp only [CommandThrottle.step] at hstep
  split at hstep
  next =>
    cases hstep
    by_cases hinterval : cfg.interval = 0
    · have hnone : ¬IsBurst cfg (as ++ [a]) tBurst := fun hburst => hburst.1 hinterval
      rw [if_neg hnone, acquire, if_pos hinterval]
      exact ⟨rfl, fun hne => absurd hinterval hne⟩
    · have hiff := detectBurst_iff hs hinterval hclock (a := a) rfl
      rw [if_congr hiff rfl rfl] at hpriority hcount
      refine ⟨?_, fun _ hrunning => ?_⟩
      · rw [← hcount, acquire, if_neg hinterval, if_neg hcritical]
        dsimp only
        split <;> rfl
      · have hstopped : ¬(s.downgrade cfg .high tBurst).2.stopped = true := by
          rw [hframe, hrunning]
          exact Bool.false_ne_true
        rw [acquire, if_neg hinterval, if_neg hcritical]
        dsimp only
        rw [if_neg hstopped]
        have hwaiters : (s.downgrade cfg .high tBurst).2.waiters = s.waiters := by rw [hframe]
        exact ⟨_, congrArg (· ++ [_]) hwaiters, hpriority⟩
  next => cases hstep

/-- Two HIGH acquires at one time and a third at the edge of the window, with a threshold of 2. -/
theorem downgraded_iff_edge :
    ∃ s t, (system ⟨100, 2, 500⟩).Steps StepSystem.Free (init ⟨100, 2, 500⟩)
        [.acquire .high "VCU1:1" [] 1000 1000, .acquire .high "VCU1:1" [] 1000 1001] s ∧
      step ⟨100, 2, 500⟩ s (.acquire .high "VCU1:1" [] 1500 1500) = some t ∧
      t.burstCount = s.burstCount + 1 := by
  obtain ⟨s, hs, hnext⟩ := StepSystem.replay_any
    (p := fun s => (step ⟨100, 2, 500⟩ s (.acquire .high "VCU1:1" [] 1500 1500)).isSome = true)
    (show ((system ⟨100, 2, 500⟩).replay StepSystem.Free (init ⟨100, 2, 500⟩)
      [.acquire .high "VCU1:1" [] 1000 1000, .acquire .high "VCU1:1" [] 1000 1001]).any _ = true
      by decide)
  obtain ⟨t, ht⟩ := Option.isSome_iff_exists.mp hnext
  have hsteps := StepSystem.steps_of_replay hs
  refine ⟨s, t, hsteps, ht, ?_⟩
  rw [(downgraded_iff hsteps ht).1, if_pos (by decide)]

/-- A threshold of 0 turns the detection off: more than 0 acquires in the window, and the acquire
stays HIGH. -/
theorem not_downgraded_disabled :
    ∃ s w, step ⟨100, 0, 500⟩ (init ⟨100, 0, 500⟩)
        (.acquire .high "VCU1:1" [] 1000 1000) = some s ∧
      0 < countInWindow ⟨100, 0, 500⟩ [.acquire .high "VCU1:1" [] 1000 1000] 1000 ∧
      s.waiters = [w] ∧ w.command.priority = .high :=
  ⟨_, _, rfl, by decide, rfl, rfl⟩

end AioHomematic.Client.CommandThrottle
