import AioHomematic.Model.DataPoint

/-!
# What a rollback restores

One data point under optimistic values, events of the backend, loads, failed
sends and rollback timeouts, in any order. `confirmed` is what the last event
or load confirmed. A burst of sends goes back to the value captured at its
first send, whatever was confirmed since, so a data point shows what was
confirmed last as long as nothing else is confirmed while sends are pending
(`Settled`); the first event or load that breaks this can be followed by a
timeout that restores an older value.
-/

namespace AioHomematic.Model

open Lib

structure Observed (R P : Type*) where
  dataPoint : DataPoint R P
  confirmed : Option P

namespace Observed

variable {R P : Type*} [DecidableEq P]

inductive Action (R P : Type*) where
  | applyOptimisticValue (value : Option P) (now : Nat)
  | event (value : R) (receivedAt : Nat)
  | load (value : CacheEntry R) (writeAt : Nat)
  | sendFailed
  | rollbackTimeout

/-- What is confirmed after an event or a load of `value`. -/
def confirmedBy (s : Observed R P) : CacheEntry R → Option P
  | .noCacheEntry => s.confirmed
  | .entry value => s.dataPoint.info.convertValue value

def step (s : Observed R P) : Action R P → Option (Observed R P)
  | .applyOptimisticValue value now =>
    some { s with dataPoint := s.dataPoint.applyOptimisticValue value now }
  | .event value receivedAt =>
    some {
      dataPoint := s.dataPoint.event value receivedAt
      confirmed := s.confirmedBy (.entry value) }
  | .load value writeAt =>
    some {
      dataPoint := s.dataPoint.load value writeAt
      confirmed := s.confirmedBy value }
  | .sendFailed => some { s with dataPoint := s.dataPoint.rollbackOptimisticValue }
  | .rollbackTimeout => s.dataPoint.rollbackTimeout.map ({ s with dataPoint := · })

def init (info : ParameterInfo R P) : Observed R P where
  dataPoint := { info }
  confirmed := none

def system (info : ParameterInfo R P) : StepSystem (Observed R P) (Action R P) where
  init := init info
  step := step

/-- While sends stay pending, `value` is the value the burst goes back to. -/
def KeepsTarget (d : DataPoint R P) (value : R) : Prop :=
  d.optimistic.pendingSends = 0 ∨ d.info.convertValue value = d.optimistic.previousValue

/-- An event or a load that leaves sends pending confirms the value the burst goes back to. -/
def Settled (s : Observed R P) : Action R P → Prop
  | .event value _ =>
    s.dataPoint.optimistic.isActive = true ∧ s.dataPoint.optimistic.pendingSends ≤ 1 ∨
      KeepsTarget s.dataPoint value
  | .load (.entry value) _ => KeepsTarget s.dataPoint value
  | _ => True

instance (d : DataPoint R P) (value : R) : Decidable (KeepsTarget d value) :=
  inferInstanceAs (Decidable (_ ∨ _))

instance : DecidableRel (Settled : Observed R P → Action R P → Prop)
  | _, .event _ _ => inferInstanceAs (Decidable (_ ∧ _ ∨ _))
  | _, .load (.entry _) _ => inferInstanceAs (Decidable (KeepsTarget _ _))
  | _, .load .noCacheEntry _ => .isTrue trivial
  | _, .applyOptimisticValue _ _ => .isTrue trivial
  | _, .sendFailed => .isTrue trivial
  | _, .rollbackTimeout => .isTrue trivial

/-- What settled steps keep: the value a burst goes back to is the one confirmed last. -/
structure Confirmed (s : Observed R P) : Prop where
  polled : s.dataPoint.unconfirmedRefreshedAt = initDatetime
  pending : s.dataPoint.optimistic.isActive = true → s.dataPoint.optimistic.pendingSends ≠ 0
  timer : s.dataPoint.optimistic.isActive = true → s.dataPoint.optimistic.timeoutHandle = true
  target : s.dataPoint.optimistic.pendingSends ≠ 0 →
    s.dataPoint.optimistic.previousValue = s.confirmed
  current : s.dataPoint.currentValue = s.confirmed

omit [DecidableEq P] in
theorem init_confirmed (info : ParameterInfo R P) : Confirmed (init info) where
  polled := rfl
  pending h := absurd h Bool.false_ne_true
  timer h := absurd h Bool.false_ne_true
  target h := absurd rfl h
  current := rfl

namespace Confirmed

variable {s : Observed R P}

omit [DecidableEq P] in
theorem applyOptimisticValue (hs : Confirmed s) (v : Option P) (now : Nat) :
    Confirmed { s with dataPoint := s.dataPoint.applyOptimisticValue v now } := by
  unfold DataPoint.applyOptimisticValue
  split
  · refine ⟨hs.polled, fun _ => Nat.succ_ne_zero _, fun _ => rfl, fun _ => ?_, hs.current⟩
    show (if s.dataPoint.optimistic.pendingSends = 0 then s.dataPoint.storedValue
      else s.dataPoint.optimistic.previousValue) = s.confirmed
    split
    · rw [DataPoint.storedValue_eq_currentValue hs.polled, hs.current]
    · exact hs.target ‹_›
  · exact hs

theorem event (hs : Confirmed s) {v : R} {t : Nat} (hok : Settled s (.event v t)) :
    Confirmed {
      dataPoint := s.dataPoint.event v t
      confirmed := s.confirmedBy (.entry v) } where
  polled := DataPoint.unconfirmedRefreshedAt_event ..
  pending h := by
    rw [DataPoint.optimistic_event, DataPoint.isActive_confirmOptimistic] at h
    obtain ⟨hactive, hpending⟩ := (Bool.and_eq_true _ _).mp h
    rw [DataPoint.optimistic_event, DataPoint.pendingSends_confirmOptimistic, if_pos hactive]
    exact of_decide_eq_true hpending
  timer h := by
    rw [DataPoint.optimistic_event] at h ⊢
    rw [DataPoint.isActive_confirmOptimistic] at h
    obtain ⟨hactive, hpending⟩ := (Bool.and_eq_true _ _).mp h
    have hleft : s.dataPoint.confirmOptimistic.optimistic.pendingSends ≠ 0 := by
      rw [DataPoint.pendingSends_confirmOptimistic, if_pos hactive]
      exact of_decide_eq_true hpending
    rw [(DataPoint.confirmOptimistic_of_pending hleft).2]
    exact hs.timer hactive
  target h := by
    rw [DataPoint.optimistic_event] at h ⊢
    rw [(DataPoint.confirmOptimistic_of_pending h).1]
    rw [DataPoint.pendingSends_confirmOptimistic] at h
    rcases hok with ⟨hactive, hfinal⟩ | hnone | htarget
    · rw [if_pos hactive] at h
      omega
    · rw [hnone] at h
      split at h <;> exact absurd rfl h
    · exact htarget.symm
  current := DataPoint.currentValue_event ..

theorem load (hs : Confirmed s) {v : CacheEntry R} {t : Nat} (hok : Settled s (.load v t)) :
    Confirmed {
      dataPoint := s.dataPoint.load v t
      confirmed := s.confirmedBy v } where
  polled := DataPoint.unconfirmedRefreshedAt_writeValue ..
  pending h := by
    rw [DataPoint.load, DataPoint.optimistic_writeValue] at h ⊢
    exact hs.pending h
  timer h := by
    rw [DataPoint.load, DataPoint.optimistic_writeValue] at h ⊢
    exact hs.timer h
  target h := by
    rw [DataPoint.load, DataPoint.optimistic_writeValue] at h ⊢
    cases v with
    | noCacheEntry => exact hs.target h
    | entry v =>
      rcases hok with hnone | htarget
      · exact absurd hnone h
      · exact htarget.symm
  current := by
    cases v with
    | noCacheEntry =>
      exact (DataPoint.currentValue_writeValue_noCacheEntry _ t).trans hs.current
    | entry v => exact DataPoint.currentValue_writeValue_entry ..

omit [DecidableEq P] in
theorem rollback (hs : Confirmed s) :
    Confirmed { s with dataPoint := s.dataPoint.rollbackOptimisticValue } := by
  cases hactive : s.dataPoint.optimistic.isActive with
  | false => rwa [DataPoint.rollbackOptimisticValue_of_inactive hactive]
  | true =>
    obtain ⟨hcurrent, hpolled, hpending, -⟩ := DataPoint.rollbackOptimisticValue_of_active hactive
    have hinactive := DataPoint.isActive_rollbackOptimisticValue s.dataPoint
    exact ⟨hpolled, fun h => absurd (hinactive.symm.trans h) Bool.false_ne_true,
      fun h => absurd (hinactive.symm.trans h) Bool.false_ne_true, fun h => absurd hpending h,
      hcurrent.trans (hs.target (hs.pending hactive))⟩

omit [DecidableEq P] in
theorem cancelTimer (hs : Confirmed s) (hinactive : s.dataPoint.optimistic.isActive = false) :
    Confirmed { s with
      dataPoint := { s.dataPoint with optimistic := s.dataPoint.optimistic.cancelTimer } } :=
  ⟨hs.polled, hs.pending, fun h => absurd (hinactive.symm.trans h) Bool.false_ne_true, hs.target,
    hs.current⟩

theorem step {t : Observed R P} {a : Action R P} (hs : Confirmed s) (hok : Settled s a)
    (h : s.step a = some t) : Confirmed t := by
  cases a with
  | applyOptimisticValue v now => cases h; exact hs.applyOptimisticValue v now
  | event v receivedAt => cases h; exact hs.event hok
  | load v writeAt => cases h; exact hs.load hok
  | sendFailed => cases h; exact hs.rollback
  | rollbackTimeout =>
    obtain ⟨d, hd, rfl⟩ := Option.map_eq_some_iff.mp h
    rw [DataPoint.rollbackTimeout_eq hd]
    split
    · exact hs.rollback
    · exact hs.cancelTimer (Bool.eq_false_of_not_eq_true ‹_›)

end Confirmed

/-! ## The value without an optimistic one -/

variable {info : ParameterInfo R P} {s t : Observed R P}

theorem reach_confirmed (h : (system info).Reach Settled s) : Confirmed s :=
  h.invariant (init_confirmed info) fun _ _ _ hs hok hstep => hs.step hok hstep

/-- **Rollback target**: in runs of settled steps, a data point without an optimistic value has
and shows what was confirmed last. -/
theorem rollback_target (hreach : (system info).Reach Settled s)
    (hinactive : s.dataPoint.isOptimistic = false) :
    s.dataPoint.currentValue = s.confirmed ∧ s.dataPoint.value = s.confirmed := by
  have hs := reach_confirmed hreach
  refine ⟨hs.current, ?_⟩
  rw [DataPoint.value_of_inactive hinactive, DataPoint.storedValue_eq_currentValue hs.polled,
    hs.current]

/-! ## Unsettled steps -/

omit [DecidableEq P] in
theorem rollbackTimeout_of_timer {d : DataPoint R P} (hactive : d.optimistic.isActive = true)
    (htimer : d.optimistic.timeoutHandle = true) :
    d.rollbackTimeout = some d.rollbackOptimisticValue := by
  obtain ⟨d', hd⟩ : ∃ d', d.rollbackTimeout = some d' := ⟨_, if_pos htimer⟩
  rw [hd, DataPoint.rollbackTimeout_eq hd, if_pos hactive]

/-- Pending sends that would go back to another value than the confirmed one let a timeout
restore it. -/
theorem stale_of_target (happlies : DataPoint.appliesOptimistic s.dataPoint.info = true)
    (hpending : s.dataPoint.optimistic.pendingSends ≠ 0)
    (htimer : s.dataPoint.optimistic.isActive = true →
      s.dataPoint.optimistic.timeoutHandle = true)
    (hstale : s.dataPoint.optimistic.previousValue ≠ s.confirmed) :
    ∃ as u, (system info).Steps StepSystem.Free s as u ∧ u.dataPoint.isOptimistic = false ∧
      u.dataPoint.currentValue ≠ u.confirmed := by
  -- with an active value, the timer of its last send is still scheduled
  have hfires : ∀ s : Observed R P, s.dataPoint.optimistic.isActive = true →
      s.dataPoint.optimistic.timeoutHandle = true →
      s.dataPoint.optimistic.previousValue ≠ s.confirmed →
      ∃ u, (system info).step s .rollbackTimeout = some u ∧ u.dataPoint.isOptimistic = false ∧
        u.dataPoint.currentValue ≠ u.confirmed := by
    intro s hactive htimer hstale
    refine ⟨{ s with dataPoint := s.dataPoint.rollbackOptimisticValue }, ?_,
      DataPoint.isActive_rollbackOptimisticValue _, ?_⟩
    · show s.dataPoint.rollbackTimeout.map _ = _
      rw [rollbackTimeout_of_timer hactive htimer]
      rfl
    · show s.dataPoint.rollbackOptimisticValue.currentValue ≠ s.confirmed
      rwa [(DataPoint.rollbackOptimisticValue_of_active hactive).1]
  cases hactive : s.dataPoint.optimistic.isActive with
  | true =>
    obtain ⟨u, hu, hinactive, hne⟩ := hfires s hactive (htimer hactive) hstale
    exact ⟨_, u, .single trivial hu, hinactive, hne⟩
  | false =>
    -- without one, another send of the burst makes it active again
    obtain ⟨x⟩ : Nonempty P := by
      by_contra hempty
      have : IsEmpty P := not_nonempty_iff.mp hempty
      exact hstale (Subsingleton.elim _ _)
    let v : Observed R P := { s with dataPoint := s.dataPoint.applyOptimisticValue (some x) 0 }
    have hv : v.dataPoint.optimistic =
        (s.dataPoint.optimistic.apply (some x) s.dataPoint.storedValue 0).scheduleRollback := by
      show (s.dataPoint.applyOptimisticValue (some x) 0).optimistic = _
      rw [DataPoint.applyOptimisticValue_of_applies happlies]
    have hprevious : v.dataPoint.optimistic.previousValue ≠ v.confirmed := by
      rw [hv, OptimisticValueTracker.previousValue_scheduleRollback]
      show (if s.dataPoint.optimistic.pendingSends = 0 then _ else _) ≠ s.confirmed
      rwa [if_neg hpending]
    obtain ⟨u, hu, hinactive, hne⟩ := hfires v (by rw [hv]; rfl) (by rw [hv]; rfl) hprevious
    have hstep : (system info).step s (.applyOptimisticValue (some x) 0) = some v := rfl
    exact ⟨_, u, .cons trivial hstep (.single trivial hu), hinactive, hne⟩

/-- The condition on runs cannot be weakened: the first step that breaks it leads to a rollback to
another value than the confirmed one. -/
theorem stale_of_unsettled (hreach : (system info).Reach Settled s)
    (happlies : DataPoint.appliesOptimistic s.dataPoint.info = true) {a : Action R P}
    (hbad : ¬ Settled s a) (hstep : (system info).step s a = some t) :
    ∃ as u, (system info).Steps StepSystem.Free t as u ∧ u.dataPoint.isOptimistic = false ∧
      u.dataPoint.currentValue ≠ u.confirmed := by
  have hs := reach_confirmed hreach
  cases a with
  | event v receivedAt =>
    cases hstep
    obtain ⟨hfinal, hkeeps⟩ := not_or.mp hbad
    obtain ⟨hpending, htarget⟩ := not_or.mp hkeeps
    have hleft : s.dataPoint.confirmOptimistic.optimistic.pendingSends ≠ 0 := by
      rw [DataPoint.pendingSends_confirmOptimistic]
      split
      · have hmore : ¬ s.dataPoint.optimistic.pendingSends ≤ 1 := fun h => hfinal ⟨‹_›, h⟩
        omega
      · exact hpending
    obtain ⟨hprevious, htimer⟩ := DataPoint.confirmOptimistic_of_pending hleft
    refine stale_of_target ?_ ?_ ?_ ?_
    · rwa [DataPoint.info_event]
    · rwa [DataPoint.optimistic_event]
    · intro hactive
      rw [DataPoint.optimistic_event] at hactive ⊢
      rw [DataPoint.isActive_confirmOptimistic] at hactive
      rw [htimer]
      exact hs.timer ((Bool.and_eq_true _ _).mp hactive).1
    · rw [DataPoint.optimistic_event, hprevious]
      exact Ne.symm htarget
  | load v writeAt =>
    cases v with
    | noCacheEntry => exact absurd trivial hbad
    | entry v =>
      cases hstep
      obtain ⟨hpending, htarget⟩ := not_or.mp hbad
      refine stale_of_target ?_ ?_ ?_ ?_ <;>
        simp only [DataPoint.load, DataPoint.info_writeValue, DataPoint.optimistic_writeValue]
      · exact happlies
      · exact hpending
      · exact hs.timer
      · exact Ne.symm htarget
  | applyOptimisticValue v now => exact absurd trivial hbad
  | sendFailed => exact absurd trivial hbad
  | rollbackTimeout => exact absurd trivial hbad

/-! ## Two sends and one echo -/

/-- A data point of numbers that are received as they are. -/
def sampleInfo : ParameterInfo Nat Nat where
  dpk := ⟨"CCU-HmIP-RF", "VCU1:3", .values, "LEVEL"⟩
  convertValue := some

/-- After 10 is confirmed, 50 is sent and its echo arrives. -/
def sampleEcho : List (Action Nat Nat) :=
  [.event 10 100, .applyOptimisticValue (some 50) 200, .event 50 201]

/-- A run of settled steps: the echo is the final confirmation. -/
theorem rollback_target_echo :
    ∃ s, (system sampleInfo).replay Settled (init sampleInfo) sampleEcho = some s ∧
      s.dataPoint.currentValue = some 50 ∧ s.dataPoint.value = some 50 := by
  obtain ⟨s, hs, hinactive, hconfirmed⟩ := StepSystem.replay_any
    (p := fun s : Observed Nat Nat => s.dataPoint.isOptimistic = false ∧ s.confirmed = some 50)
    (show ((system sampleInfo).replay Settled (init sampleInfo) sampleEcho).any _ = true by decide)
  obtain ⟨hcurrent, hvalue⟩ := rollback_target (StepSystem.reach_of_replay hs) hinactive
  exact ⟨s, hs, hcurrent.trans hconfirmed, hvalue.trans hconfirmed⟩

/-- 60 is sent while the echo of 50 is on its way, and is never confirmed: the timeout restores
10, which is older than the confirmed 50. -/
theorem rollback_target_burst :
    ∃ s, (system sampleInfo).Reach StepSystem.Free s ∧ s.dataPoint.isOptimistic = false ∧
      s.confirmed = some 50 ∧ s.dataPoint.currentValue = some 10 := by
  obtain ⟨s, hs, htest⟩ := StepSystem.replay_any
    (p := fun s : Observed Nat Nat => s.dataPoint.isOptimistic = false ∧
      s.confirmed = some 50 ∧ s.dataPoint.currentValue = some 10)
    (show ((system sampleInfo).replay StepSystem.Free (init sampleInfo)
      [.event 10 100, .applyOptimisticValue (some 50) 200, .applyOptimisticValue (some 60) 201,
        .event 50 202, .rollbackTimeout]).any _ = true by decide)
  exact ⟨s, StepSystem.reach_of_replay hs, htest⟩

end Observed

end AioHomematic.Model
