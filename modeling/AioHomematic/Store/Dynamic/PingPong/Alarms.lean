import AioHomematic.Store.Dynamic.PingPong

/-!
# Alarms and resets of the ping-pong tracker

An event of a type whose count is above the allowed delta is an alarm, one
whose count is 0 a reset. `paired_of_reach` says how they follow each other and
what the last of them tells about the tracker.
-/

namespace AioHomematic.Store

open Lib StepSystem

namespace PingPongTracker

variable (settings : PingPongSettings) (s t : PingPongTracker)

inductive Signal where
  | alarm
  | reset
deriving DecidableEq

/-- An event with a count that is not too high is no signal unless it resets. -/
def signal (issue : IntegrationIssue) : Option Signal :=
  if settings.allowedDelta < issue.mismatchCount then some .alarm
  else if issue.mismatchCount = 0 then some .reset
  else none

def signals (mismatchType : PingPongMismatchType) (issues : List IntegrationIssue) : List Signal :=
  issues.filterMap fun issue =>
    if issue.mismatchType = mismatchType then signal settings issue else none

/-- Each reset follows an alarm directly. -/
def Paired (l : List Signal) : Prop :=
  ∀ l₁ l₂, l = l₁ ++ .reset :: l₂ → l₁.getLast? = some .alarm

theorem Paired.alarm {l : List Signal} (h : Paired l) : Paired (l ++ [.alarm]) := by
  intro l₁ l₂ heq
  obtain rfl | ⟨l₂', x, rfl⟩ := List.eq_nil_or_concat l₂
  · exact absurd (List.append_inj_right' heq rfl) (by decide)
  · rw [List.concat_eq_append, ← List.cons_append, ← List.append_assoc] at heq
    exact h l₁ l₂' (List.append_inj_left' heq rfl)

theorem Paired.reset {l : List Signal} (h : Paired l) (hlast : l.getLast? = some .alarm) :
    Paired (l ++ [.reset]) := by
  intro l₁ l₂ heq
  obtain rfl | ⟨l₂', x, rfl⟩ := List.eq_nil_or_concat l₂
  · rw [← List.append_inj_left' heq rfl]
    exact hlast
  · rw [List.concat_eq_append, ← List.cons_append, ← List.append_assoc] at heq
    exact h l₁ l₂' (List.append_inj_left' heq rfl)

variable (m : PingPongMismatchType)

/-- The last signal since the last `clear()` is an alarm. -/
def Alarming : Prop := (signals settings m s.recent).getLast? = some .alarm

def TooHigh : Prop := settings.allowedDelta < s.count m

instance : Decidable (s.Alarming settings m) := inferInstanceAs (Decidable (_ = _))

instance : Decidable (s.TooHigh settings m) := inferInstanceAs (Decidable (_ < _))

/-- The signals of a type are paired, and `logged` tells the last one. -/
structure Held : Prop where
  paired : Paired (signals settings m s.published)
  logged : s.Alarming settings m ↔ (s.tracker m).logged = true

/-! ## What the parts of an action change -/

/-- `t` has the signals of `s`, and its tracker has logged the same. -/
structure Silent : Prop where
  logged : (t.tracker m).logged = (s.tracker m).logged
  earlier : signals settings m t.earlier = signals settings m s.earlier
  recent : signals settings m t.recent = signals settings m s.recent

/-- Moreover the count has not become too high. -/
structure Lowered : Prop extends Silent settings s t m where
  tooHigh : t.TooHigh settings m → s.TooHigh settings m

/-- `t` has the signals and the tracker of `s`. -/
structure Kept : Prop where
  tracker : t.tracker m = s.tracker m
  earlier : signals settings m t.earlier = signals settings m s.earlier
  recent : signals settings m t.recent = signals settings m s.recent

variable {settings s t m} {u : PingPongTracker}

theorem Silent.trans (h : Silent settings s t m) (h' : Silent settings t u m) :
    Silent settings s u m :=
  ⟨h'.logged.trans h.logged, h'.earlier.trans h.earlier, h'.recent.trans h.recent⟩

theorem Lowered.trans (h : Lowered settings s t m) (h' : Lowered settings t u m) :
    Lowered settings s u m :=
  ⟨h.toSilent.trans h'.toSilent, fun hhigh => h.tooHigh (h'.tooHigh hhigh)⟩

theorem Kept.refl (s : PingPongTracker) : Kept settings s s m := ⟨rfl, rfl, rfl⟩

theorem Kept.trans (h : Kept settings s t m) (h' : Kept settings t u m) : Kept settings s u m :=
  ⟨h'.tracker.trans h.tracker, h'.earlier.trans h.earlier, h'.recent.trans h.recent⟩

theorem Kept.tooHigh_iff (h : Kept settings s t m) :
    t.TooHigh settings m ↔ s.TooHigh settings m := by
  rw [TooHigh, count, h.tracker, TooHigh, count]

theorem Kept.lowered (h : Kept settings s t m) : Lowered settings s t m :=
  ⟨⟨congrArg _ h.tracker, h.earlier, h.recent⟩, h.tooHigh_iff.mp⟩

theorem Silent.alarming_iff (h : Silent settings s t m) :
    t.Alarming settings m ↔ s.Alarming settings m := by
  rw [Alarming, h.recent, Alarming]

theorem Silent.held (h : Silent settings s t m) (hheld : s.Held settings m) :
    t.Held settings m := by
  constructor
  · have hpaired := hheld.paired
    rw [published, signals, List.filterMap_append] at hpaired ⊢
    rwa [← signals, ← signals, h.earlier, h.recent]
  · rw [h.alarming_iff, h.logged]
    exact hheld.logged

@[simp] theorem tracker_setTracker (s : PingPongTracker) (p : PongTracker)
    (m m' : PingPongMismatchType) :
    (s.setTracker p m).tracker m' = if m = m' then p else s.tracker m' := by
  cases m <;> cases m' <;> rfl

@[simp] theorem earlier_setTracker (s : PingPongTracker) (p : PongTracker)
    (m : PingPongMismatchType) : (s.setTracker p m).earlier = s.earlier := by
  cases m <;> rfl

@[simp] theorem recent_setTracker (s : PingPongTracker) (p : PongTracker)
    (m : PingPongMismatchType) : (s.setTracker p m).recent = s.recent := by
  cases m <;> rfl

theorem kept_setTracker (s : PingPongTracker) (p : PongTracker) {m' : PingPongMismatchType}
    (hne : m' ≠ m) : Kept settings s (s.setTracker p m') m :=
  ⟨by simp [hne], by simp, by simp⟩

theorem silent_setTracker (s : PingPongTracker) {p : PongTracker}
    (hlogged : p.logged = (s.tracker m).logged) : Silent settings s (s.setTracker p m) m :=
  ⟨by simpa using hlogged, by simp, by simp⟩

theorem lowered_setTracker {p : PongTracker} (hlogged : p.logged = (s.tracker m).logged)
    (hlength : p.length ≤ (s.tracker m).length) : Lowered settings s (s.setTracker p m) m := by
  refine ⟨silent_setTracker s hlogged, fun hhigh => ?_⟩
  simp only [TooHigh, count, tracker_setTracker, if_true] at hhigh ⊢
  omega

theorem lowered_cleanupTracker (s : PingPongTracker) (now : Int) (m' : PingPongMismatchType) :
    Lowered settings s (s.cleanupTracker settings now m') m := by
  rw [cleanupTracker]
  by_cases heq : m' = m
  · subst heq
    exact lowered_setTracker (by simp) (PongTracker.length_cleanup_le _ _ _)
  · exact (kept_setTracker s _ heq).lowered

theorem lowered_removeFrom (s : PingPongTracker) (m' : PingPongMismatchType) (token : String) :
    Lowered settings s (s.removeFrom m' token) m := by
  rw [removeFrom]
  by_cases heq : m' = m
  · subst heq
    exact lowered_setTracker rfl (PongTracker.length_remove_le token)
  · exact (kept_setTracker s _ heq).lowered

theorem silent_addTo (s : PingPongTracker) (now : Int) (token : String) :
    Silent settings s (s.addTo settings now m token) m := by
  have hadd : Silent settings s (s.setTracker ((s.tracker m).add token now) m) m :=
    silent_setTracker s rfl
  exact hadd.trans (lowered_cleanupTracker _ now m).toSilent

theorem lowered_addTo_of_ne (s : PingPongTracker) (now : Int) {m' : PingPongMismatchType}
    (token : String) (hne : m' ≠ m) : Lowered settings s (s.addTo settings now m' token) m :=
  (kept_setTracker s _ hne).lowered.trans (lowered_cleanupTracker _ now m')

theorem lowered_cleanedUp (s : PingPongTracker) (now : Int) :
    Lowered settings s (s.cleanedUp settings now) m :=
  (lowered_cleanupTracker s now .pending).trans (lowered_cleanupTracker _ now .unknown)

theorem kept_scheduleUnknownPongRetry (s : PingPongTracker) (now : Int) (token : String) :
    Kept settings s (s.scheduleUnknownPongRetry settings now token) m := by
  rw [scheduleUnknownPongRetry]
  split
  · exact Kept.refl s
  split
  · cases m <;> exact ⟨rfl, rfl, rfl⟩
  · exact Kept.refl s

/-! ## A check -/

/-- The signals of a type are paired, and the last one tells whether the count is too high. -/
structure Told (settings : PingPongSettings) (s : PingPongTracker) (m : PingPongMismatchType) :
    Prop where
  held : s.Held settings m
  alarming_iff : s.Alarming settings m ↔ s.TooHigh settings m

theorem Kept.told (h : Kept settings s t m) (htold : s.Told settings m) : t.Told settings m := by
  refine ⟨h.lowered.held htold.held, ?_⟩
  rw [h.lowered.alarming_iff, h.tooHigh_iff]
  exact htold.alarming_iff

theorem signals_of_alarm {n : Nat} (h : settings.allowedDelta < n) :
    signals settings m [settings.issue m n] = [.alarm] := by
  simp [signals, PingPongSettings.issue, signal, h]

theorem signals_of_reset : signals settings m [settings.issue m 0] = [.reset] := by
  simp [signals, PingPongSettings.issue, signal]

theorem signals_of_notice {n : Nat} (h : ¬ settings.allowedDelta < n) (hpos : 0 < n) :
    signals settings m [settings.issue m n] = [] := by
  simp [signals, PingPongSettings.issue, signal, h, Nat.ne_of_gt hpos]

theorem signals_of_ne {m' : PingPongMismatchType} (hne : m' ≠ m) (n : Nat) :
    signals settings m [settings.issue m' n] = [] := by
  simp [signals, PingPongSettings.issue, hne]

theorem signals_publish (s : PingPongTracker) (m m' : PingPongMismatchType) (n : Nat) :
    signals settings m (s.publish settings m' n).recent =
      signals settings m s.recent ++ signals settings m [settings.issue m' n] :=
  List.filterMap_append ..

theorem kept_publish (s : PingPongTracker) {m' : PingPongMismatchType} {n : Nat}
    (hnone : signals settings m [settings.issue m' n] = []) :
    Kept settings s (s.publish settings m' n) m := by
  refine ⟨by cases m <;> rfl, rfl, ?_⟩
  rw [signals_publish, hnone, List.append_nil]

theorem count_publish (s : PingPongTracker) (m m' : PingPongMismatchType) (n : Nat) :
    (s.publish settings m' n).count m = s.count m := by
  cases m <;> rfl

theorem count_setLogged (s : PingPongTracker) (logged : Bool) :
    (s.setLogged m logged).count m = s.count m := by
  simp [count, setLogged, PongTracker.length]

/-- An issue is published, and the tracker remembers whether it was an alarm. -/
theorem held_signal {n : Nat} {signal : Signal} {logged : Bool}
    (hsignal : signals settings m [settings.issue m n] = [signal])
    (hpaired : Paired (signals settings m s.published ++ [signal]))
    (hlogged : signal = .alarm ↔ logged = true) :
    ((s.publish settings m n).setLogged m logged).Held settings m := by
  have hrecent : signals settings m ((s.publish settings m n).setLogged m logged).recent =
      signals settings m s.recent ++ [signal] := by
    rw [setLogged, recent_setTracker, signals_publish, hsignal]
  constructor
  · rw [published, signals, List.filterMap_append] at hpaired ⊢
    rw [List.append_assoc] at hpaired
    rw [← signals, ← signals, hrecent, setLogged, earlier_setTracker]
    exact hpaired
  · rw [Alarming, hrecent]
    simp [setLogged, hlogged]

theorem held_alarm (h : s.Held settings m) {n : Nat} (hhigh : settings.allowedDelta < n) :
    ((s.publish settings m n).setLogged m true).Held settings m :=
  held_signal (signals_of_alarm hhigh) h.paired.alarm (by simp)

theorem held_reset (h : s.Held settings m) (hlogged : (s.tracker m).logged = true) :
    ((s.publish settings m 0).setLogged m false).Held settings m := by
  have hlast : (signals settings m s.recent).getLast? = some .alarm := h.logged.mpr hlogged
  refine held_signal signals_of_reset (h.paired.reset ?_) (by simp)
  rw [published, signals, List.filterMap_append, List.getLast?_append, ← signals, hlast]
  rfl

theorem told_check (h : s.Held settings m) (now : Int) :
    (s.checkAndPublishPongEvent settings now m).Told settings m := by
  have hclean : (s.cleanupTracker settings now m).Held settings m :=
    (lowered_cleanupTracker s now m).held h
  simp only [checkAndPublishPongEvent]
  generalize s.cleanupTracker settings now m = c at hclean ⊢
  split
  next hhigh =>
    have hheld := held_alarm hclean hhigh
    refine ⟨hheld, ?_⟩
    rw [hheld.logged, TooHigh, count_setLogged, count_publish]
    simp [setLogged, hhigh]
  next hlow =>
    split
    next hlogged =>
      have hheld := held_reset hclean hlogged
      refine ⟨hheld, ?_⟩
      rw [hheld.logged, TooHigh, count_setLogged, count_publish]
      simp [setLogged, hlow]
    next hlogged =>
      have hquiet : ¬ c.Alarming settings m := fun halarm => hlogged (hclean.logged.mp halarm)
      split
      next hnotice =>
        have hkept := kept_publish c (signals_of_notice (m := m) hlow hnotice.2.1)
        refine ⟨hkept.lowered.held hclean, ?_⟩
        rw [hkept.lowered.alarming_iff, hkept.tooHigh_iff]
        exact iff_of_false hquiet hlow
      next => exact ⟨hclean, iff_of_false hquiet hlow⟩

theorem kept_check_of_ne (s : PingPongTracker) (now : Int) {m' : PingPongMismatchType}
    (hne : m' ≠ m) : Kept settings s (s.checkAndPublishPongEvent settings now m') m := by
  have hclean : Kept settings s (s.cleanupTracker settings now m') m := kept_setTracker s _ hne
  simp only [checkAndPublishPongEvent]
  generalize s.cleanupTracker settings now m' = c at hclean ⊢
  have hpublish : ∀ n, Kept settings s (c.publish settings m' n) m :=
    fun n => hclean.trans (kept_publish c (signals_of_ne hne n))
  split
  · exact (hpublish _).trans (kept_setTracker _ _ hne)
  split
  · exact (hpublish _).trans (kept_setTracker _ _ hne)
  split
  · exact hpublish _
  · exact hclean

/-! ## Runs -/

theorem kept_retryAt (s : PingPongTracker) (retryAt : Dict String Int) :
    Kept settings s { s with retryAt } m := by
  cases m <;> exact ⟨rfl, rfl, rfl⟩

/-- What an action leaves of a type that it checks. -/
theorem told_run {a : Action} {now : Int} (h : s.Held settings m)
    (hchecks : s.checks settings now a m = true) : (s.run settings now a).Told settings m := by
  cases a with
  | sendPing hasConnectionIssue pingToken =>
    cases m with
    | pending =>
      simp only [checks, Bool.and_eq_true, Bool.not_eq_true'] at hchecks
      simp only [run, handleSendPing, hchecks, Bool.false_eq_true, if_false]
      exact told_check ((silent_addTo s now pingToken).held h) now
    | unknown => cases hchecks
  | receivedPong pongToken =>
    cases m with
    | pending =>
      simp only [checks] at hchecks
      simp only [run, handleReceivedPong, hchecks, if_true]
      have hremoved := (lowered_cleanupTracker _ now .pending).held
        ((lowered_removeFrom s .pending pongToken).held h)
      exact told_check hremoved now
    | unknown =>
      simp only [checks, Bool.not_eq_true'] at hchecks
      simp only [run, handleReceivedPong, hchecks, Bool.false_eq_true, if_false]
      exact (kept_scheduleUnknownPongRetry _ now pongToken).told
        (told_check ((silent_addTo s now pongToken).held h) now)
  | retry token =>
    have hclean := (lowered_cleanedUp s now).held h
    simp only [run, retryReconcilePong]
    refine (kept_retryAt _ _).told ?_
    cases m with
    | pending =>
      simp only [checks] at hchecks
      simp only [hchecks, if_true]
      split
      · have hremoved := (lowered_removeFrom _ .unknown token).held
          ((lowered_removeFrom _ .pending token).held hclean)
        exact (kept_check_of_ne _ now (by decide)).told (told_check hremoved now)
      · exact told_check ((lowered_removeFrom _ .pending token).held hclean) now
    | unknown =>
      simp only [checks, Bool.and_eq_true] at hchecks
      simp only [hchecks, if_true]
      have hremoved := (lowered_removeFrom _ .unknown token).held
        ((lowered_removeFrom _ .pending token).held hclean)
      exact told_check ((kept_check_of_ne _ now (by decide)).lowered.held hremoved) now
  | clear => cases hchecks

/-- An action that does not check a type publishes no signal of it and does not make its count too
high. -/
theorem lowered_run {a : Action} {now : Int} (hclear : a ≠ .clear)
    (hchecks : s.checks settings now a m = false) :
    Lowered settings s (s.run settings now a) m := by
  cases a with
  | sendPing hasConnectionIssue pingToken =>
    simp only [run, handleSendPing]
    cases hasConnectionIssue with
    | true => exact (Kept.refl s).lowered
    | false =>
      simp only [Bool.false_eq_true, if_false]
      cases m with
      | pending =>
        simp only [checks, Bool.not_false, Bool.true_and, Bool.not_eq_false'] at hchecks
        simp only [hchecks, if_true]
        refine ⟨silent_addTo s now pingToken, fun hhigh => ?_⟩
        simp only [throttled, Bool.and_eq_true, decide_eq_true_eq] at hchecks
        exact absurd hhigh (Nat.not_lt.mpr hchecks.1)
      | unknown =>
        have hadd : Lowered settings s (s.addTo settings now .pending pingToken) .unknown :=
          lowered_addTo_of_ne s now pingToken (by decide)
        split
        · exact hadd
        · exact hadd.trans (kept_check_of_ne _ now (by decide)).lowered
  | receivedPong pongToken =>
    simp only [run, handleReceivedPong]
    cases m with
    | pending =>
      simp only [checks] at hchecks
      simp only [hchecks, Bool.false_eq_true, if_false]
      exact ((lowered_addTo_of_ne s now pongToken (by decide)).trans
        (kept_check_of_ne _ now (by decide)).lowered).trans
        (kept_scheduleUnknownPongRetry _ now pongToken).lowered
    | unknown =>
      simp only [checks, Bool.not_eq_false'] at hchecks
      simp only [hchecks, if_true]
      exact ((lowered_removeFrom s .pending pongToken).trans
        (lowered_cleanupTracker _ now .pending)).trans (kept_check_of_ne _ now (by decide)).lowered
  | retry token =>
    have hclean : Lowered settings s (s.cleanedUp settings now) m := lowered_cleanedUp s now
    simp only [run, retryReconcilePong]
    refine Lowered.trans ?_ (kept_retryAt _ _).lowered
    cases m with
    | pending =>
      simp only [checks] at hchecks
      simp only [hchecks, Bool.false_eq_true, if_false]
      exact hclean
    | unknown =>
      split
      next hpending =>
        simp only [checks, hpending, Bool.true_and] at hchecks
        simp only [hchecks, Bool.false_eq_true, if_false]
        exact (hclean.trans (lowered_removeFrom _ .pending token)).trans
          (kept_check_of_ne _ now (by decide)).lowered
      · exact hclean
  | clear => exact absurd rfl hclear

/-- The signals of a type are paired, and a count that is too high has been told. -/
structure Sound (settings : PingPongSettings) (s : PingPongTracker) (m : PingPongMismatchType) :
    Prop where
  held : s.Held settings m
  alarming : s.TooHigh settings m → s.Alarming settings m

theorem sound_clear (h : s.Held settings m) : s.clear.Sound settings m := by
  have hrecent : ¬ s.clear.Alarming settings m := by simp [Alarming, clear, signals]
  refine ⟨⟨?_, iff_of_false hrecent ?_⟩, fun hhigh => ?_⟩
  · rw [published, clear, List.append_nil]
    exact h.paired
  · cases m <;> exact Bool.false_ne_true
  · cases m <;> exact absurd hhigh (Nat.not_lt_zero _)

theorem sound_run {now : Int} (h : s.Sound settings m) (a : Action) :
    (s.run settings now a).Sound settings m := by
  by_cases hclear : a = .clear
  · subst hclear
    exact sound_clear h.held
  · cases hchecks : s.checks settings now a m with
    | true =>
      have htold := told_run h.held hchecks
      exact ⟨htold.held, htold.alarming_iff.mpr⟩
    | false =>
      have hlowered := lowered_run hclear hchecks
      refine ⟨hlowered.held h.held, fun hhigh => ?_⟩
      exact hlowered.alarming_iff.mpr (h.alarming (hlowered.tooHigh hhigh))

theorem sound_init : ({} : PingPongTracker).Sound settings m := by
  refine ⟨⟨fun l₁ l₂ heq => ?_, ?_⟩, fun hhigh => ?_⟩
  · simp [published, signals] at heq
  · cases m <;> simp [Alarming, signals, tracker]
  · cases m <;> exact absurd hhigh (Nat.not_lt_zero _)

theorem run_of_step {start : Int} {s t : Int × PingPongTracker} {a : Int × Action}
    (hs : (system settings start).step s a = some t) : t.2 = s.2.run settings a.1 a.2 := by
  simp only [system] at hs
  split at hs
  · exact (congrArg Prod.snd (Option.some.inj hs)).symm
  · cases hs

/-- Each reset follows an alarm directly, a count that is too high has been told since the last
`clear()`, and an action that checks a type leaves the last signal telling whether its count is too
high; no other action publishes a signal. -/
theorem paired_of_reach {start : Int} {s : Int × PingPongTracker}
    (h : (system settings start).Reach Free s) (m : PingPongMismatchType) :
    Paired (signals settings m s.2.published) ∧
      (s.2.TooHigh settings m → s.2.Alarming settings m) ∧
      ∀ now a t, (system settings start).step s (now, a) = some t →
        if s.2.checks settings now a m then t.2.Alarming settings m ↔ t.2.TooHigh settings m
        else signals settings m t.2.published = signals settings m s.2.published := by
  have hsound : s.2.Sound settings m := by
    refine h.invariant (P := fun s => s.2.Sound settings m) sound_init fun s a t hsound _ hs => ?_
    rw [run_of_step hs]
    exact sound_run hsound a.2
  refine ⟨hsound.held.paired, hsound.alarming, fun now a t hs => ?_⟩
  rw [run_of_step hs]
  split
  next hchecks => exact (told_run hsound.held hchecks).alarming_iff
  next hchecks =>
    by_cases hclear : a = .clear
    · subst hclear
      simp only [run, published, clear, List.append_nil]
    · have hlowered := lowered_run hclear (Bool.not_eq_true _ ▸ hchecks)
      rw [published, signals, List.filterMap_append, ← signals, ← signals, hlowered.earlier,
        hlowered.recent, signals, signals, ← List.filterMap_append, ← published, ← signals]

def defaults : PingPongSettings := { interfaceId := "CCU-HmIP-RF", hasLooper := true }

/-- Seventeen pings without a pong. -/
def unanswered : List (Int × Action) :=
  ["1", "2", "3", "4", "5", "6", "7", "8", "9", "10", "11", "12", "13", "14", "15", "16", "17"].map
    fun token => (0, .sendPing false token)

theorem paired_of_reach_unanswered : ∃ s, s.2.TooHigh defaults .pending ∧
    (Paired (signals defaults .pending s.2.published) ∧
      (s.2.TooHigh defaults .pending → s.2.Alarming defaults .pending) ∧
      ∀ now a t, (system defaults 0).step s (now, a) = some t →
        if s.2.checks defaults now a .pending then
          t.2.Alarming defaults .pending ↔ t.2.TooHigh defaults .pending
        else signals defaults .pending t.2.published =
          signals defaults .pending s.2.published) := by
  obtain ⟨s, hs, hhigh⟩ := replay_any
    (p := fun s : Int × PingPongTracker => s.2.TooHigh defaults .pending)
    (show ((system defaults 0).replay Free (system defaults 0).init unanswered).any _ = true
      by decide +kernel)
  exact ⟨s, hhigh, paired_of_reach (reach_of_replay hs) .pending⟩

/-- An alarm is repeated; `clear()` resets nothing, nor does a ping while there is only one. -/
theorem not_alternating :
    (∃ s, (system defaults 0).Reach Free s ∧
      ¬ (signals defaults .pending s.2.published).IsChain (· ≠ ·)) ∧
    (∃ s, (system defaults 0).Reach Free s ∧
      (signals defaults .pending s.2.published).getLast? = some .alarm ∧
        ¬ s.2.TooHigh defaults .pending) ∧
    ∃ s, (system defaults 0).Reach Free s ∧ s.2.Alarming defaults .pending ∧
      ¬ s.2.TooHigh defaults .pending := by
  refine ⟨?_, ?_, ?_⟩
  · obtain ⟨s, hs, htest⟩ := replay_any
      (p := fun s : Int × PingPongTracker =>
        ¬ (signals defaults .pending s.2.published).IsChain (· ≠ ·))
      (show ((system defaults 0).replay Free (system defaults 0).init unanswered).any _ = true
        by decide +kernel)
    exact ⟨s, reach_of_replay hs, htest⟩
  · obtain ⟨s, hs, htest⟩ := replay_any
      (p := fun s : Int × PingPongTracker =>
        (signals defaults .pending s.2.published).getLast? = some .alarm ∧
          ¬ s.2.TooHigh defaults .pending)
      (show ((system defaults 0).replay Free (system defaults 0).init
        (unanswered ++ [(0, .clear)])).any _ = true by decide +kernel)
    exact ⟨s, reach_of_replay hs, htest⟩
  · obtain ⟨s, hs, htest⟩ := replay_any
      (p := fun s : Int × PingPongTracker =>
        s.2.Alarming defaults .pending ∧ ¬ s.2.TooHigh defaults .pending)
      (show ((system defaults 0).replay Free (system defaults 0).init
        (unanswered ++ [(301 * 1000000, .sendPing false "18")])).any _ = true
        by decide +kernel)
    exact ⟨s, reach_of_replay hs, htest⟩

end PingPongTracker

end AioHomematic.Store
