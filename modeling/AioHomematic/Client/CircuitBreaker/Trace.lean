import AioHomematic.Client.CircuitBreaker

/-!
# The trace law of the circuit breaker

The runs of a breaker at non-decreasing times, with what its state is to be a
function of: the failures since the last success or reset (a close is a
success), the successes since `HALF_OPEN` was entered, and the time of the last
failure. `Counts` is the invariant, one field for each state; `TraceLaw` says
what a reachable breaker does next.

Other components may change the connection state, but for the entry of this
breaker.
-/

namespace AioHomematic.Client

open Central Lib StepSystem

structure BreakerHistory where
  breaker : CircuitBreaker := {}
  now : Nat := 0
  /-- Since the last success or reset. -/
  failures : Nat := 0
  /-- Since `HALF_OPEN` was entered. -/
  successes : Nat := 0
  lastFailure : Option Nat := none

namespace BreakerHistory

inductive Action where
  | recordSuccess
  | recordFailure
  | isAvailable
  | reset
  | wait (microseconds : Nat)
  /-- By another component. -/
  | addIssue (issuer : ConnectionProblemIssuer) (iid : String)
  | removeIssue (issuer : ConnectionProblemIssuer) (iid : String)
deriving DecidableEq

variable (args : CircuitBreakerArgs)

/-- The entry of the breaker in the connection state. -/
def IsOwn (issuer : ConnectionProblemIssuer) (iid : String) : Prop :=
  args.issuer = some issuer ∧ iid = args.interfaceId

instance (issuer : ConnectionProblemIssuer) (iid : String) : Decidable (IsOwn args issuer iid) :=
  inferInstanceAs (Decidable (_ ∧ _))

def setConnectionState (connectionState : CentralConnectionState) (s : BreakerHistory) :
    BreakerHistory :=
  { s with breaker := { s.breaker with connectionState := connectionState } }

/-- `is_available` is read; a breaker that comes to `HALF_OPEN` has no success yet. -/
def checked (s : BreakerHistory) : BreakerHistory :=
  let breaker := (s.breaker.isAvailable args s.now).2
  { s with
    breaker := breaker
    successes :=
      if s.breaker.state ≠ .halfOpen ∧ breaker.state = .halfOpen then 0 else s.successes }

def step (s : BreakerHistory) : Action → Option BreakerHistory
  | .recordSuccess =>
    some { s with
      breaker := s.breaker.recordSuccess args
      failures := 0
      successes := s.successes + 1 }
  | .recordFailure =>
    some { s with
      breaker := s.breaker.recordFailure args s.now
      failures := s.failures + 1
      lastFailure := some s.now }
  | .isAvailable => some (s.checked args)
  | .reset => some { s with breaker := s.breaker.reset, failures := 0 }
  | .wait microseconds => some { s with now := s.now + microseconds }
  | .addIssue issuer iid =>
    if IsOwn args issuer iid then none
    else some (s.setConnectionState (s.breaker.connectionState.addIssue issuer iid).2)
  | .removeIssue issuer iid =>
    if IsOwn args issuer iid then none
    else some (s.setConnectionState (s.breaker.connectionState.removeIssue issuer iid).2)

def system : StepSystem BreakerHistory Action where
  init := {}
  step := step args

variable {args : CircuitBreakerArgs} {s t : BreakerHistory}

/-- A step of another component changes the connection state, but for the entry of the breaker. -/
theorem step_other {issuer : ConnectionProblemIssuer} {iid : String}
    (h : s.step args (.addIssue issuer iid) = some t ∨
      s.step args (.removeIssue issuer iid) = some t) :
    ∃ connectionState, t = s.setConnectionState connectionState ∧
      ∀ own, args.issuer = some own →
        (connectionState.isIssue own args.interfaceId = true ↔
          s.breaker.connectionState.isIssue own args.interfaceId = true) := by
  simp only [step] at h
  split at h
  next => simp at h
  next hother =>
    have hne : ∀ own, args.issuer = some own → ¬(own = issuer ∧ args.interfaceId = iid) := by
      rintro own hown ⟨rfl, rfl⟩
      exact hother ⟨hown, rfl⟩
    rcases h with h | h
    · cases h
      refine ⟨_, rfl, fun own hown => ?_⟩
      rw [CentralConnectionState.isIssue_addIssue]
      exact or_iff_right (hne own hown)
    · cases h
      refine ⟨_, rfl, fun own hown => ?_⟩
      rw [CentralConnectionState.isIssue_removeIssue]
      exact and_iff_right (hne own hown)

/-! ## The invariant -/

variable (args) in
structure Counts (s : BreakerHistory) : Prop where
  closed : s.breaker.ClosedCount args s.failures
  opened : s.breaker.state = .opened →
    ∃ last, s.breaker.lastFailureTime = some last ∧ s.lastFailure = some last
  halfOpen : s.breaker.state = .halfOpen →
    s.breaker.successCount = s.successes ∧ s.successes < args.config.closesAfter

theorem counts_init : Counts args {} where
  closed := CircuitBreaker.closedCount_of_zero fun _ => rfl
  opened h := nomatch h
  halfOpen h := nomatch h

theorem Counts.recordSuccess (h : Counts args s) :
    Counts args { s with
      breaker := s.breaker.recordSuccess args
      failures := 0
      successes := s.successes + 1 } where
  closed := CircuitBreaker.closedCount_recordSuccess
  opened ht := by
    have hs : s.breaker.state = .opened := by
      rw [CircuitBreaker.state_recordSuccess] at ht
      split at ht
      · cases ht
      · split at ht <;> cases ht
      · assumption
    obtain ⟨last, hlast, hghost⟩ := h.opened hs
    exact ⟨last, CircuitBreaker.lastFailureTime_recordSuccess.trans hlast, hghost⟩
  halfOpen ht := by
    have hs := ht
    rw [CircuitBreaker.state_recordSuccess] at hs
    split at hs
    next => cases hs
    next hs' =>
      split at hs
      · cases hs
      · obtain ⟨hcount, -⟩ := h.halfOpen hs'
        dsimp only
        rw [CircuitBreaker.successCount_recordSuccess hs' ht]
        exact ⟨by rw [hcount], by omega⟩
    next => cases hs

theorem Counts.recordFailure (h : Counts args s) :
    Counts args { s with
      breaker := s.breaker.recordFailure args s.now
      failures := s.failures + 1
      lastFailure := some s.now } where
  closed := h.closed.recordFailure
  opened _ := ⟨s.now, CircuitBreaker.lastFailureTime_recordFailure, rfl⟩
  halfOpen ht := by
    dsimp only at ht
    rw [CircuitBreaker.state_recordFailure] at ht
    split at ht
    · split at ht <;> cases ht
    · cases ht
    · cases ht

/-- A check leaves the history as it is, or it half-opens the circuit when the timeout is over. -/
theorem checked_cases (h : Counts args s) :
    s.checked args = s ∧ (s.breaker.state = .opened → ∃ last, s.lastFailure = some last ∧
        (s.now : Int) - last < args.config.recoveryTimeout) ∨
      s.breaker.state = .opened ∧
        (∃ last, s.lastFailure = some last ∧
          args.config.recoveryTimeout ≤ (s.now : Int) - last) ∧
        s.checked args =
          { s with
            breaker := { s.breaker with state := .halfOpen, successCount := 0 }
            successes := 0 } := by
  by_cases hs : s.breaker.state = .opened
  · obtain ⟨last, hlast, hghost⟩ := h.opened hs
    rw [checked, CircuitBreaker.isAvailable_of_opened hs hlast]
    split
    · exact .inr ⟨hs, ⟨last, hghost, ‹_›⟩, by simp [hs]⟩
    · exact .inl ⟨by simp [hs], fun _ => ⟨last, hghost, by omega⟩⟩
  · refine .inl ⟨?_, fun h => absurd h hs⟩
    rw [checked, CircuitBreaker.isAvailable_of_not_opened hs]
    simp only [if_neg (fun h : s.breaker.state ≠ .halfOpen ∧ _ => h.1 h.2)]

theorem Counts.checked (h : Counts args s) : Counts args (s.checked args) := by
  obtain ⟨hsame, -⟩ | ⟨-, -, ht⟩ := checked_cases h
  · rw [hsame]
    exact h
  · rw [ht]
    exact {
      closed := fun h => nomatch h
      opened := fun h => nomatch h
      halfOpen := fun _ => ⟨rfl, args.config.closesAfter_pos⟩ }

theorem Counts.step {a : Action} (h : Counts args s) (hstep : s.step args a = some t) :
    Counts args t := by
  cases a with
  | recordSuccess => cases hstep; exact h.recordSuccess
  | recordFailure => cases hstep; exact h.recordFailure
  | isAvailable => cases hstep; exact h.checked
  | reset =>
    cases hstep
    exact {
      closed := CircuitBreaker.closedCount_reset
      opened := fun h => nomatch h
      halfOpen := fun h => nomatch h }
  | wait microseconds => cases hstep; exact ⟨h.closed, h.opened, h.halfOpen⟩
  | addIssue issuer iid =>
    obtain ⟨connectionState, rfl, -⟩ := step_other (.inl hstep)
    exact ⟨h.closed, h.opened, h.halfOpen⟩
  | removeIssue issuer iid =>
    obtain ⟨connectionState, rfl, -⟩ := step_other (.inr hstep)
    exact ⟨h.closed, h.opened, h.halfOpen⟩

theorem reach_counts (h : (system args).Reach Free s) : Counts args s :=
  h.invariant counts_init fun _ _ _ hc _ hstep => hc.step hstep

/-! ## The law -/

/-- `recovery_timeout` has passed since the last failure. -/
def timeoutOver (args : CircuitBreakerArgs) (s : BreakerHistory) : Bool :=
  match s.lastFailure with
  | some last => args.config.recoveryTimeout ≤ (s.now : Int) - last
  | none => false

/-- The state after the step `a` from `s` to `t`, by the state before it and the history. -/
def nextState (args : CircuitBreakerArgs) (s : BreakerHistory) (a : Action) (t : BreakerHistory) :
    CircuitState :=
  match s.breaker.state, a with
  | _, .reset => .closed
  | .closed, _ => if t.failures = args.config.opensAfter then .opened else .closed
  | .opened, .isAvailable => if s.timeoutOver args then .halfOpen else .opened
  | .opened, _ => .opened
  | .halfOpen, .recordFailure => .opened
  | .halfOpen, _ => if t.successes = args.config.closesAfter then .closed else .halfOpen

structure TraceLaw (args : CircuitBreakerArgs) (s : BreakerHistory) : Prop where
  failureCount_lt : s.breaker.state = .closed → s.breaker.failureCount < args.config.opensAfter
  successCount_lt : s.breaker.state = .halfOpen → s.breaker.successCount < args.config.closesAfter
  lastFailureTime : s.breaker.state = .opened →
    s.breaker.lastFailureTime.isSome ∧ s.breaker.lastFailureTime = s.lastFailure
  isAvailable : (s.breaker.isAvailable args s.now).1 = true ↔
    s.breaker.state = .opened → s.timeoutOver args = true
  next : ∀ a t, (system args).step s a = some t → t.breaker.state = nextState args s a t

theorem Counts.timeoutOver (h : Counts args s) (hs : s.breaker.state = .opened) :
    ∃ last, s.breaker.lastFailureTime = some last ∧ s.lastFailure = some last ∧
      s.timeoutOver args = decide (args.config.recoveryTimeout ≤ (s.now : Int) - last) := by
  obtain ⟨last, hlast, hghost⟩ := h.opened hs
  refine ⟨last, hlast, hghost, ?_⟩
  rw [BreakerHistory.timeoutOver, hghost]

theorem Counts.isAvailable (h : Counts args s) :
    (s.breaker.isAvailable args s.now).1 = true ↔
      (s.breaker.state = .opened → s.timeoutOver args = true) := by
  by_cases hs : s.breaker.state = .opened
  · obtain ⟨last, hlast, -, hover⟩ := h.timeoutOver hs
    rw [CircuitBreaker.isAvailable_of_opened hs hlast, hover]
    split
    · simp [*]
    · simp [*]
  · rw [CircuitBreaker.isAvailable_of_not_opened hs]
    exact ⟨fun _ h => absurd h hs, fun _ => rfl⟩

theorem Counts.next_recordSuccess (h : Counts args s)
    (hstep : s.step args .recordSuccess = some t) :
    t.breaker.state = nextState args s .recordSuccess t := by
  cases hstep
  rw [CircuitBreaker.state_recordSuccess]
  cases hs : s.breaker.state with
  | closed =>
    have hpos := args.config.opensAfter_pos
    simp only [nextState, hs]
    rw [if_neg (by omega)]
  | opened => simp only [nextState, hs]
  | halfOpen =>
    obtain ⟨hcount, hlt⟩ := h.halfOpen hs
    simp only [nextState, hs, hcount]
    exact if_congr (by omega) rfl rfl

theorem Counts.next_recordFailure (h : Counts args s)
    (hstep : s.step args .recordFailure = some t) :
    t.breaker.state = nextState args s .recordFailure t := by
  cases hstep
  dsimp only
  rw [CircuitBreaker.state_recordFailure]
  cases hs : s.breaker.state with
  | closed =>
    obtain ⟨hcount, hlt⟩ := h.closed hs
    simp only [nextState, hs, hcount]
    exact if_congr (by omega) rfl rfl
  | opened => simp only [nextState, hs]
  | halfOpen => simp only [nextState, hs]

/-- A step that keeps the state and the counts. -/
theorem Counts.next_of_same (h : Counts args s) (a : Action)
    (ha : a ≠ .reset ∧ a ≠ .recordFailure)
    (hcheck : a = .isAvailable → s.breaker.state = .opened → s.timeoutOver args = false)
    (hfailures : t.failures = s.failures) (hsuccesses : t.successes = s.successes) :
    nextState args s a t = s.breaker.state := by
  cases hs : s.breaker.state with
  | closed =>
    obtain ⟨-, hlt⟩ := h.closed hs
    cases a <;> simp_all [nextState] <;> omega
  | opened => cases a <;> simp_all [nextState]
  | halfOpen =>
    obtain ⟨-, hlt⟩ := h.halfOpen hs
    cases a <;> simp_all [nextState] <;> omega

theorem Counts.next_isAvailable (h : Counts args s) :
    (s.checked args).breaker.state = nextState args s .isAvailable (s.checked args) := by
  obtain ⟨hsame, hnot⟩ | ⟨hs, ⟨last, hghost, hover⟩, ht⟩ := checked_cases h
  · rw [hsame]
    refine (h.next_of_same .isAvailable (by decide) (fun _ hs => ?_) rfl rfl).symm
    obtain ⟨last, hghost, hlt⟩ := hnot hs
    simp only [BreakerHistory.timeoutOver, hghost, decide_eq_false_iff_not]
    omega
  · have hover' : s.timeoutOver args = true := by
      simp only [BreakerHistory.timeoutOver, hghost, decide_eq_true_eq]
      exact hover
    rw [ht]
    simp only [nextState, hs, hover', if_true]

theorem Counts.next {a : Action} (h : Counts args s) (hstep : s.step args a = some t) :
    t.breaker.state = nextState args s a t := by
  cases a with
  | recordSuccess => exact h.next_recordSuccess hstep
  | recordFailure => exact h.next_recordFailure hstep
  | isAvailable => cases hstep; exact h.next_isAvailable
  | reset => cases hstep; cases s.breaker.state <;> rfl
  | wait microseconds =>
    cases hstep
    exact (h.next_of_same (.wait microseconds) ⟨nofun, nofun⟩ nofun rfl rfl).symm
  | addIssue issuer iid =>
    obtain ⟨connectionState, rfl, -⟩ := step_other (.inl hstep)
    exact (h.next_of_same (.addIssue issuer iid) ⟨nofun, nofun⟩ nofun rfl rfl).symm
  | removeIssue issuer iid =>
    obtain ⟨connectionState, rfl, -⟩ := step_other (.inr hstep)
    exact (h.next_of_same (.removeIssue issuer iid) ⟨nofun, nofun⟩ nofun rfl rfl).symm

theorem reach_traceLaw (args : CircuitBreakerArgs) (s : BreakerHistory)
    (h : (system args).Reach Free s) : TraceLaw args s :=
  have hc := reach_counts h
  { failureCount_lt := fun hs => (hc.closed hs).1 ▸ (hc.closed hs).2
    successCount_lt := fun hs => (hc.halfOpen hs).1 ▸ (hc.halfOpen hs).2
    lastFailureTime := fun hs => by
      obtain ⟨last, hlast, hghost⟩ := hc.opened hs
      exact ⟨by rw [hlast]; rfl, hlast.trans hghost.symm⟩
    isAvailable := hc.isAvailable
    next := fun _ _ hstep => hc.next hstep }

/-- Five failures open the circuit, and two successes after the timeout close it again. -/
def sampleOutage : List Action :=
  .replicate 5 .recordFailure ++
    [.isAvailable, .wait 30000000, .isAvailable, .recordSuccess, .recordSuccess]

theorem reach_traceLaw_outage :
    ∃ s, (system { interfaceId := "if" }).replay Free {} sampleOutage = some s ∧
      s.breaker.state = .closed ∧ TraceLaw { interfaceId := "if" } s := by
  obtain ⟨s, hs, hclosed⟩ := replay_any (p := fun s : BreakerHistory => s.breaker.state = .closed)
    (show ((system { interfaceId := "if" }).replay Free {} sampleOutage).any _ = true by decide)
  exact ⟨s, hs, hclosed, reach_traceLaw _ s (reach_of_replay hs)⟩

/-- A breaker with the threshold 0 is closed although its count is not below it. -/
theorem failureCount_zero_threshold :
    ¬∀ (args : CircuitBreakerArgs) (s : BreakerHistory), (system args).Reach Free s →
      s.breaker.state = .closed →
        (s.breaker.failureCount : Int) < args.config.failureThreshold := fun h =>
  absurd (h { config := { failureThreshold := 0 }, interfaceId := "if" } {} Reach.init rfl)
    (by decide)

end BreakerHistory

end AioHomematic.Client

/-!
## The issue of the circuit breaker

`_transition_to` registers the issue of the breaker when it opens and removes it
when it closes, so the two stores stay in step. `reset` closes the breaker
without `_transition_to`: from `OPEN` or `HALF_OPEN` it leaves the issue behind.
-/

namespace AioHomematic.Client

open Central Lib StepSystem

namespace CircuitBreaker

variable {args : CircuitBreakerArgs} {b : CircuitBreaker} {issuer : ConnectionProblemIssuer}

variable (args issuer) in
/-- The issue of the breaker is registered. -/
def HasIssue (b : CircuitBreaker) : Prop :=
  b.connectionState.isIssue issuer args.interfaceId = true

variable (args issuer) in
def InStep (b : CircuitBreaker) : Prop := HasIssue args issuer b ↔ b.state ≠ .closed

theorem hasIssue_notifyIssue (h : args.issuer = some issuer) :
    HasIssue args issuer (notifyIssue args b) := by
  simp only [HasIssue, notifyIssue, h]
  exact CentralConnectionState.isIssue_addIssue.mpr (.inl ⟨rfl, rfl⟩)

theorem not_hasIssue_notifyRestored (h : args.issuer = some issuer) :
    ¬HasIssue args issuer (notifyRestored args b) := by
  simp only [HasIssue, notifyRestored, h]
  exact fun hissue => (CentralConnectionState.isIssue_removeIssue.mp hissue).1 ⟨rfl, rfl⟩

theorem InStep.transitionTo (hissuer : args.issuer = some issuer) (h : InStep args issuer b)
    {newState : CircuitState} (hnew : newState = .halfOpen → b.state ≠ .closed) :
    InStep args issuer (transitionTo args newState b) := by
  by_cases hs : b.state = newState
  · rw [CircuitBreaker.transitionTo.eq_def, if_pos hs]
    exact h
  · rw [CircuitBreaker.transitionTo.eq_def, if_neg hs]
    cases newState with
    | closed =>
      exact iff_of_false (not_hasIssue_notifyRestored hissuer) (by simp)
    | opened => exact iff_of_true (hasIssue_notifyIssue hissuer) (by simp)
    | halfOpen => exact iff_of_true (h.mpr (hnew rfl)) nofun

theorem InStep.isAvailable (hissuer : args.issuer = some issuer) (h : InStep args issuer b)
    (now : Nat) : InStep args issuer (b.isAvailable args now).2 := by
  rw [CircuitBreaker.isAvailable]
  split
  · exact h
  · split
    · split
      · exact h.transitionTo hissuer fun _ => by simp [*]
      · exact h
    · exact h
  · exact h

theorem InStep.recordFailure (hissuer : args.issuer = some issuer) (h : InStep args issuer b)
    (now : Nat) : InStep args issuer (b.recordFailure args now) := by
  -- the counts and the time are not looked at
  have hcounts (m n : Nat) (last : Option Nat) : InStep args issuer
      { b with failureCount := m, totalRequests := n, lastFailureTime := last } := h
  simp only [CircuitBreaker.recordFailure]
  split
  · split
    · exact (hcounts _ _ _).transitionTo hissuer fun h => absurd h (by decide)
    · exact h
  · exact (hcounts _ _ _).transitionTo hissuer fun h => absurd h (by decide)
  · exact h

theorem InStep.recordSuccess (hissuer : args.issuer = some issuer) (h : InStep args issuer b) :
    InStep args issuer (b.recordSuccess args) := by
  have hcounts (m n : Nat) : InStep args issuer
      { b with successCount := m, totalRequests := n } := h
  simp only [CircuitBreaker.recordSuccess]
  split
  · exact h
  · split
    · exact (hcounts _ _).transitionTo hissuer fun h => absurd h (by decide)
    · exact h
  · exact h

/-- `reset` keeps the two in step from `CLOSED` only. -/
theorem inStep_reset (h : InStep args issuer b) :
    InStep args issuer b.reset ↔ b.state = .closed := by
  have hissue : HasIssue args issuer b.reset ↔ b.state ≠ .closed := h
  rw [InStep, hissue]
  simp [CircuitBreaker.reset]

end CircuitBreaker

namespace BreakerHistory

variable {args : CircuitBreakerArgs} {s t : BreakerHistory} {issuer : ConnectionProblemIssuer}

/-- The condition on the steps: `reset` comes while the breaker is closed. -/
def ResetClosed : BreakerHistory → Action → Prop
  | s, .reset => s.breaker.state = .closed
  | _, _ => True

instance : DecidableRel ResetClosed
  | s, .reset => inferInstanceAs (Decidable (s.breaker.state = .closed))
  | _, .recordSuccess => .isTrue trivial
  | _, .recordFailure => .isTrue trivial
  | _, .isAvailable => .isTrue trivial
  | _, .wait _ => .isTrue trivial
  | _, .addIssue .. => .isTrue trivial
  | _, .removeIssue .. => .isTrue trivial

theorem inStep_step (hissuer : args.issuer = some issuer) {a : Action}
    (h : s.breaker.InStep args issuer) (ha : ResetClosed s a) (hstep : s.step args a = some t) :
    t.breaker.InStep args issuer := by
  have hother {connectionState : CentralConnectionState}
      (hown : ∀ own, args.issuer = some own →
        (connectionState.isIssue own args.interfaceId = true ↔
          s.breaker.connectionState.isIssue own args.interfaceId = true)) :
      (s.setConnectionState connectionState).breaker.InStep args issuer :=
    (hown issuer hissuer).trans h
  cases a with
  | recordSuccess => cases hstep; exact h.recordSuccess hissuer
  | recordFailure => cases hstep; exact h.recordFailure hissuer s.now
  | isAvailable => cases hstep; exact h.isAvailable hissuer s.now
  | reset => cases hstep; exact (CircuitBreaker.inStep_reset h).mpr ha
  | wait microseconds => cases hstep; exact h
  | addIssue other iid =>
    obtain ⟨connectionState, rfl, hown⟩ := step_other (.inl hstep)
    exact hother hown
  | removeIssue other iid =>
    obtain ⟨connectionState, rfl, hown⟩ := step_other (.inr hstep)
    exact hother hown

theorem reach_inStep (hissuer : args.issuer = some issuer)
    (h : (system args).Reach ResetClosed s) : s.breaker.InStep args issuer := by
  refine h.invariant (P := fun s => s.breaker.InStep args issuer) ?_ ?_
  · exact iff_of_false (Bool.eq_false_iff.mp CentralConnectionState.isIssue_empty) (not_not.mpr rfl)
  · intro s a t hs ha hstep
    exact inStep_step hissuer hs ha hstep

/-- While `reset` is only called on a closed breaker, the issue is registered exactly while the
breaker is not closed; and the first `reset` of another breaker ends that. -/
theorem issue_iff_not_closed (args : CircuitBreakerArgs) (issuer : ConnectionProblemIssuer)
    (s : BreakerHistory) (hissuer : args.issuer = some issuer)
    (h : (system args).Reach ResetClosed s) :
    (s.breaker.connectionState.isIssue issuer args.interfaceId = true ↔
      s.breaker.state ≠ .closed) ∧
    ∀ t, (system args).step s .reset = some t →
      ((t.breaker.connectionState.isIssue issuer args.interfaceId = true ↔
        t.breaker.state ≠ .closed) ↔ s.breaker.state = .closed) := by
  have hs := reach_inStep hissuer h
  refine ⟨hs, fun t ht => ?_⟩
  cases ht
  exact CircuitBreaker.inStep_reset hs

def sampleArgs : CircuitBreakerArgs :=
  { interfaceId := "CCU-HmIP-RF", issuer := some .baseRpcProxy }

theorem issue_iff_not_closed_outage :
    ∃ s, (system sampleArgs).replay ResetClosed {} (sampleOutage ++ [.reset]) = some s ∧
      s.breaker.connectionState.isIssue .baseRpcProxy "CCU-HmIP-RF" = false := by
  obtain ⟨s, hs, hclosed⟩ := replay_any (p := fun s : BreakerHistory => s.breaker.state = .closed)
    (show ((system sampleArgs).replay ResetClosed {} (sampleOutage ++ [.reset])).any _ = true by
      decide)
  obtain ⟨hissue, -⟩ := issue_iff_not_closed sampleArgs .baseRpcProxy s rfl (reach_of_replay hs)
  exact ⟨s, hs, Bool.eq_false_iff.mpr fun h => hissue.mp h hclosed⟩

/-- Five failures and a `reset`: the breaker is closed and its issue is still there. -/
theorem issue_left_by_reset :
    ∃ s, (system sampleArgs).Reach Free s ∧ s.breaker.state = .closed ∧
      s.breaker.connectionState.isIssue .baseRpcProxy "CCU-HmIP-RF" = true := by
  obtain ⟨s, hs, htest⟩ := replay_any
    (p := fun s : BreakerHistory => s.breaker.state = .closed ∧
      s.breaker.connectionState.isIssue .baseRpcProxy "CCU-HmIP-RF" = true)
    (show ((system sampleArgs).replay Free {}
      (.replicate 5 .recordFailure ++ [.reset])).any _ = true by decide)
  exact ⟨s, reach_of_replay hs, htest⟩

end BreakerHistory

end AioHomematic.Client
