import AioHomematic.Central.ConnectionState
import AioHomematic.Lib.StepSystem
import Mathlib.Order.Lattice
import Mathlib.Order.Nat

/-!
# The circuit breaker

`CircuitBreaker` with the connection state it shares with other components.
Times are microseconds; `datetime.now()` is a parameter. Events, counters and
incidents are only reported. The configuration is not checked by the source:
the thresholds and the timeout are any integers, and a threshold below 1 acts
as 1 (`opensAfter`, `closesAfter`).
-/

namespace AioHomematic.Client

open Central Lib

inductive CircuitState where
  | closed
  | opened
  | halfOpen
deriving DecidableEq

structure CircuitBreakerConfig where
  failureThreshold : Int := 5
  recoveryTimeout : Int := 30 * 1000000
  successThreshold : Int := 2

/-- What the constructor fixes. `issuer` is there if the connection state is. -/
structure CircuitBreakerArgs where
  config : CircuitBreakerConfig := {}
  interfaceId : String
  issuer : Option ConnectionProblemIssuer := none

structure CircuitBreaker where
  state : CircuitState := .closed
  failureCount : Nat := 0
  successCount : Nat := 0
  totalRequests : Nat := 0
  lastFailureTime : Option Nat := none
  connectionState : CentralConnectionState := {}
deriving DecidableEq

namespace CircuitBreaker

variable (args : CircuitBreakerArgs)

def notifyRestored (b : CircuitBreaker) : CircuitBreaker :=
  match args.issuer with
  | some issuer =>
    { b with connectionState := (b.connectionState.removeIssue issuer args.interfaceId).2 }
  | none => b

def notifyIssue (b : CircuitBreaker) : CircuitBreaker :=
  match args.issuer with
  | some issuer =>
    { b with connectionState := (b.connectionState.addIssue issuer args.interfaceId).2 }
  | none => b

def transitionTo (newState : CircuitState) (b : CircuitBreaker) : CircuitBreaker :=
  if b.state = newState then b
  else
    match newState with
    | .closed =>
      notifyRestored args { b with state := .closed, failureCount := 0, successCount := 0 }
    | .opened => notifyIssue args { b with state := .opened, successCount := 0 }
    | .halfOpen => { b with state := .halfOpen, successCount := 0 }

/-- The getter `is_available`, which may move the breaker to `HALF_OPEN`. -/
def isAvailable (now : Nat) (b : CircuitBreaker) : Bool × CircuitBreaker :=
  match b.state with
  | .closed => (true, b)
  | .opened =>
    match b.lastFailureTime with
    | some last =>
      if args.config.recoveryTimeout ≤ (now : Int) - last then (true, transitionTo args .halfOpen b)
      else (false, b)
    | none => (false, b)
  | .halfOpen => (true, b)

def recordFailure (now : Nat) (b : CircuitBreaker) : CircuitBreaker :=
  let b :=
    { b with
      failureCount := b.failureCount + 1
      totalRequests := b.totalRequests + 1
      lastFailureTime := some now }
  match b.state with
  | .closed =>
    if args.config.failureThreshold ≤ b.failureCount then transitionTo args .opened b else b
  | .halfOpen => transitionTo args .opened b
  | .opened => b

def recordSuccess (b : CircuitBreaker) : CircuitBreaker :=
  let b := { b with totalRequests := b.totalRequests + 1 }
  match b.state with
  | .closed => { b with failureCount := 0 }
  | .halfOpen =>
    let b := { b with successCount := b.successCount + 1 }
    if args.config.successThreshold ≤ b.successCount then transitionTo args .closed b else b
  | .opened => b

/-- `reset` sets the fields itself; the connection state is not told. -/
def reset (b : CircuitBreaker) : CircuitBreaker :=
  { b with
    state := .closed
    failureCount := 0
    successCount := 0
    totalRequests := 0
    lastFailureTime := none }

end CircuitBreaker

namespace CircuitBreakerConfig

/-- The number of failures in a row that open the circuit. -/
def opensAfter (config : CircuitBreakerConfig) : Nat := max 1 config.failureThreshold.toNat

/-- The number of successes that close a half-open circuit. -/
def closesAfter (config : CircuitBreakerConfig) : Nat := max 1 config.successThreshold.toNat

theorem opensAfter_le {config : CircuitBreakerConfig} {n : Nat} :
    config.opensAfter ≤ n + 1 ↔ config.failureThreshold ≤ (n + 1 : Nat) := by
  rw [opensAfter]
  omega

theorem closesAfter_le {config : CircuitBreakerConfig} {n : Nat} :
    config.closesAfter ≤ n + 1 ↔ config.successThreshold ≤ (n + 1 : Nat) := by
  rw [closesAfter]
  omega

theorem opensAfter_pos (config : CircuitBreakerConfig) : 0 < config.opensAfter := by
  rw [opensAfter]
  omega

theorem closesAfter_pos (config : CircuitBreakerConfig) : 0 < config.closesAfter := by
  rw [closesAfter]
  omega

end CircuitBreakerConfig

namespace CircuitBreaker

variable {args : CircuitBreakerArgs} {b : CircuitBreaker} {now : Nat}

/-! ## What a transition does to the fields -/

@[simp] theorem state_notifyRestored : (notifyRestored args b).state = b.state := by
  rw [notifyRestored]
  split <;> rfl

@[simp] theorem failureCount_notifyRestored :
    (notifyRestored args b).failureCount = b.failureCount := by
  rw [notifyRestored]
  split <;> rfl

@[simp] theorem lastFailureTime_notifyRestored :
    (notifyRestored args b).lastFailureTime = b.lastFailureTime := by
  rw [notifyRestored]
  split <;> rfl

@[simp] theorem state_notifyIssue : (notifyIssue args b).state = b.state := by
  rw [notifyIssue]
  split <;> rfl

@[simp] theorem failureCount_notifyIssue :
    (notifyIssue args b).failureCount = b.failureCount := by
  rw [notifyIssue]
  split <;> rfl

@[simp] theorem lastFailureTime_notifyIssue :
    (notifyIssue args b).lastFailureTime = b.lastFailureTime := by
  rw [notifyIssue]
  split <;> rfl

@[simp] theorem state_transitionTo (newState : CircuitState) :
    (transitionTo args newState b).state = newState := by
  unfold transitionTo
  split
  · assumption
  · cases newState <;> simp

@[simp] theorem lastFailureTime_transitionTo (newState : CircuitState) :
    (transitionTo args newState b).lastFailureTime = b.lastFailureTime := by
  unfold transitionTo
  split
  · rfl
  · cases newState <;> simp

/-! ## The operations, state by state -/

theorem isAvailable_of_opened (h : b.state = .opened) {last : Nat}
    (hlast : b.lastFailureTime = some last) :
    isAvailable args now b =
      if args.config.recoveryTimeout ≤ (now : Int) - last then
        (true, { b with state := .halfOpen, successCount := 0 })
      else (false, b) := by
  simp [isAvailable, transitionTo, h, hlast]

theorem isAvailable_of_not_opened (h : b.state ≠ .opened) : isAvailable args now b = (true, b) := by
  rw [isAvailable]
  split <;> simp_all

theorem connectionState_isAvailable :
    (isAvailable args now b).2.connectionState = b.connectionState := by
  by_cases h : b.state = .opened
  · cases hlast : b.lastFailureTime with
    | none => simp [isAvailable, h, hlast]
    | some last =>
      rw [isAvailable_of_opened h hlast]
      split <;> rfl
  · rw [isAvailable_of_not_opened h]

theorem transitionTo_closed (h : b.state ≠ .closed) :
    transitionTo args .closed b =
      notifyRestored args { b with state := .closed, failureCount := 0, successCount := 0 } :=
  if_neg h

theorem transitionTo_opened (h : b.state ≠ .opened) :
    transitionTo args .opened b =
      notifyIssue args { b with state := .opened, successCount := 0 } :=
  if_neg h

theorem state_recordFailure : (recordFailure args now b).state =
    match b.state with
    | .closed => if args.config.opensAfter ≤ b.failureCount + 1 then .opened else .closed
    | .halfOpen => .opened
    | .opened => .opened := by
  simp only [recordFailure, CircuitBreakerConfig.opensAfter_le]
  split
  · split
    · exact state_transitionTo _
    · assumption
  · exact state_transitionTo _
  · assumption

@[simp] theorem lastFailureTime_recordFailure :
    (recordFailure args now b).lastFailureTime = some now := by
  simp only [recordFailure]
  split
  · split
    · exact lastFailureTime_transitionTo _
    · rfl
  · exact lastFailureTime_transitionTo _
  · rfl

theorem failureCount_recordFailure :
    (recordFailure args now b).failureCount = b.failureCount + 1 := by
  simp only [recordFailure]
  split
  next h =>
    split
    · rw [transitionTo_opened (by simp [h])]
      exact failureCount_notifyIssue
    · rfl
  next h =>
    rw [transitionTo_opened (by simp [h])]
    exact failureCount_notifyIssue
  next => rfl

/-- A failure may register the issue; it changes nothing else in the connection state. -/
theorem connectionState_recordFailure (args : CircuitBreakerArgs) (now : Nat) (b : CircuitBreaker) :
    (recordFailure args now b).connectionState = b.connectionState ∨
      (recordFailure args now b).connectionState = (notifyIssue args b).connectionState := by
  have hnotify (m n k : Nat) (last : Option Nat) (state : CircuitState) :
      (notifyIssue args
        { b with state := state, failureCount := m, successCount := n, totalRequests := k,
                 lastFailureTime := last }).connectionState =
        (notifyIssue args b).connectionState := by
    rw [notifyIssue, notifyIssue]
    split <;> rfl
  simp only [recordFailure]
  split
  next h =>
    split
    · rw [transitionTo_opened (by simp [h])]
      exact .inr (hnotify _ _ _ _ _)
    · exact .inl rfl
  next h =>
    rw [transitionTo_opened (by simp [h])]
    exact .inr (hnotify _ _ _ _ _)
  next => exact .inl rfl

theorem state_recordSuccess : (recordSuccess args b).state =
    match b.state with
    | .closed => .closed
    | .halfOpen => if args.config.closesAfter ≤ b.successCount + 1 then .closed else .halfOpen
    | .opened => .opened := by
  simp only [recordSuccess, CircuitBreakerConfig.closesAfter_le]
  split
  · assumption
  · split
    · exact state_transitionTo _
    · assumption
  · assumption

@[simp] theorem lastFailureTime_recordSuccess :
    (recordSuccess args b).lastFailureTime = b.lastFailureTime := by
  simp only [recordSuccess]
  split
  · rfl
  · split
    · exact lastFailureTime_transitionTo _
    · rfl
  · rfl

theorem failureCount_recordSuccess (h : (recordSuccess args b).state = .closed) :
    (recordSuccess args b).failureCount = 0 := by
  simp only [recordSuccess] at h ⊢
  split at h
  next => rfl
  next hs =>
    split at h
    · rw [if_pos ‹_›, transitionTo_closed (by simp [hs])]
      exact failureCount_notifyRestored
    · exact absurd (hs.symm.trans h) nofun
  next hs => exact absurd (hs.symm.trans h) nofun

theorem successCount_recordSuccess (h : b.state = .halfOpen)
    (ht : (recordSuccess args b).state = .halfOpen) :
    (recordSuccess args b).successCount = b.successCount + 1 := by
  simp only [recordSuccess, h] at ht ⊢
  split at ht
  · simp at ht
  · rw [if_neg ‹_›]

/-- A success may remove the issue; it changes nothing else in the connection state. -/
theorem connectionState_recordSuccess (args : CircuitBreakerArgs) (b : CircuitBreaker) :
    (recordSuccess args b).connectionState = b.connectionState ∨
      (recordSuccess args b).connectionState = (notifyRestored args b).connectionState := by
  have hnotify (m n k : Nat) (state : CircuitState) :
      (notifyRestored args
        { b with state := state, failureCount := m, successCount := n,
                 totalRequests := k }).connectionState =
        (notifyRestored args b).connectionState := by
    rw [notifyRestored, notifyRestored]
    split <;> rfl
  simp only [recordSuccess]
  split
  next => exact .inl rfl
  next h =>
    split
    · rw [transitionTo_closed (by simp [h])]
      exact .inr (hnotify _ _ _ _)
    · exact .inl rfl
  next => exact .inl rfl

/-! ## The count of a closed circuit -/

variable (args) in
/-- `n` failures in a row are recorded, and they are not enough to open the circuit. -/
def ClosedCount (n : Nat) (b : CircuitBreaker) : Prop :=
  b.state = .closed → b.failureCount = n ∧ n < args.config.opensAfter

theorem closedCount_of_zero (h : b.state = .closed → b.failureCount = 0) : ClosedCount args 0 b :=
  fun hs => ⟨h hs, args.config.opensAfter_pos⟩

theorem closedCount_recordSuccess : ClosedCount args 0 (recordSuccess args b) :=
  closedCount_of_zero failureCount_recordSuccess

theorem closedCount_reset : ClosedCount args 0 b.reset := closedCount_of_zero fun _ => rfl

theorem ClosedCount.recordFailure {n : Nat} (h : ClosedCount args n b) :
    ClosedCount args (n + 1) (recordFailure args now b) := by
  intro ht
  rw [state_recordFailure] at ht
  split at ht
  next hs =>
    obtain ⟨hcount, -⟩ := h hs
    split at ht
    · cases ht
    · rw [failureCount_recordFailure, hcount]
      exact ⟨rfl, by omega⟩
  next => cases ht
  next => cases ht

theorem ClosedCount.isAvailable {n : Nat} (h : ClosedCount args n b) :
    ClosedCount args n (isAvailable args now b).2 := by
  by_cases hs : b.state = .opened
  · intro ht
    cases hlast : b.lastFailureTime with
    | none =>
      simp only [CircuitBreaker.isAvailable, hs, hlast] at ht
      cases ht
    | some last =>
      rw [isAvailable_of_opened hs hlast] at ht
      split at ht
      · cases ht
      · rw [hs] at ht
        cases ht
  · rw [isAvailable_of_not_opened hs]
    exact h

/-- The failure that opens a closed circuit is the last one that was missing. -/
theorem ClosedCount.opens {n : Nat} (h : ClosedCount args n b) (hs : b.state = .closed)
    (ht : (CircuitBreaker.recordFailure args now b).state ≠ .closed) :
    n + 1 = args.config.opensAfter := by
  obtain ⟨hcount, hlt⟩ := h hs
  rw [state_recordFailure, hs, hcount] at ht
  dsimp only at ht
  split at ht
  · omega
  · exact absurd rfl ht

end CircuitBreaker

end AioHomematic.Client
