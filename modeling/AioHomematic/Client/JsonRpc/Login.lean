import AioHomematic.Client.JsonRpc
import AioHomematic.Lib.Numbered
import Mathlib.Algebra.Group.Nat.Defs
import Mathlib.Order.Lattice
import Mathlib.Order.Nat

/-!
# Rate limiting of logins

`_do_login` of the JSON-RPC client with its backoff, for any number of login
attempts at a time. Times are in microseconds, as in `datetime`. An attempt
that comes within the backoff sleeps for the rest of it; then it waits for the
HTTP semaphore, its request is sent, and it is answered. Only a result is
looked at: with a session id the counters are reset, with a falsy one the
failure is counted. A JSON-RPC error is raised by `_do_post` and counts for
nothing, and neither does an attempt that ends without an answer.

`LoginHistory` is the limiter with what it is to know: the number of failed
attempts since the last success, and when the last of them failed. An attempt
does not look at the counters again after its sleep, so a failure must not come
between (`Counted`).
-/

namespace AioHomematic.Client

open Lib

/-- `LOGIN_INITIAL_BACKOFF_SECONDS`. -/
def loginInitialBackoff : Nat := 1 * second

/-- `LOGIN_MAX_BACKOFF_SECONDS`. -/
def loginMaxBackoff : Nat := 60 * second

/-- `LOGIN_BACKOFF_MULTIPLIER`. -/
def loginBackoffMultiplier : Nat := 2

inductive LoginAttempt where
  | sleeping (wakeAt : Nat)
  /-- For the HTTP semaphore. -/
  | waiting
  | requested
  | ended
deriving DecidableEq

/-- The request of the attempt was not sent yet. -/
def LoginAttempt.isUnsent : LoginAttempt → Bool
  | sleeping _ => true
  | waiting => true
  | _ => false

inductive LoginAnswer where
  | sessionId
  /-- A result that is falsy. -/
  | falsy
  | jsonRpcError
deriving DecidableEq

structure LoginLimiter where
  now : Nat := 0
  failedLoginAttempts : Nat := 0
  lastFailedLogin : Option Nat := none
  currentBackoff : Nat := loginInitialBackoff
  attempts : List LoginAttempt := []
deriving DecidableEq

namespace LoginLimiter

/-- Up to the first suspension of `_do_login`. -/
def doLogin (s : LoginLimiter) : LoginAttempt :=
  match s.lastFailedLogin with
  | some last =>
    let elapsed := s.now - last
    if 0 < s.failedLoginAttempts ∧ elapsed < s.currentBackoff then
      .sleeping (s.now + (s.currentBackoff - elapsed))
    else .waiting
  | none => .waiting

/-- `_do_login` from the answer on. -/
def loginAnswered (answer : LoginAnswer) (s : LoginLimiter) : LoginLimiter :=
  match answer with
  | .sessionId =>
    { s with
      failedLoginAttempts := 0
      currentBackoff := loginInitialBackoff
      lastFailedLogin := none }
  | .falsy =>
    { s with
      failedLoginAttempts := s.failedLoginAttempts + 1
      lastFailedLogin := some s.now
      currentBackoff := min (s.currentBackoff * loginBackoffMultiplier) loginMaxBackoff }
  | .jsonRpcError => s

inductive Action where
  | login
  | wake (i : Nat)
  | send (i : Nat)
  | answer (i : Nat) (a : LoginAnswer)
  /-- The task of the attempt is cancelled, or its request has no answer. -/
  | abandon (i : Nat)
  | wait (microseconds : Nat)
deriving DecidableEq

def setAttempt (i : Nat) (attempt : LoginAttempt) (s : LoginLimiter) : LoginLimiter :=
  { s with attempts := s.attempts.set i attempt }

def step (s : LoginLimiter) : Action → Option LoginLimiter
  | .login => some { s with attempts := s.attempts ++ [s.doLogin] }
  | .wake i =>
    match s.attempts[i]? with
    | some (.sleeping wakeAt) => if wakeAt ≤ s.now then some (s.setAttempt i .waiting) else none
    | _ => none
  | .send i =>
    match s.attempts[i]? with
    | some .waiting => some (s.setAttempt i .requested)
    | _ => none
  | .answer i a =>
    match s.attempts[i]? with
    | some .requested => some ((s.setAttempt i .ended).loginAnswered a)
    | _ => none
  | .abandon i =>
    match s.attempts[i]? with
    | some .ended => none
    | some _ => some (s.setAttempt i .ended)
    | none => none
  | .wait microseconds => some { s with now := s.now + microseconds }

theorem step_send {s t : LoginLimiter} {i : Nat} (h : s.step (.send i) = some t) :
    s.attempts[i]? = some .waiting ∧ t = s.setAttempt i .requested := by
  simp only [step] at h
  split at h
  · cases h
    exact ⟨‹_›, rfl⟩
  · cases h

theorem step_answer {s t : LoginLimiter} {i : Nat} {a : LoginAnswer}
    (h : s.step (.answer i a) = some t) :
    s.attempts[i]? = some .requested ∧ t = (s.setAttempt i .ended).loginAnswered a := by
  simp only [step] at h
  split at h
  · cases h
    exact ⟨‹_›, rfl⟩
  · cases h

end LoginLimiter

/-! ## What the limiter is to know -/

structure LoginHistory where
  limiter : LoginLimiter := {}
  /-- The failed attempts since the last success. -/
  failures : Nat := 0
  /-- When the last of them has failed. -/
  lastFailure : Nat := 0
deriving DecidableEq

namespace LoginHistory

open LoginLimiter

def record (a : LoginAnswer) (s : LoginHistory) : LoginHistory :=
  match a with
  | .sessionId => { s with failures := 0 }
  | .falsy | .jsonRpcError =>
    { s with failures := s.failures + 1, lastFailure := s.limiter.now }

def step (s : LoginHistory) (a : Action) : Option LoginHistory :=
  (s.limiter.step a).map fun limiter =>
    let s := { s with limiter }
    match a with
    | .answer _ answer => s.record answer
    | _ => s

def system : StepSystem LoginHistory Action where
  init := {}
  step := step

/-- How long the next request has to wait after the last of `failures` failed attempts. -/
def backoff (failures : Nat) : Nat :=
  min (loginInitialBackoff * loginBackoffMultiplier ^ failures) loginMaxBackoff

/-- A failed login has a falsy result, and no other attempt has passed the check without having
sent its request. -/
def Counted (s : LoginHistory) : Action → Prop
  | .answer _ .falsy => ∀ attempt ∈ s.limiter.attempts, attempt.isUnsent = false
  | .answer _ .jsonRpcError => False
  | _ => True

instance : DecidableRel Counted
  | s, .answer _ .falsy =>
    inferInstanceAs (Decidable (∀ attempt ∈ s.limiter.attempts, attempt.isUnsent = false))
  | _, .answer _ .jsonRpcError => .isFalse id
  | _, .answer _ .sessionId => .isTrue trivial
  | _, .login => .isTrue trivial
  | _, .wake _ => .isTrue trivial
  | _, .send _ => .isTrue trivial
  | _, .abandon _ => .isTrue trivial
  | _, .wait _ => .isTrue trivial

/-- When the attempt may be sent, at the time `now`. -/
def Due (s : LoginHistory) (now : Nat) : LoginAttempt → Prop
  | .sleeping wakeAt => 0 < s.failures → s.lastFailure + backoff s.failures ≤ wakeAt
  | .waiting => 0 < s.failures → s.lastFailure + backoff s.failures ≤ now
  | _ => True

/-- The limiter knows what it is to know, and nobody is early. -/
structure Knows (s : LoginHistory) : Prop where
  count : s.limiter.failedLoginAttempts = s.failures
  last : s.limiter.lastFailedLogin = if s.failures = 0 then none else some s.lastFailure
  past : s.lastFailure ≤ s.limiter.now
  backoff : s.limiter.currentBackoff = backoff s.failures
  due : ∀ attempt ∈ s.limiter.attempts, s.Due s.limiter.now attempt

variable {s t : LoginHistory} {a : Action} {i : Nat} {attempt : LoginAttempt}

theorem backoff_zero : backoff 0 = loginInitialBackoff := by decide

theorem backoff_succ (n : Nat) :
    backoff (n + 1) = min (backoff n * loginBackoffMultiplier) loginMaxBackoff := by
  unfold backoff
  rw [Nat.pow_succ, ← Nat.mul_assoc]
  generalize loginInitialBackoff * loginBackoffMultiplier ^ n = b
  show min (b * 2) loginMaxBackoff = min (min b loginMaxBackoff * 2) loginMaxBackoff
  omega

namespace Knows

/-- An attempt comes into another phase, in which it is not early. -/
theorem setAttempt (h : Knows s) (hdue : s.Due s.limiter.now attempt) :
    Knows { s with limiter := s.limiter.setAttempt i attempt } where
  count := h.count
  last := h.last
  past := h.past
  backoff := h.backoff
  due other hother := by
    rcases List.mem_or_eq_of_mem_set hother with hother | rfl
    · exact h.due other hother
    · exact hdue

theorem doLogin (h : Knows s) : s.Due s.limiter.now s.limiter.doLogin := by
  unfold LoginLimiter.doLogin
  rw [h.last, h.count, h.backoff]
  have hpast := h.past
  by_cases hzero : s.failures = 0
  · rw [if_pos hzero]
    intro hpos
    omega
  · rw [if_neg hzero]
    dsimp only
    split
    · intro _
      omega
    · rename_i hlate
      intro hpos
      have hlate : ¬ s.limiter.now - s.lastFailure < LoginHistory.backoff s.failures :=
        fun h => hlate ⟨hpos, h⟩
      omega

theorem falsy (h : Knows s)
    (hunsent : ∀ attempt ∈ s.limiter.attempts, attempt.isUnsent = false) :
    Knows { s with
      limiter := (s.limiter.setAttempt i .ended).loginAnswered .falsy
      failures := s.failures + 1
      lastFailure := s.limiter.now } where
  count := congrArg (· + 1) h.count
  last := (if_neg (Nat.succ_ne_zero s.failures)).symm
  past := Nat.le_refl s.limiter.now
  backoff := by
    show min (s.limiter.currentBackoff * _) _ = _
    rw [h.backoff, ← backoff_succ]
  due attempt hattempt := by
    rcases List.mem_or_eq_of_mem_set hattempt with hattempt | rfl
    · have hsent := hunsent attempt hattempt
      cases attempt with
      | sleeping => cases hsent
      | waiting => cases hsent
      | requested => exact trivial
      | ended => exact trivial
    · exact trivial

theorem sessionId (h : Knows s) :
    Knows { s with
      limiter := (s.limiter.setAttempt i .ended).loginAnswered .sessionId
      failures := 0 } where
  count := rfl
  last := rfl
  past := h.past
  backoff := backoff_zero.symm
  due attempt _ := by
    cases attempt with
    | sleeping => exact fun hpos => absurd hpos (Nat.lt_irrefl 0)
    | waiting => exact fun hpos => absurd hpos (Nat.lt_irrefl 0)
    | requested => exact trivial
    | ended => exact trivial

theorem wait (h : Knows s) (microseconds : Nat) :
    Knows { s with limiter := { s.limiter with now := s.limiter.now + microseconds } } where
  count := h.count
  last := h.last
  past := Nat.le_add_right_of_le h.past
  backoff := h.backoff
  due attempt hattempt := by
    have hdue := h.due attempt hattempt
    cases attempt with
    | sleeping => exact hdue
    | waiting => exact fun hpos => Nat.le_add_right_of_le (hdue hpos)
    | requested => exact trivial
    | ended => exact trivial

theorem step (h : Knows s) (hok : Counted s a) (hstep : s.step a = some t) : Knows t := by
  obtain ⟨limiter, hlimiter, rfl⟩ := Option.map_eq_some_iff.mp hstep
  cases a with
  | login =>
    cases hlimiter
    refine ⟨h.count, h.last, h.past, h.backoff, fun attempt hattempt => ?_⟩
    rcases List.mem_append.mp hattempt with hattempt | hattempt
    · exact h.due attempt hattempt
    · rw [List.mem_singleton.mp hattempt]
      exact h.doLogin
  | wake i =>
    simp only [LoginLimiter.step] at hlimiter
    split at hlimiter
    · rename_i wakeAt hattempt
      split at hlimiter
      · cases hlimiter
        refine h.setAttempt fun hpos => ?_
        have hdue := h.due _ (List.mem_of_getElem? hattempt) hpos
        omega
      · cases hlimiter
    · cases hlimiter
  | send i =>
    obtain ⟨-, rfl⟩ := step_send hlimiter
    exact h.setAttempt trivial
  | answer i answer =>
    obtain ⟨-, rfl⟩ := step_answer hlimiter
    cases answer with
    | sessionId => exact h.sessionId
    | falsy => exact h.falsy hok
    | jsonRpcError => exact hok.elim
  | abandon i =>
    simp only [LoginLimiter.step] at hlimiter
    split at hlimiter
    · cases hlimiter
    · cases hlimiter
      exact h.setAttempt trivial
    · cases hlimiter
  | wait microseconds =>
    cases hlimiter
    exact h.wait microseconds

theorem init : Knows {} where
  count := rfl
  last := rfl
  past := Nat.le_refl 0
  backoff := backoff_zero.symm
  due attempt hattempt := by cases hattempt

end Knows

theorem reach_knows (h : system.Reach Counted s) : Knows s :=
  h.invariant .init fun _ _ _ hs ho hstep => hs.step ho hstep

/-- **Rate limiting**: in runs where failed logins have a falsy result and do not overlap with an
unsent attempt, a request is sent only when the backoff for the failed attempts since the last
success has passed since the last of them, and a success resets their number. -/
theorem login_rate_limited (hreach : system.Reach Counted s) :
    s.limiter.failedLoginAttempts = s.failures ∧
      (∀ i t, s.step (.send i) = some t → 0 < s.failures →
        s.lastFailure + min (loginInitialBackoff * loginBackoffMultiplier ^ s.failures)
          loginMaxBackoff ≤ s.limiter.now) ∧
      ∀ i t, s.step (.answer i .sessionId) = some t →
        t.failures = 0 ∧ t.limiter.failedLoginAttempts = 0 := by
  have hs := reach_knows hreach
  refine ⟨hs.count, fun i t hstep hpos => ?_, fun i t hstep => ?_⟩
  · obtain ⟨limiter, hlimiter, -⟩ := Option.map_eq_some_iff.mp hstep
    obtain ⟨hattempt, -⟩ := step_send hlimiter
    exact hs.due .waiting (List.mem_of_getElem? hattempt) hpos
  · obtain ⟨limiter, hlimiter, rfl⟩ := Option.map_eq_some_iff.mp hstep
    obtain ⟨-, rfl⟩ := step_answer hlimiter
    exact ⟨rfl, rfl⟩

/-- The condition on errors is needed: the limiter makes nothing of them, so the next attempt
goes on as if there had been none. -/
theorem doLogin_of_jsonRpcError (hfirst : s.limiter.lastFailedLogin = none)
    (hstep : s.step (.answer i .jsonRpcError) = some t) :
    0 < t.failures ∧ t.lastFailure = t.limiter.now ∧ t.limiter.doLogin = .waiting := by
  obtain ⟨limiter, hlimiter, rfl⟩ := Option.map_eq_some_iff.mp hstep
  obtain ⟨-, rfl⟩ := step_answer hlimiter
  refine ⟨Nat.succ_pos s.failures, rfl, ?_⟩
  show (match s.limiter.lastFailedLogin with | some _ => _ | none => _) = _
  rw [hfirst]

/-! ## Failing logins -/

/-- Two logins with a falsy result, and a third that sleeps. -/
def sampleLogins : List Action :=
  [.login, .send 0, .answer 0 .falsy, .login, .wait (2 * second), .wake 1, .send 1,
    .answer 1 .falsy, .wait second, .login, .wait (3 * second), .wake 2]

theorem login_rate_limited_third :
    ∃ s, system.replay Counted system.init sampleLogins = some s ∧
      s.lastFailure + 4 * second ≤ s.limiter.now ∧ s.limiter.failedLoginAttempts = 2 := by
  obtain ⟨s, hs, hsend, hfailures⟩ := StepSystem.replay_any
    (p := fun s : LoginHistory => (s.step (.send 2)).isSome ∧ s.failures = 2)
    (show (system.replay Counted system.init sampleLogins).any _ = true by decide)
  obtain ⟨t, ht⟩ := Option.isSome_iff_exists.mp hsend
  obtain ⟨hcount, hlimit, -⟩ := login_rate_limited (StepSystem.reach_of_replay hs)
  have hlimit := hlimit 2 t ht (by omega)
  have hbackoff : min (loginInitialBackoff * loginBackoffMultiplier ^ 2) loginMaxBackoff =
      4 * second := by decide
  rw [hfailures] at hlimit hcount
  rw [hbackoff] at hlimit
  exact ⟨s, hs, hlimit, hcount⟩

/-- Wrong credentials are answered with a JSON-RPC error. -/
def sampleWrongCredentials : List Action := [.login, .send 0, .answer 0 .jsonRpcError, .login]

/-- The second of two overlapping logins fails while a third one sleeps. -/
def sampleOverlap : List Action :=
  [.login, .login, .send 0, .send 1, .answer 0 .falsy, .login, .wait second, .answer 1 .falsy,
    .wait second, .wake 2]

/-- In both runs the next request is sent too early. -/
theorem login_rate_limited_early :
    (∃ s t, system.replay StepSystem.Free system.init sampleWrongCredentials = some s ∧
      0 < s.failures ∧ s.step (.send 1) = some t ∧
      s.limiter.now < s.lastFailure + backoff s.failures) ∧
    ∃ s t, system.replay StepSystem.Free system.init sampleOverlap = some s ∧
      0 < s.failures ∧ s.step (.send 2) = some t ∧
      s.limiter.now < s.lastFailure + backoff s.failures :=
  ⟨⟨_, _, rfl, by decide, rfl, by decide⟩, _, _, rfl, by decide, rfl, by decide⟩

end LoginHistory

end AioHomematic.Client
