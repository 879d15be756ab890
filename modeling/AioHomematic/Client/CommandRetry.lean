import AioHomematic.Const
import AioHomematic.Exceptions
import AioHomematic.Lib.Dict

/-!
# The command retry handler

`CommandRetryHandler` and the coroutine `execute_with_retry`. The handler's
cancel events are numbered in the order of their creation; `activeRetries` maps
a data point key to the event of the call that is registered for it. An
`Execution` is one `execute_with_retry` call between two suspensions, and each
function on it runs the coroutine up to the next one:

* `executeWithRetry` up to the first call of the operation;
* `operationEnded` from the end of that call;
* `sleepEnded` from the end of `_interruptible_sleep`, `recoveryEnded` from that
  of `_wait_for_recovery`; both look at the cancel event first;
* `cancelled` where `CancelledError` is raised at a suspension of its own.

`attempt` counts the calls of the operation. How long a delay is does not matter
to any of them, so the delay and its jitter are left out.
-/

namespace AioHomematic.Client

open Lib

/-! ## Which errors are retried -/

/-- `_RETRYABLE_FAULT_CODES`: UNREACH, INSUFFICIENT_DUTYCYCLE, DEVICE_OUT_OF_RANGE and
TRANSMISSION_PENDING. -/
def retryableFaultCodes : List Int := [-1, -8, -9, -10]

/-- `_NON_RETRYABLE_EXCEPTIONS`. -/
def nonRetryableExceptions : List ExceptionClass :=
  [.authFailure, .circuitBreakerOpenException, .commandSupersededError, .unsupportedException,
    .validationException]

def getFaultCode (exc : PyException) : Option Int := exc.causes.findSome? id

def isRetryable (exc : PyException) : Bool :=
  if exc.cls ∈ nonRetryableExceptions then false
  else if exc.cls ∈ [.timeoutError, .noConnectionException, .internalBackendException] then true
  else
    match getFaultCode exc with
    | some code => exc.cls.isHomematic && code ∈ retryableFaultCodes
    | none => false

def commandSuperseded : PyException := { cls := .commandSupersededError }

def taskCancelled : PyException := { cls := .cancelledError }

/-! ## The handler -/

structure CommandRetryMetrics where
  totalRetries : Nat := 0
  successfulRetries : Nat := 0
  exhaustedRetries : Nat := 0
  recoveryWaits : Nat := 0
  recoveryWaitTimeouts : Nat := 0
  cancelledRetries : Nat := 0
deriving DecidableEq

structure CommandRetryHandler where
  activeRetries : Dict DataPointKey Nat := .empty
  cancelEvents : List Bool := []
  metrics : CommandRetryMetrics := {}
deriving DecidableEq

namespace CommandRetryHandler

/-- `cancel_event.is_set()`. -/
def isSet (h : CommandRetryHandler) (event : Nat) : Prop := h.cancelEvents[event]? = some true

instance (h : CommandRetryHandler) (event : Nat) : Decidable (h.isSet event) :=
  inferInstanceAs (Decidable (_ = _))

/-- `cancel_event.set()`, with the count of cancelled retries. -/
def cancelEvent (event : Nat) (h : CommandRetryHandler) : CommandRetryHandler :=
  { h with
    cancelEvents := h.cancelEvents.set event true
    metrics := { h.metrics with cancelledRetries := h.metrics.cancelledRetries + 1 } }

def cancelRetryForDpk (h : CommandRetryHandler) (dpk : DataPointKey) : CommandRetryHandler :=
  match h.activeRetries.get? dpk with
  | some event => { h.cancelEvent event with activeRetries := h.activeRetries.erase dpk }
  | none => h

/-- The registered keys of a device or of a single channel. -/
def retriesForDevice (h : CommandRetryHandler) (deviceAddress : String) : List DataPointKey :=
  h.activeRetries.keys.filter fun dpk =>
    dpk.channelAddress = deviceAddress || startsWith dpk.channelAddress (deviceAddress ++ ":")

def cancelRetriesForDevice (h : CommandRetryHandler) (deviceAddress : String) :
    CommandRetryHandler :=
  (h.retriesForDevice deviceAddress).foldl cancelRetryForDpk h

def cancelRetriesForInterface (h : CommandRetryHandler) : CommandRetryHandler :=
  h.activeRetries.keys.foldl cancelRetryForDpk h

/-- The event of an existing registration for `dpk` is set, and a new one takes its place. -/
def registerRetry (dpk : DataPointKey) (h : CommandRetryHandler) : Nat × CommandRetryHandler :=
  let h :=
    match h.activeRetries.get? dpk with
    | some existing => h.cancelEvent existing
    | none => h
  (h.cancelEvents.length,
    { h with
      cancelEvents := h.cancelEvents ++ [false]
      activeRetries := h.activeRetries.set dpk h.cancelEvents.length })

/-- The `finally` of `execute_with_retry`: drop the registration if it is still the own one. -/
def unregister (dpk : DataPointKey) (event : Nat) (h : CommandRetryHandler) :
    CommandRetryHandler :=
  if h.activeRetries.get? dpk = some event then
    { h with activeRetries := h.activeRetries.erase dpk }
  else h

end CommandRetryHandler

/-! ## `execute_with_retry` -/

inductive ExecutionPhase where
  | attempting
  | sleeping
  | recovering (exc : PyException)
  | finished (outcome : Except PyException Unit)

structure Execution where
  dpk : DataPointKey
  /-- The call's cancel event; `none` where retry is disabled. -/
  event : Option Nat
  attempt : Nat
  phase : ExecutionPhase

namespace Execution

open CommandRetryHandler

def executeWithRetry (maxAttempts : Int) (dpk : DataPointKey) (retry : Bool)
    (h : CommandRetryHandler) : Execution × CommandRetryHandler :=
  if retry = false ∨ maxAttempts ≤ 0 then
    ({ dpk, event := none, attempt := 1, phase := .attempting }, h)
  else
    let r := registerRetry dpk h
    ({ dpk, event := some r.1, attempt := 1, phase := .attempting }, r.2)

def finish (outcome : Except PyException Unit) (e : Execution) (h : CommandRetryHandler) :
    Execution × CommandRetryHandler :=
  ({ e with phase := .finished outcome },
    match e.event with
    | some event => h.unregister e.dpk event
    | none => h)

/-- The next round of the loop. -/
def nextAttempt (e : Execution) (h : CommandRetryHandler) : Execution × CommandRetryHandler :=
  match e.event with
  | some event =>
    if h.isSet event then e.finish (.error commandSuperseded) h
    else ({ e with attempt := e.attempt + 1, phase := .attempting }, h)
  | none => (e, h)

def operationEnded (maxAttempts : Int) (outcome : Except PyException Unit) (e : Execution)
    (h : CommandRetryHandler) : Execution × CommandRetryHandler :=
  match e.event, outcome with
  | none, _ => e.finish outcome h
  | some _, .ok () =>
    if 1 < e.attempt then
      e.finish outcome
        { h with metrics := { h.metrics with successfulRetries := h.metrics.successfulRetries + 1 } }
    else e.finish outcome h
  | some _, .error exc =>
    if isRetryable exc = false then e.finish outcome h
    else if maxAttempts ≤ e.attempt then
      e.finish outcome
        { h with metrics := { h.metrics with exhaustedRetries := h.metrics.exhaustedRetries + 1 } }
    else
      let h := { h with metrics := { h.metrics with totalRetries := h.metrics.totalRetries + 1 } }
      if exc.cls = .noConnectionException then
        ({ e with phase := .recovering exc },
          { h with metrics := { h.metrics with recoveryWaits := h.metrics.recoveryWaits + 1 } })
      else ({ e with phase := .sleeping }, h)

/-- The delay is over, or the cancel event was set. -/
def sleepEnded (e : Execution) (h : CommandRetryHandler) : Execution × CommandRetryHandler :=
  e.nextAttempt h

/-- The wait is over: by the cancel event, with the connection recovered, or by its timeout. -/
def recoveryEnded (recovered : Bool) (exc : PyException) (e : Execution)
    (h : CommandRetryHandler) : Execution × CommandRetryHandler :=
  match e.event with
  | some event =>
    if h.isSet event ∨ recovered then e.nextAttempt h
    else
      e.finish (.error exc)
        { h with
          metrics :=
            { h.metrics with recoveryWaitTimeouts := h.metrics.recoveryWaitTimeouts + 1 } }
  | none => (e, h)

def cancelled (e : Execution) (h : CommandRetryHandler) : Execution × CommandRetryHandler :=
  e.finish (.error taskCancelled) h

end Execution

end AioHomematic.Client
