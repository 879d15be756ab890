import AioHomematic.Client.CommandRetry
import AioHomematic.Client.CommandThrottle

/-!
# Writing values through the interface client

`InterfaceClient.set_value` and `put_paramset` over the throttle and the retry
handler, as one step system. Both calls take the same way: cancel the retries
of the purge addresses, check the values, acquire the throttle, stage the
values as in flight, and execute the backend operation with retry. A call runs
from one suspension to the next:

* `setValue` and `putParamset` start a call; where the throttle does not make
  it wait, they run up to the first call of the backend;
* `granted` goes on with a call whose future is done;
* `operationEnded`, `sleepEnded` and `recoveryEnded` go on with an execution;
* `cancelCall` is `Task.cancel()` on a call;
* `throttle` is a step of the throttle's own, of its worker or `stop()`;
* `stop` and `cancelRetries` are the retry handler's cancellations from outside.

`check` is the error of the check against the paramset description, if there is
one, and `values` are the checked values. What follows a successful execution
(the value tracker, the wait for the callback) sends nothing and is not
modelled; `CallResult.sent` stands for the data point values it returns.
-/

namespace AioHomematic.Client

open Lib

/-- `paramset_key_or_link_address`. -/
inductive ParamsetKeyOrLink where
  | key (paramsetKey : ParamsetKey)
  | link (address : String)
deriving DecidableEq

/-- The paramset key in the keys of a call's data points. -/
def ParamsetKeyOrLink.paramsetKey : ParamsetKeyOrLink → ParamsetKey
  | key k => k
  | link _ => .link

variable {V : Type*}

structure Request (V : Type*) where
  channelAddress : String
  paramset : ParamsetKeyOrLink
  values : Dict String V
  priority : Option CommandPriority := none
  purgeAddresses : List String := []
  retry : Bool := true
  check : Option PyException := none

namespace Request

def ofSetValue (channelAddress : String) (paramsetKey : ParamsetKey) (parameter : String)
    (value : V) (priority : Option CommandPriority := none) (purgeAddresses : List String := [])
    (retry : Bool := true) (check : Option PyException := none) : Request V where
  channelAddress := channelAddress
  paramset := .key paramsetKey
  values := Dict.empty.set parameter value
  priority := priority
  purgeAddresses := purgeAddresses
  retry := retry
  check := check

/-- The priority of the command, `HIGH` by default. -/
def commandPriority (r : Request V) : CommandPriority := r.priority.getD .high

def parameters (r : Request V) : List String := r.values.keys

/-- The key under which the call's retries are tracked: that of the first parameter. -/
def retryKey (interfaceId : String) (r : Request V) : DataPointKey where
  interfaceId := interfaceId
  channelAddress := r.channelAddress
  paramsetKey := r.paramset.paramsetKey
  parameter := r.parameters.headD ""

end Request

/-- What `set_value` and `put_paramset` return: the values sent, or `set()`. -/
inductive CallResult where
  | sent
  | nothing
deriving DecidableEq

/-- The exception handlers of `set_value` and `put_paramset`: a superseded command returns
`set()`, any other error of the library is wrapped. -/
def translateOutcome (outcome : Except PyException Unit) : Except PyException CallResult :=
  match outcome with
  | .ok () => .ok .sent
  | .error exc =>
    if exc.cls = .commandSupersededError then .ok .nothing
    else if exc.cls.isHomematic then
      .error { cls := .clientException, causes := none :: exc.causes }
    else .error exc

/-- What the caller gets, through the `inspector` of both methods. -/
def callResult (outcome : Except PyException Unit) : Except PyException CallResult :=
  inspector .nothing (translateOutcome outcome)

structure Call (V : Type*) where
  request : Request V
  /-- The future the call waits on in the throttle. -/
  future : Option Nat := none
  execution : Option Execution := none
  result : Option (Except PyException CallResult) := none

/-- How often the call has handed its command to the backend. -/
def Call.attempts (c : Call V) : Nat := c.execution.elim 0 (·.attempt)

structure InterfaceClient (V : Type*) where
  throttle : CommandThrottle
  retryHandler : CommandRetryHandler := {}
  inFlight : Dict DataPointKey V := .empty
  calls : List (Call V) := []

namespace InterfaceClient

structure Config where
  interfaceId : String
  throttle : CommandThrottle.Config
  commandRetryMaxAttempts : Int := 3

variable [DecidableEq V]

/-! ## In-flight values -/

def dataPointKey (cfg : Config) (r : Request V) (parameter : String) : DataPointKey :=
  { r.retryKey cfg.interfaceId with parameter }

/-- `_stage_in_flight_value` and `_stage_in_flight_paramset`; not for links. -/
def stageInFlight (cfg : Config) (r : Request V) (inFlight : Dict DataPointKey V) :
    Dict DataPointKey V :=
  match r.paramset with
  | .link _ => inFlight
  | .key _ => r.values.entries.foldl (fun d pv => d.set (dataPointKey cfg r pv.1) pv.2) inFlight

/-- `_clear_in_flight_value` and `_clear_in_flight_paramset`: only what still has the value. -/
def clearInFlight (cfg : Config) (r : Request V) (inFlight : Dict DataPointKey V) :
    Dict DataPointKey V :=
  match r.paramset with
  | .link _ => inFlight
  | .key _ =>
    r.values.entries.foldl
      (fun d pv =>
        if d.get? (dataPointKey cfg r pv.1) = some pv.2 then d.erase (dataPointKey cfg r pv.1)
        else d)
      inFlight

/-! ## Calls -/

def setCall (i : Nat) (c : Call V) (s : InterfaceClient V) : InterfaceClient V :=
  { s with calls := s.calls.set i c }

/-- The call goes on with its execution: it may have ended. -/
def continueCall (cfg : Config) (i : Nat) (c : Call V) (r : Execution × CommandRetryHandler)
    (s : InterfaceClient V) : InterfaceClient V :=
  match r.1.phase with
  | .finished outcome =>
    { s with
      retryHandler := r.2
      inFlight := clearInFlight cfg c.request s.inFlight
      calls := s.calls.set i { c with execution := some r.1, result := some (callResult outcome) } }
  | _ => { s with retryHandler := r.2, calls := s.calls.set i { c with execution := some r.1 } }

/-- From the end of `acquire()` to the first call of the backend. -/
def startExecution (cfg : Config) (i : Nat) (c : Call V) (s : InterfaceClient V) :
    InterfaceClient V :=
  let s := { s with inFlight := stageInFlight cfg c.request s.inFlight }
  s.continueCall cfg i c
    (Execution.executeWithRetry cfg.commandRetryMaxAttempts (c.request.retryKey cfg.interfaceId)
      c.request.retry s.retryHandler)

/-- `acquire()` has ended with `r`. -/
def acquired (cfg : Config) (i : Nat) (c : Call V) (r : AcquireResult) (s : InterfaceClient V) :
    InterfaceClient V :=
  match r with
  | .returned => s.startExecution cfg i c
  | .commandSuperseded =>
    s.setCall i { c with result := some (callResult (.error commandSuperseded)) }
  | .cancelledError => s.setCall i { c with result := some (callResult (.error taskCancelled)) }

/-- The first stretch of call `i`, from the check on. -/
def checkAndAcquire (cfg : Config) (i : Nat) (c : Call V) (tBurst tStamp : Int)
    (s : InterfaceClient V) : Option (InterfaceClient V) :=
  let r := c.request
  match r.check with
  | some exc =>
    if s.throttle.worker.running then none
    else some (s.setCall i { c with result := some (callResult (.error exc)) })
  | none =>
    let start := s.throttle.acquire cfg.throttle r.commandPriority r.channelAddress
      r.purgeAddresses tBurst tStamp
    (CommandThrottle.step cfg.throttle s.throttle
        (.acquire r.commandPriority r.channelAddress r.purgeAddresses tBurst tStamp)).map
      fun throttle =>
        match start.1 with
        | .ended result => acquired cfg i c result { s with throttle }
        | .waiting future => setCall i { c with future := some future } { s with throttle }

/-- `set_value` or `put_paramset` up to its first suspension. -/
def startCall (cfg : Config) (r : Request V) (tBurst tStamp : Int) (s : InterfaceClient V) :
    Option (InterfaceClient V) :=
  let c : Call V := { request := r }
  checkAndAcquire cfg s.calls.length c tBurst tStamp { s with
    retryHandler :=
      r.purgeAddresses.foldl CommandRetryHandler.cancelRetriesForDevice s.retryHandler
    calls := s.calls ++ [c] }

/-- The call `i` goes on, with its future done. -/
def granted (cfg : Config) (i : Nat) (s : InterfaceClient V) : Option (InterfaceClient V) :=
  match s.calls[i]? with
  | some c =>
    match c.future, c.execution, c.result with
    | some future, none, none =>
      match (s.throttle.waiters[future]?).bind (·.future.acquireResult) with
      | some result =>
        (CommandThrottle.step cfg.throttle s.throttle (.resume future)).map fun throttle =>
          acquired cfg i c result { s with throttle }
      | none => none
    | _, _, _ => none
  | none => none

/-- Go on with the execution of call `i`, if it is in the right phase. -/
def resumeExecution (cfg : Config) (i : Nat) (s : InterfaceClient V)
    (f : Execution → CommandRetryHandler → Option (Execution × CommandRetryHandler)) :
    Option (InterfaceClient V) :=
  if s.throttle.worker.running then none
  else
    match s.calls[i]? with
    | some c =>
      match c.execution, c.result with
      | some e, none => (f e s.retryHandler).map fun r => s.continueCall cfg i c r
      | _, _ => none
    | none => none

def operationEnded (cfg : Config) (outcome : Except PyException Unit) (e : Execution)
    (h : CommandRetryHandler) : Option (Execution × CommandRetryHandler) :=
  match e.phase with
  | .attempting => some (e.operationEnded cfg.commandRetryMaxAttempts outcome h)
  | _ => none

def sleepEnded (e : Execution) (h : CommandRetryHandler) :
    Option (Execution × CommandRetryHandler) :=
  match e.phase with
  | .sleeping => some (e.sleepEnded h)
  | _ => none

def recoveryEnded (recovered : Bool) (e : Execution) (h : CommandRetryHandler) :
    Option (Execution × CommandRetryHandler) :=
  match e.phase with
  | .recovering exc => some (e.recoveryEnded recovered exc h)
  | _ => none

/-- `CancelledError` at the suspension of an execution; inside the operation, it is the operation
that raises it. -/
def cancelExecution (cfg : Config) (e : Execution) (h : CommandRetryHandler) :
    Option (Execution × CommandRetryHandler) :=
  match e.phase with
  | .attempting => some (e.operationEnded cfg.commandRetryMaxAttempts (.error taskCancelled) h)
  | .sleeping => some (e.cancelled h)
  | .recovering _ => some (e.cancelled h)
  | .finished _ => none

def cancelCall (cfg : Config) (i : Nat) (s : InterfaceClient V) : Option (InterfaceClient V) :=
  match s.calls[i]? with
  | some c =>
    match c.future, c.execution, c.result with
    | some future, none, none =>
      (CommandThrottle.step cfg.throttle s.throttle (.cancelAcquire future)).map fun throttle =>
        acquired cfg i c .cancelledError { s with throttle }
    | _, _, _ => s.resumeExecution cfg i (cancelExecution cfg)
  | none => none

/-! ## The step system -/

inductive Action (V : Type*) where
  | setValue (channelAddress : String) (paramsetKey : ParamsetKey) (parameter : String) (value : V)
      (priority : Option CommandPriority) (purgeAddresses : List String) (retry : Bool)
      (check : Option PyException) (tBurst tStamp : Int)
  | putParamset (request : Request V) (tBurst tStamp : Int)
  | granted (i : Nat)
  | operationEnded (i : Nat) (outcome : Except PyException Unit)
  | sleepEnded (i : Nat)
  | recoveryEnded (i : Nat) (recovered : Bool)
  | cancelCall (i : Nat)
  | worker (now : Int)
  | cancelWorker
  | stopThrottle
  | cancelRetries (deviceAddress : String)
  | stop

/-- A step of the throttle's own. -/
def throttleStep (cfg : Config) (a : CommandThrottle.Action) (s : InterfaceClient V) :
    Option (InterfaceClient V) :=
  (CommandThrottle.step cfg.throttle s.throttle a).map ({ s with throttle := · })

def step (cfg : Config) (s : InterfaceClient V) : Action V → Option (InterfaceClient V)
  | .setValue channelAddress paramsetKey parameter value priority purgeAddresses retry check
      tBurst tStamp =>
    s.startCall cfg (.ofSetValue channelAddress paramsetKey parameter value priority
      purgeAddresses retry check) tBurst tStamp
  | .putParamset request tBurst tStamp => s.startCall cfg request tBurst tStamp
  | .granted i => s.granted cfg i
  | .operationEnded i outcome => s.resumeExecution cfg i (operationEnded cfg outcome)
  | .sleepEnded i => s.resumeExecution cfg i sleepEnded
  | .recoveryEnded i recovered => s.resumeExecution cfg i (recoveryEnded recovered)
  | .cancelCall i => s.cancelCall cfg i
  | .worker now => s.throttleStep cfg (.worker now)
  | .cancelWorker => s.throttleStep cfg .cancelWorker
  | .stopThrottle => s.throttleStep cfg .stop
  | .cancelRetries deviceAddress =>
    if s.throttle.worker.running then none
    else some { s with retryHandler := s.retryHandler.cancelRetriesForDevice deviceAddress }
  | .stop =>
    if s.throttle.worker.running then none
    else some { s with retryHandler := s.retryHandler.cancelRetriesForInterface }

def init (cfg : Config) : InterfaceClient V := { throttle := .init cfg.throttle }

def system (cfg : Config) : StepSystem (InterfaceClient V) (Action V) where
  init := init cfg
  step := step cfg

end InterfaceClient

end AioHomematic.Client
