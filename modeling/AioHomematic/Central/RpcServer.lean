import AioHomematic.Central.Events.Bus
import AioHomematic.Const
import AioHomematic.Lib.StepSystem

/-!
# The callback server

`AsyncXmlRpcDispatcher` and `AsyncRPCFunctions` of `central/rpc_server.py`, with
`EventCoordinator.data_point_event`, on an event loop that runs what is ready in
FIFO order. An event call makes a background task, whose first step is put last
in `ready`; the set of tasks is bounded and shrinks when the done callback of a
task runs. `register_instance` registers every public method, so a request can
call `cancel_background_tasks` too.
-/

namespace AioHomematic.Central

open Lib StepSystem

variable {V H : Type*}

def maxRpcBackgroundTasks : Nat := 10000

/-! ## Requests -/

/-- A call of a registered method; the arguments matter for `event` only. -/
inductive RpcCall (V : Type*) where
  | event (interfaceId channelAddress parameter : String) (value : V)
  /-- Another function that leaves its work to a background task. -/
  | background
  /-- A function that answers without a task. -/
  | immediate
  /-- There is no such method, or it raises. -/
  | fault
  | cancelBackgroundTasks

def RpcCall.cancels : RpcCall V → Bool
  | .event .. => false
  | .background => false
  | .immediate => false
  | .fault => false
  | .cancelBackgroundTasks => true

inductive RpcRequest (V : Type*) where
  | single (call : RpcCall V)
  | multicall (requests : List (RpcRequest V))

mutual

/-- The calls of a request, in the order in which they are made. -/
def RpcRequest.calls : RpcRequest V → List (RpcCall V)
  | .single call => [call]
  | .multicall requests => RpcRequest.allCalls requests

def RpcRequest.allCalls : List (RpcRequest V) → List (RpcCall V)
  | [] => []
  | request :: requests => request.calls ++ RpcRequest.allCalls requests

end

/-! ## Events -/

/-- An event call; the calls are numbered. -/
structure EventCall (V : Type*) where
  number : Nat
  interfaceId : String
  channelAddress : String
  parameter : String
  value : V

namespace EventCall

variable (call : EventCall V)

/-- `parameter.endswith("_STATUS")`. -/
def isStatus (parameter : String) : Bool := "_STATUS".toList.isSuffixOf parameter.toList

def dpk : DataPointKey where
  interfaceId := call.interfaceId
  channelAddress := call.channelAddress
  paramsetKey := .values
  parameter := call.parameter

/-- The key of `parameter[:-7]`. -/
def mainDpk : DataPointKey :=
  { call.dpk with
    parameter := String.ofList (call.parameter.toList.take (call.parameter.toList.length - 7)) }

end EventCall

inductive ReceivedEventType where
  | dataPointStatusReceived
  | dataPointValueReceived
deriving DecidableEq

abbrev ReceivedEvent (V : Type*) := Event ReceivedEventType DataPointKey (EventCall V)

abbrev ReceivedEventBus (H : Type*) := EventBus ReceivedEventType DataPointKey H

abbrev ReceivedEventCall (V H : Type*) := HandlerCall ReceivedEventType DataPointKey (EventCall V) H

def EventCall.statusEvent (call : EventCall V) : ReceivedEvent V where
  type := .dataPointStatusReceived
  key := some call.mainDpk
  value := call

def EventCall.valueEvent (call : EventCall V) : ReceivedEvent V where
  type := .dataPointValueReceived
  key := some call.dpk
  value := call

/-! ## The server on its loop -/

/-- What a background task has still to do after an await. -/
inductive Rest (V : Type*) where
  | publishValue (call : EventCall V)
  | return
  | other

/-- A callback that is ready to run. -/
inductive Handle (V H : Type*) where
  /-- The first step of a background task; without a call it is that of another function. -/
  | start (task : Nat) (call : Option (EventCall V))
  | resume (task : Nat) (rest : Rest V)
  /-- `_on_background_task_done`. -/
  | done (task : Nat)
  /-- The first step of a task of `asyncio.gather`, for which the background task waits. -/
  | handler (task : Nat) (call : ReceivedEventCall V H)
  /-- Anything else that runs on the loop. -/
  | other

/-- An event call that was answered without a fault, and how many tasks were tracked then. -/
structure Answered (V : Type*) where
  call : EventCall V
  tracked : Nat

structure RpcServer (V H : Type*) where
  bus : ReceivedEventBus H
  ready : List (Handle V H) := []
  /-- The background tasks that wait for something. -/
  suspended : List (Nat × Rest V) := []
  backgroundTasks : List Nat := []
  /-- The tasks with a request to cancel. -/
  cancelled : List Nat := []
  /-- What is left of the requests that wait in `cancel_background_tasks`. -/
  requests : List (List (RpcCall V)) := []
  nextTask : Nat := 0
  answered : List (Answered V) := []
  /-- The calls of `data_point_event` that have started. -/
  entered : List (EventCall V) := []
  published : List (ReceivedEvent V) := []
  /-- The calls of handlers that have started. -/
  handled : List (ReceivedEventCall V H) := []

namespace RpcServer

section Operations

-- `has_client`, of the server's centrals and of the central that handles the event
variable (hasClient : String → Bool) (s : RpcServer V H)

/-- `_create_background_task`. -/
def createBackgroundTask (call : Option (EventCall V)) : RpcServer V H :=
  if s.backgroundTasks.length ≥ maxRpcBackgroundTasks then s
  else
    { s with
      backgroundTasks := s.backgroundTasks ++ [s.nextTask]
      ready := s.ready ++ [.start s.nextTask call]
      nextTask := s.nextTask + 1 }

def event (interfaceId channelAddress parameter : String) (value : V) : RpcServer V H :=
  let call : EventCall V :=
    { number := s.answered.length, interfaceId, channelAddress, parameter, value }
  let answering := { s with
    answered := s.answered ++ [{ call, tracked := s.backgroundTasks.length }] }
  if hasClient interfaceId then answering.createBackgroundTask (some call) else answering

/-- The calls of a request, up to an await. -/
def dispatch (s : RpcServer V H) : List (RpcCall V) → RpcServer V H
  | [] => s
  | .event interfaceId channelAddress parameter value :: calls =>
    (s.event hasClient interfaceId channelAddress parameter value).dispatch calls
  | .background :: calls => (s.createBackgroundTask none).dispatch calls
  | .immediate :: calls => s.dispatch calls
  | .fault :: calls => s.dispatch calls
  | .cancelBackgroundTasks :: calls =>
    if s.backgroundTasks = [] then s.dispatch calls
    else
      { s with
        cancelled := s.cancelled ++ s.backgroundTasks
        requests := s.requests ++ [calls] }

/-- `EventBus.publish`, and whether it waits. -/
def publish (task : Nat) (event : ReceivedEvent V) : RpcServer V H × Bool :=
  let handlers := s.bus.prioritizedHandlers event.type event.key
  let publishing := { s with published := s.published ++ [event] }
  if handlers = [] then (publishing, false)
  else
    ({ publishing with
      bus := s.bus.countEvents event.type 1
      ready := s.ready ++ handlers.map fun ph => .handler task (ph, event) }, true)

def finish (task : Nat) : RpcServer V H := { s with ready := s.ready ++ [.done task] }

def suspend (task : Nat) (rest : Rest V) : RpcServer V H :=
  { s with suspended := s.suspended ++ [(task, rest)] }

/-- The end of `data_point_event`. -/
def publishValue (task : Nat) (call : EventCall V) : RpcServer V H :=
  let publishing := s.publish task call.valueEvent
  if publishing.2 then publishing.1.suspend task .return else publishing.1.finish task

/-- The body of `data_point_event`. -/
def route (task : Nat) (call : EventCall V) : RpcServer V H :=
  if !hasClient call.interfaceId then s.finish task
  else if call.parameter = "PONG" then s.finish task
  else if EventCall.isStatus call.parameter then
    let publishing := s.publish task call.statusEvent
    if publishing.2 then publishing.1.suspend task (.publishValue call)
    else publishing.1.publishValue task call
  else s.publishValue task call

def dataPointEvent (task : Nat) (call : EventCall V) : RpcServer V H :=
  { s with entered := s.entered ++ [call] }.route hasClient task call

/-- A step of a task of another function. -/
def runOther (task : Nat) (suspends : Bool) : RpcServer V H :=
  if suspends then s.suspend task .other else s.finish task

def runHandle (suspends : Bool) : Handle V H → RpcServer V H
  | .start task call =>
    if task ∈ s.cancelled then s.finish task
    else
      match call with
      | none => s.runOther task suspends
      | some call => s.dataPointEvent hasClient task call
  | .resume task rest =>
    if task ∈ s.cancelled then s.finish task
    else
      match rest with
      | .publishValue call => s.publishValue task call
      | .return => s.finish task
      | .other => s.runOther task suspends
  | .done task => { s with backgroundTasks := s.backgroundTasks.erase task }
  | .handler task call =>
    if task ∈ s.cancelled then s else { s with handled := s.handled ++ [call] }
  | .other => s

end Operations

end RpcServer

inductive RpcAction (V H : Type*) where
  | request (request : RpcRequest V)
  /-- A request that waits in `cancel_background_tasks` goes on. -/
  | goOn (i : Nat)
  /-- The loop runs the first callback; a task of another function may suspend. -/
  | runReady (suspends : Bool)
  /-- What a task waits for is done. -/
  | wake (i : Nat)
  | callSoon
  /-- Anyone else uses the bus. -/
  | setBus (bus : ReceivedEventBus H)

/-! ## What is promised -/

section Promises

variable (hasClient : String → Bool)

/-- For a registered interface, and made while fewer tasks than the limit were tracked. -/
def Answered.accepted (a : Answered V) : Bool :=
  hasClient a.call.interfaceId && decide (a.tracked < maxRpcBackgroundTasks)

/-- The calls that are to be handed on. -/
def accepted (answered : List (Answered V)) : List (EventCall V) :=
  (answered.filter (·.accepted hasClient)).map Answered.call

/-- `data_point_event` publishes the call. -/
def EventCall.publishes (call : EventCall V) : Bool :=
  hasClient call.interfaceId && decide (call.parameter ≠ "PONG")

/-- The calls of which an event of this type was published under the key. -/
def publishedUnder (published : List (ReceivedEvent V)) (type : ReceivedEventType)
    (key : DataPointKey) : List (EventCall V) :=
  (published.filter fun event => event.type = type ∧ event.key = some key).map Event.value

/-- Two calls of handlers with events of one type and key, the earlier event first; the value that
follows a status is in no order. -/
def InOrder (a b : ReceivedEventCall V H) : Prop :=
  a.2.type = b.2.type → a.2.key = b.2.key →
    (a.2.type = .dataPointValueReceived → EventCall.isStatus a.2.value.parameter = false) →
      a.2.value.number ≤ b.2.value.number

end Promises

namespace RpcServer

section Step

variable (hasClient : String → Bool) (s : RpcServer V H)

/-- No handler for which a task waits is still to start. -/
def gathered (task : Nat) : Bool :=
  s.ready.all fun handle =>
    match handle with
    | .start .. => true
    | .resume .. => true
    | .done _ => true
    | .handler waiting _ => waiting ≠ task
    | .other => true

def step : RpcAction V H → Option (RpcServer V H)
  | .request request => some (s.dispatch hasClient request.calls)
  | .goOn i =>
    s.requests[i]?.map fun calls =>
      { s with requests := s.requests.eraseIdx i }.dispatch hasClient calls
  | .runReady suspends =>
    match s.ready with
    | [] => none
    | handle :: ready => some ({ s with ready }.runHandle hasClient suspends handle)
  | .wake i =>
    s.suspended[i]?.bind fun (task, rest) =>
      if s.gathered task then
        some { s with
          suspended := s.suspended.eraseIdx i, ready := s.ready ++ [.resume task rest] }
      else none
  | .callSoon => some { s with ready := s.ready ++ [.other] }
  | .setBus bus => some { s with bus }

def system (bus : ReceivedEventBus H) : StepSystem (RpcServer V H) (RpcAction V H) where
  init := { bus }
  step := step hasClient

def startCall : Handle V H → Option (EventCall V)
  | .start _ call => call
  | .resume .. => none
  | .done _ => none
  | .handler .. => none
  | .other => none

/-- The calls whose task is still to start. -/
def waiting : List (EventCall V) := s.ready.filterMap startCall

def heldCall : Rest V → Option (EventCall V)
  | .publishValue call => some call
  | .return => none
  | .other => none

def resumeCall : Handle V H → Option (EventCall V)
  | .start .. => none
  | .resume _ rest => heldCall rest
  | .done _ => none
  | .handler .. => none
  | .other => none

/-- The calls whose value is published after the status. -/
def held : List (EventCall V) :=
  s.suspended.filterMap (fun entry => heldCall entry.2) ++ s.ready.filterMap resumeCall

/-- What the server promises of the calls of events. -/
structure Delivers : Prop where
  /-- Every accepted call is handed on once, in the order of the calls. -/
  handed : s.entered ++ s.waiting = accepted hasClient s.answered
  numbers : (s.answered.map fun a => a.call.number) = List.range s.answered.length
  /-- The values of a data point are published in the order of the calls. -/
  values : ∀ key, EventCall.isStatus key.parameter = false →
    publishedUnder s.published .dataPointValueReceived key =
      s.entered.filter fun call => call.publishes hasClient ∧ call.dpk = key
  statuses : ∀ key, publishedUnder s.published .dataPointStatusReceived key =
    s.entered.filter fun call =>
      call.publishes hasClient ∧ EventCall.isStatus call.parameter ∧ call.mainDpk = key
  /-- The value that follows a status is published once. -/
  statusValues : ∀ key, (publishedUnder s.published .dataPointValueReceived key ++
    s.held.filter (·.dpk = key)).Perm
      (s.entered.filter fun call => call.publishes hasClient ∧ call.dpk = key)
  /-- The handlers are called in the order of the calls. -/
  handlers : s.handled.Pairwise InOrder

/-- No request cancels the tasks. -/
def Ok (_ : RpcServer V H) : RpcAction V H → Prop
  | .request request => ∀ call ∈ request.calls, call.cancels = false
  | .goOn _ => True
  | .runReady _ => True
  | .wake _ => True
  | .callSoon => True
  | .setBus _ => True

def isRun : RpcAction V H → Bool
  | .request _ => false
  | .goOn _ => false
  | .runReady _ => true
  | .wake _ => false
  | .callSoon => false
  | .setBus _ => false

end Step

end RpcServer

end AioHomematic.Central
