import AioHomematic.Central.CentralUnit.State
import AioHomematic.Client.CircuitBreaker
import AioHomematic.Const
import Mathlib.Data.Rat.Defs

/-!
# Connection health

`ConnectionHealth`, `CentralHealth` and `HealthTracker`, and what the central
unit makes of them: `HealthRun` is a `CentralRun` with its tracker. The tracker
hears of a client state when the central handles the event, so it is behind the
client as long as events are pending.

A client is registered with the tracker when it is created, as in `CentralRun`.
It is removed from the central without the tracker where `_init_clients` drops
it, and `stop_clients` takes it off the tracker: `removeClient` and `unregister`
are two actions. Wall clock times and scores are left out.
-/

namespace AioHomematic.Central

open AioHomematic.Client Lib

structure ConnectionHealth where
  interfaceId : String
  interface : Interface
  clientState : ClientState := .created
  xmlRpcCircuit : CircuitState := .closed
  jsonRpcCircuit : Option CircuitState := none
  lastSuccessfulRequestMonotonic : ℚ := 0
  lastFailedRequestMonotonic : ℚ := 0
  lastEventReceivedMonotonic : ℚ := 0
  consecutiveFailures : Nat := 0
  reconnectAttempts : Nat := 0
deriving DecidableEq

def eventStalenessThreshold : ℚ := 300

namespace ConnectionHealth

def isConnected (h : ConnectionHealth) : Bool := h.clientState = .connected

def isAvailable (h : ConnectionHealth) : Bool :=
  h.clientState = .connected ∧ h.xmlRpcCircuit = .closed ∧
    (h.jsonRpcCircuit = none ∨ h.jsonRpcCircuit = some .closed)

def isDegraded (h : ConnectionHealth) : Bool :=
  if h.clientState ∉ [.connected, .reconnecting] then false
  else h.xmlRpcCircuit ≠ .closed ∨ (h.jsonRpcCircuit ≠ none ∧ h.jsonRpcCircuit ≠ some .closed)

def isFailed (h : ConnectionHealth) : Bool := h.clientState ∈ [.failed, .disconnected]

def canReceiveEvents (now : ℚ) (h : ConnectionHealth) : Bool :=
  if ¬h.isConnected then false
  else if h.lastEventReceivedMonotonic = 0 then false
  else now - h.lastEventReceivedMonotonic < eventStalenessThreshold

def recordEventReceived (now : ℚ) (h : ConnectionHealth) : ConnectionHealth :=
  { h with lastEventReceivedMonotonic := now }

def recordFailedRequest (now : ℚ) (h : ConnectionHealth) : ConnectionHealth :=
  { h with
    lastFailedRequestMonotonic := now
    consecutiveFailures := h.consecutiveFailures + 1 }

def recordReconnectAttempt (h : ConnectionHealth) : ConnectionHealth :=
  { h with reconnectAttempts := h.reconnectAttempts + 1 }

def recordSuccessfulRequest (now : ℚ) (h : ConnectionHealth) : ConnectionHealth :=
  { h with
    lastSuccessfulRequestMonotonic := now
    consecutiveFailures := 0 }

def resetReconnectCounter (h : ConnectionHealth) : ConnectionHealth :=
  { h with reconnectAttempts := 0 }

/-- What `update_client_health` makes of the health of the client. -/
def updateState (oldState newState : ClientState) (h : ConnectionHealth) : ConnectionHealth :=
  let h := { h with clientState := newState }
  let h :=
    if newState = .reconnecting ∧ oldState ≠ .reconnecting then h.recordReconnectAttempt else h
  if newState = .connected then h.resetReconnectCounter else h

end ConnectionHealth

structure CentralHealth where
  centralState : CentralState := .starting
  clientHealth : Dict String ConnectionHealth := .empty
  primaryInterface : Option Interface := none

namespace CentralHealth

def allClientsHealthy (health : CentralHealth) : Bool :=
  if health.clientHealth.entries = [] then false
  else health.clientHealth.values.all ConnectionHealth.isAvailable

def anyClientHealthy (health : CentralHealth) : Bool :=
  health.clientHealth.values.any ConnectionHealth.isAvailable

/-- The interfaces whose clients pass a test. -/
def clientsWith (test : ConnectionHealth → Bool) (health : CentralHealth) : List String :=
  (health.clientHealth.entries.filter fun e => test e.2).map Prod.fst

def degradedClients (health : CentralHealth) : List String :=
  health.clientsWith ConnectionHealth.isDegraded

def failedClients (health : CentralHealth) : List String :=
  health.clientsWith ConnectionHealth.isFailed

def healthyClients (health : CentralHealth) : List String :=
  health.clientsWith ConnectionHealth.isAvailable

/-- The first client of the interface. -/
def findInterface (interface : Interface) (health : CentralHealth) : Option ConnectionHealth :=
  health.clientHealth.values.find? fun h => h.interface = interface

def primaryHealth (health : CentralHealth) : Option ConnectionHealth :=
  ((health.primaryInterface.bind health.findInterface).or (health.findInterface .hmipRf)).or
    health.clientHealth.values.head?

def primaryClientHealthy (health : CentralHealth) : Bool :=
  health.primaryHealth.any ConnectionHealth.isAvailable

def getClientHealth (interfaceId : String) (health : CentralHealth) : Option ConnectionHealth :=
  health.clientHealth.get? interfaceId

def registerClient (interfaceId : String) (interface : Interface) (health : CentralHealth) :
    CentralHealth :=
  { health with
    clientHealth := health.clientHealth.set interfaceId { interfaceId, interface } }

def unregisterClient (interfaceId : String) (health : CentralHealth) : CentralHealth :=
  { health with clientHealth := health.clientHealth.erase interfaceId }

def shouldBeDegraded (health : CentralHealth) : Bool :=
  health.anyClientHealthy && !health.allClientsHealthy

def shouldBeRunning (health : CentralHealth) : Bool := health.allClientsHealthy

def updateCentralState (state : CentralState) (health : CentralHealth) : CentralHealth :=
  { health with centralState := state }

/-- An update of the health of a client, if it is registered. -/
def updateClient (interfaceId : String) (f : ConnectionHealth → ConnectionHealth)
    (health : CentralHealth) : CentralHealth :=
  { health with clientHealth := health.clientHealth.modify interfaceId f }

end CentralHealth

/-- The event of `emit_health`. -/
structure HealthEmitted where
  interfaceId : String
  healthy : Bool
  reason : Option String
deriving DecidableEq

/-- The names of the client states, as `Enum.name` gives them. -/
def clientStateName : ClientState → String
  | .created => "CREATED"
  | .initializing => "INITIALIZING"
  | .initialized => "INITIALIZED"
  | .connecting => "CONNECTING"
  | .connected => "CONNECTED"
  | .disconnected => "DISCONNECTED"
  | .reconnecting => "RECONNECTING"
  | .stopping => "STOPPING"
  | .stopped => "STOPPED"
  | .failed => "FAILED"

/-- `_emit_health_event`. -/
def ConnectionHealth.emitted (interfaceId : String) (h : ConnectionHealth) : HealthEmitted where
  interfaceId
  healthy := h.isAvailable
  reason :=
    if h.isAvailable then none
    else if h.isFailed then some ("Client state: " ++ clientStateName h.clientState)
    else if h.isDegraded then some "Degraded"
    else none

structure HealthTracker where
  centralHealth : CentralHealth := {}
  /-- What has been published on the event bus. -/
  emitted : List HealthEmitted := []

namespace HealthTracker

def onHealth (f : CentralHealth → CentralHealth) (tracker : HealthTracker) : HealthTracker :=
  { tracker with centralHealth := f tracker.centralHealth }

def recordEventReceived (interfaceId : String) (now : ℚ) : HealthTracker → HealthTracker :=
  onHealth (·.updateClient interfaceId (·.recordEventReceived now))

def recordFailedRequest (interfaceId : String) (now : ℚ) : HealthTracker → HealthTracker :=
  onHealth (·.updateClient interfaceId (·.recordFailedRequest now))

def recordSuccessfulRequest (interfaceId : String) (now : ℚ) : HealthTracker → HealthTracker :=
  onHealth (·.updateClient interfaceId (·.recordSuccessfulRequest now))

def registerClient (interfaceId : String) (interface : Interface) : HealthTracker → HealthTracker :=
  onHealth (·.registerClient interfaceId interface)

def unregisterClient (interfaceId : String) : HealthTracker → HealthTracker :=
  onHealth (·.unregisterClient interfaceId)

def setPrimaryInterface (interface : Interface) (tracker : HealthTracker) : HealthTracker :=
  tracker.onHealth fun health => { health with primaryInterface := some interface }

def syncCentralState (state : CentralState) : HealthTracker → HealthTracker :=
  onHealth (·.updateCentralState state)

/-- `update_client_health`; `state` is that of the central state machine. -/
def updateClientHealth (interfaceId : String) (oldState newState : ClientState)
    (state : CentralState) (tracker : HealthTracker) : HealthTracker :=
  let tracker : HealthTracker :=
    match tracker.centralHealth.getClientHealth interfaceId with
    | some h =>
      { centralHealth :=
          tracker.centralHealth.updateClient interfaceId (·.updateState oldState newState)
        emitted := tracker.emitted ++ [(h.updateState oldState newState).emitted interfaceId] }
    | none => tracker
  tracker.syncCentralState state

end HealthTracker

structure HealthRun where
  run : CentralRun := {}
  tracker : HealthTracker := {}

namespace HealthRun

inductive Action where
  | createClient (interfaceId : String) (interface : Interface)
  | removeClient (interfaceId : String)
  | unregister (interfaceId : String)
  | transition (interfaceId : String) (target : ClientState) (failureReason : FailureReason)
  | proxyInitialized (interfaceId : String)
  | proxyInitFailed (interfaceId : String) (failureReason : FailureReason)
  | connectionCheckFailed (interfaceId : String)
  | handle (i : Nat)
  | startCompleted (failureReason : FailureReason) (failureInterfaceId : Option String)
  | centralTransition (transition : CentralTransition)
  | recovery (inRecovery : Bool)
  | eventReceived (interfaceId : String) (now : ℚ)
  /-- A `HealthRecordedEvent` of a circuit breaker. -/
  | healthRecorded (interfaceId : String) (success : Bool) (now : ℚ)
  | setPrimaryInterface (interface : Interface)

/-- The action of the central unit. -/
def Action.central : Action → Option CentralRun.Action
  | createClient interfaceId _ => some (.createClient interfaceId)
  | removeClient interfaceId => some (.removeClient interfaceId)
  | transition interfaceId target failureReason =>
    some (.transition interfaceId target failureReason)
  | proxyInitialized interfaceId => some (.proxyInitialized interfaceId)
  | proxyInitFailed interfaceId failureReason => some (.proxyInitFailed interfaceId failureReason)
  | connectionCheckFailed interfaceId => some (.connectionCheckFailed interfaceId)
  | handle i => some (.handle i)
  | startCompleted failureReason failureInterfaceId =>
    some (.startCompleted failureReason failureInterfaceId)
  | centralTransition t => some (.centralTransition t)
  | recovery inRecovery => some (.recovery inRecovery)
  | unregister _ | eventReceived _ _ | healthRecorded _ _ _ | setPrimaryInterface _ => none

/-- What `_on_system_status_event` does to the tracker. -/
def trackEvent (event : ClientStateEvent) (central : CentralUnit) (tracker : HealthTracker) :
    HealthTracker :=
  let state := central.stateMachine.state
  let tracker :=
    tracker.updateClientHealth event.interfaceId event.oldState event.newState state
  if state ∈ [.starting, .stopped] then tracker
  else tracker.syncCentralState (central.onSystemStatusEvent event).stateMachine.state

/-- What becomes of the tracker when the central goes on from `run` to `run'`. -/
def track (run run' : CentralRun) (tracker : HealthTracker) : Action → HealthTracker
  | .createClient interfaceId interface => tracker.registerClient interfaceId interface
  | .unregister interfaceId => tracker.unregisterClient interfaceId
  | .handle i =>
    match run.pending[i]? with
    | some event => trackEvent event run.central tracker
    | none => tracker
  | .startCompleted _ _ => tracker.syncCentralState run'.central.stateMachine.state
  | .eventReceived interfaceId now => tracker.recordEventReceived interfaceId now
  | .healthRecorded interfaceId success now =>
    if success then tracker.recordSuccessfulRequest interfaceId now
    else tracker.recordFailedRequest interfaceId now
  | .setPrimaryInterface interface => tracker.setPrimaryInterface interface
  | _ => tracker

def step (s : HealthRun) (a : Action) : Option HealthRun :=
  match a.central with
  | some b => (s.run.step b).map fun run => { run, tracker := track s.run run s.tracker a }
  | none => some { s with tracker := track s.run s.run s.tracker a }

def system (devices : List DeviceStatus) : StepSystem HealthRun Action where
  init := { run := { central := { devices := devices } } }
  step := step

end HealthRun

end AioHomematic.Central
