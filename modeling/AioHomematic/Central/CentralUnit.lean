import AioHomematic.Central.StateMachine
import AioHomematic.Client.StateMachine
import AioHomematic.Lib.Dict
import AioHomematic.Lib.StepSystem
import Mathlib.Data.List.Basic

/-!
# Client states and the central unit

`_evaluate_central_state` and `_on_system_status_event` of `CentralUnit`, and
what an `InterfaceClient` does to the availability of its devices.

A client transition publishes an event with the old and the new state. The two
hops over the event bus (client state machine to client, client to central) are
one here: `pending` holds the events that are not handled yet, and any of them
may be handled next. Each action of a client is a stretch of it without a
suspension: a transition, with what `init_proxy` and `is_connected` do to the
devices along with it.

A client is registered when it is created. The other users of the central state
machine (`start`, `stop`, the connection recovery) make transitions at any time,
and a recovery is in progress at any time. Health tracking is left out, and no
device is created or removed.
-/

namespace AioHomematic.Central

open Client Lib

inductive ForcedDeviceAvailability where
  | forceFalse
  | forceTrue
  | notSet
deriving DecidableEq

/-- A client as its state machine shows it. -/
structure ClientStatus where
  state : ClientState := .created
  failureReason : FailureReason := .none
deriving DecidableEq

/-- A device in the registry. -/
structure DeviceStatus where
  interfaceId : String
  forcedAvailability : ForcedDeviceAvailability := .notSet
deriving DecidableEq

/-- `client_state` of a `SystemStatusChangedEvent`. -/
structure ClientStateEvent where
  interfaceId : String
  oldState : ClientState
  newState : ClientState
deriving DecidableEq

namespace ClientStateEvent

/-- The event tells of a lost client. -/
def isLoss (event : ClientStateEvent) : Bool :=
  event.newState ∈ [.disconnected, .failed]

/-- The event tells of a client that has reconnected. -/
def isReconnect (event : ClientStateEvent) : Bool :=
  event.newState = .connected ∧
    event.oldState ∈ [.connecting, .disconnected, .failed, .reconnecting]

end ClientStateEvent

structure CentralUnit where
  stateMachine : CentralStateMachine := {}
  clients : Dict String ClientStatus := .empty
  devices : List DeviceStatus := []
  /-- Of the connection recovery coordinator. -/
  inRecovery : Bool := false
  /-- Of the client coordinator. -/
  lastFailureReason : FailureReason := .none
  lastFailureInterfaceId : Option String := none

namespace CentralUnit

/-! ## The central state -/

def allConnected (u : CentralUnit) : Bool :=
  !u.clients.values.isEmpty && u.clients.values.all (·.state = .connected)

def anyConnected (u : CentralUnit) : Bool := u.clients.values.any (·.state = .connected)

def buildDegradedInterfacesMap (u : CentralUnit) : List (String × FailureReason) :=
  (u.clients.entries.filter (·.2.state ≠ .connected)).map fun (interfaceId, client) =>
    (interfaceId, if client.failureReason = .none then .unknown else client.failureReason)

def determineFailureInfo (u : CentralUnit) : FailureReason × Option String :=
  match u.clients.entries.find? fun (_, client) =>
      client.state = .failed && client.failureReason ≠ .none with
  | some (interfaceId, client) => (client.failureReason, some interfaceId)
  | none => (.network, none)

def enter (transition : CentralTransition) (u : CentralUnit) : CentralUnit :=
  { u with stateMachine := u.stateMachine.enter transition }

def evaluateCentralState (trigger : String) (fromStart : Bool) (u : CentralUnit) : CentralUnit :=
  let currentState := u.stateMachine.state
  if u.allConnected ∧ (fromStart ∨ ¬u.inRecovery) ∧ u.stateMachine.canTransitionTo .running then
    u.enter { target := .running, reason := "all clients connected (" ++ trigger ++ ")" }
  else if u.anyConnected ∧ ¬u.allConnected ∧ (fromStart ∨ currentState = .running) ∧
      u.stateMachine.canTransitionTo .degraded then
    let degradedInterfaces := u.buildDegradedInterfacesMap
    u.enter
      { target := .degraded
        reason :=
          "clients not connected: " ++ ", ".intercalate (degradedInterfaces.map Prod.fst)
        degradedInterfaces := degradedInterfaces }
  else if ¬u.anyConnected ∧ (fromStart ∨ currentState ∈ [.running, .degraded]) ∧
      u.stateMachine.canTransitionTo .failed then
    let (failureReason, failureInterfaceId) :=
      if fromStart then (u.lastFailureReason, u.lastFailureInterfaceId)
      else u.determineFailureInfo
    u.enter
      { target := .failed
        reason := "no clients connected (" ++ trigger ++ ")"
        failureReason := failureReason
        failureInterfaceId := failureInterfaceId }
  else u

/-! ## Forced availability -/

/-- `set_forced_availability` of each device of the interface. -/
def setForcedAvailability (interfaceId : String) (forcedAvailability : ForcedDeviceAvailability)
    (u : CentralUnit) : CentralUnit :=
  { u with
    devices := u.devices.map fun device =>
      if device.interfaceId = interfaceId then
        { device with forcedAvailability := forcedAvailability }
      else device }

/-- The state a handler goes by: the current one, or that of the event for an unknown client. -/
def currentClientState (event : ClientStateEvent) (u : CentralUnit) : ClientState :=
  match u.clients.get? event.interfaceId with
  | some client => client.state
  | none => event.newState

def onSystemStatusEvent (event : ClientStateEvent) (u : CentralUnit) : CentralUnit :=
  let u :=
    if event.isLoss ∧ u.currentClientState event ∈ [.disconnected, .failed] then
      u.setForcedAvailability event.interfaceId .forceFalse
    else u
  let u :=
    if event.isReconnect then u.setForcedAvailability event.interfaceId .notSet
    else u
  if u.stateMachine.state ∈ [.starting, .stopped] then u
  else u.evaluateCentralState ("triggered by " ++ event.interfaceId) false

/-! ## The client -/

/-- `is_available` of the client state machine. -/
def isAvailable (interfaceId : String) (u : CentralUnit) : Bool :=
  (u.clients.get? interfaceId).any (·.state ∈ [.connected, .reconnecting])

def markAllDevicesForcedAvailability (interfaceId : String)
    (forcedAvailability : ForcedDeviceAvailability) (u : CentralUnit) : CentralUnit :=
  let available : Bool := forcedAvailability ≠ .forceFalse
  if ¬available ∨ u.isAvailable interfaceId ≠ available then
    u.setForcedAvailability interfaceId forcedAvailability
  else u

def setClient (interfaceId : String) (client : ClientStatus) (u : CentralUnit) : CentralUnit :=
  { u with clients := u.clients.set interfaceId client }

end CentralUnit

/-- `transition_to` of the client state machine. -/
def ClientStatus.transitionTo (target : ClientState) (failureReason : FailureReason)
    (client : ClientStatus) : Option ClientStatus :=
  (client.state.transitionTo target).map fun state =>
    { state := state
      failureReason :=
        match state with
        | .failed => failureReason
        | .connected => .none
        | .initialized => .none
        | _ => client.failureReason }

structure CentralRun where
  central : CentralUnit := {}
  pending : List ClientStateEvent := []

namespace CentralRun

inductive Action where
  | createClient (interfaceId : String)
  | removeClient (interfaceId : String)
  | transition (interfaceId : String) (target : ClientState) (failureReason : FailureReason)
  /-- The end of `init_proxy`. -/
  | proxyInitialized (interfaceId : String)
  | proxyInitFailed (interfaceId : String) (failureReason : FailureReason)
  /-- `is_connected` above its error threshold. -/
  | connectionCheckFailed (interfaceId : String)
  /-- The pending event number `i` is handled. -/
  | handle (i : Nat)
  /-- The end of `start`, with the last failure of the client coordinator. -/
  | startCompleted (failureReason : FailureReason) (failureInterfaceId : Option String)
  | centralTransition (transition : CentralTransition)
  | recovery (inRecovery : Bool)

def clientTransition (interfaceId : String) (target : ClientState) (failureReason : FailureReason)
    (s : CentralRun) : Option CentralRun :=
  match s.central.clients.get? interfaceId with
  | some client =>
    (client.transitionTo target failureReason).map fun client' =>
      { s with
        central := s.central.setClient interfaceId client'
        pending := s.pending ++ [⟨interfaceId, client.state, target⟩] }
  | none => none

def mark (interfaceId : String) (forcedAvailability : ForcedDeviceAvailability) (s : CentralRun) :
    CentralRun :=
  { s with
    central := s.central.markAllDevicesForcedAvailability interfaceId forcedAvailability }

def step (s : CentralRun) : Action → Option CentralRun
  | .createClient interfaceId =>
    if s.central.clients.contains interfaceId then none
    else some { s with central := s.central.setClient interfaceId {} }
  | .removeClient interfaceId =>
    some { s with
      central := { s.central with clients := s.central.clients.erase interfaceId } }
  | .transition interfaceId target failureReason =>
    s.clientTransition interfaceId target failureReason
  | .proxyInitialized interfaceId =>
    (s.clientTransition interfaceId .connected .none).map (mark interfaceId .notSet)
  | .proxyInitFailed interfaceId failureReason =>
    (s.clientTransition interfaceId .failed failureReason).map (mark interfaceId .forceFalse)
  | .connectionCheckFailed interfaceId =>
    let s := s.mark interfaceId .forceFalse
    if (s.central.clients.get? interfaceId).any (·.state = .connected) then
      s.clientTransition interfaceId .disconnected .none
    else some s
  | .handle i =>
    match s.pending[i]? with
    | some event =>
      some
        { central := s.central.onSystemStatusEvent event
          pending := s.pending.eraseIdx i }
    | none => none
  | .startCompleted failureReason failureInterfaceId =>
    let central :=
      { s.central with
        lastFailureReason := failureReason
        lastFailureInterfaceId := failureInterfaceId }
    some { s with central := central.evaluateCentralState "start() completed" true }
  | .centralTransition transition =>
    (s.central.stateMachine.transitionTo transition).map fun stateMachine =>
      { s with central := { s.central with stateMachine := stateMachine } }
  | .recovery inRecovery => some { s with central := { s.central with inRecovery := inRecovery } }

/-- The devices are there from the beginning. -/
def system (devices : List DeviceStatus) : StepSystem CentralRun Action where
  init := { central := { devices := devices } }
  step := step

end CentralRun

end AioHomematic.Central
