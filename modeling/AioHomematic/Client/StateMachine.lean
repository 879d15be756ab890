import Mathlib.Logic.Basic

/-!
# The client state machine

`ClientState` with the table `_VALID_TRANSITIONS`, and `transition_to`, which
raises `InvalidStateTransitionError` (`none` here) where the table does not
allow the transition. Nothing calls it with `force`, and the failure reason is
only reported.
-/

namespace AioHomematic.Client

inductive ClientState where
  | created
  | initializing
  | initialized
  | connecting
  | connected
  | disconnected
  | reconnecting
  | stopping
  | stopped
  | failed
deriving DecidableEq

namespace ClientState

/-- `_VALID_TRANSITIONS`. -/
def validTransitions : ClientState → List ClientState
  | created => [initializing]
  | initializing => [initialized, failed]
  | initialized => [connecting, disconnected]
  | connecting => [connected, failed]
  | connected => [disconnected, reconnecting, stopping]
  | disconnected => [connecting, disconnected, reconnecting, stopping]
  | reconnecting => [connected, disconnected, failed, connecting]
  | stopping => [stopped]
  | stopped => []
  | failed => [initializing, connecting, reconnecting, disconnected]

def canTransitionTo (current target : ClientState) : Bool := target ∈ current.validTransitions

def canReconnect (current : ClientState) : Bool := current.canTransitionTo reconnecting

def transitionTo (current target : ClientState) : Option ClientState :=
  if current.canTransitionTo target then some target else none

/-- The states that `deinit_proxy` can leave for `DISCONNECTED`. -/
theorem canTransitionTo_disconnected {current : ClientState} :
    current.canTransitionTo disconnected = true ↔
      current ∈ [initialized, connected, disconnected, reconnecting, failed] := by
  cases current <;> decide

/-- The states that come before `CONNECTED`. -/
theorem canTransitionTo_connected {current : ClientState} :
    current.canTransitionTo connected = true ↔ current ∈ [connecting, reconnecting] := by
  cases current <;> decide

/-- The states that `stop` can leave. -/
theorem canTransitionTo_stopping {current : ClientState} :
    current.canTransitionTo stopping = true ↔ current ∈ [connected, disconnected] := by
  cases current <;> decide

end ClientState

end AioHomematic.Client
