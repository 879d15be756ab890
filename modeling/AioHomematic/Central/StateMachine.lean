import Mathlib.Logic.Basic

/-!
# The central state machine

`CentralStateMachine` with the table `VALID_CENTRAL_TRANSITIONS`. Nothing calls
`transition_to` with `force`, and every caller checks with `can_transition_to`
first, so `InvalidCentralStateTransitionError` (`none` here) does not come up.
The history and the published event are left out.
-/

namespace AioHomematic.Central

inductive CentralState where
  | starting
  | initializing
  | running
  | degraded
  | recovering
  | failed
  | stopped
deriving DecidableEq

inductive FailureReason where
  | none
  | auth
  | network
  | internal
  | timeout
  | circuitBreaker
  | unknown
deriving DecidableEq

namespace CentralState

/-- `VALID_CENTRAL_TRANSITIONS`. -/
def validTransitions : CentralState → List CentralState
  | starting => [initializing, stopped]
  | initializing => [running, degraded, failed, stopped]
  | running => [degraded, recovering, stopped]
  | degraded => [running, recovering, failed, stopped]
  | recovering => [running, degraded, failed, stopped]
  | failed => [recovering, stopped]
  | stopped => []

def canTransitionTo (current target : CentralState) : Bool := target ∈ current.validTransitions

end CentralState

/-- The arguments of `transition_to`. -/
structure CentralTransition where
  target : CentralState
  reason : String := ""
  failureReason : FailureReason := .none
  failureInterfaceId : Option String := none
  degradedInterfaces : List (String × FailureReason) := []

structure CentralStateMachine where
  state : CentralState := .starting
  failureReason : FailureReason := .none
  failureMessage : String := ""
  failureInterfaceId : Option String := none
  degradedInterfaces : List (String × FailureReason) := []

namespace CentralStateMachine

def canTransitionTo (target : CentralState) (m : CentralStateMachine) : Bool :=
  m.state.canTransitionTo target

/-- `transition_to` after its check. -/
def enter (transition : CentralTransition) (m : CentralStateMachine) : CentralStateMachine :=
  match transition.target with
  | .failed =>
    { state := .failed
      failureReason := transition.failureReason
      failureMessage := transition.reason
      failureInterfaceId := transition.failureInterfaceId
      degradedInterfaces := [] }
  | .degraded =>
    { m with state := .degraded, degradedInterfaces := transition.degradedInterfaces }
  | .running => { state := .running }
  | target => { m with state := target }

def transitionTo (transition : CentralTransition) (m : CentralStateMachine) :
    Option CentralStateMachine :=
  if m.canTransitionTo transition.target then some (m.enter transition) else none

@[simp] theorem state_enter (transition : CentralTransition) (m : CentralStateMachine) :
    (m.enter transition).state = transition.target := by
  unfold enter
  split <;> simp [*]

end CentralStateMachine

end AioHomematic.Central
