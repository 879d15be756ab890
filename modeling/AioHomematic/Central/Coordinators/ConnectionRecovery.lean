import AioHomematic.Central.StateMachine
import AioHomematic.Lib.Dict
import AioHomematic.Lib.StepSystem
import Mathlib.Data.Finset.SDiff
import Mathlib.Data.Finset.Union

/-!
# The connection recovery coordinator

`ConnectionRecoveryCoordinator` with the tasks it creates: a recovery for each
event of a lost connection, the heartbeat loops, and the recoveries they ask
for. A task runs from one `await` to the next in one step; the steps of
different tasks come in any order, and a task may be cancelled, or left by an
exception, wherever it waits. What the stages of a recovery find out is an
argument of the step.

`create_task` of the scheduler returns `None`, so `_heartbeat_task` is never
set: `_start_heartbeat_timer` starts a loop each time, and `_stop_heartbeat_timer`
and `stop` have none to cancel. The times, the stages and the incidents are left
out.
-/

namespace AioHomematic.Central

open Lib

def MAX_RECOVERY_ATTEMPTS : Nat := 8

def MAX_CONCURRENT_RECOVERIES : Nat := 2

structure InterfaceRecoveryState where
  attemptCount : Nat := 0
deriving DecidableEq

namespace InterfaceRecoveryState

def canRetry (state : InterfaceRecoveryState) : Bool := state.attemptCount < MAX_RECOVERY_ATTEMPTS

def recordFailure (state : InterfaceRecoveryState) : InterfaceRecoveryState :=
  { state with attemptCount := state.attemptCount + 1 }

def recordSuccess (state : InterfaceRecoveryState) : InterfaceRecoveryState :=
  { state with attemptCount := state.attemptCount + 1 }

def reset (state : InterfaceRecoveryState) : InterfaceRecoveryState :=
  { state with attemptCount := 0 }

end InterfaceRecoveryState

/-- `interface_ids` of a `HeartbeatTimerFiredEvent`: keys of a dictionary. -/
@[ext]
structure InterfaceIds where
  ids : List String
  nodup : ids.Nodup

instance : DecidableEq InterfaceIds := fun _ _ => decidable_of_iff _ InterfaceIds.ext_iff.symm

/-! ## The tasks -/

/-- Where a run of `_start_recovery` stands; `guarded` where it runs inside the `try` of the run
that called it. -/
inductive StartPhase where
  | scheduled
  /-- Publishes that the connection is lost. -/
  | notifying (guarded : Bool)
  /-- Waits for the semaphore. -/
  | waiting
  | executing
  /-- Publishes that the recovery is completed. -/
  | completed
  /-- Publishes that the connection is restored. -/
  | restored
  /-- Publishes that the attempt has failed. -/
  | attempted
  | sleeping
  /-- In `_handle_max_retries_reached`. -/
  | exhausted (guarded : Bool)
  | ended
deriving DecidableEq

namespace StartPhase

/-- An exit from this phase passes the `finally` of the run or of one that called it. -/
def guarded : StartPhase → Bool
  | scheduled | ended => false
  | notifying guarded | exhausted guarded => guarded
  | waiting | executing | completed | restored | attempted | sleeping => true

/-- From the registration of the interface to the end of the run. -/
def inProgress : StartPhase → Bool
  | notifying _ => true
  | phase => phase.guarded

end StartPhase

inductive MemberPhase where
  | waiting
  | executing
  | done (success : Bool)
deriving DecidableEq

/-- Where a run of `_recover_all_interfaces` stands. -/
inductive HeartbeatPhase where
  | scheduled (interfaceIds : InterfaceIds)
  | running (members : List (String × MemberPhase))
  | ended

inductive Recovery where
  | start (interfaceId : String) (phase : StartPhase)
  | heartbeat (phase : HeartbeatPhase)

/-- Its stages that hold the semaphore. -/
def Recovery.executing : Recovery → Nat
  | .start _ phase => if phase = .executing then 1 else 0
  | .heartbeat (.running members) => members.countP (·.2 = .executing)
  | .heartbeat _ => 0

/-- Where a run of `_heartbeat_loop` stands. -/
inductive LoopPhase where
  | scheduled
  | sleeping
  /-- Publishes the event; its handlers have not run yet. -/
  | publishing (interfaceIds : InterfaceIds)
  | published
  | ended
deriving DecidableEq

/-! ## The coordinator -/

structure ConnectionRecoveryCoordinator where
  recoveryStates : Dict String InterfaceRecoveryState := .empty
  activeRecoveries : Finset String := ∅
  inFailedState : Bool := false
  shutdown : Bool := false
  stateMachine : CentralStateMachine := {}
  recoveries : List Recovery := []
  loops : List LoopPhase := []

namespace ConnectionRecoveryCoordinator

def setRecovery (n : Nat) (r : Recovery) (c : ConnectionRecoveryCoordinator) :
    ConnectionRecoveryCoordinator :=
  { c with recoveries := c.recoveries.set n r }

def setLoop (k : Nat) (phase : LoopPhase) (c : ConnectionRecoveryCoordinator) :
    ConnectionRecoveryCoordinator :=
  { c with loops := c.loops.set k phase }

/-- The counter of `_recovery_semaphore`, from the other side. -/
def executing (c : ConnectionRecoveryCoordinator) : Nat := (c.recoveries.map Recovery.executing).sum

/-! ### The central state -/

/-- A transition where `can_transition_to` allows it. -/
def transition (transition : CentralTransition) (c : ConnectionRecoveryCoordinator) :
    ConnectionRecoveryCoordinator :=
  { c with
    stateMachine :=
      if c.stateMachine.canTransitionTo transition.target then c.stateMachine.enter transition
      else c.stateMachine }

def transitionToDegraded (failedCount : Nat) (c : ConnectionRecoveryCoordinator) :
    ConnectionRecoveryCoordinator :=
  c.transition
    { target := .degraded
      reason := "Partial recovery: " ++ toString failedCount ++ " interface(s) still failed" }

def transitionToFailed (interfaceId : String) (c : ConnectionRecoveryCoordinator) :
    ConnectionRecoveryCoordinator :=
  c.transition
    { target := .failed
      reason := "Max retries reached for " ++ interfaceId
      failureReason := .unknown
      failureInterfaceId := some interfaceId }

def transitionToRecovering (c : ConnectionRecoveryCoordinator) : ConnectionRecoveryCoordinator :=
  c.transition { target := .recovering, reason := "Connection recovery in progress" }

def transitionToRunning (c : ConnectionRecoveryCoordinator) : ConnectionRecoveryCoordinator :=
  c.transition { target := .running, reason := "All interfaces recovered successfully" }

def transitionAfterRecovery (c : ConnectionRecoveryCoordinator) : ConnectionRecoveryCoordinator :=
  if c.activeRecoveries = ∅ then { c.transitionToRunning with inFailedState := false } else c

/-! ### The recovery of one interface -/

def startHeartbeatTimer (c : ConnectionRecoveryCoordinator) : ConnectionRecoveryCoordinator :=
  { c with loops := c.loops ++ [.scheduled] }

/-- Up to the `await`; the timer is started after it. -/
def handleMaxRetriesReached (interfaceId : String) (c : ConnectionRecoveryCoordinator) :
    ConnectionRecoveryCoordinator :=
  { c with inFailedState := true }.transitionToFailed interfaceId

/-- The run leaves from `phase`. -/
def leave (n : Nat) (interfaceId : String) (phase : StartPhase)
    (c : ConnectionRecoveryCoordinator) : ConnectionRecoveryCoordinator :=
  { c with
    activeRecoveries :=
      if phase.guarded then c.activeRecoveries.erase interfaceId else c.activeRecoveries }
    |>.setRecovery n (.start interfaceId .ended)

/-- `_start_recovery` up to its first `await`, called in `phase`. -/
def startRecovery (n : Nat) (interfaceId : String) (phase : StartPhase)
    (c : ConnectionRecoveryCoordinator) : ConnectionRecoveryCoordinator :=
  if c.shutdown then c.leave n interfaceId phase
  else
    let state := (c.recoveryStates.get? interfaceId).getD {}
    let c := { c with recoveryStates := c.recoveryStates.set interfaceId state }
    if state.canRetry then
      { c with activeRecoveries := insert interfaceId c.activeRecoveries }.transitionToRecovering
        |>.setRecovery n (.start interfaceId (.notifying phase.guarded))
    else
      c.handleMaxRetriesReached interfaceId
        |>.setRecovery n (.start interfaceId (.exhausted phase.guarded))

def updateState (interfaceId : String) (update : InterfaceRecoveryState → InterfaceRecoveryState)
    (c : ConnectionRecoveryCoordinator) : ConnectionRecoveryCoordinator :=
  { c with recoveryStates := c.recoveryStates.modify interfaceId update }

def canRetry (interfaceId : String) (c : ConnectionRecoveryCoordinator) : Bool :=
  (c.recoveryStates.get? interfaceId).all InterfaceRecoveryState.canRetry

/-- `_start_recovery` goes on. `answer` is what it waited for, where there is something: whether
the client is known, and whether the stages succeeded. -/
def resumeStart (n : Nat) (interfaceId : String) (answer : Bool)
    (c : ConnectionRecoveryCoordinator) : StartPhase → Option ConnectionRecoveryCoordinator
  | .scheduled => some (c.startRecovery n interfaceId .scheduled)
  | .notifying guarded =>
    if answer then some (c.setRecovery n (.start interfaceId .waiting))
    else some (c.leave n interfaceId (.notifying guarded))
  | .waiting =>
    if c.executing < MAX_CONCURRENT_RECOVERIES then
      some (c.setRecovery n (.start interfaceId .executing))
    else none
  | .executing =>
    if answer then
      some (c.updateState interfaceId .recordSuccess
        |>.setRecovery n (.start interfaceId .completed))
    else
      some (c.updateState interfaceId .recordFailure
        |>.setRecovery n (.start interfaceId .attempted))
  | .completed =>
    some ((c.updateState interfaceId .reset).setRecovery n (.start interfaceId .restored))
  | .restored => some (c.leave n interfaceId .restored).transitionAfterRecovery
  | .attempted =>
    if c.canRetry interfaceId then some (c.setRecovery n (.start interfaceId .sleeping))
    else
      some ((c.handleMaxRetriesReached interfaceId).setRecovery n
        (.start interfaceId (.exhausted true)))
  | .sleeping => some (c.startRecovery n interfaceId .sleeping)
  | .exhausted guarded => some (c.startHeartbeatTimer.leave n interfaceId (.exhausted guarded))
  | .ended => none

/-! ### The recovery of all failed interfaces -/

/-- `_recover_all_interfaces` up to its `await`. -/
def recoverAllInterfaces (n : Nat) (interfaceIds : InterfaceIds)
    (c : ConnectionRecoveryCoordinator) : ConnectionRecoveryCoordinator :=
  if c.shutdown then c.setRecovery n (.heartbeat .ended)
  else
    { c with activeRecoveries := c.activeRecoveries ∪ interfaceIds.ids.toFinset }
      |>.transitionToRecovering
      |>.setRecovery n (.heartbeat (.running (interfaceIds.ids.map fun iid => (iid, .waiting))))

def discardAll (n : Nat) (members : List (String × MemberPhase))
    (c : ConnectionRecoveryCoordinator) : ConnectionRecoveryCoordinator :=
  { c with activeRecoveries := c.activeRecoveries \ (members.map Prod.fst).toFinset }
    |>.setRecovery n (.heartbeat .ended)

/-- `_recover_all_interfaces` after its `gather`. -/
def processResults (n : Nat) (members : List (String × MemberPhase))
    (c : ConnectionRecoveryCoordinator) : ConnectionRecoveryCoordinator :=
  let successCount := members.countP (·.2 = .done true)
  let c := c.discardAll n members
  if successCount = members.length then { c with inFailedState := false }.transitionToRunning
  else if 0 < successCount then c.transitionToDegraded (members.length - successCount)
  else c

def resumeHeartbeat (n : Nat) (c : ConnectionRecoveryCoordinator) :
    HeartbeatPhase → Option ConnectionRecoveryCoordinator
  | .scheduled interfaceIds => some (c.recoverAllInterfaces n interfaceIds)
  | .running members =>
    if members.all fun (_, phase) => phase = .done true ∨ phase = .done false then
      some (c.processResults n members)
    else none
  | .ended => none

/-- The stages of one interface, under the semaphore. -/
def resumeMember (n j : Nat) (members : List (String × MemberPhase)) (success : Bool)
    (c : ConnectionRecoveryCoordinator) : Option ConnectionRecoveryCoordinator :=
  match members[j]? with
  | some (iid, .waiting) =>
    if c.executing < MAX_CONCURRENT_RECOVERIES then
      some (c.setRecovery n (.heartbeat (.running (members.set j (iid, .executing)))))
    else none
  | some (iid, .executing) =>
    some (c.setRecovery n (.heartbeat (.running (members.set j (iid, .done success)))))
  | _ => none

/-- The task is cancelled where it waits, or a callee raises there. -/
def cancelRecovery (n : Nat) (c : ConnectionRecoveryCoordinator) :
    Recovery → Option ConnectionRecoveryCoordinator
  | .start _ .ended => none
  | .start interfaceId phase => some (c.leave n interfaceId phase)
  | .heartbeat (.scheduled _) => some (c.setRecovery n (.heartbeat .ended))
  | .heartbeat (.running members) => some (c.discardAll n members)
  | .heartbeat .ended => none

/-! ### The heartbeat -/

/-- The interfaces a heartbeat retries; the clients of `unavailable` are missing or not
available. -/
def failedInterfaces (unavailable : List String) (c : ConnectionRecoveryCoordinator) :
    InterfaceIds where
  ids :=
    (c.recoveryStates.entries.filter fun (iid, state) =>
      !state.canRetry || iid ∈ unavailable).map Prod.fst
  nodup := c.recoveryStates.nodup.sublist (List.filter_sublist.map _)

/-- Each of them has one attempt left. -/
def resetAttemptCounts (interfaceIds : List String) (c : ConnectionRecoveryCoordinator) :
    ConnectionRecoveryCoordinator :=
  { c with
    recoveryStates := interfaceIds.foldl
      (fun states iid => states.modify iid fun state =>
        { state with attemptCount := MAX_RECOVERY_ATTEMPTS - 1 })
      c.recoveryStates }

/-- The head of the `while`. -/
def continueLoop (k : Nat) (c : ConnectionRecoveryCoordinator) : ConnectionRecoveryCoordinator :=
  c.setLoop k (if c.inFailedState ∧ ¬c.shutdown then .sleeping else .ended)

/-- `_heartbeat_loop` after its `sleep`. -/
def wakeLoop (k : Nat) (unavailable : List String) (c : ConnectionRecoveryCoordinator) :
    ConnectionRecoveryCoordinator :=
  if ¬c.inFailedState ∨ c.shutdown then c.setLoop k .ended
  else
    let interfaceIds := c.failedInterfaces unavailable
    if interfaceIds.ids = [] then c.continueLoop k
    else (c.resetAttemptCounts interfaceIds.ids).setLoop k (.publishing interfaceIds)

def onHeartbeatTimerFired (interfaceIds : InterfaceIds) (c : ConnectionRecoveryCoordinator) :
    ConnectionRecoveryCoordinator :=
  if c.shutdown ∨ ¬c.inFailedState then c
  else { c with recoveries := c.recoveries ++ [.heartbeat (.scheduled interfaceIds)] }

def resumeLoop (k : Nat) (unavailable : List String) (c : ConnectionRecoveryCoordinator) :
    LoopPhase → Option ConnectionRecoveryCoordinator
  | .scheduled => some (c.continueLoop k)
  | .sleeping => some (c.wakeLoop k unavailable)
  | .publishing interfaceIds => some ((c.onHeartbeatTimerFired interfaceIds).setLoop k .published)
  | .published => some (c.continueLoop k)
  | .ended => none

/-! ### The events -/

/-- The common part of `_on_connection_lost` and `_on_circuit_breaker_tripped`. -/
def createRecovery (interfaceId : String) (c : ConnectionRecoveryCoordinator) :
    ConnectionRecoveryCoordinator :=
  if c.shutdown then c
  else if interfaceId ∈ c.activeRecoveries then c
  else { c with recoveries := c.recoveries ++ [.start interfaceId .scheduled] }

def onConnectionLost (interfaceId : String) (c : ConnectionRecoveryCoordinator) :
    ConnectionRecoveryCoordinator :=
  c.createRecovery interfaceId

def onCircuitBreakerTripped (interfaceId : String) (c : ConnectionRecoveryCoordinator) :
    ConnectionRecoveryCoordinator :=
  c.createRecovery interfaceId

/-- `interfaceIds` are those of the enabled interface configurations. -/
def onCentralStateChanged (interfaceIds : List String) (oldState newState : CentralState)
    (trigger : Option String) (c : ConnectionRecoveryCoordinator) :
    ConnectionRecoveryCoordinator :=
  if c.shutdown then c
  else if newState ≠ .failed then c
  else if oldState = .initializing ∧ trigger.any (·.startsWith "no clients connected") then
    let c := { c with inFailedState := true }.startHeartbeatTimer
    { c with
      recoveryStates := interfaceIds.foldl
        (fun states iid => if states.contains iid then states else states.set iid {})
        c.recoveryStates }
  else c

def stop (c : ConnectionRecoveryCoordinator) : ConnectionRecoveryCoordinator :=
  { c with shutdown := true }

/-! ## Runs -/

inductive Action where
  | connectionLost (interfaceId : String)
  | circuitBreakerTripped (interfaceId : String)
  | centralStateChanged (oldState newState : CentralState) (trigger : Option String)
  /-- Recovery `n` goes on. -/
  | resume (n : Nat) (answer : Bool)
  | resumeMember (n j : Nat) (success : Bool)
  | cancel (n : Nat)
  /-- Heartbeat loop `k` goes on. -/
  | resumeLoop (k : Nat) (unavailable : List String)
  | cancelLoop (k : Nat)
  /-- By another component. -/
  | transition (transition : CentralTransition)
  | stop

def step (interfaceIds : List String) (c : ConnectionRecoveryCoordinator) :
    Action → Option ConnectionRecoveryCoordinator
  | .connectionLost interfaceId => some (c.onConnectionLost interfaceId)
  | .circuitBreakerTripped interfaceId => some (c.onCircuitBreakerTripped interfaceId)
  | .centralStateChanged oldState newState trigger =>
    some (c.onCentralStateChanged interfaceIds oldState newState trigger)
  | .resume n answer =>
    match c.recoveries[n]? with
    | some (.start interfaceId phase) => c.resumeStart n interfaceId answer phase
    | some (.heartbeat phase) => c.resumeHeartbeat n phase
    | none => none
  | .resumeMember n j success =>
    match c.recoveries[n]? with
    | some (.heartbeat (.running members)) => c.resumeMember n j members success
    | _ => none
  | .cancel n => (c.recoveries[n]?).bind (c.cancelRecovery n)
  | .resumeLoop k unavailable => (c.loops[k]?).bind (c.resumeLoop k unavailable)
  | .cancelLoop k => (c.loops[k]?).map fun _ => c.setLoop k .ended
  | .transition transition => some (c.transition transition)
  | .stop => some c.stop

def system (interfaceIds : List String) : StepSystem ConnectionRecoveryCoordinator Action where
  init := {}
  step := step interfaceIds

end ConnectionRecoveryCoordinator

end AioHomematic.Central
