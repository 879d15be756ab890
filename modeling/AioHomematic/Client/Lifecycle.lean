import AioHomematic.Client.StateMachine
import AioHomematic.Lib.StepSystem

/-!
# The lifecycle of a client

The operations of `InterfaceClient` that move its state machine: `init_client`,
`init_proxy`, `deinit_proxy`, `reconnect`, `is_connected` and `stop`. Each runs
from one suspension to the next: a function that starts or resumes one gives
the client after that stretch and how the stretch ends (`Stretch`). A suspended
operation is named by what it waits for, `Answer` is how the wait ends.

`modifiedAt` is `modified_at`, with `none` for `INIT_DATETIME`; the callbacks of
the backend set it at any time. `reconnect` tells whether the operation is part
of a `reconnect()`, through `reinit_proxy()`.

`Operations` is a client with any number of operations under way. `shutdown` is
what the client coordinator does to one client in the end: `deinit_proxy()` in
`_de_init_clients`, then `stop()`.
-/

namespace AioHomematic.Client

open Lib

/-- How a wait ends. `nothing` is an answer that is false or `None`, and `otherException` any
exception that is not a `BaseHomematicException`, also a `CancelledError`. -/
inductive Answer where
  | ok
  | nothing
  | homematicException
  | otherException
deriving DecidableEq

inductive Suspended where
  | initProxy (modifiedAtBeforeInit : Option Nat) (reconnect : Bool)
  | listDevices (reconnect : Bool)
  | addNewDevices (reconnect : Bool)
  | deinitProxy (reconnect : Bool)
  | reconnect
  | checkConnection (dtNow : Nat)
  | stop
deriving DecidableEq

inductive Stretch where
  | suspended (operation : Suspended)
  | returned
  | invalidStateTransition
  | raised
deriving DecidableEq

namespace Stretch

def operation : Stretch → Option Suspended
  | suspended op => some op
  | _ => none

end Stretch

structure ClientLifecycle where
  state : ClientState := .created
  modifiedAt : Option Nat := none
  connectionErrorCount : Nat := 0
deriving DecidableEq

namespace ClientLifecycle

structure Config where
  /-- `capabilities.rpc_callback`. -/
  rpcCallback : Bool := true
  connectivityErrorThreshold : Int := 1

/-- `transition_to`, and what comes after it. -/
def transitionTo (target : ClientState) (next : ClientLifecycle → ClientLifecycle × Stretch)
    (s : ClientLifecycle) : ClientLifecycle × Stretch :=
  match s.state.transitionTo target with
  | some state => next { s with state }
  | none => (s, .invalidStateTransition)

def returned (s : ClientLifecycle) : ClientLifecycle × Stretch := (s, .returned)

/-! ## `init_client` and `init_proxy` -/

def initClient (s : ClientLifecycle) : ClientLifecycle × Stretch :=
  s.transitionTo .initializing fun s =>
    match s.state.transitionTo .initialized with
    | some state => returned { s with state }
    | none => s.transitionTo .failed fun s => (s, .invalidStateTransition)

def initProxy (cfg : Config) (reconnect : Bool) (s : ClientLifecycle) : ClientLifecycle × Stretch :=
  s.transitionTo .connecting fun s =>
    (s, .suspended
      (if cfg.rpcCallback then .initProxy s.modifiedAt reconnect else .listDevices reconnect))

/-- `reconnect` with an `init_proxy` that has succeeded. -/
def reconnected (reconnect : Bool) (s : ClientLifecycle) : ClientLifecycle × Stretch :=
  returned (if reconnect then { s with connectionErrorCount := 0 } else s)

def initialized (now : Nat) (reconnect : Bool) (s : ClientLifecycle) : ClientLifecycle × Stretch :=
  s.transitionTo .connected fun s => reconnected reconnect { s with modifiedAt := some now }

/-- `self.modified_at > modified_at_before_init`. -/
def isLater (modifiedAt before : Option Nat) : Bool :=
  match modifiedAt, before with
  | some t, some t' => t' < t
  | some _, none => true
  | none, _ => false

/-- `init_proxy` goes on after `init` of the backend. -/
def initAnswered (modifiedAtBeforeInit : Option Nat) (reconnect : Bool) (answer : Answer)
    (now : Nat) (s : ClientLifecycle) : ClientLifecycle × Stretch :=
  match answer with
  | .ok | .nothing => s.initialized now reconnect
  | .homematicException =>
    if isLater s.modifiedAt modifiedAtBeforeInit then s.initialized now reconnect
    else transitionTo .failed returned { s with modifiedAt := none }
  | .otherException => (s, .raised)

/-- Without callbacks: `init_proxy` goes on after `list_devices`. -/
def devicesListed (reconnect : Bool) (answer : Answer) (s : ClientLifecycle) :
    ClientLifecycle × Stretch :=
  match answer with
  | .ok => (s, .suspended (.addNewDevices reconnect))
  | .nothing => s.transitionTo .failed returned
  | .homematicException | .otherException => (s, .raised)

def newDevicesAdded (reconnect : Bool) (answer : Answer) (s : ClientLifecycle) :
    ClientLifecycle × Stretch :=
  match answer with
  | .ok | .nothing => s.transitionTo .connected (reconnected reconnect)
  | .homematicException | .otherException => (s, .raised)

/-! ## `deinit_proxy` and `reconnect` -/

/-- `deinit_proxy` has returned; `reinit_proxy` goes on with `init_proxy`. -/
def deinitialized (cfg : Config) (reconnect : Bool) (s : ClientLifecycle) :
    ClientLifecycle × Stretch :=
  if reconnect then s.initProxy cfg true else returned s

def deinitProxy (cfg : Config) (reconnect : Bool) (s : ClientLifecycle) :
    ClientLifecycle × Stretch :=
  if cfg.rpcCallback then
    if s.modifiedAt = none then s.deinitialized cfg reconnect
    else (s, .suspended (.deinitProxy reconnect))
  else s.transitionTo .disconnected (deinitialized cfg reconnect)

def deinitAnswered (cfg : Config) (reconnect : Bool) (answer : Answer) (s : ClientLifecycle) :
    ClientLifecycle × Stretch :=
  match answer with
  | .ok | .nothing =>
    s.transitionTo .disconnected fun s => deinitialized cfg reconnect { s with modifiedAt := none }
  | .homematicException => s.deinitialized cfg reconnect
  | .otherException => (s, .raised)

def reconnect (s : ClientLifecycle) : ClientLifecycle × Stretch :=
  let reconnecting (s : ClientLifecycle) : ClientLifecycle × Stretch :=
    if s.state.canReconnect then s.transitionTo .reconnecting fun s => (s, .suspended .reconnect)
    else returned s
  if s.state = .initialized then s.transitionTo .disconnected reconnecting else reconnecting s

/-! ## `is_connected` and `stop` -/

def isConnected (dtNow : Nat) (s : ClientLifecycle) : ClientLifecycle × Stretch :=
  (s, .suspended (.checkConnection dtNow))

/-- `is_connected` goes on with the answer of `check_connection_availability`. -/
def connectionChecked (cfg : Config) (modifiedAt : Option Nat) (s : ClientLifecycle) :
    ClientLifecycle × Stretch :=
  let s :=
    { s with
      modifiedAt
      connectionErrorCount := if modifiedAt.isSome then 0 else s.connectionErrorCount + 1 }
  if cfg.connectivityErrorThreshold < s.connectionErrorCount ∧ s.state = .connected then
    s.transitionTo .disconnected returned
  else returned s

def checkAnswered (cfg : Config) (dtNow : Nat) (answer : Answer) (s : ClientLifecycle) :
    ClientLifecycle × Stretch :=
  match answer with
  | .ok => s.connectionChecked cfg (some dtNow)
  | .nothing | .homematicException => s.connectionChecked cfg none
  | .otherException => (s, .raised)

def stop (s : ClientLifecycle) : ClientLifecycle × Stretch :=
  s.transitionTo .stopping fun s => (s, .suspended .stop)

def stopAnswered (answer : Answer) (s : ClientLifecycle) : ClientLifecycle × Stretch :=
  match answer with
  | .ok | .nothing => s.transitionTo .stopped returned
  | .homematicException | .otherException => (s, .raised)

/-! ## Operations under way -/

def resume (cfg : Config) (operation : Suspended) (answer : Answer) (now : Nat)
    (s : ClientLifecycle) : ClientLifecycle × Stretch :=
  match operation with
  | .initProxy modifiedAtBeforeInit reconnect =>
    s.initAnswered modifiedAtBeforeInit reconnect answer now
  | .listDevices reconnect => s.devicesListed reconnect answer
  | .addNewDevices reconnect => s.newDevicesAdded reconnect answer
  | .deinitProxy reconnect => s.deinitAnswered cfg reconnect answer
  | .reconnect => if answer = .ok then s.deinitProxy cfg true else (s, .raised)
  | .checkConnection dtNow => s.checkAnswered cfg dtNow answer
  | .stop => s.stopAnswered answer

/-- A stretch that was suspended is resumed with `answer`. -/
def answered (cfg : Config) (answer : Answer) (now : Nat) (r : ClientLifecycle × Stretch) :
    ClientLifecycle × Stretch :=
  match r.2 with
  | .suspended operation => r.1.resume cfg operation answer now
  | _ => r

/-- `deinit_proxy()` and `stop()` of the client coordinator; the backend answers `deinit` to the
first and `stop` to the second. -/
def shutdown (cfg : Config) (deinit stop : Answer) (now : Nat) (s : ClientLifecycle) :
    ClientLifecycle × Stretch :=
  let r := answered cfg deinit now (s.deinitProxy cfg false)
  match r.2 with
  | .returned => answered cfg stop now r.1.stop
  | _ => r

end ClientLifecycle

structure Operations where
  client : ClientLifecycle := {}
  /-- The operations that were started, with what they wait for. -/
  operations : List (Option Suspended) := []

namespace Operations

open ClientLifecycle

inductive Action where
  | initClient
  | initProxy
  | deinitProxy
  | reconnect
  | isConnected (dtNow : Nat)
  | stop
  | resume (i : Nat) (answer : Answer) (now : Nat)
  | callback (now : Nat)

def start (r : ClientLifecycle × Stretch) (s : Operations) : Operations :=
  { client := r.1, operations := s.operations ++ [r.2.operation] }

def step (cfg : Config) (s : Operations) : Action → Option Operations
  | .initClient => some (s.start s.client.initClient)
  | .initProxy => some (s.start (s.client.initProxy cfg false))
  | .deinitProxy => some (s.start (s.client.deinitProxy cfg false))
  | .reconnect => some (s.start s.client.reconnect)
  | .isConnected dtNow => some (s.start (s.client.isConnected dtNow))
  | .stop => some (s.start s.client.stop)
  | .resume i answer now =>
    (s.operations[i]?).join.map fun operation =>
      let r := s.client.resume cfg operation answer now
      { client := r.1, operations := s.operations.set i r.2.operation }
  | .callback now => some { s with client := { s.client with modifiedAt := some now } }

def system (cfg : Config) : StepSystem Operations Action where
  init := {}
  step := step cfg

end Operations

end AioHomematic.Client

/-!
## Shutting a client down

`stop()` needs a client that is connected or disconnected, and `deinit_proxy()`
is to see to that. It does not where it skips its transition: with
`modified_at` reset, as a failed `init_proxy` and a failed connection check
leave it, or when the backend refuses. `Unstoppable` names the states in which
the shutdown then raises `InvalidStateTransitionError`; `shutdown_stops` says
that in every reachable state these are all.
-/

namespace AioHomematic.Client

open Lib

namespace ClientLifecycle

variable {cfg : Config} {s t : ClientLifecycle} {answer deinit stop : Answer} {now : Nat}

theorem transitionTo_of_allowed {target : ClientState}
    {next : ClientLifecycle → ClientLifecycle × Stretch}
    (h : s.state.canTransitionTo target = true) :
    s.transitionTo target next = next { s with state := target } := by
  unfold transitionTo ClientState.transitionTo
  rw [if_pos h]

theorem transitionTo_of_refused {target : ClientState}
    {next : ClientLifecycle → ClientLifecycle × Stretch}
    (h : ¬ s.state.canTransitionTo target = true) :
    s.transitionTo target next = (s, .invalidStateTransition) := by
  unfold transitionTo ClientState.transitionTo
  rw [if_neg h]

/-! ## Which states are observed -/

/-- A stretch ends in the state that a transition has left, or in none that is passed through. -/
theorem transitionTo_initializing {target : ClientState}
    {next : ClientLifecycle → ClientLifecycle × Stretch} (hs : s.state ≠ .initializing)
    (hnext : (next { s with state := target }).1.state ≠ .initializing) :
    (s.transitionTo target next).1.state ≠ .initializing := by
  by_cases h : s.state.canTransitionTo target = true
  · rw [transitionTo_of_allowed h]
    exact hnext
  · rw [transitionTo_of_refused h]
    exact hs

theorem initClient_initializing (hs : s.state ≠ .initializing) :
    s.initClient.1.state ≠ .initializing := by
  by_cases h : s.state.canTransitionTo .initializing = true
  · unfold initClient
    rw [transitionTo_of_allowed h]
    nofun
  · unfold initClient
    rw [transitionTo_of_refused h]
    exact hs

theorem initProxy_initializing {reconnect : Bool} (hs : s.state ≠ .initializing) :
    (s.initProxy cfg reconnect).1.state ≠ .initializing :=
  transitionTo_initializing hs nofun

theorem deinitialized_initializing {reconnect : Bool} (hs : s.state ≠ .initializing) :
    (s.deinitialized cfg reconnect).1.state ≠ .initializing := by
  unfold deinitialized
  split
  · exact initProxy_initializing hs
  · exact hs

theorem deinitProxy_initializing {reconnect : Bool} (hs : s.state ≠ .initializing) :
    (s.deinitProxy cfg reconnect).1.state ≠ .initializing := by
  unfold deinitProxy
  split
  · split
    · exact deinitialized_initializing hs
    · exact hs
  · exact transitionTo_initializing hs (deinitialized_initializing nofun)

theorem reconnect_initializing (hs : s.state ≠ .initializing) :
    s.reconnect.1.state ≠ .initializing := by
  have hreconnecting {s : ClientLifecycle} (hs : s.state ≠ .initializing) :
      (if s.state.canReconnect then
          s.transitionTo .reconnecting fun s => (s, .suspended .reconnect)
        else returned s).1.state ≠ .initializing := by
    split
    · exact transitionTo_initializing hs nofun
    · exact hs
  unfold reconnect
  dsimp only
  split
  · exact transitionTo_initializing hs (hreconnecting nofun)
  · exact hreconnecting hs

theorem reconnected_initializing {reconnect : Bool} (hs : s.state ≠ .initializing) :
    (s.reconnected reconnect).1.state ≠ .initializing := by
  unfold reconnected returned
  split <;> exact hs

theorem resume_initializing {operation : Suspended} (hs : s.state ≠ .initializing) :
    (s.resume cfg operation answer now).1.state ≠ .initializing := by
  cases operation with
  | initProxy before reconnect =>
    have hconnected : (s.initialized now reconnect).1.state ≠ .initializing :=
      transitionTo_initializing hs (reconnected_initializing nofun)
    cases answer with
    | ok => exact hconnected
    | nothing => exact hconnected
    | homematicException =>
      simp only [resume, initAnswered]
      split
      · exact hconnected
      · exact transitionTo_initializing hs nofun
    | otherException => exact hs
  | listDevices reconnect =>
    cases answer with
    | ok => exact hs
    | nothing => exact transitionTo_initializing hs nofun
    | homematicException => exact hs
    | otherException => exact hs
  | addNewDevices reconnect =>
    cases answer with
    | ok => exact transitionTo_initializing hs (reconnected_initializing nofun)
    | nothing => exact transitionTo_initializing hs (reconnected_initializing nofun)
    | homematicException => exact hs
    | otherException => exact hs
  | deinitProxy reconnect =>
    cases answer with
    | ok => exact transitionTo_initializing hs (deinitialized_initializing nofun)
    | nothing => exact transitionTo_initializing hs (deinitialized_initializing nofun)
    | homematicException => exact deinitialized_initializing hs
    | otherException => exact hs
  | reconnect =>
    simp only [resume]
    split
    · exact deinitProxy_initializing hs
    · exact hs
  | checkConnection dtNow =>
    have hlost {c : Prop} [Decidable c] {s : ClientLifecycle} (hs : s.state ≠ .initializing) :
        (if c then s.transitionTo .disconnected returned else returned s).1.state ≠
          .initializing := by
      split
      · exact transitionTo_initializing hs nofun
      · exact hs
    have hchecked {modifiedAt : Option Nat} :
        (s.connectionChecked cfg modifiedAt).1.state ≠ .initializing := hlost hs
    cases answer with
    | ok => exact hchecked
    | nothing => exact hchecked
    | homematicException => exact hchecked
    | otherException => exact hs
  | stop =>
    cases answer with
    | ok => exact transitionTo_initializing hs nofun
    | nothing => exact transitionTo_initializing hs nofun
    | homematicException => exact hs
    | otherException => exact hs

end ClientLifecycle

namespace Operations

open ClientLifecycle

variable {cfg : Config} {s t : Operations} {a : Action}

/-- `INITIALIZING` is passed through: no operation is suspended in it. -/
theorem step_initializing (hs : s.client.state ≠ .initializing) (hstep : step cfg s a = some t) :
    t.client.state ≠ .initializing := by
  cases a with
  | initClient => cases hstep; exact initClient_initializing hs
  | initProxy => cases hstep; exact initProxy_initializing hs
  | deinitProxy => cases hstep; exact deinitProxy_initializing hs
  | reconnect => cases hstep; exact reconnect_initializing hs
  | isConnected dtNow => cases hstep; exact hs
  | stop => cases hstep; exact transitionTo_initializing hs nofun
  | resume i answer now =>
    obtain ⟨operation, -, rfl⟩ := Option.map_eq_some_iff.mp hstep
    exact resume_initializing hs
  | callback now => cases hstep; exact hs

theorem reach_initializing {ok : Operations → Action → Prop} (h : (system cfg).Reach ok s) :
    s.client.state ≠ .initializing :=
  h.invariant (P := fun s => s.client.state ≠ .initializing) (fun h => by cases h)
    fun _ _ _ hs _ hstep => step_initializing hs hstep

end Operations

/-! ## The shutdown -/

namespace ClientLifecycle

variable {cfg : Config} {s t : ClientLifecycle} {deinit stop : Answer} {now : Nat}

/-- `deinit_proxy` does not let the client go to `DISCONNECTED`: it skips, or the backend refuses. -/
def Kept (cfg : Config) (deinit : Answer) (s : ClientLifecycle) : Prop :=
  cfg.rpcCallback = true ∧ (s.modifiedAt = none ∨ deinit = .homematicException)

/-- The backend has the last word: its `deinit_proxy` is called and raises what is not caught. -/
def Escapes (cfg : Config) (deinit : Answer) (s : ClientLifecycle) : Prop :=
  cfg.rpcCallback = true ∧ s.modifiedAt ≠ none ∧ deinit = .otherException

/-- The client is in a state that the shutdown cannot leave. -/
def Unstoppable (cfg : Config) (deinit : Answer) (s : ClientLifecycle) : Prop :=
  s.state ∈ [.created, .connecting, .stopping, .stopped] ∨
    s.state ∈ [.initialized, .reconnecting, .failed] ∧ s.Kept cfg deinit

instance : Decidable (s.Kept cfg deinit) := inferInstanceAs (Decidable (_ ∧ _))

instance : Decidable (s.Escapes cfg deinit) := inferInstanceAs (Decidable (_ ∧ _))

instance : Decidable (s.Unstoppable cfg deinit) := inferInstanceAs (Decidable (_ ∨ _))

/-- `stop` to its end. -/
theorem answered_stop : answered cfg stop now s.stop =
    if s.state ∈ [.connected, .disconnected] then
      if stop = .ok ∨ stop = .nothing then returned { s with state := .stopped }
      else ({ s with state := .stopping }, .raised)
    else (s, .invalidStateTransition) := by
  unfold ClientLifecycle.stop
  split
  · rename_i h
    rw [transitionTo_of_allowed (ClientState.canTransitionTo_stopping.mpr h)]
    cases stop <;> rfl
  · rename_i h
    rw [transitionTo_of_refused fun h' => h (ClientState.canTransitionTo_stopping.mp h')]
    rfl

/-- The transition of `deinit_proxy`. -/
theorem transitionTo_disconnected {modifiedAt : Option Nat} :
    s.transitionTo .disconnected (fun s => returned { s with modifiedAt }) =
      if s.state ∈ [.initialized, .connected, .disconnected, .reconnecting, .failed] then
        returned { s with state := .disconnected, modifiedAt }
      else (s, .invalidStateTransition) := by
  split
  · rename_i h
    rw [transitionTo_of_allowed (ClientState.canTransitionTo_disconnected.mpr h)]
  · rename_i h
    rw [transitionTo_of_refused fun h' => h (ClientState.canTransitionTo_disconnected.mp h')]

/-- `deinit_proxy` to its end. -/
theorem answered_deinitProxy (cfg : Config) (s : ClientLifecycle) (deinit : Answer) (now : Nat) :
    ∃ modifiedAt, answered cfg deinit now (s.deinitProxy cfg false) =
    if s.Escapes cfg deinit then (s, .raised)
    else if s.Kept cfg deinit then returned s
    else if s.state ∈ [.initialized, .connected, .disconnected, .reconnecting, .failed] then
      returned { s with state := .disconnected, modifiedAt }
    else (s, .invalidStateTransition) := by
  unfold deinitProxy
  by_cases hcallback : cfg.rpcCallback = true
  · refine ⟨none, ?_⟩
    rw [if_pos hcallback]
    by_cases hnone : s.modifiedAt = none
    · have hescapes : ¬ s.Escapes cfg deinit := fun h => h.2.1 hnone
      have hkept : s.Kept cfg deinit := ⟨hcallback, .inl hnone⟩
      rw [if_pos hnone, if_neg hescapes, if_pos hkept]
      rfl
    · rw [if_neg hnone]
      show s.deinitAnswered cfg false deinit = _
      have hcalled (hreturns : deinit = .ok ∨ deinit = .nothing) :
          ¬ s.Escapes cfg deinit ∧ ¬ s.Kept cfg deinit := by
        constructor
        · rintro ⟨-, -, rfl⟩
          rcases hreturns with h | h <;> cases h
        · rintro ⟨-, h | rfl⟩
          · exact hnone h
          · rcases hreturns with h | h <;> cases h
      cases deinit with
      | ok =>
        rw [if_neg (hcalled (.inl rfl)).1, if_neg (hcalled (.inl rfl)).2]
        exact transitionTo_disconnected
      | nothing =>
        rw [if_neg (hcalled (.inr rfl)).1, if_neg (hcalled (.inr rfl)).2]
        exact transitionTo_disconnected
      | homematicException =>
        have hescapes : ¬ s.Escapes cfg .homematicException := fun h => nomatch h.2.2
        have hkept : s.Kept cfg .homematicException := ⟨hcallback, .inr rfl⟩
        rw [if_neg hescapes, if_pos hkept]
        rfl
      | otherException =>
        have hescapes : s.Escapes cfg .otherException := ⟨hcallback, hnone, rfl⟩
        rw [if_pos hescapes]
        rfl
  · have hescapes : ¬ s.Escapes cfg deinit := fun h => hcallback h.1
    have hkept : ¬ s.Kept cfg deinit := fun h => hcallback h.1
    refine ⟨s.modifiedAt, ?_⟩
    rw [if_neg hcallback, if_neg hescapes, if_neg hkept]
    by_cases h : s.state ∈ [.initialized, .connected, .disconnected, .reconnecting, .failed]
    · rw [transitionTo_of_allowed (ClientState.canTransitionTo_disconnected.mpr h), if_pos h]
      rfl
    · rw [transitionTo_of_refused fun h' => h (ClientState.canTransitionTo_disconnected.mp h'),
        if_neg h]
      rfl

/-- Where a client that is not passing through `INITIALIZING` can be. -/
theorem unstoppable_iff (hs : s.state ≠ .initializing) : s.Unstoppable cfg deinit ↔
    if s.Kept cfg deinit then s.state ∉ [.connected, .disconnected]
    else s.state ∉ [.initialized, .connected, .disconnected, .reconnecting, .failed] := by
  unfold Unstoppable
  split
  · rename_i hkept
    cases hstate : s.state <;> simp_all
  · rename_i hkept
    cases hstate : s.state <;> simp_all

end ClientLifecycle

namespace Operations

open ClientLifecycle

variable {cfg : Config} {s : Operations} {deinit stop : Answer} {now : Nat}

/-- **Shutdown**: in every reachable state, `deinit_proxy` and `stop` end with the client stopped
exactly if the backend lets them and the client is not in a state that they cannot leave; and in
such a state they raise `InvalidStateTransitionError`. -/
theorem shutdown_stops (hreach : (system cfg).Reach StepSystem.Free s) :
    (((shutdown cfg deinit stop now s.client).2 = .returned ∧
        (shutdown cfg deinit stop now s.client).1.state = .stopped) ↔
      ¬ s.client.Unstoppable cfg deinit ∧ ¬ s.client.Escapes cfg deinit ∧
        (stop = .ok ∨ stop = .nothing)) ∧
    ((shutdown cfg deinit stop now s.client).2 = .invalidStateTransition ↔
      s.client.Unstoppable cfg deinit ∧ ¬ s.client.Escapes cfg deinit) := by
  have hs := reach_initializing hreach
  generalize s.client = c at hs
  obtain ⟨modifiedAt, hdeinit⟩ := answered_deinitProxy cfg c deinit now
  unfold shutdown
  rw [hdeinit, unstoppable_iff hs]
  by_cases hescapes : c.Escapes cfg deinit
  · simp [hescapes]
  · rw [if_neg hescapes]
    by_cases hkept : c.Kept cfg deinit
    · rw [if_pos hkept, if_pos hkept]
      simp only [returned]
      rw [answered_stop]
      by_cases hstate : c.state ∈ [.connected, .disconnected]
      · by_cases hstop : stop = .ok ∨ stop = .nothing <;> simp [*, returned]
      · simp [*]
    · rw [if_neg hkept, if_neg hkept]
      by_cases hstate : c.state ∈ [.initialized, .connected, .disconnected, .reconnecting, .failed]
      · rw [if_pos hstate]
        simp only [returned]
        rw [answered_stop]
        by_cases hstop : stop = .ok ∨ stop = .nothing <;> simp [*, returned]
      · simp [*]

/-! ## Two shutdowns -/

/-- The first `init_proxy` fails, and a `reconnect` succeeds. -/
def sampleReconnect : List Action :=
  [.initClient, .initProxy, .resume 1 .homematicException 1000, .reconnect, .resume 2 .ok 1010,
    .resume 2 .ok 1020]

theorem shutdown_stops_reconnected :
    ∃ s, (system {}).replay StepSystem.Free (system {}).init sampleReconnect = some s ∧
      (shutdown {} .ok .ok 1030 s.client).2 = .returned ∧
      (shutdown {} .ok .ok 1030 s.client).1.state = .stopped := by
  obtain ⟨s, hs, hstoppable⟩ := StepSystem.replay_any
    (p := fun s : Operations => ¬ s.client.Unstoppable {} .ok ∧ ¬ s.client.Escapes {} .ok)
    (show ((system {}).replay StepSystem.Free (system {}).init sampleReconnect).any _ = true by
      decide)
  refine ⟨s, hs, ?_⟩
  exact (shutdown_stops (StepSystem.reach_of_replay hs)).1.mpr
    ⟨hstoppable.1, hstoppable.2, .inl rfl⟩

/-- After a failed `init_proxy`, `stop` raises `InvalidStateTransitionError`. -/
theorem shutdown_stops_failed :
    ∃ s, (system {}).Reach StepSystem.Free s ∧ s.client.state = .failed ∧
      (shutdown {} .ok .ok 1030 s.client).2 = .invalidStateTransition ∧
      (shutdown {} .ok .ok 1030 s.client).1.state = .failed := by
  let as : List Action := [.initClient, .initProxy, .resume 1 .homematicException 1000]
  have hs : (system {}).replay StepSystem.Free (system {}).init as = some _ := rfl
  exact ⟨_, StepSystem.reach_of_replay hs, rfl, rfl, rfl⟩

end Operations

end AioHomematic.Client
