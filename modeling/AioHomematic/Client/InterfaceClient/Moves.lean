import AioHomematic.Client.CommandRetry.Events
import AioHomematic.Client.CommandThrottle.Ownership
import AioHomematic.Client.InterfaceClient
import Mathlib.Logic.Relation

/-!
# The moves of a step

A step of the interface client is a sequence of a few `Move`s: retries are
cancelled, the throttle takes a step, a call is created, starts to wait, is
turned away, starts its execution or goes on with it. `step_moves` says so
once; what every move keeps, every step and every run keeps. `Registered` is
the first such fact: the cancel event of an unfinished call that is not set is
the one registered for the call's key.
-/

namespace AioHomematic.Client.InterfaceClient

open Lib Relation

variable {V : Type*} [DecidableEq V] {cfg : Config} {s t : InterfaceClient V} {a : Action V}

/-- A condition on the start of an execution: the handler and the calls at that time, the number
of the call and the call. -/
abbrev StartCondition (V : Type*) :=
  CommandRetryHandler → List (Call V) → Nat → Call V → Prop

inductive Move (cfg : Config) (P : StartCondition V) (s : InterfaceClient V) :
    InterfaceClient V → Prop where
  | cancel (dpks : List DataPointKey) :
      Move cfg P s
        { s with retryHandler := dpks.foldl CommandRetryHandler.cancelRetryForDpk s.retryHandler }
  | throttle {a : CommandThrottle.Action} {throttle : CommandThrottle}
      (hstep : CommandThrottle.step cfg.throttle s.throttle a = some throttle) :
      Move cfg P s { s with throttle }
  | create (r : Request V) : Move cfg P s { s with calls := s.calls ++ [{ request := r }] }
  | wait {i : Nat} {c : Call V} {future : Nat} {w : Waiter} (hc : s.calls[i]? = some c)
      (hfuture : c.future = none) (hlast : i + 1 = s.calls.length) (hexec : c.execution = none)
      (hresult : c.result = none) (hw : s.throttle.waiters[future]? = some w)
      (haddress : w.command.deviceAddress = c.request.channelAddress) :
      Move cfg P s (s.setCall i { c with future := some future })
  | reject {i : Nat} {c : Call V} {result : Except PyException CallResult}
      (hc : s.calls[i]? = some c) (hexec : c.execution = none) (hresult : c.result = none) :
      Move cfg P s (s.setCall i { c with result := some result })
  | start {i : Nat} {c : Call V} (hc : s.calls[i]? = some c) (hexec : c.execution = none)
      (hresult : c.result = none)
      (hgranted : ∀ future, c.future = some future →
        ∃ w, s.throttle.waiters[future]? = some w ∧ w.future = .result)
      (hlast : c.future = none → i + 1 = s.calls.length)
      (hP : P s.retryHandler s.calls i c) : Move cfg P s (s.startExecution cfg i c)
  | proceed {i : Nat} {c : Call V} {e : Execution} {r : Execution × CommandRetryHandler}
      (hc : s.calls[i]? = some c) (hexec : c.execution = some e) (hresult : c.result = none)
      (hadvance : e.Advance s.retryHandler r) : Move cfg P s (s.continueCall cfg i c r)

/-- The call that an action starts in its first stretch, if the throttle does not make it wait. -/
def startsNow (cfg : Config) (r : Request V) (tBurst tStamp : Int) (s : InterfaceClient V) : Bool :=
  r.check.isNone &&
    (s.throttle.acquire cfg.throttle r.commandPriority r.channelAddress r.purgeAddresses tBurst
      tStamp).1 = .ended .returned

/-- The call `c` waits no more: its command was granted. -/
def grantedNow (c : Call V) (s : InterfaceClient V) : Bool :=
  c.future.any fun future => s.throttle.waiters[future]?.map (·.future) = some .result

/-- The condition on a step that asks `P` of every execution it starts. -/
def Starting (cfg : Config) (P : StartCondition V) (s : InterfaceClient V) : Action V → Prop
  | .setValue channelAddress paramsetKey parameter value priority purgeAddresses retry check
      tBurst tStamp =>
    let r := Request.ofSetValue channelAddress paramsetKey parameter value priority purgeAddresses
      retry check
    s.startsNow cfg r tBurst tStamp = true →
      P (purgeAddresses.foldl CommandRetryHandler.cancelRetriesForDevice s.retryHandler)
        (s.calls ++ [{ request := r }]) s.calls.length { request := r }
  | .putParamset r tBurst tStamp =>
    s.startsNow cfg r tBurst tStamp = true →
      P (r.purgeAddresses.foldl CommandRetryHandler.cancelRetriesForDevice s.retryHandler)
        (s.calls ++ [{ request := r }]) s.calls.length { request := r }
  | .granted i => ∀ c ∈ s.calls[i]?, s.grantedNow c = true → P s.retryHandler s.calls i c
  | _ => True

variable {P : StartCondition V}

/-! ## Steps as moves -/

theorem cancelDevices_moves (addresses : List String) (s : InterfaceClient V) :
    ReflTransGen (Move cfg P) s { s with
      retryHandler := addresses.foldl CommandRetryHandler.cancelRetriesForDevice s.retryHandler } := by
  induction addresses generalizing s with
  | nil => exact .refl
  | cons address addresses ih =>
    exact .head (.cancel (s.retryHandler.retriesForDevice address))
      (ih { s with retryHandler := s.retryHandler.cancelRetriesForDevice address })

theorem acquired_move {i : Nat} {c : Call V} {r : AcquireResult} (hc : s.calls[i]? = some c)
    (hexec : c.execution = none) (hresult : c.result = none)
    (hgranted : r = .returned → ∀ future, c.future = some future →
      ∃ w, s.throttle.waiters[future]? = some w ∧ w.future = .result)
    (hlast : c.future = none → i + 1 = s.calls.length)
    (hP : r = .returned → P s.retryHandler s.calls i c) :
    Move cfg P s (s.acquired cfg i c r) := by
  cases r with
  | returned => exact .start hc hexec hresult (hgranted rfl) hlast (hP rfl)
  | commandSuperseded => exact .reject hc hexec hresult
  | cancelledError => exact .reject hc hexec hresult

theorem startCall_moves {r : Request V} {tBurst tStamp : Int}
    (h : s.startCall cfg r tBurst tStamp = some t)
    (hP : s.startsNow cfg r tBurst tStamp = true →
      P (r.purgeAddresses.foldl CommandRetryHandler.cancelRetriesForDevice s.retryHandler)
        (s.calls ++ [{ request := r }]) s.calls.length { request := r }) :
    ReflTransGen (Move cfg P) s t := by
  refine (cancelDevices_moves r.purgeAddresses s).trans (.head (.create r) ?_)
  unfold startCall checkAndAcquire at h
  dsimp only at h
  have hcall : (s.calls ++ [({ request := r } : Call V)])[s.calls.length]? = some { request := r } :=
    List.getElem?_concat_length
  split at h
  · split at h
    · cases h
    · cases h
      exact .single (.reject (c := { request := r }) hcall rfl rfl)
  · rename_i hcheck
    obtain ⟨throttle, hstep, rfl⟩ := Option.map_eq_some_iff.mp h
    refine .head (.throttle hstep) (.single ?_)
    dsimp only
    split
    · rename_i result hacquire
      refine acquired_move hcall rfl rfl (fun _ future hf => by cases hf) (by simp) fun hr => ?_
      subst hr
      exact hP (by simp [startsNow, hcheck, hacquire])
    · rename_i future hacquire
      obtain ⟨w, hw, haddress⟩ := CommandThrottle.acquire_waiting hstep hacquire
      exact .wait (c := { request := r }) hcall rfl (by simp) rfl rfl hw haddress

theorem granted_moves {i : Nat} (h : s.granted cfg i = some t)
    (hP : ∀ c ∈ s.calls[i]?, s.grantedNow c = true → P s.retryHandler s.calls i c) :
    ReflTransGen (Move cfg P) s t := by
  unfold granted at h
  split at h
  · rename_i c hc
    split at h
    · rename_i future hfuture hexec hresult
      split at h
      · rename_i result hres
        obtain ⟨throttle, hstep, rfl⟩ := Option.map_eq_some_iff.mp h
        obtain ⟨w, hw, hwr⟩ := Option.bind_eq_some_iff.mp hres
        have hgranted (hr : result = .returned) : w.future = .result := by
          subst hr
          cases hf : w.future <;> simp_all [FutureState.acquireResult]
        refine .head (.throttle hstep)
          (.single (acquired_move hc hexec hresult ?_ (by simp [hfuture]) ?_))
        · intro hr future' hf
          rw [hfuture] at hf
          cases hf
          obtain ⟨w', hw', hlater⟩ := (CommandThrottle.step_effect hstep).later hw
          exact ⟨w', hw', (hlater.future (by simp [hgranted hr])).trans (hgranted hr)⟩
        · intro hr
          exact hP c hc (by simp [grantedNow, hfuture, hw, hgranted hr])
      · cases h
    · cases h
  · cases h

theorem resumeExecution_move {i : Nat}
    {f : Execution → CommandRetryHandler → Option (Execution × CommandRetryHandler)}
    (hf : ∀ e h r, f e h = some r → e.Advance h r) (h : s.resumeExecution cfg i f = some t) :
    Move cfg P s t := by
  unfold resumeExecution at h
  split at h
  · cases h
  · split at h
    · rename_i c hc
      split at h
      · rename_i e hexec hresult
        obtain ⟨r, hr, rfl⟩ := Option.map_eq_some_iff.mp h
        exact .proceed hc hexec hresult (hf e s.retryHandler r hr)
      · cases h
    · cases h

theorem operationEnded_advance {outcome : Except PyException Unit} {e : Execution}
    {h : CommandRetryHandler} {r : Execution × CommandRetryHandler}
    (hr : operationEnded cfg outcome e h = some r) : e.Advance h r := by
  unfold operationEnded at hr
  split at hr
  · cases hr; exact Execution.operationEnded_advance
  · cases hr

theorem sleepEnded_advance {e : Execution} {h : CommandRetryHandler}
    {r : Execution × CommandRetryHandler} (hr : sleepEnded e h = some r) : e.Advance h r := by
  unfold sleepEnded at hr
  split at hr
  · cases hr; exact Execution.nextAttempt_advance
  · cases hr

theorem recoveryEnded_advance {recovered : Bool} {e : Execution} {h : CommandRetryHandler}
    {r : Execution × CommandRetryHandler} (hr : recoveryEnded recovered e h = some r) :
    e.Advance h r := by
  unfold recoveryEnded at hr
  split at hr
  · cases hr; exact Execution.recoveryEnded_advance
  · cases hr

theorem cancelExecution_advance {e : Execution} {h : CommandRetryHandler}
    {r : Execution × CommandRetryHandler} (hr : cancelExecution cfg e h = some r) :
    e.Advance h r := by
  unfold cancelExecution at hr
  split at hr <;> cases hr
  · exact Execution.operationEnded_advance
  · exact Execution.cancelled_advance
  · exact Execution.cancelled_advance

theorem cancelCall_moves {i : Nat} (h : s.cancelCall cfg i = some t) :
    ReflTransGen (Move cfg P) s t := by
  unfold cancelCall at h
  split at h
  · rename_i c hc
    split at h
    · rename_i future hfuture hexec hresult
      obtain ⟨throttle, hstep, rfl⟩ := Option.map_eq_some_iff.mp h
      refine .head (.throttle hstep) (.single ?_)
      exact acquired_move hc hexec hresult (fun hr => by cases hr) (by simp [hfuture])
        fun hr => by cases hr
    · exact .single (resumeExecution_move (fun _ _ _ => cancelExecution_advance) h)
  · cases h

/-- A step is a sequence of moves. -/
theorem step_moves (hP : Starting cfg P s a) (h : step cfg s a = some t) :
    ReflTransGen (Move cfg P) s t := by
  have throttle {a : CommandThrottle.Action} (h : s.throttleStep cfg a = some t) :
      ReflTransGen (Move cfg P) s t := by
    obtain ⟨throttle, hstep, rfl⟩ := Option.map_eq_some_iff.mp h
    exact .single (.throttle hstep)
  cases a with
  | setValue => exact startCall_moves h hP
  | putParamset => exact startCall_moves h hP
  | granted => exact granted_moves h hP
  | operationEnded => exact .single (resumeExecution_move (fun _ _ _ => operationEnded_advance) h)
  | sleepEnded => exact .single (resumeExecution_move (fun _ _ _ => sleepEnded_advance) h)
  | recoveryEnded => exact .single (resumeExecution_move (fun _ _ _ => recoveryEnded_advance) h)
  | cancelCall => exact cancelCall_moves h
  | worker => exact throttle h
  | cancelWorker => exact throttle h
  | stopThrottle => exact throttle h
  | cancelRetries deviceAddress =>
    simp only [step] at h
    split at h
    · cases h
    · cases h
      exact .single (.cancel (s.retryHandler.retriesForDevice deviceAddress))
  | stop =>
    simp only [step] at h
    split at h
    · cases h
    · cases h
      exact .single (.cancel s.retryHandler.activeRetries.keys)

/-- What every move keeps, a sequence of moves keeps. -/
theorem moves_invariant {I : InterfaceClient V → Prop} (hI : ∀ s t, I s → Move cfg P s t → I t)
    (h : ReflTransGen (Move cfg P) s t) (hs : I s) : I t := by
  induction h with
  | refl => exact hs
  | tail _ hmove ih => exact hI _ _ ih hmove

end AioHomematic.Client.InterfaceClient
