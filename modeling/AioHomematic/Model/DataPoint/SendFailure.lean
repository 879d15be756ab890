import AioHomematic.Client.InterfaceClient.Supersede
import AioHomematic.Model.DataPoint

/-!
# What a call returns

A call that has ended after its execution returns what `callResult` makes of
the execution's outcome. `set_value` and `put_paramset` return `set()` for a
superseded command and wrap every other error of the library; `inspector` then
turns the wrapped one into `set()` too. So a call that fails in one of these
ways (`Failed`) does not raise.
-/

namespace AioHomematic.Client

open Lib

variable {V : Type*}

/-- The command has finally failed: its last attempt with an error of the library, or it was
superseded in the throttle. -/
inductive Call.Failed (c : Call V) : Prop where
  | attempts {e : Execution} {exc : PyException} (hexec : c.execution = some e)
      (hphase : e.phase = .finished (.error exc)) (hcls : exc.cls.isHomematic = true)
  | superseded (hexec : c.execution = none)
      (hresult : c.result = some (callResult (.error commandSuperseded)))

theorem callResult_of_homematic {exc : PyException} (h : exc.cls.isHomematic = true) :
    callResult (.error exc) = .ok .nothing := by
  unfold callResult translateOutcome
  dsimp only
  rw [if_pos h]
  split <;> rfl

namespace InterfaceClient

variable [DecidableEq V] {cfg : Config} {s t : InterfaceClient V} {P : StartCondition V}

/-- Every finished execution has been answered. -/
def Answered (s : InterfaceClient V) : Prop :=
  ∀ (c : Call V) (e : Execution) (outcome : Except PyException Unit),
    c ∈ s.calls → c.execution = some e → e.phase = .finished outcome →
    c.result = some (callResult outcome)

omit [DecidableEq V] in
theorem Answered.set {i : Nat} {c' : Call V} (hs : Answered s)
    (hanswered : ∀ (e : Execution) (outcome : Except PyException Unit), c'.execution = some e →
      e.phase = .finished outcome → c'.result = some (callResult outcome))
    (hcalls : t.calls = s.calls.set i c') : Answered t := by
  intro d e outcome hd hexec hphase
  rw [hcalls] at hd
  rcases List.mem_or_eq_of_mem_set hd with hold | rfl
  · exact hs d e outcome hold hexec hphase
  · exact hanswered e outcome hexec hphase

theorem Answered.continueCall {i : Nat} {c : Call V} (hs : Answered s)
    (r : Execution × CommandRetryHandler) : Answered (s.continueCall cfg i c r) := by
  unfold InterfaceClient.continueCall
  split
  · rename_i outcome hphase
    refine hs.set ?_ rfl
    rintro e outcome' he hphase'
    cases he
    rw [hphase] at hphase'
    cases hphase'
    rfl
  · rename_i hphase
    refine hs.set ?_ rfl
    rintro e outcome he hphase'
    cases he
    exact absurd hphase' (hphase outcome)

theorem Answered.move (hs : Answered s) (h : Move cfg P s t) : Answered t := by
  cases h with
  | cancel dpks => exact hs
  | throttle hstep => exact hs
  | create r =>
    intro c e outcome hc hexec
    rcases List.mem_append.mp hc with hold | hnew
    · exact hs c e outcome hold hexec
    · rw [List.mem_singleton.mp hnew] at hexec
      cases hexec
  | wait hc hfuture hlast hexec hresult hw haddress =>
    exact hs.set (fun e _ he => by simp [hexec] at he) rfl
  | reject hc hexec hresult => exact hs.set (fun e _ he => by simp [hexec] at he) rfl
  | start hc hexec hresult hgranted hlast hP =>
    exact Answered.continueCall (s := { s with inFlight := stageInFlight cfg _ s.inFlight }) hs _
  | proceed hc hexec hresult hadvance => exact hs.continueCall _

theorem reach_answered (h : (system cfg).Reach StepSystem.Free s) : Answered s := by
  obtain ⟨as, h⟩ := h
  refine steps_invariant (fun _ _ hs hmove => hs.move hmove) h ?_
  rintro c e outcome hc
  cases hc

end InterfaceClient

variable [DecidableEq V] {cfg : InterfaceClient.Config} {s : InterfaceClient V}

/-- A call that has failed returns `set()`: its caller sees no exception. -/
theorem Call.Failed.result {i : Nat} {c : Call V} (hfailed : c.Failed)
    (hreach : (InterfaceClient.system cfg).Reach StepSystem.Free s)
    (hc : s.calls[i]? = some c) : c.result = some (.ok .nothing) := by
  cases hfailed with
  | attempts hexec hphase hcls =>
    rw [InterfaceClient.reach_answered hreach c _ _ (List.mem_of_getElem? hc) hexec hphase,
      callResult_of_homematic hcls]
  | superseded hexec hresult =>
    rw [hresult, callResult_of_homematic rfl]

end AioHomematic.Client

/-!
## A direct send that fails

`send_value` rolls its optimistic value back where `set_value` raises. A command
that fails with an error of the library, or is superseded, does not make
`set_value` raise, so the optimistic value stays until events have confirmed
every pending send. `Received` are the events and loads that arrive while
`send_value` waits for `set_value`.
-/

namespace AioHomematic.Model

open Client Lib

variable {R P : Type*} [DecidableEq P]

/-- An event, or a load that obtains a value. -/
inductive Received (R : Type*) where
  | event (value : R) (receivedAt : Nat)
  | load (value : R) (writeAt : Nat)

namespace Received

def value : Received R → R
  | event value _ => value
  | load value _ => value

def isEvent : Received R → Bool
  | event _ _ => true
  | load _ _ => false

end Received

namespace DataPoint

def receive (d : DataPoint R P) : Received R → DataPoint R P
  | .event value receivedAt => d.event value receivedAt
  | .load value writeAt => d.load (.entry value) writeAt

/-- The value that is confirmed after `received`: the one stored before, if nothing came. -/
def confirmedAfter (d : DataPoint R P) (received : List (Received R)) : Option P :=
  received.foldl (fun _ r => d.info.convertValue r.value) d.storedValue

@[simp] theorem info_receive (d : DataPoint R P) (r : Received R) : (d.receive r).info = d.info := by
  cases r with
  | event v t => exact info_event ..
  | load v t => exact info_writeValue ..

theorem storedValue_receive (d : DataPoint R P) (r : Received R) :
    (d.receive r).storedValue = d.info.convertValue r.value := by
  cases r with
  | event v t =>
    exact (storedValue_eq_currentValue (unconfirmedRefreshedAt_event ..)).trans
      (currentValue_event ..)
  | load v t =>
    exact (storedValue_eq_currentValue (unconfirmedRefreshedAt_writeValue ..)).trans
      (currentValue_writeValue_entry ..)

theorem storedValue_foldl_receive (d : DataPoint R P) (received : List (Received R)) :
    (received.foldl receive d).storedValue = d.confirmedAfter received := by
  induction received generalizing d with
  | nil => rfl
  | cons r received ih =>
    rw [List.foldl_cons, ih, confirmedAfter, info_receive, storedValue_receive]
    rfl

theorem isActive_foldl_receive_of_inactive {d : DataPoint R P}
    (h : d.optimistic.isActive = false) (received : List (Received R)) :
    (received.foldl receive d).optimistic.isActive = false := by
  induction received generalizing d with
  | nil => exact h
  | cons r received ih =>
    apply ih
    cases r with
    | event v t =>
      show (d.event v t).optimistic.isActive = false
      rw [optimistic_event, isActive_confirmOptimistic, h, Bool.false_and]
    | load v t => exact (congrArg _ (optimistic_writeValue ..)).trans h

/-- An optimistic value lasts until as many events have come as sends were pending. -/
theorem isActive_foldl_receive {d : DataPoint R P} (hactive : d.optimistic.isActive = true)
    (hpending : d.optimistic.pendingSends ≠ 0) (received : List (Received R)) :
    (received.foldl receive d).optimistic.isActive = true ↔
      received.countP Received.isEvent < d.optimistic.pendingSends := by
  induction received generalizing d with
  | nil => simpa [hactive] using Nat.pos_of_ne_zero hpending
  | cons r received ih =>
    rw [List.foldl_cons]
    cases r with
    | load v t =>
      have hsame : (d.receive (.load v t)).optimistic = d.optimistic := optimistic_writeValue ..
      rw [ih (by rw [hsame]; exact hactive) (by rw [hsame]; exact hpending), hsame,
        List.countP_cons_of_neg (by simp [Received.isEvent])]
    | event v t =>
      have hleft : (d.receive (.event v t)).optimistic.pendingSends =
          d.optimistic.pendingSends - 1 := by
        show (d.event v t).optimistic.pendingSends = _
        rw [optimistic_event, pendingSends_confirmOptimistic, if_pos hactive]
      have hstill : (d.receive (.event v t)).optimistic.isActive =
          decide (d.optimistic.pendingSends - 1 ≠ 0) := by
        show (d.event v t).optimistic.isActive = _
        rw [optimistic_event, isActive_confirmOptimistic, hactive, Bool.true_and]
      rw [List.countP_cons_of_pos (by rfl)]
      by_cases hfinal : d.optimistic.pendingSends - 1 = 0
      · -- the final confirmation
        rw [isActive_foldl_receive_of_inactive (by rw [hstill]; simp [hfinal])]
        simp only [Bool.false_eq_true, false_iff]
        omega
      · rw [ih (by rw [hstill]; simp [hfinal]) (by rw [hleft]; exact hfinal), hleft]
        omega

/-! ## The send -/

variable {cfg : InterfaceClient.Config} {s : InterfaceClient (Option P)}

/-- **Direct send failure**: when the command of a direct send has failed, its optimistic value is
gone and the confirmed value is shown exactly where the sent value is `None` or events have
meanwhile confirmed all pending sends. -/
theorem send_failure {d d' : DataPoint R P} {value : R} {ctx : SendContext} {i : Nat}
    {c : Call (Option P)} {result : Except PyException CallResult}
    (happlies : appliesOptimistic d.info = true)
    (hsend : d.sendValue value ctx = some (d', c.request))
    (hreach : (InterfaceClient.system cfg).Reach StepSystem.Free s) (hc : s.calls[i]? = some c)
    (hfailed : c.Failed) (hresult : c.result = some result) (received : List (Received R)) :
    let ended := (received.foldl receive d').sendValueEnded result
    (ended.isOptimistic = false ∧ ended.value = d.confirmedAfter received) ↔
      (d.convertForSending value ctx.doValidate = some none ∨
        d.optimistic.pendingSends < received.countP Received.isEvent) := by
  obtain ⟨converted, hconverted, rfl, -⟩ := sendValue_eq hsend
  have hnothing : result = .ok .nothing := by
    rw [hfailed.result hreach hc] at hresult
    exact (Option.some.inj hresult).symm
  subst hnothing
  intro ended
  have hstored : ended.storedValue = d.confirmedAfter received := by
    refine (storedValue_foldl_receive _ _).trans ?_
    rw [confirmedAfter, confirmedAfter, info_applyOptimisticValue, storedValue_applyOptimisticValue]
  have hvalue : ended.isOptimistic = false → ended.value = d.confirmedAfter received :=
    fun h => (value_of_inactive h).trans hstored
  have hoptimistic : (d.applyOptimisticValue converted ctx.now).optimistic =
      (d.optimistic.apply converted d.storedValue ctx.now).scheduleRollback := by
    rw [applyOptimisticValue_of_applies happlies]
  rw [and_iff_left_of_imp hvalue, hconverted]
  cases converted with
  | none =>
    refine iff_of_true (isActive_foldl_receive_of_inactive ?_ received) (.inl rfl)
    rw [hoptimistic]
    rfl
  | some v =>
    have hlasts := isActive_foldl_receive
      (d := d.applyOptimisticValue (some v) ctx.now) (by rw [hoptimistic]; rfl)
      (by rw [hoptimistic]; exact Nat.succ_ne_zero _) received
    rw [hoptimistic] at hlasts
    have hnot : ended.isOptimistic = false ↔
        ¬ received.countP Received.isEvent < d.optimistic.pendingSends + 1 := by
      rw [← Bool.not_eq_true]
      exact not_congr hlasts
    rw [hnot]
    simp only [Option.some.injEq, reduceCtorEq, false_or]
    omega

/-! ## A send that the backend refuses -/

/-- A level that is received as it is and was last confirmed as 10. -/
def sampleLevel : DataPoint Nat Nat where
  info := { dpk := ⟨"CCU-HmIP-RF", "VCU1:3", .values, "LEVEL"⟩, convertValue := some }
  currentValue := some 10
  stateUncertain := false
  modifiedAt := 100
  refreshedAt := 100

def sampleClient : InterfaceClient.Config where
  interfaceId := "CCU-HmIP-RF"
  throttle := { interval := 0, burstWindow := 500 }

/-- The command for 50 is answered with an error that is not retried. -/
def sampleRefused : List (InterfaceClient.Action (Option Nat)) :=
  [.setValue "VCU1:3" .values "LEVEL" (some 50) (some .high) [] true none 200 200,
    .operationEnded 0 (.error { cls := .clientException })]

theorem sampleRefused_failed :
    ∃ s c, (InterfaceClient.system sampleClient).Reach StepSystem.Free s ∧
      s.calls[0]? = some c ∧ c.Failed ∧ c.result = some (.ok .nothing) ∧
      sampleLevel.sendValue 50 {} =
        some (sampleLevel.applyOptimisticValue (some 50) 0, c.request) := by
  refine ⟨_, _, ⟨sampleRefused, .cons trivial rfl (.cons trivial rfl (.nil _))⟩, rfl, ?_, rfl, rfl⟩
  exact @Call.Failed.attempts _ _ _ { cls := .clientException } rfl rfl rfl

/-- An event of the backend has come first: nothing is left of the send. -/
theorem send_failure_confirmed :
    ∃ (s : InterfaceClient (Option Nat)) (c : Call (Option Nat)),
      (InterfaceClient.system sampleClient).Reach StepSystem.Free s ∧
      s.calls[0]? = some c ∧ c.Failed ∧
      let confirmed := (sampleLevel.applyOptimisticValue (some 50) 0).event 50 300
      let ended := confirmed.sendValueEnded (.ok .nothing)
      ended.isOptimistic = false ∧ ended.value = some 50 := by
  obtain ⟨s, c, hreach, hc, hfailed, hresult, hsend⟩ := sampleRefused_failed
  have hgone := (send_failure rfl hsend hreach hc hfailed hresult [.event 50 300]).mpr
    (.inr (by decide))
  exact ⟨s, c, hreach, hc, hfailed, hgone⟩

/-- Without one, the data point goes on showing 50, which the backend has refused. -/
theorem send_failure_lingers :
    ∃ s c, (InterfaceClient.system sampleClient).Reach StepSystem.Free s ∧
      s.calls[0]? = some c ∧ c.Failed ∧ c.result = some (.ok .nothing) ∧
      ∃ d, sampleLevel.sendValue 50 {} = some (d, c.request) ∧
        (d.sendValueEnded (.ok .nothing)).isOptimistic = true ∧
        (d.sendValueEnded (.ok .nothing)).value = some 50 ∧ sampleLevel.value = some 10 := by
  obtain ⟨s, c, hreach, hc, hfailed, hresult, hsend⟩ := sampleRefused_failed
  exact ⟨s, c, hreach, hc, hfailed, hresult, _, hsend, rfl, rfl, rfl⟩

end DataPoint

end AioHomematic.Model
