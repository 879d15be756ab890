import AioHomematic.Client.CommandRetry.Supersede

/-!
# How a retried call ends

A log for each `execute_with_retry` call says how its waits and the calls of its operation have
ended. It only listens: `Logged.system` takes the steps of `RetryRun.system`. `Accords` says what
a call is after its log, and `Current` which call is registered for a key.

What the operation returns is passed on unseen, so it is the outcome of the last call.
-/

namespace AioHomematic.Client

open Lib

/-! ## Logs -/

inductive Happening where
  /-- The operation has returned or raised. -/
  | ended (outcome : Except PyException Unit)
  /-- The delay is over or the connection has recovered; whether the cancel event is set. -/
  | woken (isSet : Bool)
  /-- The wait for the recovery was too long; whether the cancel event is set. -/
  | timedOut (isSet : Bool)
  /-- `CancelledError` in a wait. -/
  | cancelled

namespace Happening

/-- The operation may be called again. -/
def goesOn : Happening → Bool
  | ended (.ok ()) => false
  | ended (.error exc) => isRetryable exc
  | woken isSet => !isSet
  | timedOut _ => false
  | cancelled => false

def outcome? : Happening → Option (Except PyException Unit)
  | ended outcome => some outcome
  | _ => none

end Happening

/-- The outcomes of the operation, in the order of its calls. -/
def outcomes (log : List Happening) : List (Except PyException Unit) :=
  log.filterMap Happening.outcome?

namespace Execution

open CommandRetryHandler

/-- What a resumption tells the log. -/
def happening (e : Execution) (h : CommandRetryHandler) : Resumption → Happening
  | .operationEnded outcome => .ended outcome
  | .sleepEnded => .woken (e.event.any (h.isSet ·))
  | .recoveryEnded true => .woken (e.event.any (h.isSet ·))
  | .recoveryEnded false => .timedOut (e.event.any (h.isSet ·))
  | .cancelled =>
    match e.phase with
    | .attempting => .ended (.error taskCancelled)
    | _ => .cancelled

end Execution

structure LoggedRun where
  run : RetryRun := {}
  logs : List (List Happening) := []

namespace LoggedRun

/-- The logs after a step. -/
def nextLogs (s : LoggedRun) : RetryRun.Action → List (List Happening)
  | .execute _ _ => s.logs ++ [[]]
  | .resume i x =>
    match s.run.executions[i]?, s.logs[i]? with
    | some e, some log => s.logs.set i (log ++ [e.happening s.run.handler x])
    | _, _ => s.logs
  | _ => s.logs

def system (maxAttempts : Int) : StepSystem LoggedRun RetryRun.Action where
  init := {}
  step s a := (s.run.step maxAttempts a).map fun run => ⟨run, s.nextLogs a⟩

open StepSystem

variable {maxAttempts : Int} {s t : LoggedRun} {a : RetryRun.Action}

/-- The log listens to every run. -/
theorem steps_of_steps {run run' : RetryRun} {as : List RetryRun.Action}
    (h : (RetryRun.system maxAttempts).Steps Free run as run') (logs : List (List Happening)) :
    ∃ logs', (system maxAttempts).Steps Free ⟨run, logs⟩ as ⟨run', logs'⟩ := by
  induction h generalizing logs with
  | nil run => exact ⟨logs, .nil _⟩
  | cons _ hstep _ ih =>
    obtain ⟨logs', hsteps⟩ := ih (nextLogs ⟨_, logs⟩ _)
    have hlogged : (system maxAttempts).step ⟨_, logs⟩ _ = some ⟨_, nextLogs ⟨_, logs⟩ _⟩ :=
      Option.map_eq_some_iff.mpr ⟨_, hstep, rfl⟩
    exact ⟨logs', .cons trivial hlogged hsteps⟩

/-- And it adds none. -/
theorem steps_run {as : List RetryRun.Action} (h : (system maxAttempts).Steps Free s as t) :
    (RetryRun.system maxAttempts).Steps Free s.run as t.run := by
  induction h with
  | nil s => exact .nil _
  | cons _ hstep _ ih =>
    obtain ⟨run, hrun, rfl⟩ := Option.map_eq_some_iff.mp hstep
    exact .cons trivial hrun ih

theorem reach_run (h : (system maxAttempts).Reach Free s) :
    (RetryRun.system maxAttempts).Reach Free s.run := by
  obtain ⟨as, h⟩ := h
  exact ⟨as, steps_run h⟩

end LoggedRun

/-! ## A call and its log -/

/-- How a call ends after its last happening. -/
def Ends (maxAttempts : Int) (log : List Happening) (outcome : Except PyException Unit) :
    Happening → Prop
  | .ended outcome' => outcome = outcome' ∧ ∀ exc, outcome' = .error exc →
      isRetryable exc = false ∨ maxAttempts ≤ (outcomes log).length
  | .woken isSet => isSet = true ∧ outcome = .error commandSuperseded
  | .timedOut true => outcome = .error commandSuperseded
  | .timedOut false => (outcomes log).getLast? = some outcome
  | .cancelled => outcome = .error taskCancelled

/-- The calls of the operation, the present one included. -/
def invocations (e : Execution) (log : List Happening) : Nat :=
  match e.phase with
  | .attempting => (outcomes log).length + 1
  | _ => (outcomes log).length

/-- What a call with retry is after its log. -/
structure Accords (maxAttempts : Int) (e : Execution) (log : List Happening) : Prop where
  attempt : e.attempt = invocations e log
  bounded : e.attempt ≤ maxAttempts
  waits : e.Waits → e.attempt < maxAttempts
  goesOn : ¬ e.Finished → ∀ x ∈ log, x.goesOn = true
  recovering : ∀ exc, e.phase = .recovering exc → (outcomes log).getLast? = some (.error exc)
  finished : ∀ outcome, e.phase = .finished outcome →
    ∃ log' x, log = log' ++ [x] ∧ (∀ y ∈ log', y.goesOn = true) ∧ Ends maxAttempts log outcome x

namespace Accords

open CommandRetryHandler Execution

variable {maxAttempts : Int} {e : Execution} {h : CommandRetryHandler} {log : List Happening}

theorem outcomes_concat (log : List Happening) (x : Happening) :
    outcomes (log ++ [x]) = outcomes log ++ x.outcome?.toList := by
  rw [outcomes, outcomes, List.filterMap_append]
  cases hx : x.outcome? with
  | none => rw [List.filterMap_cons_none hx, List.filterMap_nil, Option.toList_none]
  | some outcome => rw [List.filterMap_cons_some hx, List.filterMap_nil, Option.toList_some]

theorem not_waits_finish {outcome : Except PyException Unit} :
    ¬ (e.finish outcome h).1.Waits :=
  finish_attempt.2

/-- The call is over. -/
theorem finish {outcome : Except PyException Unit} {x : Happening}
    (hattempt : e.attempt = (outcomes (log ++ [x])).length) (hbounded : e.attempt ≤ maxAttempts)
    (hlog : ∀ y ∈ log, y.goesOn = true) (hends : Ends maxAttempts (log ++ [x]) outcome x) :
    Accords maxAttempts (e.finish outcome h).1 (log ++ [x]) where
  attempt := hattempt
  bounded := hbounded
  waits hw := absurd hw not_waits_finish
  goesOn hopen := absurd ⟨outcome, rfl⟩ hopen
  recovering exc hphase := by cases hphase
  finished outcome' hphase := by
    cases hphase
    exact ⟨log, x, rfl, hlog, hends⟩

theorem forall_goesOn_concat {x : Happening} (hlog : ∀ y ∈ log, y.goesOn = true)
    (hx : x.goesOn = true) : ∀ y ∈ log ++ [x], y.goesOn = true := by
  intro y hy
  rcases List.mem_append.mp hy with hy | hy
  · exact hlog y hy
  · rw [List.mem_singleton.mp hy]
    exact hx

/-- The operation has ended. -/
theorem operationEnded {event : Nat} (hev : e.event = some event) (hphase : e.phase = .attempting)
    (ha : Accords maxAttempts e log) (outcome : Except PyException Unit) :
    Accords maxAttempts (e.operationEnded maxAttempts outcome h).1 (log ++ [.ended outcome]) := by
  have hlog : ∀ y ∈ log, y.goesOn = true := by
    refine ha.goesOn ?_
    rintro ⟨outcome', hfinished⟩
    rw [hphase] at hfinished
    cases hfinished
  have houtcomes : outcomes (log ++ [.ended outcome]) = outcomes log ++ [outcome] :=
    outcomes_concat log _
  have hattempt : e.attempt = (outcomes (log ++ [.ended outcome])).length := by
    have hinvocations := ha.attempt
    rw [invocations, hphase] at hinvocations
    rw [hinvocations, houtcomes, List.length_append, List.length_singleton]
  have hfinish {h : CommandRetryHandler}
      (hlast : ∀ exc, outcome = .error exc → isRetryable exc = false ∨ maxAttempts ≤ e.attempt) :
      Accords maxAttempts (e.finish outcome h).1 (log ++ [.ended outcome]) := by
    refine finish hattempt ha.bounded hlog ⟨rfl, fun exc hexc => ?_⟩
    rw [← hattempt]
    exact hlast exc hexc
  unfold Execution.operationEnded
  rw [hev]
  cases outcome with
  | ok u =>
    dsimp only
    split
    · exact hfinish nofun
    · exact hfinish nofun
  | error exc =>
    dsimp only
    split
    next hpermanent =>
      exact hfinish fun exc' hexc => by cases hexc; exact .inl hpermanent
    next hretryable =>
      split
      next hlast => exact hfinish fun _ _ => .inr hlast
      next hleft =>
        have hlt : e.attempt < maxAttempts := not_le.mp hleft
        have hgoes := forall_goesOn_concat hlog (x := .ended (.error exc))
          (eq_true_of_ne_false hretryable)
        have hlast : (outcomes (log ++ [.ended (.error exc)])).getLast? = some (.error exc) := by
          rw [houtcomes, List.getLast?_concat]
        split
        · refine ⟨hattempt, ha.bounded, fun _ => hlt, fun _ => hgoes, fun exc' hphase => ?_,
            fun outcome hphase => ?_⟩
          · cases hphase
            exact hlast
          · cases hphase
        · refine ⟨hattempt, ha.bounded, fun _ => hlt, fun _ => hgoes, fun exc' hphase => ?_,
            fun outcome hphase => ?_⟩
          · cases hphase
          · cases hphase

/-- A call that waits has heard the end of every call of its operation. -/
theorem of_waits (hw : e.Waits) (ha : Accords maxAttempts e log) {x : Happening}
    (hnone : x.outcome? = none) :
    ¬ e.Finished ∧ outcomes (log ++ [x]) = outcomes log ∧
      e.attempt = (outcomes (log ++ [x])).length := by
  have houtcomes : outcomes (log ++ [x]) = outcomes log := by
    rw [outcomes_concat, hnone, Option.toList_none, List.append_nil]
  refine ⟨?_, houtcomes, ?_⟩
  · rintro ⟨outcome, hfinished⟩
    rcases hw with hphase | ⟨exc, hphase⟩ <;> rw [hphase] at hfinished <;> cases hfinished
  · have hinvocations := ha.attempt
    rw [houtcomes]
    rcases hw with hphase | ⟨exc, hphase⟩ <;> rwa [invocations, hphase] at hinvocations

/-- A wait with which the call ends. -/
theorem finishWait {outcome : Except PyException Unit} (hw : e.Waits)
    (ha : Accords maxAttempts e log) {x : Happening} (hnone : x.outcome? = none)
    (hends : Ends maxAttempts (log ++ [x]) outcome x) :
    Accords maxAttempts (e.finish outcome h).1 (log ++ [x]) := by
  obtain ⟨hopen, -, hattempt⟩ := of_waits hw ha hnone
  exact finish hattempt ha.bounded (ha.goesOn hopen) hends

/-- A wait that a next attempt follows, unless the cancel event is set. -/
theorem nextAttempt {event : Nat} (hev : e.event = some event) (hw : e.Waits)
    (ha : Accords maxAttempts e log) {x : Happening} (hnone : x.outcome? = none)
    (hset : h.isSet event → Ends maxAttempts (log ++ [x]) (.error commandSuperseded) x)
    (hunset : ¬ h.isSet event → x.goesOn = true) :
    Accords maxAttempts (e.nextAttempt h).1 (log ++ [x]) := by
  obtain ⟨hopen, -, hattempt⟩ := of_waits hw ha hnone
  have hlt := ha.waits hw
  unfold Execution.nextAttempt
  rw [hev]
  dsimp only
  split
  next hisSet => exact finishWait hw ha hnone (hset hisSet)
  next hisUnset =>
    refine ⟨?_, ?_, ?_, fun _ => forall_goesOn_concat (ha.goesOn hopen) (hunset hisUnset), ?_, ?_⟩
    · show e.attempt + 1 = (outcomes (log ++ [x])).length + 1
      rw [hattempt]
    · show ((e.attempt + 1 : Nat) : Int) ≤ maxAttempts
      omega
    · rintro (hphase | ⟨exc, hphase⟩) <;> cases hphase
    · intro exc hphase
      cases hphase
    · intro outcome hphase
      cases hphase

theorem any_isSet {event : Nat} (hev : e.event = some event) :
    e.event.any (h.isSet ·) = decide (h.isSet event) := by
  rw [hev, Option.any_some]

/-- One resumption. -/
theorem resume (hevent : e.event ≠ none) (ha : Accords maxAttempts e log) {x : Resumption}
    {r : Execution × CommandRetryHandler} (hr : e.resume maxAttempts x h = some r) :
    Accords maxAttempts r.1 (log ++ [e.happening h x]) := by
  obtain ⟨event, hev⟩ := Option.ne_none_iff_exists'.mp hevent
  have hopen := not_finished_of_resume hr
  unfold Execution.resume at hr
  split at hr
  next outcome hphase =>
    cases hr
    exact ha.operationEnded hev hphase outcome
  next hphase =>
    cases hr
    rw [happening, hphase]
    exact ha.operationEnded hev hphase _
  next hphase =>
    cases hr
    rw [happening, any_isSet hev]
    exact ha.nextAttempt hev (.inl hphase) rfl (fun hset => ⟨decide_eq_true hset, rfl⟩)
      fun hunset => by rw [Happening.goesOn, decide_eq_false hunset]; rfl
  next hphase =>
    cases hr
    rw [happening, hphase]
    exact ha.finishWait (.inl hphase) rfl rfl
  next exc recovered hphase =>
    cases hr
    have hw : e.Waits := .inr ⟨exc, hphase⟩
    unfold recoveryEnded
    rw [hev]
    dsimp only
    cases recovered with
    | true =>
      rw [if_pos (.inr rfl), happening, any_isSet hev]
      exact ha.nextAttempt hev hw rfl (fun hset => ⟨decide_eq_true hset, rfl⟩)
        fun hunset => by rw [Happening.goesOn, decide_eq_false hunset]; rfl
    | false =>
      rw [happening, any_isSet hev]
      split
      next hset =>
        have hset : h.isSet event := hset.resolve_right nofun
        rw [decide_eq_true hset]
        exact ha.nextAttempt hev hw rfl (fun _ => rfl) fun hunset => absurd hset hunset
      next hunset =>
        rw [decide_eq_false fun hset => hunset (.inl hset)]
        refine ha.finishWait hw rfl ?_
        show (outcomes (log ++ [.timedOut false])).getLast? = _
        rw [(of_waits hw ha rfl).2.1]
        exact ha.recovering exc hphase
  next exc hphase =>
    cases hr
    rw [happening, hphase]
    exact ha.finishWait (.inr ⟨exc, hphase⟩) rfl rfl
  · cases hr

/-- The first attempt of a call that registers. -/
theorem executeWithRetry {dpk : DataPointKey} {retry : Bool}
    (hevent : (Execution.executeWithRetry maxAttempts dpk retry h).1.event ≠ none) :
    Accords maxAttempts (Execution.executeWithRetry maxAttempts dpk retry h).1 [] := by
  unfold Execution.executeWithRetry at hevent ⊢
  split at hevent
  · exact absurd rfl hevent
  next hretry =>
    rw [if_neg hretry]
    have hpositive : ¬ maxAttempts ≤ 0 := fun hle => hretry (.inr hle)
    refine ⟨rfl, ?_, ?_, fun _ => nofun, ?_, ?_⟩
    · show ((1 : Nat) : Int) ≤ maxAttempts
      omega
    · rintro (hphase | ⟨exc, hphase⟩) <;> cases hphase
    · intro exc hphase
      cases hphase
    · intro outcome hphase
      cases hphase

end Accords

namespace LoggedRun

open StepSystem CommandRetryHandler

variable {maxAttempts : Int} {s t : LoggedRun} {a : RetryRun.Action}

/-- Every call with retry is what its log says. -/
structure Faithful (maxAttempts : Int) (s : LoggedRun) : Prop where
  length : s.logs.length = s.run.executions.length
  accords : ∀ (i : Nat) (e : Execution) (log : List Happening), s.run.executions[i]? = some e →
    s.logs[i]? = some log → e.event ≠ none → Accords maxAttempts e log

theorem Faithful.execute (h : Faithful maxAttempts s) {dpk : DataPointKey} {retry : Bool}
    (hstep : (system maxAttempts).step s (.execute dpk retry) = some t) :
    Faithful maxAttempts t := by
  cases hstep
  refine ⟨?_, fun i e log he hlog hevent => ?_⟩
  · show (s.logs ++ [[]]).length = (s.run.executions ++ [_]).length
    rw [List.length_append, List.length_append, h.length]
    rfl
  · rcases getElem?_concat_cases he with he | ⟨rfl, rfl⟩
    · rcases getElem?_concat_cases hlog with hlog | ⟨rfl, -⟩
      · exact h.accords i e log he hlog hevent
      · rw [h.length] at he
        exact absurd (List.getElem?_eq_some_iff.mp he).1 (lt_irrefl _)
    · rcases getElem?_concat_cases hlog with hlog | ⟨-, rfl⟩
      · rw [← h.length] at hlog
        exact absurd (List.getElem?_eq_some_iff.mp hlog).1 (lt_irrefl _)
      · exact Accords.executeWithRetry hevent

theorem Faithful.resume (h : Faithful maxAttempts s) {i : Nat} {x : Resumption}
    (hstep : (system maxAttempts).step s (.resume i x) = some t) : Faithful maxAttempts t := by
  obtain ⟨run, hrun, rfl⟩ := Option.map_eq_some_iff.mp hstep
  obtain ⟨e, he, hresume⟩ := Option.bind_eq_some_iff.mp hrun
  obtain ⟨r, hr, rfl⟩ := Option.map_eq_some_iff.mp hresume
  obtain ⟨log, hlog⟩ : ∃ log, s.logs[i]? = some log := by
    have hlt := (List.getElem?_eq_some_iff.mp he).1
    rw [← h.length] at hlt
    exact ⟨_, List.getElem?_eq_getElem hlt⟩
  have hlogs : s.nextLogs (.resume i x) =
      s.logs.set i (log ++ [e.happening s.run.handler x]) := by
    simp only [nextLogs, he, hlog]
  rw [hlogs]
  refine ⟨?_, fun j d log' hd hlog' hevent => ?_⟩
  · rw [List.length_set, List.length_set, h.length]
  · rcases getElem?_set_cases hd with ⟨rfl, rfl⟩ | ⟨hne, hd⟩
    · rcases getElem?_set_cases hlog' with ⟨-, rfl⟩ | ⟨hne, -⟩
      · rw [(Execution.resume_advance hr).event] at hevent
        exact (h.accords i e log he hlog hevent).resume hevent hr
      · exact absurd rfl hne
    · rcases getElem?_set_cases hlog' with ⟨heq, -⟩ | ⟨-, hlog'⟩
      · exact absurd heq hne
      · exact h.accords j d log' hd hlog' hevent

theorem Faithful.step (h : Faithful maxAttempts s)
    (hstep : (system maxAttempts).step s a = some t) : Faithful maxAttempts t := by
  cases a with
  | execute dpk retry => exact h.execute hstep
  | resume i x => exact h.resume hstep
  | cancelRetriesForDevice deviceAddress => cases hstep; exact ⟨h.length, h.accords⟩
  | cancelRetriesForDpk dpk => cases hstep; exact ⟨h.length, h.accords⟩
  | cancelRetriesForInterface => cases hstep; exact ⟨h.length, h.accords⟩

theorem reach_faithful (h : (system maxAttempts).Reach Free s) : Faithful maxAttempts s :=
  h.invariant ⟨rfl, fun i e log he => by simp [system] at he⟩ fun _ _ _ hs _ hstep => hs.step hstep

end LoggedRun

/-! ## Who is registered -/

namespace Execution

open CommandRetryHandler

variable {maxAttempts : Int} {e : Execution} {h : CommandRetryHandler} {event : Nat}

/-- A call that is over is not registered. -/
def Unregisters (e : Execution) (event : Nat) (r : Execution × CommandRetryHandler) : Prop :=
  r.1.Finished → r.2.activeRetries.get? e.dpk ≠ some event

theorem finish_unregisters (hev : e.event = some event) (outcome : Except PyException Unit) :
    e.Unregisters event (e.finish outcome h) := by
  intro _
  unfold finish
  rw [hev]
  dsimp only
  unfold unregister
  split
  · rw [Dict.get?_erase_self]
    exact (Option.some_ne_none event).symm
  · assumption

theorem nextAttempt_unregisters (hev : e.event = some event) :
    e.Unregisters event (e.nextAttempt h) := by
  unfold nextAttempt
  rw [hev]
  dsimp only
  split
  · exact finish_unregisters hev _
  · rintro ⟨outcome, hphase⟩
    cases hphase

theorem operationEnded_unregisters (hev : e.event = some event)
    (outcome : Except PyException Unit) :
    e.Unregisters event (e.operationEnded maxAttempts outcome h) := by
  unfold operationEnded
  rw [hev]
  cases outcome with
  | ok u =>
    dsimp only
    split
    · exact finish_unregisters hev _
    · exact finish_unregisters hev _
  | error exc =>
    dsimp only
    split
    · exact finish_unregisters hev _
    · split
      · exact finish_unregisters hev _
      · split
        · rintro ⟨outcome, hphase⟩
          cases hphase
        · rintro ⟨outcome, hphase⟩
          cases hphase

theorem resume_unregisters (hev : e.event = some event) {x : Resumption}
    {r : Execution × CommandRetryHandler} (hr : e.resume maxAttempts x h = some r) :
    e.Unregisters event r := by
  unfold resume at hr
  split at hr
  · cases hr
    exact operationEnded_unregisters hev _
  · cases hr
    exact operationEnded_unregisters hev _
  · cases hr
    exact nextAttempt_unregisters hev
  · cases hr
    exact finish_unregisters hev _
  · cases hr
    unfold recoveryEnded
    rw [hev]
    dsimp only
    split
    · exact nextAttempt_unregisters hev
    · exact finish_unregisters hev _
  · cases hr
    exact finish_unregisters hev _
  · cases hr

/-- A call with retry that is neither over nor cancelled. -/
def Open (h : CommandRetryHandler) (e : Execution) (event : Nat) : Prop :=
  ¬ e.Finished ∧ e.event = some event ∧ ¬ h.isSet event

end Execution

namespace CommandRetryHandler

variable {executions : List Execution} {h : CommandRetryHandler}

/-- Every registration is that of an open call. -/
structure Backed (executions : List Execution) (h : CommandRetryHandler) : Prop where
  bounded : h.Bounded
  distinct : ∀ dpk dpk' event, h.activeRetries.get? dpk = some event →
    h.activeRetries.get? dpk' = some event → dpk = dpk'
  backed : ∀ dpk event, h.activeRetries.get? dpk = some event →
    ∃ (i : Nat) (e : Execution), executions[i]? = some e ∧ e.dpk = dpk ∧ e.Open h event

theorem Backed.init : Backed [] {} where
  bounded dpk event hget := by cases hget
  distinct dpk dpk' event hget := by cases hget
  backed dpk event hget := by cases hget

theorem isSet_cancelEvent {event event' : Nat} (hlt : event < h.cancelEvents.length) :
    (h.cancelEvent event).isSet event' ↔ event' = event ∨ h.isSet event' :=
  isSet_set hlt

theorem Backed.cancelRetryForDpk (hb : Backed executions h) (dpk : DataPointKey) :
    Backed executions (h.cancelRetryForDpk dpk) := by
  have hbounded := cancelRetryForDpk_bounded hb.bounded dpk
  unfold CommandRetryHandler.cancelRetryForDpk at hbounded ⊢
  split at hbounded
  next event hreg =>
    have hkept {dpk' : DataPointKey} {event' : Nat}
        (hget : (h.activeRetries.erase dpk).get? dpk' = some event') :
        dpk ≠ dpk' ∧ h.activeRetries.get? dpk' = some event' := by
      rwa [Dict.get?_erase, Option.ite_none_left_eq_some] at hget
    refine ⟨hbounded, fun dpk₁ dpk₂ event' hget hget' => ?_, fun dpk' event' hget => ?_⟩
    · exact hb.distinct dpk₁ dpk₂ event' (hkept hget).2 (hkept hget').2
    · obtain ⟨hne, hold⟩ := hkept hget
      obtain ⟨i, e, he, hdpk, hopen, hev, hunset⟩ := hb.backed dpk' event' hold
      refine ⟨i, e, he, hdpk, hopen, hev, fun hset => ?_⟩
      rcases (isSet_cancelEvent (hb.bounded dpk event hreg)).mp hset with rfl | hset
      · exact hne (hb.distinct dpk dpk' event' hreg hold)
      · exact hunset hset
  · exact hb

theorem Backed.foldl_cancel (hb : Backed executions h) (keys : List DataPointKey) :
    Backed executions (keys.foldl CommandRetryHandler.cancelRetryForDpk h) := by
  induction keys generalizing h with
  | nil => exact hb
  | cons key keys ih => exact ih (hb.cancelRetryForDpk key)

/-- A call that registers. -/
theorem Backed.registerRetry (hb : Backed executions h) {dpk : DataPointKey} {e : Execution}
    (hdpk : e.dpk = dpk) (hopen : ¬ e.Finished) (hev : e.event = some h.cancelEvents.length) :
    Backed (executions ++ [e]) (CommandRetryHandler.registerRetry dpk h).2 := by
  obtain ⟨-, -, hactive, hbounded, -, -⟩ := registerRetry_spec hb.bounded dpk
  -- no event is set but that of the registration that is superseded
  have hset (event' : Nat) (hset : (CommandRetryHandler.registerRetry dpk h).2.isSet event') :
      h.isSet event' ∨ h.activeRetries.get? dpk = some event' := by
    unfold CommandRetryHandler.registerRetry at hset
    have hconcat {events : List Bool}
        (hget : (events ++ [false])[event']? = some true) : events[event']? = some true := by
      rcases getElem?_concat_cases hget with hget | ⟨-, hfalse⟩
      · exact hget
      · cases hfalse
    cases hreg : h.activeRetries.get? dpk with
    | none =>
      rw [hreg] at hset
      exact .inl (hconcat hset)
    | some existing =>
      rw [hreg] at hset
      rcases (isSet_cancelEvent (hb.bounded dpk existing hreg)).mp (hconcat hset) with rfl | hset
      · exact .inr rfl
      · exact .inl hset
  have hold {dpk' : DataPointKey} {event' : Nat}
      (hget : (CommandRetryHandler.registerRetry dpk h).2.activeRetries.get? dpk' = some event') :
      dpk = dpk' ∧ event' = h.cancelEvents.length ∨
        dpk ≠ dpk' ∧ h.activeRetries.get? dpk' = some event' := by
    rw [hactive, Dict.get?_set] at hget
    split at hget
    next heq => exact .inl ⟨heq, (Option.some.inj hget).symm⟩
    next hne => exact .inr ⟨hne, hget⟩
  have hnew {dpk' : DataPointKey} (hget : h.activeRetries.get? dpk' = some h.cancelEvents.length) :
      False :=
    lt_irrefl _ (hb.bounded dpk' _ hget)
  refine ⟨hbounded, fun dpk₁ dpk₂ event' hget hget' => ?_, fun dpk' event' hget => ?_⟩
  · rcases hold hget with ⟨rfl, rfl⟩ | ⟨-, hget⟩
    · rcases hold hget' with ⟨rfl, -⟩ | ⟨-, hget'⟩
      · rfl
      · exact (hnew hget').elim
    · rcases hold hget' with ⟨rfl, rfl⟩ | ⟨-, hget'⟩
      · exact (hnew hget).elim
      · exact hb.distinct dpk₁ dpk₂ event' hget hget'
  · rcases hold hget with ⟨rfl, rfl⟩ | ⟨hne, hget⟩
    · refine ⟨executions.length, e, List.getElem?_concat_length, hdpk, hopen, hev, fun hisSet => ?_⟩
      rcases hset _ hisSet with hisSet | hreg
      · exact lt_irrefl _ (List.getElem?_eq_some_iff.mp hisSet).1
      · exact hnew hreg
    · obtain ⟨i, e', he', hdpk', hopen', hev', hunset⟩ := hb.backed dpk' event' hget
      refine ⟨i, e', getElem?_concat_of_some he' e, hdpk', hopen', hev', fun hisSet => ?_⟩
      rcases hset _ hisSet with hisSet | hreg
      · exact hunset hisSet
      · exact hne (hb.distinct dpk dpk' event' hreg hget)

end CommandRetryHandler

namespace RetryRun

open StepSystem CommandRetryHandler

variable {maxAttempts : Int} {s t : RetryRun} {a : Action}

theorem backed_resume (hb : Backed s.executions s.handler) {i : Nat} {e : Execution}
    (he : s.executions[i]? = some e) {x : Resumption}
    {r : Execution × CommandRetryHandler} (hr : e.resume maxAttempts x s.handler = some r) :
    Backed (s.executions.set i r.1) r.2 := by
  have hadvance := Execution.resume_advance hr
  have hkept {dpk : DataPointKey} {event : Nat} (hget : r.2.activeRetries.get? dpk = some event) :
      s.handler.activeRetries.get? dpk = some event := by
    rcases hadvance.registrations with hsame | ⟨-, _, -, -, herase⟩
    · rwa [hsame] at hget
    · rw [herase, Dict.get?_erase, Option.ite_none_left_eq_some] at hget
      exact hget.2
  have hset {event : Nat} (hunset : ¬ s.handler.isSet event) : ¬ r.2.isSet event := by
    unfold isSet at hunset ⊢
    rwa [hadvance.events]
  refine ⟨fun dpk event hget => ?_, fun dpk dpk' event hget hget' => ?_,
    fun dpk event hget => ?_⟩
  · rw [hadvance.events]
    exact hb.bounded dpk event (hkept hget)
  · exact hb.distinct dpk dpk' event (hkept hget) (hkept hget')
  · obtain ⟨j, d, hd, rfl, hopen, hev, hunset⟩ := hb.backed dpk event (hkept hget)
    by_cases hij : i = j
    · subst hij
      rw [he] at hd
      cases hd
      refine ⟨i, r.1, getElem?_set_self_of_some he r.1, hadvance.dpk, fun hfinished => ?_,
        hadvance.event.trans hev, hset hunset⟩
      exact Execution.resume_unregisters hev hr hfinished hget
    · refine ⟨j, d, ?_, rfl, hopen, hev, hset hunset⟩
      rw [getElem?_set_of_some he, if_neg hij, hd]

theorem backed_step (hb : Backed s.executions s.handler)
    (hstep : s.step maxAttempts a = some t) : Backed t.executions t.handler := by
  cases a with
  | execute dpk retry =>
    cases hstep
    dsimp only
    unfold Execution.executeWithRetry
    split
    · refine ⟨hb.bounded, hb.distinct, fun dpk' event hget => ?_⟩
      obtain ⟨i, e, he, hopen⟩ := hb.backed dpk' event hget
      exact ⟨i, e, getElem?_concat_of_some he _, hopen⟩
    · refine hb.registerRetry rfl ?_ (congrArg some (registerRetry_spec hb.bounded dpk).1)
      rintro ⟨outcome, hphase⟩
      cases hphase
  | resume i x =>
    obtain ⟨e, he, hresume⟩ := Option.bind_eq_some_iff.mp hstep
    obtain ⟨r, hr, rfl⟩ := Option.map_eq_some_iff.mp hresume
    exact backed_resume hb he hr
  | cancelRetriesForDevice deviceAddress =>
    cases hstep
    exact hb.foldl_cancel _
  | cancelRetriesForDpk dpk =>
    cases hstep
    exact hb.cancelRetryForDpk dpk
  | cancelRetriesForInterface =>
    cases hstep
    exact hb.foldl_cancel _

theorem reach_backed {ok : RetryRun → Action → Prop} (h : (system maxAttempts).Reach ok s) :
    Backed s.executions s.handler := by
  have hinv : Registered s ∧ Backed s.executions s.handler :=
    h.invariant (P := fun s => Registered s ∧ Backed s.executions s.handler)
      ⟨.init, .init⟩
      fun _ _ _ hs _ hstep => ⟨hs.1.step hstep, backed_step hs.2 hstep⟩
  exact hinv.2

/-- The newest open call of a key, with its event. -/
def Newest (s : RetryRun) (dpk : DataPointKey) (event : Nat) : Prop :=
  ∃ (i : Nat) (e : Execution), s.executions[i]? = some e ∧ e.dpk = dpk ∧ e.Open s.handler event ∧
    ∀ (j : Nat) (e' : Execution) (event' : Nat), s.executions[j]? = some e' → e'.dpk = dpk →
      e'.Open s.handler event' → j ≤ i

/-- The registry has the event of the newest open call, and no other. -/
theorem get?_activeRetries_iff {ok : RetryRun → Action → Prop}
    (h : (system maxAttempts).Reach ok s) {dpk : DataPointKey} {event : Nat} :
    s.handler.activeRetries.get? dpk = some event ↔ s.Newest dpk event := by
  have hs := (reach_registered h).1
  constructor
  · intro hget
    obtain ⟨i, e, he, hdpk, hopen⟩ := (reach_backed h).backed dpk event hget
    refine ⟨i, e, he, hdpk, hopen, fun j e' event' he' hdpk' hopen' => ?_⟩
    have hget' := hs.registered j e' event' he' hopen'.1 hopen'.2.1 hopen'.2.2
    rw [hdpk', hget] at hget'
    cases hget'
    exact (hs.own i j e e' event he he' hopen.2.1 hopen'.2.1).ge
  · rintro ⟨i, e, he, rfl, hopen, -⟩
    exact hs.registered i e event he hopen.1 hopen.2.1 hopen.2.2

end RetryRun

/-! ## Retried calls -/

namespace LoggedRun

open StepSystem CommandRetryHandler

variable {maxAttempts : Int} {s t : LoggedRun} {i : Nat} {e : Execution} {log : List Happening}

/-- What has ended is at the end of the log: after a success, a permanent error, a set event, a
recovery that took too long or a cancellation, nothing more happens to a call. -/
theorem finished_of_not_goesOn (ha : Accords maxAttempts e log) {x : Happening} (hx : x ∈ log)
    (hstop : x.goesOn = false) : e.Finished ∧ log.getLast? = some x := by
  by_cases hfinished : e.Finished
  · obtain ⟨outcome, hphase⟩ := hfinished
    obtain ⟨log', y, rfl, hlog', -⟩ := ha.finished outcome hphase
    refine ⟨⟨outcome, hphase⟩, ?_⟩
    rcases List.mem_append.mp hx with hx | hx
    · rw [hlog' x hx] at hstop
      cases hstop
    · rw [List.mem_singleton.mp hx, List.getLast?_concat]
  · rw [ha.goesOn hfinished x hx] at hstop
    cases hstop

/-- A call that is over does not call its operation again. -/
theorem attempt_of_finished (h : (system maxAttempts).Reach Free s)
    (he : s.run.executions[i]? = some e) (hfinished : e.Finished) {as : List RetryRun.Action}
    {run : RetryRun} (hsteps : (RetryRun.system maxAttempts).Steps Free s.run as run) :
    ∃ d, run.executions[i]? = some d ∧ d.attempt = e.attempt := by
  have hno : e.mayRetry maxAttempts s.run.handler = false := by
    refine Bool.eq_false_iff.mpr fun hmay => ?_
    exact (Execution.mayRetry_iff.mp hmay).1 hfinished
  have hstill : RetryRun.Still maxAttempts s.run i e.attempt := ⟨e, he, rfl, hno⟩
  obtain ⟨d, hd, hattempt, -⟩ := hstill.steps (RetryRun.reach_registered (reach_run h)) hsteps
  exact ⟨d, hd, hattempt⟩

/-- A call with retry calls its operation at most `maxAttempts` times and never after its end; how
it ends is what its log ends with; and the registry has the newest open call of each key. -/
theorem execute_with_retry_outcome (h : (system maxAttempts).Reach Free s)
    (he : s.run.executions[i]? = some e) (hlog : s.logs[i]? = some log)
    (hretry : e.event ≠ none) :
    (e.attempt = invocations e log ∧ e.attempt ≤ maxAttempts) ∧
      (∀ x ∈ log, x.goesOn = false → e.Finished ∧ log.getLast? = some x) ∧
      (e.Finished → ∀ as run, (RetryRun.system maxAttempts).Steps Free s.run as run →
        ∃ d, run.executions[i]? = some d ∧ d.attempt = e.attempt) ∧
      (∀ outcome, e.phase = .finished outcome →
        ∃ x, log.getLast? = some x ∧ Ends maxAttempts log outcome x) ∧
      ∀ dpk event, s.run.handler.activeRetries.get? dpk = some event ↔
        s.run.Newest dpk event := by
  have ha := (reach_faithful h).accords i e log he hlog hretry
  refine ⟨⟨ha.attempt, ha.bounded⟩, fun x hx hstop => finished_of_not_goesOn ha hx hstop,
    fun hfinished as run hsteps => attempt_of_finished h he hfinished hsteps,
    fun outcome hphase => ?_, fun dpk event => RetryRun.get?_activeRetries_iff (reach_run h)⟩
  obtain ⟨log', x, rfl, -, hends⟩ := ha.finished outcome hphase
  exact ⟨x, List.getLast?_concat, hends⟩

/-- A call that waits for its second attempt. -/
def retried : List RetryRun.Action :=
  [.execute RetryRun.samplePoint true,
    .resume 0 (.operationEnded (.error { cls := .timeoutError }))]

theorem execute_with_retry_outcome_retried :
    ∃ s e log, (system 3).replay Free (system 3).init
        (retried ++ [.resume 0 .sleepEnded, .resume 0 (.operationEnded (.ok ()))]) = some s ∧
      s.run.executions[0]? = some e ∧ s.logs[0]? = some log ∧ e.attempt = 2 ∧
      e.phase = .finished (.ok ()) ∧ ∃ x, log.getLast? = some x ∧ Ends 3 log (.ok ()) x := by
  have hs : (system 3).replay Free (system 3).init
      (retried ++ [.resume 0 .sleepEnded, .resume 0 (.operationEnded (.ok ()))]) = some _ := rfl
  refine ⟨_, _, _, hs, rfl, rfl, rfl, rfl, ?_⟩
  exact (execute_with_retry_outcome (i := 0) (reach_of_replay hs) rfl rfl nofun).2.2.2.1 _ rfl

/-- A call whose own task is cancelled in a wait raises `CancelledError`, and an operation may
itself raise `CommandSupersededError`, without the event of the call being set. -/
theorem not_execute_with_retry_outcome :
    (∃ s e log, (system 3).Reach Free s ∧ s.run.executions[0]? = some e ∧
      s.logs[0]? = some log ∧ e.phase = .finished (.error taskCancelled) ∧
      (outcomes log).getLast? = some (.error { cls := .timeoutError }) ∧
      e.event = some 0 ∧ ¬ s.run.handler.isSet 0) ∧
    ∃ s e, (system 3).Reach Free s ∧ s.run.executions[0]? = some e ∧
      e.phase = .finished (.error commandSuperseded) ∧ e.event = some 0 ∧
      ¬ s.run.handler.isSet 0 := by
  constructor
  · have hs : (system 3).replay Free (system 3).init (retried ++ [.resume 0 .cancelled]) =
        some _ := rfl
    exact ⟨_, _, _, reach_of_replay hs, rfl, rfl, rfl, rfl, rfl, by decide⟩
  · have hs : (system 3).replay Free (system 3).init
        [.execute RetryRun.samplePoint true,
          .resume 0 (.operationEnded (.error commandSuperseded))] = some _ := rfl
    exact ⟨_, _, reach_of_replay hs, rfl, rfl, rfl, by decide⟩

end LoggedRun

end AioHomematic.Client
