import AioHomematic.Client.CommandRetry.Events
import AioHomematic.Lib.StepSystem

/-!
# Superseded retries

Any number of `execute_with_retry` calls on one handler, as a step system. A
call is started by `execute`, which runs it up to the first call of its
operation; `resume` goes on with it from a suspension to the next; the other
actions are the cancellations of the handler.

A call may attempt its operation again only while `mayRetry` holds. A call that
registers ends that for the earlier ones of its key. A call with retry disabled
does not register and leaves them as they are, so it has to find none of them
(`StartsAlone`) for `superseded_never_retries`.
-/

namespace AioHomematic.Client

open Lib

/-! ## The step system -/

/-- How a suspension of an execution ends. -/
inductive Resumption where
  | operationEnded (outcome : Except PyException Unit)
  | sleepEnded
  | recoveryEnded (recovered : Bool)
  | cancelled

namespace Execution

open CommandRetryHandler

/-- `CancelledError` inside the operation is an outcome of the operation. -/
def resume (maxAttempts : Int) (r : Resumption) (e : Execution) (h : CommandRetryHandler) :
    Option (Execution × CommandRetryHandler) :=
  match e.phase, r with
  | .attempting, .operationEnded outcome => some (e.operationEnded maxAttempts outcome h)
  | .attempting, .cancelled => some (e.operationEnded maxAttempts (.error taskCancelled) h)
  | .sleeping, .sleepEnded => some (e.sleepEnded h)
  | .sleeping, .cancelled => some (e.cancelled h)
  | .recovering exc, .recoveryEnded recovered => some (e.recoveryEnded recovered exc h)
  | .recovering _, .cancelled => some (e.cancelled h)
  | _, _ => none

end Execution

structure RetryRun where
  handler : CommandRetryHandler := {}
  executions : List Execution := []

namespace RetryRun

open CommandRetryHandler

inductive Action where
  | execute (dpk : DataPointKey) (retry : Bool)
  | resume (i : Nat) (r : Resumption)
  | cancelRetriesForDevice (deviceAddress : String)
  | cancelRetriesForDpk (dpk : DataPointKey)
  | cancelRetriesForInterface

def step (maxAttempts : Int) (s : RetryRun) : Action → Option RetryRun
  | .execute dpk retry =>
    let r := Execution.executeWithRetry maxAttempts dpk retry s.handler
    some { handler := r.2, executions := s.executions ++ [r.1] }
  | .resume i r =>
    (s.executions[i]?).bind fun e =>
      (e.resume maxAttempts r s.handler).map fun r =>
        { handler := r.2, executions := s.executions.set i r.1 }
  | .cancelRetriesForDevice deviceAddress =>
    some { s with handler := s.handler.cancelRetriesForDevice deviceAddress }
  | .cancelRetriesForDpk dpk => some { s with handler := s.handler.cancelRetryForDpk dpk }
  | .cancelRetriesForInterface => some { s with handler := s.handler.cancelRetriesForInterface }

def system (maxAttempts : Int) : StepSystem RetryRun Action where
  init := {}
  step := step maxAttempts

end RetryRun

/-! ## Executions that may retry -/

namespace Execution

open CommandRetryHandler

variable {maxAttempts : Int} {e : Execution} {h : CommandRetryHandler}
  {r : Execution × CommandRetryHandler} {x : Resumption}

def isFinished (e : Execution) : Bool :=
  match e.phase with
  | .finished _ => true
  | _ => false

/-- The execution may yet call its operation again. -/
def mayRetry (maxAttempts : Int) (h : CommandRetryHandler) (e : Execution) : Bool :=
  !e.isFinished && e.event.any (fun event => ¬ h.isSet event) && e.attempt < maxAttempts

theorem isFinished_iff : e.isFinished = true ↔ e.Finished := by
  unfold isFinished Finished
  split
  · rename_i outcome hphase
    exact iff_of_true rfl ⟨outcome, hphase⟩
  · rename_i hphase
    exact iff_of_false nofun fun ⟨outcome, h⟩ => hphase outcome h

theorem mayRetry_iff : e.mayRetry maxAttempts h = true ↔
    ¬ e.Finished ∧ (∃ event, e.event = some event ∧ ¬ h.isSet event) ∧ e.attempt < maxAttempts := by
  simp [mayRetry, ← isFinished_iff, Option.any_eq_true, and_assoc]

/-- A call that waits has attempts left. -/
def Waits (e : Execution) : Prop := e.phase = .sleeping ∨ ∃ exc, e.phase = .recovering exc

theorem resume_advance (hr : e.resume maxAttempts x h = some r) : e.Advance h r := by
  unfold resume at hr
  split at hr
  · cases hr; exact operationEnded_advance
  · cases hr; exact operationEnded_advance
  · cases hr; exact nextAttempt_advance
  · cases hr; exact cancelled_advance
  · cases hr; exact recoveryEnded_advance
  · cases hr; exact cancelled_advance
  · cases hr

theorem not_finished_of_resume (hr : e.resume maxAttempts x h = some r) : ¬ e.Finished := by
  rintro ⟨outcome, hphase⟩
  unfold resume at hr
  rw [hphase] at hr
  cases hr

theorem finish_attempt {outcome : Except PyException Unit} :
    (e.finish outcome h).1.attempt = e.attempt ∧ ¬ (e.finish outcome h).1.Waits := by
  refine ⟨rfl, ?_⟩
  rintro (hphase | ⟨exc, hphase⟩) <;> cases hphase

/-- The end of the operation starts no attempt, and only waits for one that is left. -/
theorem operationEnded_attempt {outcome : Except PyException Unit} :
    (e.operationEnded maxAttempts outcome h).1.attempt = e.attempt ∧
      ((e.operationEnded maxAttempts outcome h).1.Waits → e.attempt < maxAttempts) := by
  have hfinish {outcome : Except PyException Unit} {h : CommandRetryHandler} :
      (e.finish outcome h).1.attempt = e.attempt ∧
        ((e.finish outcome h).1.Waits → e.attempt < maxAttempts) :=
    ⟨finish_attempt.1, fun hwaits => absurd hwaits finish_attempt.2⟩
  unfold operationEnded
  split
  · exact hfinish
  · split <;> exact hfinish
  · split
    · exact hfinish
    · split
      · exact hfinish
      · rename_i hlt
        dsimp only
        split <;> exact ⟨rfl, fun _ => not_le.mp hlt⟩

theorem nextAttempt_waits (hwaits : e.Waits → e.attempt < maxAttempts)
    (hw : (e.nextAttempt h).1.Waits) : (e.nextAttempt h).1.attempt < maxAttempts := by
  unfold nextAttempt at hw ⊢
  split at hw
  · split at hw
    · exact absurd hw finish_attempt.2
    · rcases hw with hphase | ⟨exc, hphase⟩ <;> cases hphase
  · exact hwaits hw

theorem resume_waits (hwaits : e.Waits → e.attempt < maxAttempts)
    (hr : e.resume maxAttempts x h = some r) (hw : r.1.Waits) : r.1.attempt < maxAttempts := by
  unfold resume at hr
  split at hr
  · cases hr
    rw [operationEnded_attempt.1]
    exact operationEnded_attempt.2 hw
  · cases hr
    rw [operationEnded_attempt.1]
    exact operationEnded_attempt.2 hw
  · cases hr
    exact nextAttempt_waits hwaits hw
  · cases hr
    exact absurd hw finish_attempt.2
  · cases hr
    unfold recoveryEnded at hw ⊢
    split at hw
    · split at hw
      · rw [if_pos ‹_›]
        exact nextAttempt_waits hwaits hw
      · exact absurd hw finish_attempt.2
    · exact hwaits hw
  · cases hr
    exact absurd hw finish_attempt.2
  · cases hr

/-- An execution that may not retry starts no further attempt, and it stays so. -/
theorem resume_mayRetry (hwaits : e.Waits → e.attempt < maxAttempts)
    (hr : e.resume maxAttempts x h = some r) (hno : e.mayRetry maxAttempts h = false) :
    r.1.attempt = e.attempt := by
  have hadvance := resume_advance hr
  rcases hadvance.attempt with hsame | ⟨event, hev, hset, -⟩
  · exact hsame
  · have hno : ¬ (¬ e.Finished ∧ e.attempt < maxAttempts) := by
      rintro ⟨hfinished, hlt⟩
      rw [mayRetry_iff.mpr ⟨hfinished, ⟨event, hev, hset⟩, hlt⟩] at hno
      cases hno
    have hwaiting : ¬ e.Waits := by
      intro hw
      refine hno ⟨?_, hwaits hw⟩
      rintro ⟨outcome, hphase⟩
      rcases hw with hw | ⟨exc, hw⟩ <;> rw [hphase] at hw <;> cases hw
    unfold resume at hr
    split at hr
    · cases hr; exact operationEnded_attempt.1
    · cases hr; exact operationEnded_attempt.1
    · exact absurd (.inl ‹_›) hwaiting
    · exact absurd (.inl ‹_›) hwaiting
    · exact absurd (.inr ⟨_, ‹_›⟩) hwaiting
    · exact absurd (.inr ⟨_, ‹_›⟩) hwaiting
    · cases hr

/-- A call that waits goes on with its next attempt. -/
theorem resume_of_waits {event : Nat} (maxAttempts : Int) (hw : e.Waits) (hev : e.event = some event)
    (hunset : ¬ h.isSet event) :
    ∃ x r, e.resume maxAttempts x h = some r ∧ r.1.attempt = e.attempt + 1 := by
  have hnext : (e.nextAttempt h).1.attempt = e.attempt + 1 := by
    unfold nextAttempt
    rw [hev]
    dsimp only
    rw [if_neg hunset]
  rcases hw with hphase | ⟨exc, hphase⟩
  · exact ⟨.sleepEnded, e.nextAttempt h, by simp only [resume, hphase, sleepEnded], hnext⟩
  · refine ⟨.recoveryEnded true, e.nextAttempt h, ?_, hnext⟩
    simp only [resume, hphase, recoveryEnded, hev, or_true, if_true]

/-- An operation that fails with a retryable error lets the call wait. -/
theorem resume_of_attempting {event : Nat} (hphase : e.phase = .attempting)
    (hev : e.event = some event) (hlt : e.attempt < maxAttempts) :
    ∃ x h', e.resume maxAttempts x h = some ({ e with phase := .sleeping }, h') ∧
      h'.cancelEvents = h.cancelEvents := by
  refine ⟨.operationEnded (.error { cls := .timeoutError }),
    { h with metrics := { h.metrics with totalRetries := h.metrics.totalRetries + 1 } }, ?_, rfl⟩
  simp only [resume, hphase, operationEnded, hev]
  rw [if_neg (by decide), if_neg (not_le.mpr hlt), if_neg (by decide)]

end Execution

namespace RetryRun

open CommandRetryHandler StepSystem

variable {maxAttempts : Int} {s t : RetryRun} {a : Action} {i j : Nat} {e e' : Execution}

/-! ## What holds in every run -/

structure Registered (s : RetryRun) : Prop where
  bounded : s.handler.Bounded
  created : ∀ (i : Nat) (e : Execution) (event : Nat), s.executions[i]? = some e →
    e.event = some event → event < s.handler.cancelEvents.length
  own : ∀ (i j : Nat) (e e' : Execution) (event : Nat), s.executions[i]? = some e →
    s.executions[j]? = some e' → e.event = some event → e'.event = some event → i = j
  registered : ∀ (i : Nat) (e : Execution) (event : Nat), s.executions[i]? = some e →
    ¬ e.Finished → e.event = some event → ¬ s.handler.isSet event →
    s.handler.activeRetries.get? e.dpk = some event

namespace Registered

/-- The handler cancels retries. -/
theorem cancel (hs : Registered s) {handler : CommandRetryHandler} (hb : handler.Bounded)
    (hlater : Later none s.handler handler) : Registered { s with handler } where
  bounded := hb
  created i e event he hev := (hs.created i e event he hev).trans_le hlater.length
  own := hs.own
  registered i e event he hfinished hev hset :=
    (hlater.kept e.dpk event
      (hs.registered i e event he hfinished hev fun h => hset (hlater.isSet event h))
      nofun).resolve_right hset

theorem execute (hs : Registered s) {dpk : DataPointKey} {retry : Bool}
    (hstep : step maxAttempts s (.execute dpk retry) = some t) : Registered t := by
  cases hstep
  unfold Execution.executeWithRetry
  split
  · refine ⟨hs.bounded, fun i e event he hev => ?_, fun i j e e' event he he' hev hev' => ?_,
      fun i e event he hfinished hev hset => ?_⟩
    · rcases getElem?_concat_cases he with he | ⟨-, rfl⟩
      · exact hs.created i e event he hev
      · cases hev
    · rcases getElem?_concat_cases he with he | ⟨-, rfl⟩
      · rcases getElem?_concat_cases he' with he' | ⟨-, rfl⟩
        · exact hs.own i j e e' event he he' hev hev'
        · cases hev'
      · cases hev
    · rcases getElem?_concat_cases he with he | ⟨-, rfl⟩
      · exact hs.registered i e event he hfinished hev hset
      · cases hev
  · obtain ⟨hnew, hlength, hactive, hb, hlater, -⟩ := registerRetry_spec hs.bounded dpk
    have hold {i : Nat} {e : Execution} {event : Nat} (he : s.executions[i]? = some e)
        (hev : e.event = some event) : event < s.handler.cancelEvents.length :=
      hs.created i e event he hev
    refine ⟨hb, fun i e event he hev => ?_, fun i j e e' event he he' hev hev' => ?_,
      fun i e event he hfinished hev hset => ?_⟩
    · dsimp only
      rcases getElem?_concat_cases he with he | ⟨-, rfl⟩
      · have := hold he hev
        omega
      · cases hev
        omega
    · rcases getElem?_concat_cases he with he | ⟨rfl, rfl⟩
      · rcases getElem?_concat_cases he' with he' | ⟨rfl, rfl⟩
        · exact hs.own i j e e' event he he' hev hev'
        · cases hev'
          have := hold he hev
          omega
      · rcases getElem?_concat_cases he' with he' | ⟨rfl, rfl⟩
        · cases hev
          have := hold he' hev'
          omega
        · rfl
    · dsimp only at hset ⊢
      rcases getElem?_concat_cases he with he | ⟨-, rfl⟩
      · have hget := hs.registered i e event he hfinished hev fun h => hset (hlater.isSet event h)
        exact (hlater.kept e.dpk event hget nofun).resolve_right hset
      · cases hev
        rw [hactive, Dict.get?_set_self, hnew]

theorem resume (hs : Registered s) (he : s.executions[i]? = some e) (hopen : ¬ e.Finished)
    {r : Execution × CommandRetryHandler} (hadvance : e.Advance s.handler r) :
    Registered { handler := r.2, executions := s.executions.set i r.1 } := by
  -- the call `j` was there before, with its key and its event
  have hold {j : Nat} {d : Execution} (hd : (s.executions.set i r.1)[j]? = some d) :
      ∃ d₀, s.executions[j]? = some d₀ ∧ d.dpk = d₀.dpk ∧ d.event = d₀.event := by
    rcases getElem?_set_cases hd with ⟨rfl, rfl⟩ | ⟨-, hd⟩
    · exact ⟨e, he, hadvance.dpk, hadvance.event⟩
    · exact ⟨d, hd, rfl, rfl⟩
  refine ⟨fun dpk event hget => ?_, fun j d event hd hev => ?_,
    fun j k d d' event hd hd' hev hev' => ?_, fun j d event hd hfinished hev hset => ?_⟩
  · dsimp only at hget ⊢
    rw [hadvance.events]
    rcases hadvance.registrations with hsame | ⟨-, _, -, -, herase⟩
    · exact hs.bounded dpk event (hsame ▸ hget)
    · rw [herase, Dict.get?_erase] at hget
      split at hget
      · cases hget
      · exact hs.bounded dpk event hget
  · dsimp only
    rw [hadvance.events]
    obtain ⟨d₀, hd₀, -, hev₀⟩ := hold hd
    exact hs.created j d₀ event hd₀ (hev₀ ▸ hev)
  · obtain ⟨d₀, hd₀, -, hev₀⟩ := hold hd
    obtain ⟨d₁, hd₁, -, hev₁⟩ := hold hd'
    exact hs.own j k d₀ d₁ event hd₀ hd₁ (hev₀ ▸ hev) (hev₁ ▸ hev')
  · dsimp only at hset ⊢
    have hset : ¬ s.handler.isSet event := by
      unfold isSet at hset ⊢
      rwa [hadvance.events] at hset
    rcases getElem?_set_cases hd with ⟨rfl, rfl⟩ | ⟨hne, hd⟩
    · rcases hadvance.registrations with hsame | ⟨hends, -⟩
      · rw [hsame, hadvance.dpk]
        exact hs.registered i e event he hopen (hadvance.event ▸ hev) hset
      · exact absurd hends hfinished
    · have hget := hs.registered j d event hd hfinished hev hset
      rcases hadvance.registrations with hsame | ⟨-, own, hown, howned, herase⟩
      · rw [hsame, hget]
      · rw [herase, Dict.get?_erase_of_ne, hget]
        intro hdpk
        rw [hdpk, hget] at howned
        cases howned
        exact hne (hs.own i j e d event he hd hown hev)

theorem step (hs : Registered s) (hstep : s.step maxAttempts a = some t) : Registered t := by
  cases a with
  | execute dpk retry => exact hs.execute hstep
  | resume i x =>
    obtain ⟨e, he, hresume⟩ := Option.bind_eq_some_iff.mp hstep
    obtain ⟨r, hr, rfl⟩ := Option.map_eq_some_iff.mp hresume
    exact hs.resume he (Execution.not_finished_of_resume hr) (Execution.resume_advance hr)
  | cancelRetriesForDevice deviceAddress =>
    cases hstep
    obtain ⟨hb, hlater, -⟩ := foldl_cancel hs.bounded (s.handler.retriesForDevice deviceAddress)
    exact hs.cancel hb hlater
  | cancelRetriesForDpk dpk =>
    cases hstep
    exact hs.cancel (cancelRetryForDpk_bounded hs.bounded dpk)
      (cancelRetryForDpk_later hs.bounded dpk)
  | cancelRetriesForInterface =>
    cases hstep
    obtain ⟨hb, hlater, -⟩ := foldl_cancel hs.bounded s.handler.activeRetries.keys
    exact hs.cancel hb hlater

theorem init : Registered {} where
  bounded dpk event hget := by cases hget
  created i e event he := by simp at he
  own i j e e' event he := by simp at he
  registered i e event he := by simp at he

end Registered

/-- Who waits has attempts left. -/
def Waiting (maxAttempts : Int) (s : RetryRun) : Prop :=
  ∀ (i : Nat) (e : Execution), s.executions[i]? = some e → e.Waits → e.attempt < maxAttempts

theorem Waiting.step (h : Waiting maxAttempts s) (hstep : s.step maxAttempts a = some t) :
    Waiting maxAttempts t := by
  intro j d hd hw
  cases a with
  | execute dpk retry =>
    cases hstep
    rcases getElem?_concat_cases hd with hd | ⟨-, rfl⟩
    · exact h j d hd hw
    · unfold Execution.executeWithRetry at hw
      split at hw <;> rcases hw with hphase | ⟨exc, hphase⟩ <;> cases hphase
  | resume i x =>
    obtain ⟨e, he, hresume⟩ := Option.bind_eq_some_iff.mp hstep
    obtain ⟨r, hr, rfl⟩ := Option.map_eq_some_iff.mp hresume
    rcases getElem?_set_cases hd with ⟨rfl, rfl⟩ | ⟨-, hd⟩
    · exact Execution.resume_waits (h i e he) hr hw
    · exact h j d hd hw
  | cancelRetriesForDevice => cases hstep; exact h j d hd hw
  | cancelRetriesForDpk => cases hstep; exact h j d hd hw
  | cancelRetriesForInterface => cases hstep; exact h j d hd hw

theorem reach_registered {ok : RetryRun → Action → Prop} (h : (system maxAttempts).Reach ok s) :
    Registered s ∧ Waiting maxAttempts s :=
  h.invariant (P := fun s => Registered s ∧ Waiting maxAttempts s)
    ⟨.init, fun i e he => by simp [system] at he⟩
    fun _ _ _ hs _ hstep => ⟨hs.1.step hstep, hs.2.step hstep⟩

/-- What a step does to a call: it is resumed, or stays, and no event is reset. -/
theorem step_execution (hs : Registered s) (hstep : s.step maxAttempts a = some t)
    (he : s.executions[i]? = some e) :
    (∀ event, s.handler.isSet event → t.handler.isSet event) ∧
      (t.executions[i]? = some e ∨
        ∃ x r, e.resume maxAttempts x s.handler = some r ∧ t.executions[i]? = some r.1) := by
  cases a with
  | execute dpk retry =>
    cases hstep
    refine ⟨?_, .inl (getElem?_concat_of_some he _)⟩
    unfold Execution.executeWithRetry
    split
    · exact fun event hset => hset
    · obtain ⟨-, -, -, -, hlater, -⟩ := registerRetry_spec hs.bounded dpk
      exact hlater.isSet
  | resume k x =>
    obtain ⟨d, hd, hresume⟩ := Option.bind_eq_some_iff.mp hstep
    obtain ⟨r, hr, rfl⟩ := Option.map_eq_some_iff.mp hresume
    refine ⟨fun event hset => ?_, ?_⟩
    · unfold isSet at hset ⊢
      rwa [(Execution.resume_advance hr).events]
    · dsimp only
      rw [getElem?_set_of_some hd]
      split
      · subst_vars
        rw [he] at hd
        cases hd
        exact .inr ⟨x, r, hr, rfl⟩
      · exact .inl he
  | cancelRetriesForDevice deviceAddress =>
    cases hstep
    obtain ⟨-, hlater, -⟩ := foldl_cancel hs.bounded (s.handler.retriesForDevice deviceAddress)
    exact ⟨hlater.isSet, .inl he⟩
  | cancelRetriesForDpk dpk =>
    cases hstep
    exact ⟨(cancelRetryForDpk_later hs.bounded dpk).isSet, .inl he⟩
  | cancelRetriesForInterface =>
    cases hstep
    obtain ⟨-, hlater, -⟩ := foldl_cancel hs.bounded s.handler.activeRetries.keys
    exact ⟨hlater.isSet, .inl he⟩

/-! ## Superseded calls -/

/-- The call `i` has attempted its operation `n` times and may not do so again. -/
def Still (maxAttempts : Int) (s : RetryRun) (i n : Nat) : Prop :=
  ∃ e, s.executions[i]? = some e ∧ e.attempt = n ∧ e.mayRetry maxAttempts s.handler = false

theorem Still.step {n : Nat} (h : Still maxAttempts s i n) (hs : Registered s)
    (hw : Waiting maxAttempts s) (hstep : s.step maxAttempts a = some t) :
    Still maxAttempts t i n := by
  obtain ⟨e, he, rfl, hno⟩ := h
  obtain ⟨hset, hsame | ⟨x, r, hr, hnext⟩⟩ := step_execution hs hstep he
  · refine ⟨e, hsame, rfl, Bool.eq_false_iff.mpr fun hmay => Bool.eq_false_iff.mp hno ?_⟩
    obtain ⟨hopen, ⟨event, hev, hunset⟩, hlt⟩ := Execution.mayRetry_iff.mp hmay
    exact Execution.mayRetry_iff.mpr ⟨hopen, ⟨event, hev, mt (hset event) hunset⟩, hlt⟩
  · have hattempt := Execution.resume_mayRetry (hw i e he) hr hno
    refine ⟨r.1, hnext, hattempt, Bool.eq_false_iff.mpr fun hmay => Bool.eq_false_iff.mp hno ?_⟩
    obtain ⟨-, ⟨event, hev, hunset⟩, hlt⟩ := Execution.mayRetry_iff.mp hmay
    rw [(Execution.resume_advance hr).event] at hev
    exact Execution.mayRetry_iff.mpr ⟨Execution.not_finished_of_resume hr,
      ⟨event, hev, mt (hset event) hunset⟩, hattempt ▸ hlt⟩

theorem Still.steps {ok : RetryRun → Action → Prop} {n : Nat} {as : List Action}
    (h : Still maxAttempts s i n) (hs : Registered s ∧ Waiting maxAttempts s)
    (hsteps : (system maxAttempts).Steps ok s as t) : Still maxAttempts t i n := by
  have hinv : (Registered t ∧ Waiting maxAttempts t) ∧ Still maxAttempts t i n :=
    hsteps.invariant (P := fun s => (Registered s ∧ Waiting maxAttempts s) ∧ Still maxAttempts s i n)
      (fun _ _ _ ⟨hs, h⟩ _ hstep =>
        ⟨⟨hs.1.step hstep, hs.2.step hstep⟩, h.step hs.1 hs.2 hstep⟩) ⟨hs, h⟩
  exact hinv.2

/-- A call with retry disabled finds no earlier one of its key that may retry. -/
def StartsAlone (maxAttempts : Int) (s : RetryRun) : Action → Prop
  | .execute dpk false =>
    ∀ e ∈ s.executions, e.dpk = dpk → e.mayRetry maxAttempts s.handler = false
  | _ => True

instance : DecidableRel (StartsAlone maxAttempts)
  | s, .execute dpk false => inferInstanceAs
      (Decidable (∀ e ∈ s.executions, e.dpk = dpk → e.mayRetry maxAttempts s.handler = false))
  | _, .execute _ true => .isTrue trivial
  | _, .resume _ _ => .isTrue trivial
  | _, .cancelRetriesForDevice _ => .isTrue trivial
  | _, .cancelRetriesForDpk _ => .isTrue trivial
  | _, .cancelRetriesForInterface => .isTrue trivial

/-- No call may retry after a later one of its key was started. -/
def Superseded (maxAttempts : Int) (s : RetryRun) : Prop :=
  ∀ (i j : Nat) (e e' : Execution), s.executions[i]? = some e → s.executions[j]? = some e' →
    i < j → e.dpk = e'.dpk → e.mayRetry maxAttempts s.handler = false

/-- The start of a call leaves no earlier one of its key that may retry. -/
theorem execute_supersedes {dpk : DataPointKey} {retry : Bool} (hs : Registered s)
    (hok : StartsAlone maxAttempts s (.execute dpk retry)) (he : s.executions[i]? = some e)
    (hdpk : e.dpk = dpk) :
    e.mayRetry maxAttempts (Execution.executeWithRetry maxAttempts dpk retry s.handler).2 =
      false := by
  unfold Execution.executeWithRetry
  split
  · rename_i hbypass
    cases retry with
    | false => exact hok e (List.mem_of_getElem? he) hdpk
    | true =>
      refine Bool.eq_false_iff.mpr fun hmay => ?_
      obtain ⟨-, -, hlt⟩ := Execution.mayRetry_iff.mp hmay
      have hmax : maxAttempts ≤ 0 := hbypass.resolve_left nofun
      omega
  · obtain ⟨-, -, -, -, hlater, hall⟩ := registerRetry_spec hs.bounded dpk
    refine Bool.eq_false_iff.mpr fun hmay => ?_
    obtain ⟨hopen, ⟨event, hev, hunset⟩, -⟩ := Execution.mayRetry_iff.mp hmay
    have hget := hs.registered i e event he hopen hev (mt (hlater.isSet event) hunset)
    exact hunset (hall event (hdpk ▸ hget))

theorem Superseded.step (h : Superseded maxAttempts s) (hs : Registered s)
    (hw : Waiting maxAttempts s) (hok : StartsAlone maxAttempts s a)
    (hstep : s.step maxAttempts a = some t) : Superseded maxAttempts t := by
  intro i j d d' hd hd' hij hdpk
  -- two calls that were there before
  have hold {e e' : Execution} (he : s.executions[i]? = some e) (he' : s.executions[j]? = some e') :
      d.mayRetry maxAttempts t.handler = false := by
    have hkey {k : Nat} {e d : Execution} (he : s.executions[k]? = some e)
        (hd : t.executions[k]? = some d) : d.dpk = e.dpk := by
      obtain ⟨-, hsame | ⟨x, r, hr, hnext⟩⟩ := step_execution hs hstep he
      · rw [hd] at hsame
        cases hsame
        rfl
      · rw [hd] at hnext
        cases hnext
        exact (Execution.resume_advance hr).dpk
    have hno := h i j e e' he he' hij (by rw [← hkey he hd, ← hkey he' hd', hdpk])
    have hstill : Still maxAttempts t i e.attempt := Still.step ⟨e, he, rfl, hno⟩ hs hw hstep
    obtain ⟨d₀, hd₀, -, hno₀⟩ := hstill
    rw [hd] at hd₀
    cases hd₀
    exact hno₀
  cases a with
  | execute dpk retry =>
    cases hstep
    rcases getElem?_concat_cases hd' with he' | ⟨rfl, rfl⟩
    · have hlt := (List.getElem?_eq_some_iff.mp he').1
      rcases getElem?_concat_cases hd with he | ⟨rfl, -⟩
      · exact hold he he'
      · omega
    · rcases getElem?_concat_cases hd with he | ⟨rfl, -⟩
      · refine execute_supersedes hs hok he (hdpk.trans ?_)
        unfold Execution.executeWithRetry
        split <;> rfl
      · omega
  | resume k x =>
    obtain ⟨e, he, hresume⟩ := Option.bind_eq_some_iff.mp hstep
    obtain ⟨r, hr, rfl⟩ := Option.map_eq_some_iff.mp hresume
    have hbefore {l : Nat} {d : Execution} (hd : (s.executions.set k r.1)[l]? = some d) :
        ∃ e, s.executions[l]? = some e := by
      rcases getElem?_set_cases hd with ⟨rfl, -⟩ | ⟨-, hd⟩
      · exact ⟨e, he⟩
      · exact ⟨d, hd⟩
    obtain ⟨e₁, he₁⟩ := hbefore hd
    obtain ⟨e₂, he₂⟩ := hbefore hd'
    exact hold he₁ he₂
  | cancelRetriesForDevice => cases hstep; exact hold hd hd'
  | cancelRetriesForDpk => cases hstep; exact hold hd hd'
  | cancelRetriesForInterface => cases hstep; exact hold hd hd'

theorem reach_superseded (h : (system maxAttempts).Reach (StartsAlone maxAttempts) s) :
    Superseded maxAttempts s := by
  have hinv : (Registered s ∧ Waiting maxAttempts s) ∧ Superseded maxAttempts s :=
    h.invariant (P := fun s => (Registered s ∧ Waiting maxAttempts s) ∧ Superseded maxAttempts s)
      ⟨⟨.init, fun i e he => by simp [system] at he⟩, fun i j e e' he => by simp [system] at he⟩
      fun _ _ _ ⟨hs, h⟩ ho hstep =>
        ⟨⟨hs.1.step hstep, hs.2.step hstep⟩, h.step hs.1 hs.2 ho hstep⟩
  exact hinv.2

/-- **Supersede**: in runs where a call with retry disabled starts only when no earlier call of
its key may retry, no call attempts its operation again after a later one of its key was
started. -/
theorem superseded_never_retries (hreach : (system maxAttempts).Reach (StartsAlone maxAttempts) s)
    (he : s.executions[i]? = some e) (he' : s.executions[j]? = some e') (hij : i < j)
    (hdpk : e.dpk = e'.dpk) {as : List Action} (hsteps : (system maxAttempts).Steps Free s as t) :
    ∃ d, t.executions[i]? = some d ∧ d.attempt = e.attempt := by
  have hno := reach_superseded hreach i j e e' he he' hij hdpk
  have hstill : Still maxAttempts s i e.attempt := ⟨e, he, rfl, hno⟩
  obtain ⟨d, hd, hattempt, -⟩ := hstill.steps (reach_registered hreach) hsteps
  exact ⟨d, hd, hattempt⟩

/-! ## Calls that are not superseded -/

/-- `mayRetry` says exactly whether some run attempts the operation of the call again. -/
theorem mayRetry_iff_run (hs : Registered s ∧ Waiting maxAttempts s)
    (he : s.executions[i]? = some e) :
    e.mayRetry maxAttempts s.handler = true ↔
      ∃ as t d, (system maxAttempts).Steps Free s as t ∧ t.executions[i]? = some d ∧
        e.attempt < d.attempt := by
  constructor
  · intro hmay
    obtain ⟨hopen, ⟨event, hev, hunset⟩, hlt⟩ := Execution.mayRetry_iff.mp hmay
    -- a call that waits needs one more step
    have hwaiting {s : RetryRun} {d : Execution} (hd : s.executions[i]? = some d)
        (hw : d.Waits) (hev : d.event = some event) (hunset : ¬ s.handler.isSet event) :
        ∃ x t d', s.step maxAttempts (.resume i x) = some t ∧ t.executions[i]? = some d' ∧
          d'.attempt = d.attempt + 1 := by
      obtain ⟨x, r, hr, hattempt⟩ := Execution.resume_of_waits maxAttempts hw hev hunset
      refine ⟨x, _, r.1, by rw [step, hd, Option.bind_some, hr, Option.map_some], ?_, hattempt⟩
      dsimp only
      rw [getElem?_set_self_of_some hd]
    cases hphase : e.phase with
    | attempting =>
      obtain ⟨x, h', hr, hevents⟩ :=
        Execution.resume_of_attempting (h := s.handler) hphase hev hlt
      have hs' : s.step maxAttempts (.resume i x) = some
          { handler := h', executions := s.executions.set i { e with phase := .sleeping } } := by
        rw [step, he, Option.bind_some, hr, Option.map_some]
      have hd : (s.executions.set i { e with phase := .sleeping })[i]? =
          some { e with phase := .sleeping } := by
        rw [getElem?_set_self_of_some he]
      obtain ⟨x', t, d, ht, hd, hattempt⟩ := hwaiting
        (s := { handler := h', executions := s.executions.set i { e with phase := .sleeping } })
        hd (.inl rfl) hev (by unfold isSet at hunset ⊢; rwa [hevents])
      exact ⟨[.resume i x, .resume i x'], t, d, .cons trivial hs' (.single trivial ht), hd,
        by rw [hattempt]; exact Nat.lt_succ_self _⟩
    | sleeping =>
      obtain ⟨x, t, d, ht, hd, hattempt⟩ := hwaiting he (.inl hphase) hev hunset
      exact ⟨[.resume i x], t, d, .single trivial ht, hd, by omega⟩
    | recovering exc =>
      obtain ⟨x, t, d, ht, hd, hattempt⟩ := hwaiting he (.inr ⟨exc, hphase⟩) hev hunset
      exact ⟨[.resume i x], t, d, .single trivial ht, hd, by omega⟩
    | finished outcome => exact absurd ⟨outcome, hphase⟩ hopen
  · rintro ⟨as, t, d, hsteps, hd, hlt⟩
    refine Bool.not_eq_false _ ▸ fun hno => ?_
    have hstill : Still maxAttempts s i e.attempt := ⟨e, he, rfl, hno⟩
    obtain ⟨d', hd', hattempt, -⟩ := hstill.steps hs hsteps
    rw [hd] at hd'
    cases hd'
    omega

/-! ## Calls with and without retry -/

def samplePoint : DataPointKey :=
  { interfaceId := "BidCos-RF", channelAddress := "OEQ0000001:1", paramsetKey := .values,
    parameter := "STATE" }

/-- Two calls with retry, and one without when they have ended. -/
def sampleCalls : List Action :=
  [.execute samplePoint true, .resume 0 (.operationEnded (.error { cls := .timeoutError })),
    .execute samplePoint true, .resume 0 .sleepEnded, .resume 1 (.operationEnded (.ok ())),
    .execute samplePoint false]

theorem superseded_never_retries_again :
    ∃ s, (system 3).replay (StartsAlone 3) (system 3).init sampleCalls = some s ∧
      ∀ as t, (system 3).Steps Free s as t →
        ∃ d, t.executions[0]? = some d ∧ d.attempt = 1 := by
  have hs : (system 3).replay (StartsAlone 3) (system 3).init sampleCalls = some _ := rfl
  refine ⟨_, hs, fun as t hsteps => ?_⟩
  exact superseded_never_retries (i := 0) (j := 2) (reach_of_replay hs) rfl rfl (by decide) rfl
    hsteps

/-- A call with retry waits for its second attempt when one without is started, and makes it. -/
theorem superseded_never_retries_bypassed :
    ∃ s t, (system 3).Reach Free s ∧
      (∃ e e', s.executions[0]? = some e ∧ s.executions[1]? = some e' ∧ e.dpk = e'.dpk ∧
        e.attempt = 1) ∧
      s.step 3 (.resume 0 .sleepEnded) = some t ∧
      ∃ d, t.executions[0]? = some d ∧ d.attempt = 2 := by
  let as : List Action :=
    [.execute samplePoint true, .resume 0 (.operationEnded (.error { cls := .timeoutError })),
      .execute samplePoint false]
  have hs : (system 3).replay Free (system 3).init as = some _ := rfl
  exact ⟨_, _, reach_of_replay hs, ⟨_, _, rfl, rfl, rfl, rfl⟩, rfl, _, rfl, rfl⟩

end RetryRun

end AioHomematic.Client
