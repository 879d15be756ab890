import AioHomematic.Client.InterfaceClient.CriticalCall

/-!
# Calls with a common parameter

The retries of a call are tracked under the key of its first parameter. A later
call that shares a parameter with an earlier one stops the earlier one's
retries only if their first parameters agree, and only if the earlier one has
left the throttle by then. `Orderly` is that condition on the start of an
execution; in runs that meet it, an older value of a parameter is never sent
again (`no_stale_retry`).
-/

namespace AioHomematic.Client.InterfaceClient

open Lib Relation

variable {V : Type*} [DecidableEq V] {cfg : Config} {s t u : InterfaceClient V}

/-- Two calls with retry that write a common `VALUES` parameter of one channel. -/
structure Shares (r r' : Request V) : Prop where
  channelAddress : r.channelAddress = r'.channelAddress
  paramset : r.paramset = .key .values
  paramset' : r'.paramset = .key .values
  retry : r.retry = true
  retry' : r'.retry = true
  parameter : ∃ p ∈ r.parameters, p ∈ r'.parameters

instance (r r' : Request V) : Decidable (Shares r r') :=
  decidable_of_iff
    (r.channelAddress = r'.channelAddress ∧ r.paramset = .key .values ∧
      r'.paramset = .key .values ∧ r.retry = true ∧ r'.retry = true ∧
      ∃ p ∈ r.parameters, p ∈ r'.parameters)
    ⟨fun ⟨h₁, h₂, h₃, h₄, h₅, h₆⟩ => ⟨h₁, h₂, h₃, h₄, h₅, h₆⟩,
      fun ⟨h₁, h₂, h₃, h₄, h₅, h₆⟩ => ⟨h₁, h₂, h₃, h₄, h₅, h₆⟩⟩

/-- The call is in an execution that nobody has cancelled. -/
def Active (h : CommandRetryHandler) (c : Call V) : Prop :=
  c.result.isNone ∧ ∃ event ∈ c.event, ¬ h.isSet event

instance (h : CommandRetryHandler) (c : Call V) : Decidable (Active h c) :=
  inferInstanceAs (Decidable (_ ∧ _))

/-- The condition on the start of the call `i`: an earlier active call with a common parameter has
the same first parameter, and no later call with a common parameter has started before. -/
def Orderly : StartCondition V := fun h calls i c =>
  ∀ q ∈ calls.zipIdx, Shares q.1.request c.request →
    (q.2 < i → Active h q.1 → q.1.request.parameters.head? = c.request.parameters.head?) ∧
    (i < q.2 → q.1.execution.isNone)

instance (h : CommandRetryHandler) (calls : List (Call V)) (i : Nat) (c : Call V) :
    Decidable (Orderly h calls i c) :=
  inferInstanceAs (Decidable (∀ q ∈ calls.zipIdx, _))

omit [DecidableEq V] in
theorem Shares.symm {r r' : Request V} (h : Shares r r') : Shares r' r :=
  ⟨h.channelAddress.symm, h.paramset', h.paramset, h.retry', h.retry,
    h.parameter.imp fun _ hp => hp.symm⟩

omit [DecidableEq V] in
theorem Orderly.at {h : CommandRetryHandler} {calls : List (Call V)} {i j : Nat} {c d : Call V}
    (ho : Orderly h calls i c) (hd : calls[j]? = some d) (hshare : Shares d.request c.request) :
    (j < i → Active h d → d.request.parameters.head? = c.request.parameters.head?) ∧
      (i < j → d.execution = none) := by
  have hmem : (d, j) ∈ calls.zipIdx := by
    obtain ⟨hlt, rfl⟩ := List.getElem?_eq_some_iff.mp hd
    exact List.mem_zipIdx_iff_getElem?.mpr (List.getElem?_eq_getElem hlt)
  obtain ⟨hbefore, hafter⟩ := ho (d, j) hmem hshare
  exact ⟨hbefore, fun hij => Option.isNone_iff_eq_none.mp (hafter hij)⟩

omit [DecidableEq V] in
/-- With a common parameter and one first parameter, two calls have one key. -/
theorem Shares.retryKey {r r' : Request V} (h : Shares r r')
    (hhead : r.parameters.head? = r'.parameters.head?) (interfaceId : String) :
    r.retryKey interfaceId = r'.retryKey interfaceId := by
  have hd : r.parameters.headD "" = r'.parameters.headD "" := by
    rw [List.headD_eq_head?_getD, List.headD_eq_head?_getD, hhead]
  unfold Request.retryKey
  rw [h.channelAddress, h.paramset, h.paramset', hd]

/-- Starting an execution with retry sets the event that is registered for its key. -/
theorem startExecution_supersedes (i : Nat) {c : Call V} (hs : Registered cfg s)
    (hmax : 0 < cfg.commandRetryMaxAttempts) (hretry : c.request.retry = true) {event : Nat}
    (hget : s.retryHandler.activeRetries.get? (c.request.retryKey cfg.interfaceId) = some event) :
    (s.startExecution cfg i c).retryHandler.isSet event := by
  obtain ⟨-, -, -, -, -, hset⟩ := CommandRetryHandler.registerRetry_spec hs.bounded
    (c.request.retryKey cfg.interfaceId)
  unfold startExecution Execution.executeWithRetry
  dsimp only
  split
  · rename_i hoff
    simp [hretry] at hoff
    omega
  · exact hset event hget

/-- Once a later call with a common parameter has started, the earlier one is not active. -/
def Superseded (s : InterfaceClient V) : Prop :=
  ∀ (i j : Nat) (c d : Call V), i < j → s.calls[i]? = some c → s.calls[j]? = some d →
    Shares c.request d.request → d.execution ≠ none → ¬ Active s.retryHandler c

/-- A call that is active after a move was active before, unless the move started it. -/
theorem Active.before {i : Nat} {c c' : Call V} (hs : Registered cfg s)
    (hmove : Move cfg Orderly s t) (hfate : Fate cfg Orderly s t i c c')
    (h : Active t.retryHandler c') :
    Active s.retryHandler c ∨ Orderly s.retryHandler s.calls i c ∧ t = s.startExecution cfg i c := by
  obtain ⟨hresult, event, hevent, hunset⟩ := h
  rw [Option.isNone_iff_eq_none] at hresult
  have hunset' : ¬ s.retryHandler.isSet event := fun hset => hunset (hmove.isSet hs hset)
  cases hfate with
  | same hexec _ hres =>
    refine .inl ⟨by rw [hres hresult]; rfl, event, ?_, hunset'⟩
    rw [Call.event, ← hexec]
    exact hevent
  | waits _ _ _ hexec' _ =>
    rw [Call.event, hexec'] at hevent
    cases hevent
  | starts _ _ _ _ hP ht => exact .inr ⟨hP, ht⟩
  | proceeds e r hexec hres hadvance hexec' =>
    refine .inl ⟨by rw [hres]; rfl, event, ?_, hunset'⟩
    rw [Call.event, hexec'] at hevent
    rw [Call.event, hexec, Option.bind_some, ← hadvance.event]
    exact hevent

theorem startExecution_other {i j : Nat} {c d d' : Call V} (hc : s.calls[i]? = some c)
    (hne : i ≠ j) (hd : s.calls[j]? = some d)
    (hd' : (s.startExecution cfg i c).calls[j]? = some d') : d' = d := by
  obtain ⟨c', hcalls, -⟩ := startExecution_calls cfg s i c
  rw [hcalls, getElem?_set_of_some hc, if_neg hne, hd] at hd'
  exact (Option.some.inj hd').symm

theorem Superseded.move (hmax : 0 < cfg.commandRetryMaxAttempts) (h : Superseded s)
    (hs : Registered cfg s) (hmove : Move cfg Orderly s t) : Superseded t := by
  intro i j c' d' hij hc' hd' hshare hstarted hactive
  obtain ⟨d, hd⟩ : ∃ d, s.calls[j]? = some d := by
    rw [← Option.ne_none_iff_exists']
    exact fun hnone => hstarted (hmove.fresh hnone hd')
  obtain ⟨c, hc⟩ : ∃ c, s.calls[i]? = some c :=
    ⟨_, List.getElem?_eq_getElem (hij.trans (List.getElem?_eq_some_iff.mp hd).1)⟩
  obtain ⟨c₁, hc₁, hcreq, hcfate⟩ := hmove.fate hc
  obtain ⟨d₁, hd₁, hdreq, hdfate⟩ := hmove.fate hd
  rw [hc'] at hc₁
  rw [hd'] at hd₁
  cases hc₁
  cases hd₁
  rw [hcreq, hdreq] at hshare
  rcases hactive.before hs hmove hcfate with hbefore | ⟨hP, ht⟩
  · -- the earlier call was active before: the later one has started just now
    cases hdfate with
    | same hexec => exact h i j c d hij hc hd hshare (hexec ▸ hstarted) hbefore
    | waits _ _ _ hexec' => exact hstarted hexec'
    | proceeds e r hexec => exact h i j c d hij hc hd hshare (by simp [hexec]) hbefore
    | starts _ _ _ _ hP ht =>
      have hkey := hshare.retryKey ((hP.at hc hshare).1 hij hbefore) cfg.interfaceId
      obtain ⟨hresult, event, hevent, hunset⟩ := hbefore
      have hget := hs.registered i c event hc hevent (Option.isNone_iff_eq_none.mp hresult) hunset
      rw [hkey] at hget
      have hset := startExecution_supersedes j hs hmax hshare.retry' hget
      subst ht
      have hsame := startExecution_other hd hij.ne' hc hc'
      subst hsame
      obtain ⟨-, event', hevent', hunset'⟩ := hactive
      rw [hevent] at hevent'
      cases hevent'
      exact hunset' hset
  · -- the earlier call has started just now, but the later one had started before
    have hnone := (hP.at hd hshare.symm).2 hij
    subst ht
    have hsame := startExecution_other hc hij.ne hd hd'
    exact hstarted (hsame ▸ hnone)

/-- The calls `i` and `j` of a run after `j` has started: `i` has made no attempt since. -/
def Overtaken (cfg : Config) (v : InterfaceClient V) (i j : Nat) (c d : Call V) : Prop :=
  Registered cfg v ∧ Superseded v ∧
    ∃ c', v.calls[i]? = some c' ∧ c'.request = c.request ∧ c'.attempts = c.attempts ∧
      ∃ d', v.calls[j]? = some d' ∧ d'.request = d.request ∧ d'.execution ≠ none

theorem Overtaken.move {i j : Nat} {c d : Call V} (h : Overtaken cfg s i j c d)
    (hmax : 0 < cfg.commandRetryMaxAttempts) (hij : i < j)
    (hshare : Shares c.request d.request) (hmove : Move cfg Orderly s t) :
    Overtaken cfg t i j c d := by
  obtain ⟨hs, hsup, c₁, hc₁, hcreq, hatt, d₁, hd₁, hdreq, hexec⟩ := h
  have hshare₁ : Shares c₁.request d₁.request := by rwa [hcreq, hdreq]
  obtain ⟨c₂, hc₂, hcreq', hcfate⟩ := hmove.fate hc₁
  obtain ⟨d₂, hd₂, hdreq', hdfate⟩ := hmove.fate hd₁
  have hexec₂ : d₂.execution ≠ none := by
    cases hdfate with
    | same hsame => exact hsame ▸ hexec
    | waits _ _ hnone => exact absurd hnone hexec
    | starts hnone => exact absurd hnone hexec
    | proceeds _ _ _ _ _ hexec' => simp [hexec']
  have hatt₂ : c₂.attempts = c₁.attempts := by
    cases hcfate with
    | same hsame => rw [Call.attempts, Call.attempts, hsame]
    | waits _ _ hnone hnone' => rw [Call.attempts, Call.attempts, hnone, hnone']
    | starts _ _ _ _ hP _ => exact absurd ((hP.at hd₁ hshare₁.symm).2 hij) hexec
    | proceeds e r hexec₁ hres hadvance hexec' =>
      rw [Call.attempts, Call.attempts, hexec₁, hexec']
      rcases hadvance.attempt with hsame | ⟨event, hevent, hunset, -⟩
      · exact hsame
      · -- another attempt would be one of an active call
        have hactive : Active s.retryHandler c₁ :=
          ⟨by rw [hres]; rfl, event, by rw [Call.event, hexec₁]; exact hevent, hunset⟩
        exact absurd hactive (hsup i j c₁ d₁ hij hc₁ hd₁ hshare₁ hexec)
  exact ⟨hs.move hmove, hsup.move hmax hs hmove, c₂, hc₂, hcreq'.trans hcreq, hatt₂.trans hatt, d₂,
    hd₂, hdreq'.trans hdreq, hexec₂⟩

/-- **No stale value**: once a later call has handed a value for a parameter to the backend, no
retry of an earlier call sends an older one, in runs that start executions in an orderly way. -/
theorem no_stale_retry (hmax : 0 < cfg.commandRetryMaxAttempts)
    (hreach : (system cfg).Reach (Starting cfg Orderly) s) {i j : Nat} {c d : Call V}
    (hij : i < j) (hc : s.calls[i]? = some c) (hd : s.calls[j]? = some d)
    (hshare : Shares c.request d.request) (hstarted : d.attempts ≠ 0)
    {as : List (Action V)} (hsteps : (system cfg).Steps (Starting cfg Orderly) s as u) :
    ∃ c', u.calls[i]? = some c' ∧ c'.attempts = c.attempts := by
  have hinit : Superseded (init cfg : InterfaceClient V) := fun i _ _ _ _ h => by simp [init] at h
  have hinv : Registered cfg s ∧ Superseded s :=
    hreach.invariant (P := fun v => Registered cfg v ∧ Superseded v) ⟨init_registered, hinit⟩
      fun _ _ _ h ho hstep => moves_invariant (I := fun v => Registered cfg v ∧ Superseded v)
        (fun _ _ h hm => ⟨h.1.move hm, h.2.move hmax h.1 hm⟩) (step_moves ho hstep) h
  have hexec : d.execution ≠ none := fun hnone => hstarted (by simp [Call.attempts, hnone])
  have hrun := hsteps.invariant (P := fun v => Overtaken cfg v i j c d) ?_
    ⟨hinv.1, hinv.2, c, hc, rfl, rfl, d, hd, rfl, hexec⟩
  · obtain ⟨-, -, c', hc', -, hatt, -⟩ := hrun
    exact ⟨c', hc', hatt⟩
  · exact fun _ _ _ h ho hstep => moves_invariant (I := fun v => Overtaken cfg v i j c d)
      (fun _ _ h hm => h.move hmax hij hshare hm) (step_moves ho hstep) h

instance (s : InterfaceClient V) (a : Action V) : Decidable (Starting cfg Orderly s a) := by
  unfold Starting
  cases a <;> infer_instance

/-! ## Runs with two parameters -/

/-- A client that does not throttle. -/
def sampleUnthrottled : Config :=
  { sampleConfig with throttle := { interval := 0, burstWindow := 500 } }

/-- A call that sets two parameters and whose first attempt fails. -/
def sampleTilt : List (Action Nat) :=
  [.putParamset
    { channelAddress := "VCU1:4"
      paramset := .key .values
      values := (Dict.empty.set "LEVEL" 50).set "LEVEL_2" 20 } 1000 1000,
    .operationEnded 0 (.error { cls := .timeoutError })]

/-- A later call for one of the parameters. -/
def sampleSet (parameter : String) : Action Nat :=
  .setValue "VCU1:4" .values parameter 70 none [] true none 1010 1010

/-- The first parameter is set again: the first call's retry ends. -/
theorem no_stale_retry_first :
    ∃ s u, (system sampleUnthrottled).replay (Starting sampleUnthrottled Orderly) (init sampleUnthrottled)
        (sampleTilt ++ [sampleSet "LEVEL"]) = some s ∧
      (system sampleUnthrottled).replay (Starting sampleUnthrottled Orderly) s [.sleepEnded 0] = some u ∧
      u.calls[0]?.map Call.attempts = some 1 := by
  obtain ⟨s, hs, hc, hd, hshare, hu⟩ := StepSystem.replay_any
    (p := fun s : InterfaceClient Nat => s.calls[0]?.map Call.attempts = some 1 ∧
      (s.calls[1]?.any fun d => d.attempts ≠ 0) = true ∧
      (s.calls[0]?.any fun c => s.calls[1]?.any fun d => Shares c.request d.request) = true ∧
      ((system sampleUnthrottled).replay (Starting sampleUnthrottled Orderly) s [.sleepEnded 0]).isSome)
    (show ((system sampleUnthrottled).replay (Starting sampleUnthrottled Orderly) (init sampleUnthrottled)
      (sampleTilt ++ [sampleSet "LEVEL"])).any _ = true by decide)
  obtain ⟨u, hu⟩ := Option.isSome_iff_exists.mp hu
  obtain ⟨c, hc0, hshare⟩ := (Option.any_eq_true _ _).mp hshare
  obtain ⟨d, hd1, hshare⟩ := (Option.any_eq_true _ _).mp hshare
  rw [hd1] at hd
  rw [hc0] at hc
  obtain ⟨c', hc', hatt⟩ := no_stale_retry (by decide) (StepSystem.reach_of_replay hs) zero_lt_one
    hc0 hd1 (of_decide_eq_true hshare) (by simpa using hd) (StepSystem.steps_of_replay hu)
  refine ⟨s, u, hs, hu, ?_⟩
  rw [hc', Option.map_some, hatt]
  exact hc

/-- The second parameter is set again: the first call's retry goes on and sends its older value. -/
theorem no_stale_retry_second :
    ∃ s u as, (system sampleUnthrottled).Reach StepSystem.Free s ∧
      (system sampleUnthrottled).Steps StepSystem.Free s as u ∧
      (s.calls.map fun c => (c.request.values.entries, c.attempts)) =
        [([("LEVEL", 50), ("LEVEL_2", 20)], 1), ([("LEVEL_2", 70)], 1)] ∧
      u.calls.map Call.attempts = [2, 1] := by
  obtain ⟨s, hs, hcalls, hu⟩ := StepSystem.replay_any
    (p := fun s : InterfaceClient Nat =>
      (s.calls.map fun c => (c.request.values.entries, c.attempts)) =
        [([("LEVEL", 50), ("LEVEL_2", 20)], 1), ([("LEVEL_2", 70)], 1)] ∧
      (((system sampleUnthrottled).replay StepSystem.Free s [.sleepEnded 0]).any
        fun u => u.calls.map Call.attempts = [2, 1]) = true)
    (show ((system sampleUnthrottled).replay StepSystem.Free (init sampleUnthrottled)
      (sampleTilt ++ [sampleSet "LEVEL_2"])).any _ = true by decide)
  obtain ⟨u, hu, hafter⟩ := (Option.any_eq_true _ _).mp hu
  exact ⟨s, u, _, StepSystem.reach_of_replay hs, StepSystem.steps_of_replay hu, hcalls,
    of_decide_eq_true hafter⟩

end AioHomematic.Client.InterfaceClient
