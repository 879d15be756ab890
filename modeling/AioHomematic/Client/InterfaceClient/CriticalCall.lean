import AioHomematic.Client.InterfaceClient.Supersede

/-!
# Critical calls

A critical call is not suspended before it hands its command to the backend:
its first stretch cancels the retries of the purge addresses, purges the heap
and starts the execution. What it finds of earlier calls for these addresses is
then either stilled or `InFlight`: popped by the worker, or granted and not yet
resumed.
-/

namespace AioHomematic.Client.InterfaceClient

open Lib Relation

variable {V : Type*} [DecidableEq V] {cfg : Config} {s t u : InterfaceClient V} {a : Action V}
  {r : Request V}

/-- The request of a `set_value` or `put_paramset` call. -/
def Action.request : Action V → Option (Request V)
  | .setValue channelAddress paramsetKey parameter value priority purgeAddresses retry check _ _ =>
    some (.ofSetValue channelAddress paramsetKey parameter value priority purgeAddresses retry check)
  | .putParamset request _ _ => some request
  | _ => none

/-- The command of the call has left the heap and its execution has not started: the worker holds
it, or it was granted and the call not yet resumed. -/
def InFlight (s : InterfaceClient V) (c : Call V) : Prop :=
  c.result = none ∧ c.execution = none ∧ ∃ future, c.future = some future ∧
    ((∃ cmd ∈ s.throttle.worker.held, cmd.future = future) ∨
      ∃ w, s.throttle.waiters[future]? = some w ∧ w.future = .result)

/-- A waiting call waits for a command of its own channel. -/
def Linked (s : InterfaceClient V) : Prop :=
  ∀ (i : Nat) (c : Call V) (future : Nat), s.calls[i]? = some c → c.future = some future →
    ∃ w, s.throttle.waiters[future]? = some w ∧ w.command.deviceAddress = c.request.channelAddress

omit [DecidableEq V] in
theorem Linked.set {i : Nat} {c c' : Call V} (hs : Linked s) (hc : s.calls[i]? = some c)
    (hfuture : ∀ future, c'.future = some future →
      ∃ w, s.throttle.waiters[future]? = some w ∧
        w.command.deviceAddress = c'.request.channelAddress)
    (hthrottle : t.throttle = s.throttle) (hcalls : t.calls = s.calls.set i c') : Linked t := by
  intro j d future hd hf
  rw [hcalls, getElem?_set_of_some hc] at hd
  rw [hthrottle]
  split at hd
  · cases hd; exact hfuture future hf
  · exact hs j d future hd hf

theorem Linked.continueCall {i : Nat} {c : Call V} (hs : Linked s) (hc : s.calls[i]? = some c)
    (e : Execution × CommandRetryHandler) : Linked (s.continueCall cfg i c e) := by
  obtain ⟨result, inFlight, heq, -⟩ := continueCall_eq cfg i c e s
  rw [heq]
  refine hs.set hc ?_ rfl rfl
  exact fun future => hs i c future hc

theorem Linked.move {P : StartCondition V} (hs : Linked s) (h : Move cfg P s t) : Linked t := by
  cases h with
  | cancel => exact hs
  | throttle hstep =>
    intro i c future hc hf
    obtain ⟨w, hw, haddress⟩ := hs i c future hc hf
    obtain ⟨w', hw', hlater⟩ := (CommandThrottle.step_effect hstep).later hw
    exact ⟨w', hw', hlater.command ▸ haddress⟩
  | create r =>
    intro i c future hc hf
    dsimp only at hc
    rcases getElem?_concat_cases hc with hc | ⟨-, rfl⟩
    · exact hs i c future hc hf
    · cases hf
  | wait hc _ _ _ _ hw haddress =>
    refine hs.set hc (fun future hf => ?_) rfl rfl
    cases hf
    exact ⟨_, hw, haddress⟩
  | @reject i c _ hc =>
    refine hs.set hc ?_ rfl rfl
    exact fun future => hs i c future hc
  | @start i c hc =>
    unfold startExecution
    exact Linked.continueCall (s := { s with inFlight := stageInFlight cfg c.request s.inFlight }) hs
      hc _
  | proceed hc => exact hs.continueCall hc _

theorem reach_linked {ok : InterfaceClient V → Action V → Prop} (h : (system cfg).Reach ok s) :
    Linked s := by
  obtain ⟨as, h⟩ := h
  exact steps_invariant (fun _ _ => Linked.move) h fun i c _ hc => by simp [system, init] at hc

/-- The client when the critical call `r` has purged, and its execution has not started. -/
def purged (throttle : CommandThrottle) (r : Request V) (s : InterfaceClient V) :
    InterfaceClient V :=
  { s with
    throttle
    retryHandler := r.purgeAddresses.foldl CommandRetryHandler.cancelRetriesForDevice s.retryHandler
    calls := s.calls ++ [{ request := r }] }

/-- The first stretch of a critical call, up to the start of its execution. -/
theorem startCall_critical {tBurst tStamp : Int} (hcritical : r.commandPriority = .critical)
    (hcheck : r.check = none) (h : s.startCall cfg r tBurst tStamp = some t) :
    ∃ throttle, CommandThrottle.step cfg.throttle s.throttle
        (.acquire .critical r.channelAddress r.purgeAddresses tBurst tStamp) = some throttle ∧
      t = startExecution cfg s.calls.length { request := r } (s.purged throttle r) := by
  have hacquire : (s.throttle.acquire cfg.throttle .critical r.channelAddress r.purgeAddresses
      tBurst tStamp).1 = .ended .returned := by
    unfold CommandThrottle.acquire
    split
    · rfl
    · rfl
  unfold startCall checkAndAcquire at h
  simp only [hcheck, hcritical, hacquire] at h
  obtain ⟨throttle, hstep, rfl⟩ := Option.map_eq_some_iff.mp h
  exact ⟨throttle, hstep, rfl⟩

theorem ungranted_of_purge {throttle : CommandThrottle} {i : Nat} {c : Call V} {future : Nat}
    {tBurst tStamp : Int} (hreach : (system cfg).Reach StepSystem.Free s)
    (hstep : CommandThrottle.step cfg.throttle s.throttle
      (.acquire .critical r.channelAddress r.purgeAddresses tBurst tStamp) = some throttle)
    (hc : s.calls[i]? = some c) (haddress : c.request.channelAddress ∈ r.purgeAddresses)
    (hfuture : c.future = some future)
    (hheld : ∀ cmd ∈ s.throttle.worker.held, cmd.future ≠ future)
    (hgranted : ∀ w, s.throttle.waiters[future]? = some w → w.future ≠ .result) :
    throttle.Ungranted future := by
  have hthrottle := reach_throttle hreach
  obtain ⟨w, hw, hlink⟩ := reach_linked hreach i c future hc hfuture
  have heff := CommandThrottle.step_effect hstep
  have h0 : cfg.throttle.interval ≠ 0 := fun h0 => by
    simp [(CommandThrottle.reach_idle h0 hthrottle).waiters] at hw
  by_cases howner : ∃ cmd ∈ s.throttle.owned, cmd.future = future ∧ w.future = .pending
  · obtain ⟨cmd, hcmd, hf, hp⟩ := howner
    obtain ⟨v, hv, hvc⟩ := CommandThrottle.reach_recorded hthrottle cmd hcmd
    rw [hf, hw] at hv
    cases hv
    have hqueue : cmd ∈ s.throttle.queue :=
      (List.mem_append.mp hcmd).resolve_right fun hh => hheld cmd hh hf
    rw [← hvc] at hqueue hf
    refine ⟨{ w with future := .superseded }, ?_, by simp, by simp⟩
    rw [(CommandThrottle.step_critical h0 hstep).1]
    exact CommandThrottle.purgeCommands_failed hw (by rwa [hlink]) hp hqueue hf
  · refine heff.ungranted ⟨w, hw, hgranted w hw, fun hp cmd hcmd hf => howner ⟨cmd, hcmd, hf, hp⟩⟩

omit [DecidableEq V] in
theorem registered_purged (throttle : CommandThrottle) (hreg : Registered cfg s) :
    Registered cfg (s.purged throttle r) := by
  obtain ⟨hb, hlater, -⟩ := CommandRetryHandler.foldl_cancelDevice hreg.bounded r.purgeAddresses
  refine hreg.frame hb hlater fun i c hc => ?_
  rcases getElem?_concat_cases hc with hc | ⟨-, rfl⟩
  · exact .inr ⟨c, hc, rfl, rfl, id⟩
  · exact .inl rfl

/-- An earlier call for a purge address comes to no further attempt, unless it is in flight. -/
theorem stilled_purged {throttle : CommandThrottle} {i : Nat} {c : Call V} {tBurst tStamp : Int}
    (hreach : (system cfg).Reach StepSystem.Free s)
    (hacquire : CommandThrottle.step cfg.throttle s.throttle
      (.acquire .critical r.channelAddress r.purgeAddresses tBurst tStamp) = some throttle)
    (hc : s.calls[i]? = some c) (haddress : c.request.channelAddress ∈ r.purgeAddresses)
    (hflight : ¬ InFlight s c) : Stilled (s.purged throttle r) i c := by
  have hreg := reach_registered hreach
  obtain ⟨-, hlater, hset⟩ := CommandRetryHandler.foldl_cancelDevice hreg.bounded r.purgeAddresses
  by_cases hres : c.result = none
  · cases hexec : c.execution with
    | some e =>
      refine .inr (.inl ⟨e, hexec, fun event hev => ?_⟩)
      have hcev : c.event = some event := by rw [Call.event, hexec]; exact hev
      by_cases hunset : s.retryHandler.isSet event
      · exact hlater.isSet event hunset
      · exact hset _ event haddress (hreg.registered i c event hc hcev hres hunset)
    | none =>
      refine .inr (.inr ⟨hexec, fun future hf => ?_, fun _ => ?_⟩)
      · apply ungranted_of_purge hreach hacquire hc haddress hf
        · exact fun cmd hcmd hcf => hflight ⟨hres, hexec, future, hf, .inl ⟨cmd, hcmd, hcf⟩⟩
        · exact fun w hw hr => hflight ⟨hres, hexec, future, hf, .inr ⟨w, hw, hr⟩⟩
      · have hlt := (List.getElem?_eq_some_iff.mp hc).1
        simp only [purged, List.length_append, List.length_singleton]
        omega
  · exact .inl hres

/-- **A critical call** makes its first attempt in its first stretch, and from then on no earlier
call for one of its purge addresses makes another attempt, unless its command was in flight. -/
theorem critical_supersedes (hreach : (system cfg).Reach StepSystem.Free s)
    (hrequest : a.request = some r) (hcritical : r.commandPriority = .critical)
    (hcheck : r.check = none) (hstep : step cfg s a = some t) :
    (∃ c, t.calls[s.calls.length]? = some c ∧ c.request = r ∧ c.attempts = 1) ∧
    ∀ (i : Nat) (c : Call V), s.calls[i]? = some c →
      c.request.channelAddress ∈ r.purgeAddresses → ¬ InFlight s c →
      ∀ as u, (system cfg).Steps StepSystem.Free t as u →
        ∃ c', u.calls[i]? = some c' ∧ c'.attempts = c.attempts := by
  have hstart : ∃ tBurst tStamp, s.startCall cfg r tBurst tStamp = some t := by
    cases a <;> cases hrequest <;> exact ⟨_, _, hstep⟩
  obtain ⟨tBurst, tStamp, hstart⟩ := hstart
  obtain ⟨throttle, hacquire, rfl⟩ := startCall_critical hcritical hcheck hstart
  have hreg : Registered cfg (s.purged throttle r) :=
    registered_purged throttle (reach_registered hreach)
  have hnew : (s.purged throttle r).calls[s.calls.length]? = some { request := r } :=
    List.getElem?_concat_length
  have hmove : Move cfg (fun _ _ _ _ => True) (s.purged throttle r)
      ((s.purged throttle r).startExecution cfg s.calls.length { request := r }) :=
    .start hnew rfl rfl (fun _ hf => by cases hf) (fun _ => by simp [purged]) trivial
  constructor
  · obtain ⟨c, hcalls, hreq, hatt⟩ :=
      startExecution_calls cfg (s.purged throttle r) s.calls.length { request := r }
    exact ⟨c, by rw [hcalls, getElem?_set_self_of_some hnew], hreq, hatt⟩
  · intro i c hc haddress hflight as u hsteps
    have hstill := stilled_purged hreach hacquire hc haddress hflight
    have hold : (s.purged throttle r).calls[i]? = some c := getElem?_concat_of_some hc _
    obtain ⟨c', hc', hatt, hstill'⟩ := hstill.move hreg hold hmove
    obtain ⟨c'', hc'', hatt'⟩ := steps_stilled hsteps (hreg.move hmove) hc' hstill'
    exact ⟨c'', hc'', hatt'.trans hatt⟩

/-! ## Runs on one channel -/

/-- A client with a throttle interval of 100 ticks and three attempts. -/
def sampleConfig : Config where
  interfaceId := "HmIP-RF"
  throttle := { interval := 100, burstWindow := 500 }

/-- A movement command and what lets the worker grant it and wait for the next one. -/
def sampleMove : List (Action Nat) :=
  [.setValue "VCU1:3" .values "LEVEL" 1 none [] true none 1000 1000, .worker 1000, .worker 1000,
    .worker 1000, .worker 1000, .worker 1000]

/-- The stop command of the channel group. -/
def sampleStop : Action Nat :=
  .setValue "VCU1:3" .values "STOP" 1 (some .critical) ["VCU1:3", "VCU1:4"] true none 1010 1010

/-- A movement command waits for its second attempt when the stop comes: there is none. -/
theorem critical_supersedes_stop :
    ∃ s t u, (system sampleConfig).replay StepSystem.Free (init sampleConfig)
        (sampleMove ++ [.granted 0, .operationEnded 0 (.error { cls := .timeoutError })]) = some s ∧
      step sampleConfig s sampleStop = some t ∧
      (system sampleConfig).replay StepSystem.Free t [.sleepEnded 0] = some u ∧
      u.calls[0]?.map Call.attempts = some 1 := by
  obtain ⟨s, hs, hcall, hrest⟩ := StepSystem.replay_any
    (p := fun s : InterfaceClient Nat => (s.calls[0]?.any fun c =>
        c.request.channelAddress = "VCU1:3" ∧ c.execution.isSome ∧ c.attempts = 1) = true ∧
      ((step sampleConfig s sampleStop).any fun t =>
        ((system sampleConfig).replay StepSystem.Free t [.sleepEnded 0]).isSome) = true)
    (show ((system sampleConfig).replay StepSystem.Free (init sampleConfig)
      (sampleMove ++ [.granted 0, .operationEnded 0 (.error { cls := .timeoutError })])).any _ =
        true by decide)
  obtain ⟨c, hc, htest⟩ := (Option.any_eq_true _ _).mp hcall
  obtain ⟨haddress, hexec, hattempts⟩ := of_decide_eq_true htest
  obtain ⟨t, ht, hu⟩ := (Option.any_eq_true _ _).mp hrest
  obtain ⟨u, hu⟩ := Option.isSome_iff_exists.mp hu
  have hflight : ¬ InFlight s c := fun h => by simp [h.2.1] at hexec
  obtain ⟨-, hstill⟩ := critical_supersedes (StepSystem.reach_of_replay hs) rfl rfl rfl ht
  obtain ⟨c', hc', hatt⟩ := hstill 0 c hc (by rw [haddress]; exact List.mem_cons_self) hflight _ u
    (StepSystem.steps_of_replay hu)
  exact ⟨s, t, u, hs, ht, hu, by rw [hc', Option.map_some, hatt, hattempts]⟩

/-- The stop reaches neither the command in the worker's hand nor the granted one: in both runs
the movement command is handed to the backend after the stop. -/
theorem critical_supersedes_misses :
    (∃ s t u as, (system sampleConfig).Reach StepSystem.Free s ∧
      step sampleConfig s sampleStop = some t ∧
      (system sampleConfig).Steps StepSystem.Free t as u ∧
      t.calls.map Call.attempts = [1, 0, 1] ∧ u.calls.map Call.attempts = [1, 1, 1]) ∧
    ∃ s t u as, (system sampleConfig).Reach StepSystem.Free s ∧
      step sampleConfig s sampleStop = some t ∧
      (system sampleConfig).Steps StepSystem.Free t as u ∧
      t.calls.map Call.attempts = [0, 1] ∧ u.calls.map Call.attempts = [1, 1] := by
  constructor
  · obtain ⟨s, hs, hrest⟩ := StepSystem.replay_any
      (p := fun s : InterfaceClient Nat => ((step sampleConfig s sampleStop).any fun t =>
        decide (t.calls.map Call.attempts = [1, 0, 1]) &&
        ((system sampleConfig).replay StepSystem.Free t
          [.worker 1100, .worker 1100, .worker 1100, .granted 1]).any
            fun u => u.calls.map Call.attempts = [1, 1, 1]) = true)
      (show ((system sampleConfig).replay StepSystem.Free (init sampleConfig)
        (sampleMove ++ [.granted 0,
          .setValue "VCU1:3" .values "LEVEL" 2 none [] true none 1005 1005,
          .worker 1005])).any _ = true by decide)
    obtain ⟨t, ht, hrest⟩ := (Option.any_eq_true _ _).mp hrest
    obtain ⟨hbefore, hrest⟩ := Bool.and_eq_true_iff.mp hrest
    obtain ⟨u, hu, hafter⟩ := (Option.any_eq_true _ _).mp hrest
    exact ⟨s, t, u, _, StepSystem.reach_of_replay hs, ht, StepSystem.steps_of_replay hu,
      of_decide_eq_true hbefore, of_decide_eq_true hafter⟩
  · obtain ⟨s, hs, hrest⟩ := StepSystem.replay_any
      (p := fun s : InterfaceClient Nat => ((step sampleConfig s sampleStop).any fun t =>
        decide (t.calls.map Call.attempts = [0, 1]) &&
        ((system sampleConfig).replay StepSystem.Free t [.granted 0]).any
          fun u => u.calls.map Call.attempts = [1, 1]) = true)
      (show ((system sampleConfig).replay StepSystem.Free (init sampleConfig)
        sampleMove).any _ = true by decide)
    obtain ⟨t, ht, hrest⟩ := (Option.any_eq_true _ _).mp hrest
    obtain ⟨hbefore, hrest⟩ := Bool.and_eq_true_iff.mp hrest
    obtain ⟨u, hu, hafter⟩ := (Option.any_eq_true _ _).mp hrest
    exact ⟨s, t, u, _, StepSystem.reach_of_replay hs, ht, StepSystem.steps_of_replay hu,
      of_decide_eq_true hbefore, of_decide_eq_true hafter⟩

end AioHomematic.Client.InterfaceClient
