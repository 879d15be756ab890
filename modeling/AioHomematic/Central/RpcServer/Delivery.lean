import Mathlib.Data.List.Perm.Basic
import AioHomematic.Central.RpcServer.Flow

/-!
# Event calls are handed on

Every step of the server moves its event calls as `Flow.Move` allows, as long as
no request cancels the tasks. New callbacks come last in `ready`, so whatever is
ready runs after as many steps of the loop as there are callbacks before it.
-/

namespace AioHomematic.Central

open Lib StepSystem

variable {V H : Type*}

namespace RpcServer

def handlerCall : Handle V H → Option (ReceivedEventCall V H)
  | .start .. => none
  | .resume .. => none
  | .done _ => none
  | .handler _ call => some call
  | .other => none

def flow (s : RpcServer V H) : Flow V H where
  answered := s.answered
  waiting := s.waiting
  entered := s.entered
  held := s.held
  published := s.published
  queued := s.ready.filterMap handlerCall
  handled := s.handled

variable {hasClient : String → Bool} {s t : RpcServer V H}

/-! ## Growing -/

/-- What is ready stays so, and the event calls that become ready are new. -/
structure Grows (s t : RpcServer V H) : Prop where
  ready : ∃ later, t.ready = s.ready ++ later ∧
    ∀ call ∈ later.filterMap startCall, s.answered.length ≤ call.number
  answered : s.answered <+: t.answered
  cancelled : t.cancelled = s.cancelled
  requests : t.requests = s.requests

theorem Grows.refl (s : RpcServer V H) : Grows s s :=
  ⟨⟨[], (List.append_nil _).symm, fun _ h => by cases h⟩, List.prefix_rfl, rfl, rfl⟩

theorem Grows.trans {u : RpcServer V H} (h : Grows s t) (h' : Grows t u) : Grows s u := by
  obtain ⟨later, hready, hnew⟩ := h.ready
  obtain ⟨later', hready', hnew'⟩ := h'.ready
  refine ⟨⟨later ++ later', ?_, fun call hcall => ?_⟩, h.answered.trans h'.answered,
    h'.cancelled.trans h.cancelled, h'.requests.trans h.requests⟩
  · rw [hready', hready, List.append_assoc]
  · rw [List.filterMap_append, List.mem_append] at hcall
    rcases hcall with hcall | hcall
    · exact hnew call hcall
    · exact h.answered.length_le.trans (hnew' call hcall)

section Grow

variable (s) (task : Nat)

theorem grows_concat (handle : Handle V H) (hnew : ∀ call, startCall handle = some call →
    s.answered.length ≤ call.number) : Grows s { s with ready := s.ready ++ [handle] } := by
  refine ⟨⟨[handle], rfl, fun call hcall => ?_⟩, List.prefix_rfl, rfl, rfl⟩
  obtain ⟨a, ha, hcall⟩ := List.mem_filterMap.mp hcall
  rw [List.mem_singleton.mp ha] at hcall
  exact hnew call hcall

theorem grows_finish : Grows s (s.finish task) :=
  grows_concat s _ fun _ h => by cases h

theorem grows_suspend (rest : Rest V) : Grows s (s.suspend task rest) :=
  ⟨⟨[], (List.append_nil _).symm, fun _ h => by cases h⟩, List.prefix_rfl, rfl, rfl⟩

theorem grows_publish (event : ReceivedEvent V) : Grows s (s.publish task event).1 := by
  unfold publish
  dsimp only
  split
  · exact ⟨⟨[], (List.append_nil _).symm, fun _ h => by cases h⟩, List.prefix_rfl, rfl, rfl⟩
  · refine ⟨⟨_, rfl, fun call hcall => ?_⟩, List.prefix_rfl, rfl, rfl⟩
    obtain ⟨handle, hhandle, hcall⟩ := List.mem_filterMap.mp hcall
    obtain ⟨ph, -, rfl⟩ := List.mem_map.mp hhandle
    cases hcall

theorem grows_publishValue (call : EventCall V) : Grows s (s.publishValue task call) := by
  unfold publishValue
  dsimp only
  split
  · exact (grows_publish s task _).trans (grows_suspend _ _ _)
  · exact (grows_publish s task _).trans (grows_finish _ _)

theorem grows_runOther (suspends : Bool) : Grows s (s.runOther task suspends) := by
  unfold runOther
  split
  · exact grows_suspend _ _ _
  · exact grows_finish _ _

theorem grows_dataPointEvent (call : EventCall V) :
    Grows s (s.dataPointEvent hasClient task call) := by
  have henter : Grows s { s with entered := s.entered ++ [call] } :=
    ⟨⟨[], (List.append_nil _).symm, fun _ h => by cases h⟩, List.prefix_rfl, rfl, rfl⟩
  refine henter.trans ?_
  unfold dataPointEvent route
  dsimp only
  split
  · exact grows_finish _ _
  split
  · exact grows_finish _ _
  split
  · split
    · exact (grows_publish _ _ _).trans (grows_suspend _ _ _)
    · exact (grows_publish _ _ _).trans (grows_publishValue _ _ _)
  · exact grows_publishValue _ _ _

theorem grows_runHandle (suspends : Bool) (handle : Handle V H) :
    Grows s (s.runHandle hasClient suspends handle) := by
  cases handle with
  | start task call =>
    simp only [runHandle]
    split
    · exact grows_finish _ _
    · cases call with
      | none => exact grows_runOther _ _ _
      | some call => exact grows_dataPointEvent _ _ _
  | resume task rest =>
    simp only [runHandle]
    split
    · exact grows_finish _ _
    · cases rest with
      | publishValue call => exact grows_publishValue _ _ _
      | «return» => exact grows_finish _ _
      | other => exact grows_runOther _ _ _
  | done task =>
    exact ⟨⟨[], (List.append_nil _).symm, fun _ h => by cases h⟩, List.prefix_rfl, rfl, rfl⟩
  | handler task call =>
    simp only [runHandle]
    split
    · exact Grows.refl s
    · exact ⟨⟨[], (List.append_nil _).symm, fun _ h => by cases h⟩, List.prefix_rfl, rfl, rfl⟩
  | other => exact Grows.refl s

theorem grows_createBackgroundTask (call : Option (EventCall V))
    (hnew : ∀ c, call = some c → s.answered.length ≤ c.number) :
    Grows s (s.createBackgroundTask call) := by
  unfold createBackgroundTask
  split
  · exact Grows.refl s
  · refine ⟨⟨[.start s.nextTask call], rfl, fun c hc => ?_⟩, List.prefix_rfl, rfl, rfl⟩
    obtain ⟨a, ha, hc⟩ := List.mem_filterMap.mp hc
    rw [List.mem_singleton.mp ha] at hc
    exact hnew c hc

end Grow

/-! ## Moving -/

section Flow

variable (s) (task : Nat)

theorem flow_concat {handle : Handle V H} (hstart : startCall handle = none)
    (hresume : resumeCall handle = none) (hhandler : handlerCall handle = none) :
    ({ s with ready := s.ready ++ [handle] } : RpcServer V H).flow = s.flow := by
  simp [flow, waiting, held, hstart, hresume, hhandler]

theorem flow_finish : (s.finish task).flow = s.flow := flow_concat s rfl rfl rfl

theorem flow_suspend {rest : Rest V} (hrest : heldCall rest = none) :
    (s.suspend task rest).flow = s.flow := by
  simp [flow, suspend, waiting, held, hrest]

/-- A call that waits after its status is held. -/
theorem move_suspend (call : EventCall V) : Flow.Move hasClient
    { s.flow with held := s.flow.held ++ [call] } (s.suspend task (.publishValue call)).flow := by
  refine .rearrange (f := { s.flow with held := s.flow.held ++ [call] }) ?_
  change ((s.suspended.filterMap fun entry => heldCall entry.2) ++ s.ready.filterMap resumeCall ++
    [call]).Perm (((s.suspended ++ [(task, Rest.publishValue call)]).filterMap fun entry =>
      heldCall entry.2) ++ s.ready.filterMap resumeCall)
  rw [List.filterMap_append, List.append_assoc, List.append_assoc]
  exact List.perm_append_comm.append_left _

theorem flow_runOther (suspends : Bool) : (s.runOther task suspends).flow = s.flow := by
  unfold runOther
  split
  · exact flow_suspend s task rfl
  · exact flow_finish s task

theorem flow_publish (event : ReceivedEvent V) : (s.publish task event).1.flow =
    s.flow.publish (s.bus.prioritizedHandlers event.type event.key) event := by
  unfold publish
  dsimp only
  split
  next hnone => simp [flow, Flow.publish, waiting, held, hnone]
  next hsome =>
    have hmap : ∀ handlers : List (PrioritizedHandler H),
        (handlers.map fun ph => Handle.handler task (ph, event)).filterMap startCall = [] ∧
        (handlers.map fun ph => Handle.handler task (ph, event)).filterMap resumeCall = [] ∧
        (handlers.map fun ph => Handle.handler task (ph, event)).filterMap handlerCall =
          handlers.map fun ph => (ph, event) := by
      intro handlers
      rw [List.filterMap_map, List.filterMap_map, List.filterMap_map]
      exact ⟨List.filterMap_eq_nil_iff.mpr fun _ _ => rfl,
        List.filterMap_eq_nil_iff.mpr fun _ _ => rfl,
        (congrFun List.filterMap_eq_map handlers : handlers.filterMap (some ∘ _) = _)⟩
    simp [flow, Flow.publish, waiting, held, hmap]

theorem flow_publishValue (call : EventCall V) : (s.publishValue task call).flow =
    s.flow.publish (s.bus.prioritizedHandlers .dataPointValueReceived call.dpk)
      call.valueEvent := by
  refine Eq.trans ?_ (flow_publish s task call.valueEvent)
  unfold publishValue
  dsimp only
  split
  · exact flow_suspend _ task rfl
  · exact flow_finish _ task

/-- The call of a task that starts is handed on. -/
theorem moves_dataPointEvent (call : EventCall V) : Flow.Moves hasClient
    { s.flow with waiting := call :: s.waiting } (s.dataPointEvent hasClient task call).flow := by
  cases hclient : hasClient call.interfaceId with
  | false =>
    have hskips : call.publishes hasClient = false := by simp [EventCall.publishes, hclient]
    have hroute : s.dataPointEvent hasClient task call =
        { s with entered := s.entered ++ [call] }.finish task := by
      simp [dataPointEvent, route, hclient]
    rw [hroute, flow_finish]
    exact .single (.skip rfl hskips)
  | true =>
    by_cases hpong : call.parameter = "PONG"
    · have hskips : call.publishes hasClient = false := by simp [EventCall.publishes, hpong]
      have hroute : s.dataPointEvent hasClient task call =
          { s with entered := s.entered ++ [call] }.finish task := by
        simp [dataPointEvent, route, hpong]
      rw [hroute, flow_finish]
      exact .single (.skip rfl hskips)
    · have hpublishes : call.publishes hasClient = true := by
        simp [EventCall.publishes, hclient, hpong]
      cases hstatus : EventCall.isStatus call.parameter with
      | false =>
        have hroute : s.dataPointEvent hasClient task call =
            { s with entered := s.entered ++ [call] }.publishValue task call := by
          simp [dataPointEvent, route, hclient, hpong, hstatus]
        rw [hroute, flow_publishValue]
        exact .single (.value rfl hpublishes hstatus _)
      | true =>
        have hflow := flow_publish { s with entered := s.entered ++ [call] } task call.statusEvent
        set publishing := { s with entered := s.entered ++ [call] }.publish task call.statusEvent
          with hdef
        have hstatusMove := Flow.Move.status (f := { s.flow with waiting := call :: s.waiting })
          rfl hpublishes hstatus
          (s.bus.prioritizedHandlers .dataPointStatusReceived call.mainDpk)
        cases hwaits : publishing.2 with
        | false =>
          have hroute : s.dataPointEvent hasClient task call =
              publishing.1.publishValue task call := by
            simp [dataPointEvent, route, hclient, hpong, hstatus, ← hdef, hwaits]
          rw [hroute, flow_publishValue, hflow]
          exact .tail (.single hstatusMove)
            (.release (List.perm_append_singleton call s.held) _)
        | true =>
          have hroute : s.dataPointEvent hasClient task call =
              publishing.1.suspend task (.publishValue call) := by
            simp [dataPointEvent, route, hclient, hpong, hstatus, ← hdef, hwaits]
          rw [hroute]
          refine .tail (.single hstatusMove) ?_
          have hsuspend : Flow.Move hasClient _ _ := move_suspend publishing.1 task call
          rw [hflow] at hsuspend
          exact hsuspend

end Flow

/-- The loop runs the first callback. -/
theorem moves_runHandle {handle : Handle V H} {ready : List (Handle V H)}
    (hready : s.ready = handle :: ready) (hcancelled : s.cancelled = []) (suspends : Bool) :
    Flow.Moves hasClient s.flow ({ s with ready }.runHandle hasClient suspends handle).flow := by
  have hpop : startCall handle = none → resumeCall handle = none → handlerCall handle = none →
      s.flow = ({ s with ready } : RpcServer V H).flow := by
    intro hstart hresume hhandler
    simp [flow, waiting, held, hready, hstart, hresume, hhandler]
  cases handle with
  | start task call =>
    cases call with
    | none =>
      have hrun : ({ s with ready } : RpcServer V H).runHandle hasClient suspends
          (.start task none) = { s with ready }.runOther task suspends := by
        simp [runHandle, hcancelled]
      rw [hrun, flow_runOther, hpop rfl rfl rfl]
    | some call =>
      have hrun : ({ s with ready } : RpcServer V H).runHandle hasClient suspends
          (.start task (some call)) = { s with ready }.dataPointEvent hasClient task call := by
        simp [runHandle, hcancelled]
      have hflow : s.flow = { ({ s with ready } : RpcServer V H).flow with
          waiting := call :: ({ s with ready } : RpcServer V H).waiting } := by
        simp only [flow, waiting, held, hready]
        rfl
      rw [hrun, hflow]
      exact moves_dataPointEvent _ task call
  | resume task rest =>
    cases rest with
    | publishValue call =>
      have hrun : ({ s with ready } : RpcServer V H).runHandle hasClient suspends
          (.resume task (.publishValue call)) = { s with ready }.publishValue task call := by
        simp [runHandle, hcancelled]
      rw [hrun, flow_publishValue]
      have hheld : s.flow.held.Perm (call :: ({ s with ready } : RpcServer V H).held) := by
        change ((s.suspended.filterMap fun entry => heldCall entry.2) ++
          s.ready.filterMap resumeCall).Perm _
        rw [hready]
        exact List.perm_middle
      have hflow : { s.flow with held := ({ s with ready } : RpcServer V H).held } =
          ({ s with ready } : RpcServer V H).flow := by
        simp only [flow, waiting, held, hready]
        rfl
      rw [← hflow]
      exact .single (.release hheld _)
    | «return» =>
      have hrun : ({ s with ready } : RpcServer V H).runHandle hasClient suspends
          (.resume task .return) = { s with ready }.finish task := by
        simp [runHandle, hcancelled]
      rw [hrun, flow_finish, hpop rfl rfl rfl]
    | other =>
      have hrun : ({ s with ready } : RpcServer V H).runHandle hasClient suspends
          (.resume task .other) = { s with ready }.runOther task suspends := by
        simp [runHandle, hcancelled]
      rw [hrun, flow_runOther, hpop rfl rfl rfl]
  | done task =>
    rw [hpop rfl rfl rfl]
    exact .refl
  | handler task call =>
    have hrun : ({ s with ready } : RpcServer V H).runHandle hasClient suspends
        (.handler task call) = { s with ready, handled := s.handled ++ [call] } := by
      simp [runHandle, hcancelled]
    have hqueued : s.flow.queued = call :: ready.filterMap handlerCall := by
      change s.ready.filterMap handlerCall = _
      rw [hready]
      rfl
    have hflow : { s.flow with
        queued := ready.filterMap handlerCall, handled := s.handled ++ [call] } =
          ({ s with ready, handled := s.handled ++ [call] } : RpcServer V H).flow := by
      simp only [flow, waiting, held, hready]
      rfl
    rw [hrun, ← hflow]
    exact .single (.handle hqueued)
  | other =>
    rw [hpop rfl rfl rfl]
    exact .refl

/-- What an event call does. -/
theorem event_cases (hasClient : String → Bool) (s : RpcServer V H)
    (interfaceId channelAddress parameter : String) (value : V) :
    ∃ a : Answered V, a.call.number = s.answered.length ∧
      a.tracked = s.backgroundTasks.length ∧ a.call.interfaceId = interfaceId ∧
      s.event hasClient interfaceId channelAddress parameter value =
        if a.accepted hasClient then
          { s with
            answered := s.answered ++ [a]
            backgroundTasks := s.backgroundTasks ++ [s.nextTask]
            ready := s.ready ++ [.start s.nextTask (some a.call)]
            nextTask := s.nextTask + 1 }
        else { s with answered := s.answered ++ [a] } := by
  refine ⟨⟨⟨_, interfaceId, channelAddress, parameter, value⟩, _⟩, rfl, rfl, rfl, ?_⟩
  unfold event createBackgroundTask Answered.accepted
  cases hasClient interfaceId with
  | false => rfl
  | true =>
    by_cases hlimit : maxRpcBackgroundTasks ≤ s.backgroundTasks.length
    · simp [hlimit]
    · simp [hlimit, Nat.lt_of_not_le hlimit]

theorem move_event (interfaceId channelAddress parameter : String) (value : V) :
    Flow.Move hasClient s.flow
      (s.event hasClient interfaceId channelAddress parameter value).flow := by
  obtain ⟨a, hnumber, -, -, hevent⟩ :=
    event_cases hasClient s interfaceId channelAddress parameter value
  rw [hevent]
  cases haccepted : a.accepted hasClient with
  | false => exact .answer (f := s.flow) hnumber haccepted
  | true =>
    have hflow : ({ s with
        answered := s.answered ++ [a]
        backgroundTasks := s.backgroundTasks ++ [s.nextTask]
        ready := s.ready ++ [.start s.nextTask (some a.call)]
        nextTask := s.nextTask + 1 } : RpcServer V H).flow =
          { s.flow with
            answered := s.answered ++ [a], waiting := s.waiting ++ [a.call] } := by
      simp [flow, waiting, held, startCall, resumeCall, handlerCall]
    rw [if_pos rfl, hflow]
    exact .accept (f := s.flow) hnumber haccepted

theorem grows_event (interfaceId channelAddress parameter : String) (value : V) :
    Grows s (s.event hasClient interfaceId channelAddress parameter value) := by
  obtain ⟨a, hnumber, -, -, hevent⟩ :=
    event_cases hasClient s interfaceId channelAddress parameter value
  rw [hevent]
  split
  · refine ⟨⟨[.start s.nextTask (some a.call)], rfl, fun call hcall => ?_⟩,
      List.prefix_append _ _, rfl, rfl⟩
    rw [List.mem_singleton.mp hcall]
    exact Nat.le_of_eq hnumber.symm
  · exact ⟨⟨[], (List.append_nil _).symm, fun _ h => by cases h⟩, List.prefix_append _ _, rfl, rfl⟩

theorem flow_createBackgroundTask : (s.createBackgroundTask none).flow = s.flow := by
  unfold createBackgroundTask
  split
  · rfl
  · simp [flow, waiting, held, startCall, resumeCall, handlerCall]

/-- A request that does not cancel the tasks. -/
theorem dispatch_spec (calls : List (RpcCall V)) (hcalls : ∀ call ∈ calls, call.cancels = false) :
    Grows s (s.dispatch hasClient calls) ∧
      Flow.Moves hasClient s.flow (s.dispatch hasClient calls).flow := by
  induction calls generalizing s with
  | nil => exact ⟨Grows.refl s, .refl⟩
  | cons call calls ih =>
    rw [List.forall_mem_cons] at hcalls
    cases call with
    | event interfaceId channelAddress parameter value =>
      have h := ih (s := s.event hasClient interfaceId channelAddress parameter value) hcalls.2
      exact ⟨(grows_event _ _ _ _).trans h.1, .head (move_event _ _ _ _) h.2⟩
    | background =>
      have h := ih (s := s.createBackgroundTask none) hcalls.2
      rw [flow_createBackgroundTask] at h
      exact ⟨(grows_createBackgroundTask s none fun _ hcall => by cases hcall).trans h.1, h.2⟩
    | immediate => exact ih hcalls.2
    | fault => exact ih hcalls.2
    | cancelBackgroundTasks => cases hcalls.1

theorem move_wake {i : Nat} {task : Nat} {rest : Rest V}
    (hi : s.suspended[i]? = some (task, rest)) : Flow.Move hasClient s.flow
      ({ s with
        suspended := s.suspended.eraseIdx i
        ready := s.ready ++ [.resume task rest] } : RpcServer V H).flow := by
  obtain ⟨hlt, hget⟩ := List.getElem?_eq_some_iff.mp hi
  have hperm : ((task, rest) :: s.suspended.eraseIdx i).Perm s.suspended := by
    rw [← hget]
    exact List.getElem_cons_eraseIdx_perm hlt
  have hsuspended := hperm.symm.filterMap fun entry => heldCall entry.2
  have hone : ((task, rest) :: s.suspended.eraseIdx i).filterMap (fun entry => heldCall entry.2) =
      (heldCall rest).toList ++
        (s.suspended.eraseIdx i).filterMap fun entry => heldCall entry.2 := by
    rw [List.filterMap_cons]
    cases heldCall rest with
    | none => rfl
    | some call => rfl
  have hready : (s.ready ++ [Handle.resume task rest]).filterMap resumeCall =
      s.ready.filterMap resumeCall ++ (heldCall rest).toList := by
    rw [List.filterMap_append]
    congr 1
  have hheld : s.held.Perm (((s.suspended.eraseIdx i).filterMap fun entry => heldCall entry.2) ++
      (s.ready ++ [Handle.resume task rest]).filterMap resumeCall) := by
    rw [hready, ← List.append_assoc]
    refine (hsuspended.append_right _).trans ?_
    rw [hone, List.append_assoc]
    exact List.perm_append_comm
  have hflow : ({ s with
      suspended := s.suspended.eraseIdx i
      ready := s.ready ++ [.resume task rest] } : RpcServer V H).flow =
        { s.flow with
          held := ((s.suspended.eraseIdx i).filterMap fun entry => heldCall entry.2) ++
            (s.ready ++ [Handle.resume task rest]).filterMap resumeCall } := by
    simp [flow, waiting, held, startCall, handlerCall]
  rw [hflow]
  exact .rearrange (f := s.flow) hheld

/-! ## Runs -/

variable {a : RpcAction V H}

/-- The callbacks that a step leaves. -/
def left (s : RpcServer V H) (a : RpcAction V H) : List (Handle V H) :=
  s.ready.drop (if isRun a then 1 else 0)

theorem step_spec (hcancelled : s.cancelled = []) (hrequests : s.requests = []) (hok : Ok s a)
    (hstep : step hasClient s a = some t) :
    Grows { s with ready := s.left a } t ∧ Flow.Moves hasClient s.flow t.flow := by
  cases a with
  | request request =>
    cases hstep
    exact dispatch_spec _ hok
  | goOn i =>
    simp only [step, hrequests] at hstep
    cases hstep
  | runReady suspends =>
    simp only [step] at hstep
    split at hstep
    · cases hstep
    next handle ready hready =>
      cases hstep
      have hleft : s.left (.runReady suspends) = ready := by
        rw [left, hready]
        rfl
      rw [hleft]
      exact ⟨grows_runHandle _ _ _, moves_runHandle hready hcancelled suspends⟩
  | wake i =>
    obtain ⟨⟨task, rest⟩, hi, hstep⟩ := Option.bind_eq_some_iff.mp hstep
    dsimp only at hstep
    split at hstep
    · cases hstep
      exact ⟨⟨⟨[.resume task rest], rfl, fun _ h => by cases h⟩, List.prefix_rfl, rfl, rfl⟩,
        .single (move_wake hi)⟩
    · cases hstep
  | callSoon =>
    cases hstep
    refine ⟨grows_concat s .other fun _ h => (by cases h), ?_⟩
    rw [flow_concat s rfl rfl rfl]
  | setBus bus =>
    cases hstep
    exact ⟨⟨⟨[], (List.append_nil _).symm, fun _ h => by cases h⟩, List.prefix_rfl, rfl, rfl⟩,
      .refl⟩

structure Invariant (hasClient : String → Bool) (s : RpcServer V H) : Prop where
  cancelled : s.cancelled = []
  requests : s.requests = []
  kept : s.flow.Kept hasClient

theorem invariant_of_step (h : s.Invariant hasClient) (hok : Ok s a)
    (hstep : step hasClient s a = some t) : t.Invariant hasClient := by
  obtain ⟨hgrows, hmoves⟩ := step_spec h.cancelled h.requests hok hstep
  refine ⟨hgrows.cancelled.trans h.cancelled, hgrows.requests.trans h.requests,
    h.kept.moves hmoves⟩

theorem invariant_of_reach {bus : ReceivedEventBus H}
    (h : (system hasClient bus : StepSystem (RpcServer V H) _).Reach Ok s) :
    s.Invariant hasClient := by
  refine h.invariant ⟨rfl, rfl, ?_⟩ fun _ _ _ hs hok hstep => invariant_of_step hs hok hstep
  exact ⟨⟨fun _ h => (by cases h), fun _ h => (by cases h), List.Pairwise.nil⟩, rfl, rfl,
    fun _ h => (by cases h), fun _ _ => rfl, fun _ => rfl, fun _ => .refl _⟩

/-- What is ready runs in its turn; what comes later are new calls. -/
theorem ready_of_steps {bus : ReceivedEventBus H} {as : List (RpcAction V H)}
    (hs : s.Invariant hasClient) (h : (system hasClient bus).Steps Ok s as t) :
    t.Invariant hasClient ∧ s.answered <+: t.answered ∧
      ∃ later, t.ready = s.ready.drop (as.countP isRun) ++ later ∧
        ∀ call ∈ later.filterMap startCall, s.answered.length ≤ call.number := by
  induction h with
  | nil s => exact ⟨hs, List.prefix_rfl, [], by simp, fun _ h => by cases h⟩
  | @cons s u t a as hok hstep _ ih =>
    obtain ⟨hgrows, -⟩ := step_spec hs.cancelled hs.requests hok hstep
    obtain ⟨ht, hanswered, later, hready, hnew⟩ := ih (invariant_of_step hs hok hstep)
    obtain ⟨new, hu, hnew'⟩ := hgrows.ready
    refine ⟨ht, hgrows.answered.trans hanswered,
      new.drop (as.countP isRun - (s.left a).length) ++ later, ?_, fun call hcall => ?_⟩
    · rw [hready, hu, List.drop_append, List.append_assoc]
      congr 1
      change (s.left a).drop _ = _
      rw [left, List.drop_drop, List.countP_cons, Nat.add_comm]
    · rw [List.filterMap_append, List.mem_append] at hcall
      rcases hcall with hcall | hcall
      · exact hnew' call (((List.drop_sublist _ _).filterMap _).subset hcall)
      · exact hgrows.answered.length_le.trans (hnew call hcall)

end RpcServer

/-- In every run in which no request cancels the tasks, the accepted event calls are handed on once
and in their order, whatever comes after them, and the events of a data point are published in that
order. -/
theorem delivers_of_reach {V H : Type*} (hasClient : String → Bool) (bus : ReceivedEventBus H)
    (s : RpcServer V H) (h : (RpcServer.system hasClient bus).Reach RpcServer.Ok s) :
    s.Delivers hasClient ∧
      ∀ as t, (RpcServer.system hasClient bus).Steps RpcServer.Ok s as t →
        s.ready.length ≤ as.countP RpcServer.isRun →
          ∀ call ∈ accepted hasClient s.answered, call ∈ t.entered := by
  have hinvariant := RpcServer.invariant_of_reach h
  have hkept := hinvariant.kept
  have hhandled := hkept.ordered.handlers.sublist (List.sublist_append_left _ _)
  refine ⟨⟨hkept.handed, hkept.numbers, hkept.values, hkept.statuses, hkept.statusValues,
    hhandled⟩, fun as t hsteps hruns call hcall => ?_⟩
  obtain ⟨ht, hinitial, later, hready, hnew⟩ := RpcServer.ready_of_steps hinvariant hsteps
  have hmem : call ∈ t.entered ++ t.waiting := by
    have hhanded : t.entered ++ t.waiting = accepted hasClient t.answered := ht.kept.handed
    rw [hhanded]
    obtain ⟨a, ha, hcalled⟩ := List.mem_map.mp hcall
    refine List.mem_map.mpr ⟨a, List.mem_filter.mpr ⟨?_, (List.mem_filter.mp ha).2⟩, hcalled⟩
    exact hinitial.subset (List.mem_filter.mp ha).1
  rcases List.mem_append.mp hmem with hentered | hwaiting
  · exact hentered
  · rw [RpcServer.waiting, hready, List.drop_eq_nil_of_le hruns, List.nil_append] at hwaiting
    have hlt : call.number < s.answered.length := hkept.numbers_lt hcall
    exact absurd (hnew call hwaiting) (Nat.not_le.mpr hlt)

/-! ### Samples -/

namespace RpcServer

instance : DecidableRel (Ok (V := V) (H := H))
  | _, .request request => inferInstanceAs (Decidable (∀ call ∈ request.calls, _))
  | _, .goOn _ => .isTrue trivial
  | _, .runReady _ => .isTrue trivial
  | _, .wake _ => .isTrue trivial
  | _, .callSoon => .isTrue trivial
  | _, .setBus _ => .isTrue trivial

/-- Every interface is registered. -/
abbrev sampleSystem (bus : ReceivedEventBus Nat) :
    StepSystem (RpcServer Int Nat) (RpcAction Int Nat) :=
  system (fun _ => true) bus

def sampleCall (parameter : String) (value : Int) : RpcCall Int :=
  .event "BidCos-RF" "VCU0000001:1" parameter value

end RpcServer

theorem delivers_of_reach_multicall : ∃ s, (RpcServer.sampleSystem {}).Reach RpcServer.Ok s ∧
    s.entered.length = 1 ∧ s.waiting.length = 1 ∧ s.Delivers fun _ => true := by
  obtain ⟨s, hs, hentered, hwaiting⟩ := replay_any
    (p := fun s : RpcServer Int Nat => s.entered.length = 1 ∧ s.waiting.length = 1)
    (show ((RpcServer.sampleSystem {}).replay RpcServer.Ok (RpcServer.sampleSystem {}).init
      [.request (.multicall [.single (RpcServer.sampleCall "STATE" 1),
        .single (RpcServer.sampleCall "STATE" 0)]), .runReady false]).any _ = true by decide)
  exact ⟨s, reach_of_replay hs, hentered, hwaiting,
    (delivers_of_reach _ _ s (reach_of_replay hs)).1⟩

namespace RpcServer

/-! At the limit. -/

section Limit

variable {s : RpcServer V H} {hasClient : String → Bool}

theorem allCalls_map_single (calls : List (RpcCall V)) :
    RpcRequest.allCalls (calls.map .single) = calls := by
  induction calls with
  | nil => rfl
  | cons call calls ih =>
    rw [List.map_cons, RpcRequest.allCalls, ih]
    rfl

theorem dispatch_append (s : RpcServer V H) (calls calls' : List (RpcCall V))
    (h : ∀ call ∈ calls, call.cancels = false) :
    s.dispatch hasClient (calls ++ calls') =
      (s.dispatch hasClient calls).dispatch hasClient calls' := by
  induction calls generalizing s with
  | nil => rfl
  | cons call calls ih =>
    rw [List.forall_mem_cons] at h
    cases call with
    | event interfaceId channelAddress parameter value => exact ih _ h.2
    | background => exact ih _ h.2
    | immediate => exact ih _ h.2
    | fault => exact ih _ h.2
    | cancelBackgroundTasks => cases h.1

/-- A batch of events of a registered interface, up to the limit. -/
theorem length_backgroundTasks_dispatch (s : RpcServer V H) {interfaceId : String}
    (hclient : hasClient interfaceId = true) (channelAddress parameter : String) (value : V)
    (n : Nat) (hn : s.backgroundTasks.length + n ≤ maxRpcBackgroundTasks) :
    (s.dispatch hasClient (List.replicate n
      (.event interfaceId channelAddress parameter value))).backgroundTasks.length =
        s.backgroundTasks.length + n := by
  induction n generalizing s with
  | zero => rfl
  | succ n ih =>
    obtain ⟨a, -, htracked, hinterface, hevent⟩ :=
      event_cases hasClient s interfaceId channelAddress parameter value
    have haccepted : a.accepted hasClient = true := by
      rw [Answered.accepted, hinterface, hclient, htracked, Bool.true_and, decide_eq_true_iff]
      omega
    rw [haccepted, if_pos rfl] at hevent
    rw [List.replicate_succ, dispatch, hevent]
    have hlength : (s.backgroundTasks ++ [s.nextTask]).length = s.backgroundTasks.length + 1 :=
      List.length_append
    refine (ih _ ?_).trans ?_
    · dsimp only
      omega
    · dsimp only
      omega

/-- A call that was not accepted is never handed on. -/
theorem Invariant.not_handed (h : s.Invariant hasClient) {a : Answered V} (ha : a ∈ s.answered)
    (hrefused : a.accepted hasClient = false) : a.call ∉ s.entered := by
  intro hentered
  have hmem : a.call ∈ accepted hasClient s.flow.answered := by
    rw [← h.kept.handed]
    exact List.mem_append_left _ hentered
  obtain ⟨b, hb, hcall⟩ := List.mem_map.mp hmem
  have hnodup : (s.flow.answered.map fun a => a.call.number).Nodup := by
    rw [h.kept.numbers]
    exact List.nodup_range
  have hsame : b = a := List.inj_on_of_nodup_map hnodup (List.mem_filter.mp hb).1 ha
    (congrArg EventCall.number hcall)
  have haccepted := (List.mem_filter.mp hb).2
  rw [hsame, hrefused] at haccepted
  cases haccepted

/-- The last event of a batch that fills the set of tasks is answered and refused. -/
theorem refused_of_full (hasClient : String → Bool) (s : RpcServer V H) (interfaceId : String)
    (hclient : hasClient interfaceId = true) (channelAddress parameter : String) (value value' : V)
    (n : Nat) (hn : s.backgroundTasks.length + n = maxRpcBackgroundTasks) :
    ∃ a ∈ (s.dispatch hasClient (List.replicate n
      (.event interfaceId channelAddress parameter value) ++
        [.event interfaceId channelAddress parameter value'])).answered,
      a.accepted hasClient = false := by
  have hplain : ∀ call ∈ List.replicate n
      (RpcCall.event interfaceId channelAddress parameter value), call.cancels = false := by
    intro call hcall
    rw [List.eq_of_mem_replicate hcall]
    rfl
  have hfull := length_backgroundTasks_dispatch s hclient channelAddress parameter value n
    (Nat.le_of_eq hn)
  rw [hn] at hfull
  rw [dispatch_append s _ _ hplain]
  obtain ⟨a, -, htracked, -, hevent⟩ := event_cases hasClient
    (s.dispatch hasClient (List.replicate n (.event interfaceId channelAddress parameter value)))
    interfaceId channelAddress parameter value'
  have hrefused : a.accepted hasClient = false := by
    rw [Answered.accepted, htracked, hfull]
    simp
  refine ⟨a, ?_, hrefused⟩
  rw [dispatch, dispatch, hevent, hrefused, if_neg Bool.false_ne_true]
  exact List.mem_append_right _ (List.mem_singleton.mpr rfl)

end Limit

/-- One event more than the limit, in one batch. -/
def overload : RpcRequest Int :=
  .multicall ((List.replicate maxRpcBackgroundTasks (sampleCall "STATE" 1) ++
    [sampleCall "STATE" 0]).map .single)

/-- Two values of a parameter with a status in its name; the handler of the first status takes
longer. -/
def outOfOrder : List (RpcAction Int Nat) :=
  [.request (.single (sampleCall "LEVEL_STATUS" 1)),
    .request (.single (sampleCall "LEVEL_STATUS" 2)),
    .runReady false, .runReady false, .runReady false, .runReady false,
    .wake 1, .runReady false, .runReady false, .wake 0, .runReady false]

def sampleKey (parameter : String) : DataPointKey where
  interfaceId := "BidCos-RF"
  channelAddress := "VCU0000001:1"
  paramsetKey := .values
  parameter

/-- A subscriber of the status of `LEVEL`. -/
def sampleBus : ReceivedEventBus Nat :=
  (({} : ReceivedEventBus Nat).subscribe .dataPointStatusReceived (some (sampleKey "LEVEL")) 0
    .normal).2

end RpcServer

/-- The last event of a batch over the limit is answered and never handed on; and the values of a
parameter whose name ends in `_STATUS` can be published in another order. -/
theorem not_handed_and_out_of_order :
    (∃ s, (RpcServer.sampleSystem {}).Steps Free (RpcServer.sampleSystem {}).init
        [.request RpcServer.overload] s ∧ ∃ a ∈ s.answered, ∀ as t,
          (RpcServer.sampleSystem {}).Steps RpcServer.Ok s as t → a.call ∉ t.entered) ∧
    ∃ s, (RpcServer.sampleSystem RpcServer.sampleBus).Steps Free
        (RpcServer.sampleSystem RpcServer.sampleBus).init RpcServer.outOfOrder s ∧
      (publishedUnder s.published .dataPointValueReceived
        (RpcServer.sampleKey "LEVEL_STATUS")).map EventCall.number = [1, 0] := by
  constructor
  · have hcalls : RpcServer.overload.calls =
        List.replicate maxRpcBackgroundTasks (RpcServer.sampleCall "STATE" 1) ++
          [RpcServer.sampleCall "STATE" 0] := RpcServer.allCalls_map_single _
    have hok : RpcServer.Ok (RpcServer.sampleSystem {}).init
        (.request RpcServer.overload : RpcAction Int Nat) := by
      intro call hcall
      rw [hcalls, List.mem_append, List.mem_singleton] at hcall
      rcases hcall with hcall | rfl
      · rw [List.eq_of_mem_replicate hcall]
        rfl
      · rfl
    obtain ⟨a, ha, hrefused⟩ := RpcServer.refused_of_full (fun _ => true)
      (RpcServer.sampleSystem {}).init "BidCos-RF" rfl "VCU0000001:1" "STATE" 1 0
      maxRpcBackgroundTasks (Nat.zero_add _)
    have hstep := Steps.single (S := RpcServer.sampleSystem {}) hok rfl
    refine ⟨_, hstep.free, a, ?_, fun as t hsteps => ?_⟩
    · rw [hcalls]
      exact ha
    · have hs := RpcServer.invariant_of_reach ⟨_, hstep⟩
      obtain ⟨ht, hinitial, -⟩ := RpcServer.ready_of_steps hs hsteps
      refine ht.not_handed (hinitial.subset ?_) hrefused
      rw [hcalls]
      exact ha
  · obtain ⟨s, hs, htest⟩ := replay_any
      (p := fun s : RpcServer Int Nat => (publishedUnder s.published .dataPointValueReceived
        (RpcServer.sampleKey "LEVEL_STATUS")).map EventCall.number = [1, 0])
      (show ((RpcServer.sampleSystem RpcServer.sampleBus).replay Free
        (RpcServer.sampleSystem RpcServer.sampleBus).init RpcServer.outOfOrder).any _ = true by
          decide)
    exact ⟨s, steps_of_replay hs, htest⟩

end AioHomematic.Central
