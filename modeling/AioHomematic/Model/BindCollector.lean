import AioHomematic.Context

/-!
# The request context of a service call

`bind_collector` around the methods of the data points. What a wrapped method
does to the context is a `Body`: it sends commands and calls other wrapped
methods, and goes on depending on how those calls end. The wrapper resets the
context when the method returns or raises a `BaseHomematicException`, and only
then. A call in service sets nothing and resets nothing.

`bindWrapper_context` says what becomes of the context, by the way the call
ends; `run_context` that no body changes the context in service.
-/

namespace AioHomematic.Model

open Client (CommandPriority)

/-- How a call ends. -/
inductive Outcome where
  | returned
  /-- A `BaseHomematicException`. -/
  | homematic
  | exception
  | cancelled
deriving DecidableEq

/-- The wrapper resets the context. -/
def Outcome.isCaught : Outcome → Bool
  | returned => true
  | homematic => true
  | _ => false

/-- A method of a data point, as it is decorated. -/
structure Method where
  name : String
  enabled : Bool := true
  priority : Option CommandPriority := none
  /-- `get_channel_group_addresses` of the data point, where it has this method. -/
  channelGroupAddresses : Option (List String) := none
deriving DecidableEq

def Method.requestContext (method : Method) (requestId : Nat) : RequestContext where
  requestId := requestId
  operation := "service:" ++ method.name
  priority := method.priority
  purgeAddresses :=
    if method.priority = some .critical then method.channelGroupAddresses else none

def setContext (method : Method) (s : TaskContext) : Option ContextToken × TaskContext :=
  if s.isInService then (none, s)
  else (some (s.setRequestContext method.requestContext).1,
    (s.setRequestContext method.requestContext).2)

/-- Where the wrapper resets the context, if it has set it. -/
def resetContext (token : Option ContextToken) (s : TaskContext) : TaskContext :=
  match token with
  | some token => s.resetRequestContext token
  | none => s

/-- The end of the `try` statement, by what was raised in it. -/
def leave (token : Option ContextToken) : Outcome × TaskContext → Outcome × TaskContext
  | (.returned, s) => (.returned, resetContext token s)
  | (.homematic, s) => (.homematic, resetContext token s)
  | (.exception, s) => (.exception, s)
  | (.cancelled, s) => (.cancelled, s)

/-- `send_data` of the collector that the wrapper has made, which ends with `sendData`. -/
def bindWrapper (method : Method) (collectorExists : Bool)
    (func : TaskContext → Outcome × TaskContext) (sendData : Outcome) (s : TaskContext) :
    Outcome × TaskContext :=
  let (token, s) := setContext method s
  if !method.enabled then leave token (func s)
  else if collectorExists then leave token (func s)
  else
    match func s with
    | (.returned, s) => leave token (sendData, s.send)
    | raised => leave token raised

/-- What a wrapped method does. -/
inductive Body where
  | done (outcome : Outcome)
  | send (rest : Body)
  | call (method : Method) (collectorExists : Bool) (body : Body) (sendData : Outcome)
      (next : Outcome → Body)

def Body.run : Body → TaskContext → Outcome × TaskContext
  | .done outcome, s => (outcome, s)
  | .send rest, s => rest.run s.send
  | .call method collectorExists body sendData next, s =>
    let r := bindWrapper method collectorExists body.run sendData s
    (next r.1).run r.2

/-- A call of a wrapped method. -/
structure ServiceCall where
  method : Method
  collectorExists : Bool := false
  body : Body
  sendData : Outcome := .returned

namespace ServiceCall

def run (call : ServiceCall) : TaskContext → Outcome × TaskContext :=
  bindWrapper call.method call.collectorExists call.body.run call.sendData

/-- The calls are made one after the other, in one task. -/
def runAll (calls : List ServiceCall) (s : TaskContext) : TaskContext :=
  calls.foldl (fun s call => (call.run s).2) s

end ServiceCall

/-! ## How a call ends -/

/-- A wrapped call ends as its body does, or as its `send_data`. -/
def callEnding (method : Method) (collectorExists : Bool) (ending sendData : Outcome) : Outcome :=
  if method.enabled ∧ collectorExists = false ∧ ending = .returned then sendData else ending

def Body.ending : Body → Outcome
  | .done outcome => outcome
  | .send rest => rest.ending
  | .call method collectorExists body sendData next =>
    (next (callEnding method collectorExists body.ending sendData)).ending

def ServiceCall.ending (call : ServiceCall) : Outcome :=
  callEnding call.method call.collectorExists call.body.ending call.sendData

variable {method : Method} {collectorExists : Bool} {func : TaskContext → Outcome × TaskContext}
  {ending sendData outcome : Outcome} {s t : TaskContext} {token : Option ContextToken} {body : Body}
  {call : ServiceCall}

theorem leave_fst (r : Outcome × TaskContext) : (leave token r).1 = r.1 := by
  obtain ⟨outcome, s⟩ := r
  cases outcome <;> rfl

theorem leave_of_caught (h : outcome.isCaught = true) :
    leave token (outcome, s) = (outcome, resetContext token s) := by
  cases outcome with
  | returned => rfl
  | homematic => rfl
  | exception => cases h
  | cancelled => cases h

theorem leave_of_not_caught (h : outcome.isCaught = false) :
    leave token (outcome, s) = (outcome, s) := by
  cases outcome with
  | returned => cases h
  | homematic => cases h
  | exception => rfl
  | cancelled => rfl

theorem leave_none (r : Outcome × TaskContext) : leave none r = r := by
  obtain ⟨outcome, s⟩ := r
  cases outcome <;> rfl

/-- A call is its function in the context that was set, `send_data` where the wrapper has made the
collector, and the end of the `try` statement. -/
theorem bindWrapper_eq (method : Method) (collectorExists : Bool) (sendData : Outcome)
    (s : TaskContext) (hfunc : ∀ s, (func s).1 = ending) :
    ∃ t, (t = (func (setContext method s).2).2 ∨ t = (func (setContext method s).2).2.send) ∧
      bindWrapper method collectorExists func sendData s =
        leave (setContext method s).1
          (callEnding method collectorExists ending sendData, t) := by
  have hend := hfunc (setContext method s).2
  unfold bindWrapper callEnding
  dsimp only
  generalize func (setContext method s).2 = r at hend ⊢
  obtain ⟨outcome, t⟩ := r
  cases hend
  cases method.enabled with
  | false => exact ⟨t, .inl rfl, rfl⟩
  | true =>
    cases collectorExists with
    | true => exact ⟨t, .inl rfl, rfl⟩
    | false =>
      cases outcome with
      | returned => exact ⟨t.send, .inr rfl, rfl⟩
      | homematic => exact ⟨t, .inl rfl, rfl⟩
      | exception => exact ⟨t, .inl rfl, rfl⟩
      | cancelled => exact ⟨t, .inl rfl, rfl⟩

theorem bindWrapper_fst (hfunc : ∀ s, (func s).1 = ending) :
    (bindWrapper method collectorExists func sendData s).1 =
      callEnding method collectorExists ending sendData := by
  obtain ⟨t, -, heq⟩ := bindWrapper_eq method collectorExists sendData s hfunc
  rw [heq, leave_fst]

theorem run_fst (body : Body) (s : TaskContext) : (body.run s).1 = body.ending := by
  induction body generalizing s with
  | done outcome => rfl
  | send rest ih => exact ih s.send
  | call method collectorExists body sendData next ihbody ihnext =>
    show ((next (bindWrapper _ _ body.run _ s).1).run _).1 = (next _).ending
    rw [bindWrapper_fst ihbody]
    exact ihnext _ _

/-! ## What becomes of the context -/

theorem isInService_congr (h : t.context = s.context) : t.isInService = s.isInService := by
  unfold TaskContext.isInService
  rw [h]

theorem requestContext_inService (method : Method) (requestId : Nat) :
    startsWith (method.requestContext requestId).operation "service:" = true := by
  refine List.isPrefixOf_iff_prefix.mpr ?_
  show _ <+: ("service:" ++ method.name).toList
  rw [String.toList_append]
  exact List.prefix_append _ _

theorem setContext_of_inService (h : s.isInService = true) : setContext method s = (none, s) := by
  unfold setContext
  rw [if_pos h]

theorem setContext_of_not_inService (h : s.isInService = false) :
    setContext method s =
      (some ⟨s.context⟩, (s.setRequestContext method.requestContext).2) := by
  unfold setContext
  rw [if_neg (Bool.eq_false_iff.mp h)]
  rfl

/-- Around a function that keeps the context in service, the wrapper keeps it in service, or when
it is caught how the call ends; otherwise the context of the call stays. -/
theorem bindWrapper_context (method : Method) (collectorExists : Bool) (sendData : Outcome)
    (s : TaskContext) (hfunc : ∀ s, (func s).1 = ending)
    (hkeeps : ∀ s, s.isInService = true → (func s).2.context = s.context) :
    (bindWrapper method collectorExists func sendData s).2.context =
      if s.isInService = true ∨
          (callEnding method collectorExists ending sendData).isCaught = true then s.context
      else some (method.requestContext s.nextRequestId) := by
  obtain ⟨t, ht, heq⟩ := bindWrapper_eq method collectorExists sendData s hfunc
  rw [heq]
  have hcontext (hservice : (setContext method s).2.isInService = true) :
      t.context = (setContext method s).2.context := by
    rcases ht with rfl | rfl
    · exact hkeeps _ hservice
    · exact hkeeps _ hservice
  cases hservice : s.isInService with
  | true =>
    rw [setContext_of_inService hservice] at hcontext ⊢
    rw [if_pos (.inl rfl), leave_none]
    exact hcontext hservice
  | false =>
    rw [setContext_of_not_inService hservice] at hcontext ⊢
    cases hcaught : (callEnding method collectorExists ending sendData).isCaught with
    | true =>
      rw [if_pos (.inr rfl), leave_of_caught hcaught]
      rfl
    | false =>
      rw [if_neg (by simp), leave_of_not_caught hcaught]
      exact hcontext (requestContext_inService method s.nextRequestId)

/-- In service no body changes the context, whatever it calls. -/
theorem run_context (body : Body) (h : s.isInService = true) :
    (body.run s).2.context = s.context := by
  induction body generalizing s with
  | done outcome => rfl
  | send rest ih => exact ih (s := s.send) h
  | call method collectorExists body sendData next ihbody ihnext =>
    have hcall :
        (bindWrapper method collectorExists body.run sendData s).2.context = s.context := by
      rw [bindWrapper_context _ _ _ _ (run_fst body) fun s hs => ihbody hs, if_pos (.inl h)]
    refine (ihnext _ ?_).trans hcall
    rw [isInService_congr hcall]
    exact h

theorem ServiceCall.run_context (call : ServiceCall) (s : TaskContext) :
    (call.run s).2.context =
      if s.isInService = true ∨ call.ending.isCaught = true then s.context
      else some (call.method.requestContext s.nextRequestId) :=
  bindWrapper_context _ _ _ _ (run_fst call.body) fun _ hs => Model.run_context call.body hs

/-- From the task's own context, one call after the other: the first whose end is not caught
leaves its context there for good. -/
theorem runAll_context (calls : List ServiceCall) (s : TaskContext) :
    (ServiceCall.runAll calls s).context = s.context ↔
      s.isInService = true ∨ ∀ call ∈ calls, call.ending.isCaught = true := by
  induction calls generalizing s with
  | nil => exact ⟨fun _ => .inr fun _ h => (nomatch h), fun _ => rfl⟩
  | cons call calls ih =>
    have hcall := call.run_context s
    show (ServiceCall.runAll calls (call.run s).2).context = _ ↔ _
    by_cases hkept : s.isInService = true ∨ call.ending.isCaught = true
    · rw [if_pos hkept] at hcall
      rw [← hcall, ih, isInService_congr hcall, List.forall_mem_cons]
      constructor
      · rintro (hservice | hcalls)
        · exact .inl hservice
        · exact hkept.imp_right fun hcaught => ⟨hcaught, hcalls⟩
      · rintro (hservice | ⟨-, hcalls⟩)
        · exact .inl hservice
        · exact .inr hcalls
    · rw [if_neg hkept] at hcall
      have hservice : (call.run s).2.isInService = true := by
        unfold TaskContext.isInService
        rw [hcall]
        exact requestContext_inService call.method s.nextRequestId
      have hrest := (ih (call.run s).2).mpr (.inl hservice)
      constructor
      · intro hsame
        refine .inl ?_
        rw [isInService_congr (hsame.symm.trans hrest)]
        exact hservice
      · rintro (hservice | hcalls)
        · exact absurd (.inl hservice) hkept
        · exact absurd (.inr (hcalls call List.mem_cons_self)) hkept

/-! ## What commands are sent with -/

/-- The commands that are sent from `s` to `t` have this context. -/
def SentWith (ctx : Option RequestContext) (s t : TaskContext) : Prop :=
  ∃ sent, t.sent = s.sent ++ sent ∧ ∀ ctx' ∈ sent, ctx' = ctx

theorem SentWith.refl (ctx : Option RequestContext) (s : TaskContext) : SentWith ctx s s :=
  ⟨[], (List.append_nil _).symm, fun _ h => nomatch h⟩

theorem SentWith.send (s : TaskContext) : SentWith s.context s s.send :=
  ⟨[s.context], rfl, fun _ h => List.mem_singleton.mp h⟩

theorem SentWith.trans {ctx : Option RequestContext} {s t u : TaskContext} (h₁ : SentWith ctx s t)
    (h₂ : SentWith ctx t u) : SentWith ctx s u := by
  obtain ⟨sent₁, heq₁, hall₁⟩ := h₁
  obtain ⟨sent₂, heq₂, hall₂⟩ := h₂
  refine ⟨sent₁ ++ sent₂, by rw [heq₂, heq₁, List.append_assoc], fun ctx' hmem => ?_⟩
  rcases List.mem_append.mp hmem with hmem | hmem
  · exact hall₁ ctx' hmem
  · exact hall₂ ctx' hmem

theorem leave_sent (r : Outcome × TaskContext) : (leave token r).2.sent = r.2.sent := by
  obtain ⟨outcome, s⟩ := r
  cases outcome <;> cases token <;> rfl

/-- A call sends in the context that it has set, or found in service. -/
theorem bindWrapper_sent (method : Method) (collectorExists : Bool) (sendData : Outcome)
    (s : TaskContext) (hfunc : ∀ s, (func s).1 = ending)
    (hkeeps : ∀ s, s.isInService = true → (func s).2.context = s.context)
    (hsent : ∀ s, s.isInService = true → SentWith s.context s (func s).2) :
    SentWith (setContext method s).2.context s
      (bindWrapper method collectorExists func sendData s).2 := by
  obtain ⟨t, ht, heq⟩ := bindWrapper_eq method collectorExists sendData s hfunc
  have hset : (setContext method s).2.isInService = true ∧
      (setContext method s).2.sent = s.sent := by
    cases hservice : s.isInService with
    | true =>
      rw [setContext_of_inService hservice]
      exact ⟨hservice, rfl⟩
    | false =>
      rw [setContext_of_not_inService hservice]
      exact ⟨requestContext_inService method s.nextRequestId, rfl⟩
  have hbody := hsent _ hset.1
  have ht : SentWith (setContext method s).2.context (setContext method s).2 t := by
    rcases ht with rfl | rfl
    · exact hbody
    · have hsend := SentWith.send (func (setContext method s).2).2
      rw [hkeeps _ hset.1] at hsend
      exact hbody.trans hsend
  unfold SentWith
  rw [heq, leave_sent, ← hset.2]
  exact ht

theorem run_sent (body : Body) (h : s.isInService = true) :
    SentWith s.context s (body.run s).2 := by
  induction body generalizing s with
  | done outcome => exact .refl _ s
  | send rest ih => exact (SentWith.send s).trans (ih (s := s.send) h)
  | call method collectorExists body sendData next ihbody ihnext =>
    have hcontext := fun s hs => run_context (s := s) body hs
    have hcall := bindWrapper_sent method collectorExists sendData s (run_fst body) hcontext
      fun s hs => ihbody hs
    rw [setContext_of_inService h] at hcall
    have hkept :
        (bindWrapper method collectorExists body.run sendData s).2.context = s.context := by
      rw [bindWrapper_context _ _ _ _ (run_fst body) hcontext, if_pos (.inl h)]
    have hnext := ihnext (bindWrapper method collectorExists body.run sendData s).1
      (s := (bindWrapper method collectorExists body.run sendData s).2)
      (by rw [isInService_congr hkept, h])
    rw [hkept] at hnext
    exact hcall.trans hnext

/-- A call that starts out of service sends with its own priority and purge addresses. -/
theorem ServiceCall.run_sent (call : ServiceCall) (h : s.isInService = false) :
    SentWith (some (call.method.requestContext s.nextRequestId)) s (call.run s).2 := by
  have hsent := bindWrapper_sent call.method call.collectorExists call.sendData s
    (run_fst call.body) (fun _ hs => Model.run_context call.body hs)
    fun _ hs => Model.run_sent call.body hs
  rw [setContext_of_not_inService h] at hsent
  exact hsent

/-- **Request context**: the context after a call is the one before it exactly when the call was in
service already, or returns or raises a `BaseHomematicException`; the same for any number of calls
one after the other. A later call then sends with its own priority and purge addresses. -/
theorem context_restored (call : ServiceCall) (calls : List ServiceCall) (s : TaskContext) :
    ((call.run s).2.context = s.context ↔
      s.isInService = true ∨ call.ending.isCaught = true) ∧
    ((ServiceCall.runAll calls s).context = s.context ↔
      s.isInService = true ∨ ∀ call ∈ calls, call.ending.isCaught = true) ∧
    (s.isInService = false → (∀ call ∈ calls, call.ending.isCaught = true) →
      SentWith (some (call.method.requestContext (ServiceCall.runAll calls s).nextRequestId))
        (ServiceCall.runAll calls s) (call.run (ServiceCall.runAll calls s)).2) := by
  refine ⟨?_, runAll_context calls s, fun hservice hcaught => ?_⟩
  · have h := runAll_context [call] s
    rwa [List.forall_mem_singleton] at h
  · have hcontext := (runAll_context calls s).mpr (.inr hcaught)
    exact call.run_sent ((isInService_congr hcontext).trans hservice)

/-! ## A lock and a dimmer -/

def sampleLock : Method :=
  { name := "lock"
    priority := some .critical
    channelGroupAddresses := some ["VCU1:1", "VCU1:2"] }

def sampleTurnOn : ServiceCall where
  method := { name := "turn_on" }
  body := .send (.done .returned)

/-- The collector of the lock sends, and this ends so. -/
def sampleLockCall (sendData : Outcome) : ServiceCall where
  method := sampleLock
  body := .done .returned
  sendData := sendData

/-- The lock command is refused by the backend; then the dimmer is turned on. -/
theorem context_restored_refused :
    SentWith (some (sampleTurnOn.method.requestContext 1))
      (ServiceCall.runAll [sampleLockCall .homematic] {})
      (sampleTurnOn.run (ServiceCall.runAll [sampleLockCall .homematic] {})).2 :=
  (context_restored sampleTurnOn [sampleLockCall .homematic] {}).2.2 rfl (by decide)

/-- The lock command is cancelled while it is sent; then the dimmer is turned on, with the priority
and the purge addresses of the lock. -/
theorem context_restored_cancelled :
    ((sampleLockCall .cancelled).run {}).2.context ≠ ({} : TaskContext).context ∧
    (ServiceCall.runAll [sampleLockCall .cancelled, sampleTurnOn] {}).sent =
      [some (sampleLock.requestContext 0), some (sampleLock.requestContext 0),
        some (sampleLock.requestContext 0)] := by
  decide

end AioHomematic.Model
