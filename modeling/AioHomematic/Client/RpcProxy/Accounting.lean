import AioHomematic.Client.RpcProxy

/-!
# What the circuit breaker is told

Each request answered with a result is to be a success, and each sent request
that ends with `NoConnectionException` a failure. Two branches do not keep to
that: a request refused because of the connection issue raises the exception of
a lost connection and is recorded as one, and a protocol error ends with that
exception and is not recorded.

Where neither comes up the records are those due, so the failures that open the
circuit are connection failures.
-/

namespace AioHomematic.Client

open Central Lib StepSystem

/-- The failures since the last success or reset, in a log with the last record first. -/
def failuresInARow : List Recorded → Nat
  | .failure :: log => failuresInARow log + 1
  | _ => 0

namespace AioXmlRpcProxy

variable {R : Type*} {args : RpcProxyArgs} {p : AioXmlRpcProxy} {now : Nat} {method : String}

variable (args) in
/-- The request is let through by the breaker and refused because of the issue. -/
def RefusedByIssue (now : Nat) (method : String) (p : AioXmlRpcProxy) : Prop :=
  p.supports method = true ∧ method ∉ bypassMethods ∧ (p.checkAvailable args now).1 = true ∧
    p.isIssue args = true

instance : Decidable (p.RefusedByIssue args now method) := inferInstanceAs (Decidable (_ ∧ _))

variable (args) in
/-- The end of a request with this outcome is recorded as it is due. -/
def RecordsDue (p : AioXmlRpcProxy) : TransportOutcome R → Prop
  | .protocolError errmsg => p.isIssue args = true ∨ errmsg = "Unauthorized"
  | _ => True

instance : DecidablePred (p.RecordsDue args (R := R))
  | .protocolError _ => inferInstanceAs (Decidable (_ ∨ _))
  | .result _ => .isTrue trivial
  | .sslError _ => .isTrue trivial
  | .osError _ => .isTrue trivial
  | .fault .. => .isTrue trivial
  | .typeError => .isTrue trivial
  | .improperConnectionState => .isTrue trivial
  | .expatError => .isTrue trivial
  | .other => .isTrue trivial

/-! ## The records of one request -/

theorem recorded_startRequest :
    (p.startRequest args now method).2.recorded = p.recorded ↔
      ¬p.RefusedByIssue args now method := by
  obtain ⟨hs, -, hb⟩ | ⟨hs, -, -, -, hi⟩ | ⟨hs, hsupports⟩ | ⟨hs, -, ha⟩ | ⟨hs, hrefused⟩ :=
    startRequest_cases args now method p
  · rw [hs]
    exact iff_of_true rfl fun h => h.2.1 hb
  · rw [hs]
    exact iff_of_true rfl fun h => Bool.eq_false_iff.mp hi h.2.2.2
  · rw [hs]
    exact iff_of_true rfl fun h => Bool.eq_false_iff.mp hsupports h.1
  · rw [hs]
    exact iff_of_true rfl fun h => Bool.eq_false_iff.mp ha h.2.2.1
  · rw [hs]
    exact iff_of_false (List.cons_ne_self _ _) fun h => h hrefused

theorem recorded_answered (args : RpcProxyArgs) (now : Nat) (outcome : TransportOutcome R)
    (p : AioXmlRpcProxy) :
    (p.answered args now outcome).2.recorded =
        ProxyRun.dueAt outcome (p.answered args now outcome).1 ++ p.recorded ↔
      p.RecordsDue args outcome := by
  cases outcome with
  | result value => exact iff_of_true rfl trivial
  | sslError excArgs =>
    refine iff_of_true ?_ trivial
    rw [answered]
    obtain h | h | h := sslError_cases (R := R) args now excArgs p <;> rw [h] <;> rfl
  | osError excArgs =>
    refine iff_of_true ?_ trivial
    rw [answered]
    obtain h | h | h := osError_cases (R := R) args now excArgs p <;> rw [h] <;> rfl
  | fault codeHashable faultString =>
    refine iff_of_true ?_ trivial
    simp only [answered, ProxyRun.dueAt, if_neg (fault_cls_ne codeHashable faultString)]
    rfl
  | typeError => exact iff_of_true rfl trivial
  | protocolError errmsg =>
    simp only [answered, protocolError, RecordsDue]
    split
    next hi =>
      split
      next he => exact iff_of_true rfl (.inr he)
      next he => exact iff_of_false (List.cons_ne_self _ _).symm fun h => h.elim hi he
    next hi => exact iff_of_true rfl (.inl (not_not.mp hi))
  | improperConnectionState => exact iff_of_true rfl trivial
  | expatError => exact iff_of_true rfl trivial
  | other => exact iff_of_true rfl trivial

/-! ## The failures that open the circuit -/

variable (args) in
def Counted (p : AioXmlRpcProxy) : Prop :=
  p.circuitBreaker.ClosedCount args.breaker (failuresInARow p.recorded)

variable (args) in
/-- If the circuit was closed and no longer is, enough failures in a row were recorded. -/
def OpensBy (p p' : AioXmlRpcProxy) : Prop :=
  p.circuitBreaker.state = .closed → p'.circuitBreaker.state ≠ .closed →
    failuresInARow p'.recorded = args.circuitBreakerConfig.opensAfter

theorem opensBy_of_state {p' : AioXmlRpcProxy}
    (h : p'.circuitBreaker.state = p.circuitBreaker.state) : OpensBy args p p' :=
  fun hs ht => absurd (h.trans hs) ht

theorem Counted.setConnectionState (h : Counted args p)
    (connectionState : CentralConnectionState) :
    Counted args (p.setConnectionState connectionState) :=
  h

theorem Counted.checkAvailable (h : Counted args p) (now : Nat) :
    Counted args (p.checkAvailable args now).2 :=
  CircuitBreaker.ClosedCount.isAvailable h

theorem Counted.recordFailure (h : Counted args p) (now : Nat) :
    Counted args (p.recordFailure args now) :=
  CircuitBreaker.ClosedCount.recordFailure h

theorem opensBy_recordFailure (h : Counted args p) (now : Nat) :
    OpensBy args p (p.recordFailure args now) :=
  CircuitBreaker.ClosedCount.opens h

theorem counted_recordSuccess : Counted args (p.recordSuccess args) :=
  CircuitBreaker.closedCount_recordSuccess

theorem opensBy_recordSuccess : OpensBy args p (p.recordSuccess args) := by
  intro hs ht
  refine absurd ?_ ht
  rw [recordSuccess, CircuitBreaker.state_recordSuccess, hs]

/-- A step that keeps the count, and in which the circuit is opened by enough failures. -/
structure KeepsCount (args : RpcProxyArgs) (p p' : AioXmlRpcProxy) : Prop where
  counted : Counted args p'
  opensBy : OpensBy args p p'

theorem Counted.keepsCount (h : Counted args p) : KeepsCount args p p :=
  ⟨h, opensBy_of_state rfl⟩

theorem keepsCount_startRequest (h : Counted args p) (now : Nat) (method : String) :
    KeepsCount args p (p.startRequest args now method).2 := by
  have hcheck : KeepsCount args p (p.checkAvailable args now).2 := by
    refine ⟨h.checkAvailable now, fun hs ht => absurd ?_ ht⟩
    simp only [checkAvailable, CircuitBreaker.isAvailable, hs]
  obtain ⟨hs, -⟩ | ⟨hs, -⟩ | ⟨hs, -⟩ | ⟨hs, -⟩ | ⟨hs, -⟩ := startRequest_cases args now method p
  · rw [hs]
    exact h.keepsCount
  · rw [hs]
    exact hcheck
  · rw [hs]
    exact h.keepsCount
  · rw [hs]
    exact hcheck
  · rw [hs]
    refine ⟨hcheck.counted.recordFailure now, fun hclosed ht => ?_⟩
    have hsame : (p.checkAvailable args now).2.circuitBreaker.state = .closed := by
      simp only [checkAvailable, CircuitBreaker.isAvailable, hclosed]
    exact opensBy_recordFailure hcheck.counted now hsame ht

theorem keepsCount_answered (h : Counted args p) (now : Nat) (outcome : TransportOutcome R) :
    KeepsCount args p (p.answered args now outcome).2 := by
  obtain ⟨value, -, hs⟩ | (hs | hs) | ⟨exc, -, hs⟩ | ⟨errmsg, -, ⟨-, hs⟩ | ⟨-, -, hs⟩⟩ :=
    answered_cases args now outcome p
  · rw [hs]
    exact ⟨counted_recordSuccess, opensBy_recordSuccess (p := p.removeIssue args)⟩
  · rw [hs]
    exact ⟨h.recordFailure now, opensBy_recordFailure h now⟩
  · rw [hs]
    have hadd : Counted args (p.addIssue args) := h.setConnectionState _
    exact ⟨hadd.recordFailure now, opensBy_recordFailure hadd now⟩
  · rw [hs]
    exact h.keepsCount
  · rw [hs]
    exact h.keepsCount
  · rw [hs]
    exact h.keepsCount

end AioXmlRpcProxy

namespace ProxyRun

open AioXmlRpcProxy

variable {R : Type*} {args : RpcProxyArgs} {s t : ProxyRun R}

theorem proxy_startRequest (args : RpcProxyArgs) (s : ProxyRun R) (method : String) :
    (s.startRequest args method).proxy = (s.proxy.startRequest args s.now method).2 ∧
      (s.startRequest args method).due = s.due := by
  rw [startRequest]
  split <;> simp [*]

/-! ## Runs -/

variable (args) in
/-- The condition on the steps: no request is let through by the breaker and refused because of the
issue, and no protocol error ends a request with `NoConnectionException`. -/
def Accounted : ProxyRun R → Action R → Prop
  | s, .request method => ¬s.proxy.RefusedByIssue args s.now method
  | s, .answer _ outcome => s.proxy.RecordsDue args outcome
  | _, _ => True

instance : DecidableRel (Accounted args (R := R))
  | _, .request _ => inferInstanceAs (Decidable (¬_))
  | s, .answer _ outcome => inferInstanceAs (Decidable (s.proxy.RecordsDue args outcome))
  | _, .cancel _ => .isTrue trivial
  | _, .doInit _ => .isTrue trivial
  | _, .resetCircuitBreaker => .isTrue trivial
  | _, .clearConnectionIssue => .isTrue trivial
  | _, .wait _ => .isTrue trivial
  | _, .addIssue .. => .isTrue trivial
  | _, .removeIssue .. => .isTrue trivial

/-- A step adds to the records what is due exactly if it meets the condition. -/
theorem recorded_step {a : Action R} (h : s.proxy.recorded = s.due)
    (hstep : s.step args a = some t) : t.proxy.recorded = t.due ↔ Accounted args s a := by
  cases a with
  | request method =>
    cases hstep
    obtain ⟨hproxy, hdue⟩ := proxy_startRequest args s method
    rw [hproxy, hdue, ← h]
    exact recorded_startRequest
  | answer i outcome =>
    obtain ⟨-, rfl⟩ := step_answer hstep
    have hrecorded := recorded_answered args s.now outcome s.proxy
    rw [h] at hrecorded
    exact hrecorded
  | cancel i =>
    rw [step_cancel hstep]
    exact iff_of_true h trivial
  | doInit supportedMethods =>
    cases hstep
    refine iff_of_true ?_ trivial
    rw [← h]
    simp only [doInit]
    split <;> rfl
  | resetCircuitBreaker =>
    cases hstep
    exact iff_of_true (congrArg (List.cons Recorded.reset) h) trivial
  | clearConnectionIssue => cases hstep; exact iff_of_true h trivial
  | wait microseconds => cases hstep; exact iff_of_true h trivial
  | addIssue issuer iid =>
    obtain ⟨connectionState, rfl⟩ := step_other (.inl hstep)
    exact iff_of_true h trivial
  | removeIssue issuer iid =>
    obtain ⟨connectionState, rfl⟩ := step_other (.inr hstep)
    exact iff_of_true h trivial

theorem keepsCount_step {a : Action R} (h : s.proxy.Counted args)
    (hstep : s.step args a = some t) : KeepsCount args s.proxy t.proxy := by
  cases a with
  | request method =>
    cases hstep
    rw [(proxy_startRequest args s method).1]
    exact keepsCount_startRequest h s.now method
  | answer i outcome =>
    obtain ⟨-, rfl⟩ := step_answer hstep
    exact keepsCount_answered h s.now outcome
  | cancel i =>
    rw [step_cancel hstep]
    exact h.keepsCount
  | doInit supportedMethods =>
    cases hstep
    simp only [doInit]
    split
    · exact h.keepsCount
    · exact ⟨h, opensBy_of_state rfl⟩
  | resetCircuitBreaker =>
    cases hstep
    exact ⟨CircuitBreaker.closedCount_reset, fun _ ht => absurd rfl ht⟩
  | clearConnectionIssue =>
    cases hstep
    exact ⟨h, opensBy_of_state rfl⟩
  | wait microseconds => cases hstep; exact h.keepsCount
  | addIssue issuer iid =>
    obtain ⟨connectionState, rfl⟩ := step_other (.inl hstep)
    exact ⟨h, opensBy_of_state rfl⟩
  | removeIssue issuer iid =>
    obtain ⟨connectionState, rfl⟩ := step_other (.inr hstep)
    exact ⟨h, opensBy_of_state rfl⟩

theorem reach_counted {ok : ProxyRun R → Action R → Prop} (h : (system args).Reach ok s) :
    s.proxy.Counted args :=
  h.invariant (P := fun s => s.proxy.Counted args)
    (CircuitBreaker.closedCount_of_zero fun _ => rfl) fun _ _ _ hs _ hstep =>
      (keepsCount_step hs hstep).counted

theorem reach_recorded (h : (system args).Reach (Accounted args) s) :
    s.proxy.recorded = s.due :=
  h.invariant (P := fun s => s.proxy.recorded = s.due) rfl fun _ _ _ hs ha hstep =>
    (recorded_step hs hstep).mpr ha

/-- In a run whose steps meet the condition the records are those due, up to the first step that
does not; and a circuit that leaves `CLOSED` has seen the threshold of connection failures in a
row. -/
theorem recorded_eq_due (h : (system args).Reach (Accounted args) s) :
    s.proxy.recorded = s.due ∧ ∀ a t, (system args).step s a = some t →
      (t.proxy.recorded = t.due ↔ Accounted args s a) ∧
      (Accounted args s a → s.proxy.circuitBreaker.state = .closed →
        t.proxy.circuitBreaker.state ≠ .closed →
          failuresInARow t.due = args.circuitBreakerConfig.opensAfter) := by
  have hrecorded := reach_recorded h
  refine ⟨hrecorded, fun a t hstep => ⟨recorded_step hrecorded hstep, fun ha hs ht => ?_⟩⟩
  rw [← (recorded_step hrecorded hstep).mpr ha]
  exact (keepsCount_step (reach_counted h) hstep).opensBy hs ht

/-- Five requests that are sent before the first of them finds the backend gone. -/
def sampleFailures : List (Action Nat) :=
  .replicate 5 (.request "getValue") ++
    (List.range 4).map fun i => .answer i (.osError [.errno .etimedout])

/-- The fifth failure opens the circuit. -/
theorem recorded_eq_due_opens :
    ∃ s t : ProxyRun Nat, (system { interfaceId := "CCU-HmIP-RF" }).replay
        (Accounted { interfaceId := "CCU-HmIP-RF" }) {} sampleFailures = some s ∧
      s.step { interfaceId := "CCU-HmIP-RF" } (.answer 4 (.osError [.hashable])) = some t ∧
      failuresInARow t.due = 5 := by
  obtain ⟨s, hs, hclosed, hopens⟩ := replay_any
    (p := fun s : ProxyRun Nat => s.proxy.circuitBreaker.state = .closed ∧
      (s.step { interfaceId := "CCU-HmIP-RF" } (.answer 4 (.osError [.hashable]))).any
        (·.proxy.circuitBreaker.state ≠ .closed) = true)
    (show ((system { interfaceId := "CCU-HmIP-RF" }).replay
      (Accounted { interfaceId := "CCU-HmIP-RF" }) {} sampleFailures).any _ = true by decide)
  obtain ⟨t, ht, hopened⟩ := (Option.any_eq_true _ _).mp hopens
  obtain ⟨-, hstep⟩ := recorded_eq_due (reach_of_replay hs)
  obtain ⟨-, hopens⟩ := hstep (.answer 4 (.osError [.hashable])) t ht
  exact ⟨s, t, hs, ht, hopens trivial hclosed (of_decide_eq_true hopened)⟩

/-- One lost connection opens the circuit: the four requests after it are refused locally. -/
theorem recorded_locally_refused :
    ∃ s : ProxyRun Nat, (system { interfaceId := "CCU-HmIP-RF" }).Reach Free s ∧
      s.proxy.circuitBreaker.state = .opened ∧ s.due = [.failure] ∧
      s.proxy.recorded = .replicate 5 .failure := by
  obtain ⟨s, hs, htest⟩ := replay_any
    (p := fun s : ProxyRun Nat => s.proxy.circuitBreaker.state = .opened ∧ s.due = [.failure] ∧
      s.proxy.recorded = .replicate 5 .failure)
    (show ((system { interfaceId := "CCU-HmIP-RF" }).replay Free {}
      ([.request "getValue", .answer 0 (.osError [.errno .econnrefused])] ++
        .replicate 4 (.request "getValue"))).any _ = true by decide)
  exact ⟨s, reach_of_replay hs, htest⟩

end ProxyRun

end AioHomematic.Client
