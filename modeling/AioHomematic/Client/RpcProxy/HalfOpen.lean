import AioHomematic.Client.RpcProxy

/-!
# The trial of a half-open circuit

When the timeout is over the breaker lets ordinary requests through, and
`success_threshold` of them are to close it. The second gate is the connection
issue, which the breaker itself registered when it opened, and which only an
answered request, the close or `clear_connection_issue` removes. So the trial is
sent only where something else removed the issue; where nothing did, the refusal
is recorded as a failure and the circuit opens again.
-/

namespace AioHomematic.Client

open Central Lib StepSystem

structure TrialRequest (R : Type*) where
  now : Nat
  method : String
  value : R

namespace AioXmlRpcProxy

variable {R : Type*} {args : RpcProxyArgs} {p : AioXmlRpcProxy} {now : Nat} {method : String}

theorem startRequest_bypass (h : p.supports method = true) (hb : method ∈ bypassMethods) :
    p.startRequest args now method = (.ok (), p) := by
  rw [startRequest, gates_bypass h hb]

theorem startRequest_ordinary (h : p.supports method = true) (hb : method ∉ bypassMethods)
    (ha : (p.checkAvailable args now).1 = true) (hi : p.isIssue args = false) :
    p.startRequest args now method = (.ok (), (p.checkAvailable args now).2) := by
  rw [startRequest, gates_ordinary h hb ha hi]

/-- A supported request that the breaker admits is sent, but for the issue. -/
theorem startRequest_ok_iff (h : p.supports method = true)
    (ha : (p.checkAvailable args now).1 = true) :
    (p.startRequest args now method).1 = .ok () ↔
      method ∈ bypassMethods ∨ p.isIssue args = false := by
  by_cases hb : method ∈ bypassMethods
  · rw [startRequest_bypass h hb]
    exact iff_of_true rfl (.inl hb)
  · cases hi : p.isIssue args with
    | false =>
      rw [startRequest_ordinary h hb ha hi]
      exact iff_of_true rfl (.inr rfl)
    | true =>
      rw [startRequest, gates_issue h hb ha hi]
      constructor
      · intro h
        cases h
      · rintro (hbypass | hnone)
        · exact absurd hbypass hb
        · cases hnone

/-! ## With the issue -/

theorem isIssue_recordFailure (h : p.isIssue args = true) :
    (p.recordFailure args now).isIssue args = true := by
  have hadd : (CircuitBreaker.notifyIssue args.breaker p.circuitBreaker).connectionState.isIssue
      .baseRpcProxy args.interfaceId = true :=
    CentralConnectionState.isIssue_addIssue.mpr (.inl ⟨rfl, rfl⟩)
  rw [isIssue, recordFailure]
  obtain hs | hs := CircuitBreaker.connectionState_recordFailure args.breaker now p.circuitBreaker
  · rw [hs]
    exact h
  · rw [hs]
    exact hadd

/-- No ordinary request is sent or removes the issue. -/
theorem isIssue_asyncRequest (now : Nat) (hb : method ∉ bypassMethods)
    (hi : p.isIssue args = true) (outcome : TransportOutcome R) :
    (p.asyncRequest args now method outcome).2.isIssue args = true := by
  rw [asyncRequest]
  obtain ⟨-, -, hb'⟩ | ⟨-, -, -, -, hi'⟩ | ⟨hs, -⟩ | ⟨hs, -⟩ | ⟨hs, -⟩ :=
    startRequest_cases args now method p
  · exact absurd hb' hb
  · rw [hi] at hi'
    cases hi'
  · rw [hs]
    exact hi
  · rw [hs]
    exact isIssue_checkAvailable.trans hi
  · rw [hs]
    exact isIssue_recordFailure (isIssue_checkAvailable.trans hi)

/-! ## Without it -/

variable (args) in
/-- After `n` successes of the trial. -/
structure Trying (supportedMethods : List String) (n : Nat) (p : AioXmlRpcProxy) : Prop where
  halfOpen : p.circuitBreaker.state = .halfOpen
  successCount : p.circuitBreaker.successCount = n
  noIssue : p.isIssue args = false
  supportedMethods : p.supportedMethods = supportedMethods

theorem checkAvailable_of_halfOpen (args : RpcProxyArgs) (now : Nat)
    (h : p.circuitBreaker.state = .halfOpen) :
    p.checkAvailable args now = (true, p) := by
  simp only [checkAvailable, CircuitBreaker.isAvailable, h]

theorem isIssue_recordSuccess (h : p.isIssue args = false) :
    (p.recordSuccess args).isIssue args = false := by
  have hremove : (CircuitBreaker.notifyRestored args.breaker
      p.circuitBreaker).connectionState.isIssue .baseRpcProxy args.interfaceId = false :=
    Bool.eq_false_iff.mpr fun h => (CentralConnectionState.isIssue_removeIssue.mp h).1 ⟨rfl, rfl⟩
  rw [isIssue, recordSuccess]
  obtain hs | hs := CircuitBreaker.connectionState_recordSuccess args.breaker p.circuitBreaker
  · rw [hs]
    exact h
  · rw [hs]
    exact hremove

theorem Trying.asyncRequest {supportedMethods : List String} {n : Nat}
    (h : Trying args supportedMethods n p) (hs : p.supports method = true)
    (hb : method ∉ bypassMethods) (now : Nat) (value : R) :
    p.asyncRequest args now method (.result value) =
      (.ok (some value), (p.removeIssue args).recordSuccess args) := by
  have hcheck := checkAvailable_of_halfOpen args now h.halfOpen
  rw [AioXmlRpcProxy.asyncRequest,
    startRequest_ordinary hs hb (congrArg Prod.fst hcheck) h.noIssue, hcheck]
  rfl

theorem Trying.next {supportedMethods : List String} {n : Nat}
    (h : Trying args supportedMethods n p) (hn : n + 1 < args.circuitBreakerConfig.closesAfter) :
    Trying args supportedMethods (n + 1) ((p.removeIssue args).recordSuccess args) := by
  have hstate : ((p.removeIssue args).recordSuccess args).circuitBreaker.state = .halfOpen := by
    have hlt : ¬args.breaker.config.closesAfter ≤ p.circuitBreaker.successCount + 1 := by
      rw [h.successCount]
      exact Nat.not_le.mpr hn
    have hhalf : (p.removeIssue args).circuitBreaker.state = .halfOpen := h.halfOpen
    simp only [recordSuccess, CircuitBreaker.state_recordSuccess, hhalf]
    exact if_neg hlt
  exact {
    halfOpen := hstate
    successCount := by
      rw [← h.successCount]
      exact CircuitBreaker.successCount_recordSuccess (b := (p.removeIssue args).circuitBreaker)
        h.halfOpen hstate
    noIssue := isIssue_recordSuccess isIssue_removeIssue
    supportedMethods := h.supportedMethods }

theorem Trying.last {supportedMethods : List String} {n : Nat}
    (h : Trying args supportedMethods n p) (hn : n + 1 = args.circuitBreakerConfig.closesAfter) :
    ((p.removeIssue args).recordSuccess args).circuitBreaker.state = .closed ∧
      ((p.removeIssue args).recordSuccess args).isIssue args = false := by
  refine ⟨?_, isIssue_recordSuccess isIssue_removeIssue⟩
  have hle : args.breaker.config.closesAfter ≤ p.circuitBreaker.successCount + 1 := by
    rw [h.successCount]
    exact Nat.le_of_eq hn.symm
  have hhalf : (p.removeIssue args).circuitBreaker.state = .halfOpen := h.halfOpen
  simp only [recordSuccess, CircuitBreaker.state_recordSuccess, hhalf]
  exact if_pos hle

/-! ## The trial -/

variable (args) in
/-- One request after the other, each answered with its result. -/
def runTrial (p : AioXmlRpcProxy) : List (TrialRequest R) → AioXmlRpcProxy
  | [] => p
  | r :: trial => runTrial (p.asyncRequest args r.now r.method (.result r.value)).2 trial

theorem isIssue_runTrial (trial : List (TrialRequest R))
    (hb : ∀ r ∈ trial, r.method ∉ bypassMethods) (hi : p.isIssue args = true) :
    (p.runTrial args trial).isIssue args = true := by
  induction trial generalizing p with
  | nil => exact hi
  | cons r trial ih =>
    have hr := isIssue_asyncRequest r.now (hb r List.mem_cons_self) hi (.result r.value)
    exact ih (fun r hr => hb r (List.mem_cons_of_mem _ hr)) hr

theorem Trying.runTrial {supportedMethods : List String} (trial : List (TrialRequest R)) {n : Nat}
    (h : Trying args supportedMethods n p)
    (htrial : ∀ r ∈ trial, r.method ∉ bypassMethods ∧
      (supportedMethods = [] ∨ r.method ∈ supportedMethods))
    (hpos : trial ≠ []) (hn : n + trial.length = args.circuitBreakerConfig.closesAfter) :
    (p.runTrial args trial).circuitBreaker.state = .closed ∧
      (p.runTrial args trial).isIssue args = false := by
  induction trial generalizing p n with
  | nil => exact absurd rfl hpos
  | cons r trial ih =>
    obtain ⟨hb, hsupported⟩ := htrial r List.mem_cons_self
    have hs : p.supports r.method = true := by
      rw [supports, h.supportedMethods]
      exact decide_eq_true hsupported
    rw [AioXmlRpcProxy.runTrial, h.asyncRequest hs hb]
    cases trial with
    | nil => exact h.last hn
    | cons r' trial =>
      rw [List.length_cons] at hn
      refine ih (h.next ?_) (fun r hr => htrial r (List.mem_cons_of_mem _ hr)) nofun ?_
      · rw [List.length_cons] at hn
        omega
      · omega

/-- The check that lets the first request of the trial through half-opens the circuit. -/
theorem trying_checkAvailable (hopened : p.circuitBreaker.state = .opened)
    (ha : (p.checkAvailable args now).1 = true) (hi : p.isIssue args = false) :
    Trying args p.supportedMethods 0 (p.checkAvailable args now).2 := by
  have hissue : (p.checkAvailable args now).2.isIssue args = p.isIssue args :=
    isIssue_checkAvailable
  cases hlast : p.circuitBreaker.lastFailureTime with
  | none => simp [checkAvailable, CircuitBreaker.isAvailable, hopened, hlast] at ha
  | some last =>
    have hcheck := @CircuitBreaker.isAvailable_of_opened args.breaker _ now hopened last hlast
    simp only [checkAvailable, hcheck] at ha hissue ⊢
    split at ha
    · rw [if_pos ‹_›] at hissue ⊢
      exact ⟨rfl, rfl, hissue.trans hi, rfl⟩
    · cases ha

theorem runTrial_checkAvailable {r : TrialRequest R} {trial : List (TrialRequest R)}
    (hopened : p.circuitBreaker.state = .opened) (hs : p.supports r.method = true)
    (hb : r.method ∉ bypassMethods) (ha : (p.checkAvailable args r.now).1 = true)
    (hi : p.isIssue args = false) :
    p.runTrial args (r :: trial) = (p.checkAvailable args r.now).2.runTrial args (r :: trial) := by
  have htry := trying_checkAvailable hopened ha hi
  have hs' : (p.checkAvailable args r.now).2.supports r.method = true := hs
  rw [runTrial, runTrial, htry.asyncRequest hs' hb, asyncRequest, startRequest_ordinary hs hb ha hi]
  rfl

/-- Which supported requests are sent while the circuit breaker lets requests through, and when a
trial closes the circuit. -/
theorem half_open_trial (args : RpcProxyArgs) (p : AioXmlRpcProxy) :
    (∀ now method, p.supports method = true → (p.checkAvailable args now).1 = true →
      ((p.startRequest args now method).1 = .ok () ↔
        method ∈ bypassMethods ∨ p.isIssue args = false)) ∧
    ∀ trial : List (TrialRequest R),
      p.circuitBreaker.state = .opened → trial.length = args.circuitBreakerConfig.closesAfter →
      (∀ r ∈ trial, p.supports r.method = true ∧ r.method ∉ bypassMethods ∧
        (p.checkAvailable args r.now).1 = true) →
      ((p.runTrial args trial).circuitBreaker.state = .closed ∧
          (p.runTrial args trial).isIssue args = false ↔
        p.isIssue args = false) := by
  refine ⟨fun now method hs ha => startRequest_ok_iff hs ha, ?_⟩
  intro trial hopened hlength htrial
  cases hi : p.isIssue args with
  | true =>
    refine iff_of_false ?_ nofun
    rintro ⟨-, hfree⟩
    rw [isIssue_runTrial trial (fun r hr => (htrial r hr).2.1) hi] at hfree
    cases hfree
  | false =>
    refine iff_of_true ?_ rfl
    cases trial with
    | nil =>
      have hpos := args.circuitBreakerConfig.closesAfter_pos
      rw [← hlength] at hpos
      exact absurd hpos (Nat.lt_irrefl 0)
    | cons r trial =>
      obtain ⟨hs, hb, ha⟩ := htrial r List.mem_cons_self
      rw [runTrial_checkAvailable hopened hs hb ha hi]
      refine (trying_checkAvailable hopened ha hi).runTrial (r :: trial) ?_ nofun ?_
      · intro r hr
        obtain ⟨hs, hb, -⟩ := htrial r hr
        exact ⟨hb, of_decide_eq_true hs⟩
      · rw [hlength]
        exact Nat.zero_add _

end AioXmlRpcProxy

namespace ProxyRun

open AioXmlRpcProxy

def sampleArgs : RpcProxyArgs := { interfaceId := "CCU-HmIP-RF" }

/-- Five refused connections, and 30 seconds. The last four requests are refused locally. -/
def sampleOutage : List (Action Nat) :=
  [.request "getValue", .answer 0 (.osError [.errno .econnrefused]), .request "getValue",
    .request "getValue", .request "getValue", .request "getValue", .wait 30000000]

/-- A `ping` is answered after the outage, and then the trial closes the circuit. -/
theorem half_open_trial_after_ping :
    ∃ s, (system sampleArgs).replay Free {}
        (sampleOutage ++ [.request "ping", .answer 5 (.result 1)]) = some s ∧
      (s.proxy.runTrial sampleArgs
        [⟨s.now, "getValue", 7⟩, ⟨s.now, "setValue", 0⟩]).circuitBreaker.state = .closed := by
  obtain ⟨s, hs, hopened, htrial, hissue⟩ := replay_any
    (p := fun s : ProxyRun Nat => s.proxy.circuitBreaker.state = .opened ∧
      ((s.proxy.supports "getValue" ∧ s.proxy.supports "setValue") ∧
        (s.proxy.checkAvailable sampleArgs s.now).1 = true) ∧ s.proxy.isIssue sampleArgs = false)
    (show ((system sampleArgs).replay Free {}
      (sampleOutage ++ [.request "ping", .answer 5 (.result 1)])).any _ = true by decide)
  obtain ⟨⟨hget, hset⟩, havailable⟩ := htrial
  obtain ⟨-, hcloses⟩ := half_open_trial (R := Nat) sampleArgs s.proxy
  refine ⟨s, hs, ((hcloses _ hopened rfl ?_).mpr hissue).1⟩
  intro r hr
  simp only [List.mem_cons, List.not_mem_nil, or_false] at hr
  rcases hr with rfl | rfl
  · exact ⟨hget, show "getValue" ∉ bypassMethods by decide, havailable⟩
  · exact ⟨hset, show "setValue" ∉ bypassMethods by decide, havailable⟩

/-- Without the `ping`, the request that the breaker lets through is refused, and the circuit is
open again. -/
theorem half_open_trial_refused :
    ∃ s : ProxyRun Nat, (system sampleArgs).Reach Free s ∧
      (s.proxy.checkAvailable sampleArgs s.now).1 = true ∧
      s.proxy.supports "getValue" = true ∧
      (s.proxy.startRequest sampleArgs s.now "getValue").1 =
        .error { cls := .noConnectionException } ∧
      (s.proxy.runTrial sampleArgs
        [⟨s.now, "getValue", 7⟩, ⟨s.now, "getValue", 7⟩]).circuitBreaker.state = .opened := by
  obtain ⟨s, hs, htest⟩ := replay_any
    (p := fun s : ProxyRun Nat => (s.proxy.checkAvailable sampleArgs s.now).1 = true ∧
      s.proxy.supports "getValue" = true ∧
      (s.proxy.startRequest sampleArgs s.now "getValue").1 =
        .error { cls := .noConnectionException } ∧
      (s.proxy.runTrial sampleArgs
        [⟨s.now, "getValue", 7⟩, ⟨s.now, "getValue", 7⟩]).circuitBreaker.state = .opened)
    (show ((system sampleArgs).replay Free {} sampleOutage).any _ = true by decide)
  exact ⟨s, reach_of_replay hs, htest⟩

end ProxyRun

end AioHomematic.Client
