import AioHomematic.Client.CircuitBreaker
import AioHomematic.Exceptions
import AioHomematic.Lib.Numbered
import Mathlib.Data.List.Infix

/-!
# The XML-RPC proxy

`AioXmlRpcProxy._async_request` with its two gates, the circuit breaker and the
connection issue of the interface, and with its `except` branches. A request is
refused locally (`startRequest`) or sent, and then `answered` translates what
the transport did. What a branch looks at is part of the outcome: the `args` of
an SSL or OS error, the code and the text of a fault, the `errmsg` of a protocol
error. A handler that fails on them ends with a Python exception (`other`).

`recorded` logs what the breaker is told. Logging, incidents and the session
recorder are left out.
-/

namespace AioHomematic.Client

open Central Lib

inductive Errno where
  | econnrefused
  | ehostunreach
  | enetunreach
  | enoexec
  | etimedout
  | other
deriving DecidableEq

/-- A member of the `args` of an exception, as `in` on a dictionary of error numbers sees it. -/
inductive ExceptionArg where
  | errno (code : Errno)
  | hashable
  | unhashable
deriving DecidableEq

/-- `arg in codes`; an unhashable `arg` raises `TypeError`. -/
def ExceptionArg.isIn (codes : List Errno) : ExceptionArg → Option Bool
  | errno code => some (code ∈ codes)
  | hashable => some false
  | unhashable => none

/-- `_SSL_ERROR_CODES`. -/
def sslErrorCodes : List Errno := [.enoexec]

/-- `_OS_ERROR_CODES`. -/
def osErrorCodes : List Errno := [.econnrefused, .ehostunreach, .enetunreach, .enoexec, .etimedout]

/-- `_CIRCUIT_BREAKER_BYPASS_METHODS`. -/
def bypassMethods : List String :=
  ["getVersion", "clientServerInitialized", "init", "ping", "system.listMethods"]

/-- How the call of `_ServerProxy__request` in the executor ends. -/
inductive TransportOutcome (R : Type*) where
  | result (value : R)
  | sslError (args : List ExceptionArg)
  | osError (args : List ExceptionArg)
  /-- A fault code is looked up in a set; a fault text of another type than `str` is `none`. -/
  | fault (codeHashable : Bool) (faultString : Option String)
  | typeError
  | protocolError (errmsg : String)
  | improperConnectionState
  | expatError
  | other
deriving DecidableEq

/-- `p in s.lower()`, for `p` of small ASCII letters. -/
def containsLower (p s : String) : Bool := p.toList <:+: s.toList.map Char.toLower

/-- `map_xmlrpc_fault`. -/
def mapXmlrpcFault (faultString : String) : PyException :=
  if containsLower "unauthorized" faultString then { cls := .authFailure }
  else if containsLower "internal" faultString then { cls := .internalBackendException }
  else { cls := .clientException }

/-- The arguments of `BaseRpcProxy`. -/
structure RpcProxyArgs where
  interfaceId : String
  circuitBreakerConfig : CircuitBreakerConfig := {}

def RpcProxyArgs.breaker (args : RpcProxyArgs) : CircuitBreakerArgs where
  config := args.circuitBreakerConfig
  interfaceId := args.interfaceId
  issuer := some .baseRpcProxy

/-- What the breaker is told. -/
inductive Recorded where
  | success
  | failure
  | reset
deriving DecidableEq

structure AioXmlRpcProxy where
  circuitBreaker : CircuitBreaker := {}
  supportedMethods : List String := []
  /-- The last one first. -/
  recorded : List Recorded := []
deriving DecidableEq

/-- The end of a request: an exception, or a value returned. `none` is the `None` of a call that
falls through its handler. -/
abbrev RequestEnding (R : Type*) := Except PyException (Option R)

namespace AioXmlRpcProxy

variable {R : Type*} (args : RpcProxyArgs)

/-! ## The breaker and the connection state -/

def setConnectionState (connectionState : CentralConnectionState) (p : AioXmlRpcProxy) :
    AioXmlRpcProxy :=
  { p with circuitBreaker := { p.circuitBreaker with connectionState := connectionState } }

def isIssue (p : AioXmlRpcProxy) : Bool :=
  p.circuitBreaker.connectionState.isIssue .baseRpcProxy args.interfaceId

def addIssue (p : AioXmlRpcProxy) : AioXmlRpcProxy :=
  p.setConnectionState
    (p.circuitBreaker.connectionState.addIssue .baseRpcProxy args.interfaceId).2

def removeIssue (p : AioXmlRpcProxy) : AioXmlRpcProxy :=
  p.setConnectionState
    (p.circuitBreaker.connectionState.removeIssue .baseRpcProxy args.interfaceId).2

/-- `clear_connection_issue`, which the client calls after a successful `init`. -/
def clearConnectionIssue (p : AioXmlRpcProxy) : AioXmlRpcProxy := p.removeIssue args

def recordFailure (now : Nat) (p : AioXmlRpcProxy) : AioXmlRpcProxy :=
  { p with
    circuitBreaker := p.circuitBreaker.recordFailure args.breaker now
    recorded := .failure :: p.recorded }

def recordSuccess (p : AioXmlRpcProxy) : AioXmlRpcProxy :=
  { p with
    circuitBreaker := p.circuitBreaker.recordSuccess args.breaker
    recorded := .success :: p.recorded }

/-- `circuit_breaker.reset()`, which the client calls when it reconnects. -/
def resetCircuitBreaker (p : AioXmlRpcProxy) : AioXmlRpcProxy :=
  { p with circuitBreaker := p.circuitBreaker.reset, recorded := .reset :: p.recorded }

/-- `do_init` with the answer to `system.listMethods`. -/
def doInit (supportedMethods : List String) (p : AioXmlRpcProxy) : AioXmlRpcProxy :=
  if supportedMethods = [] then p
  else { p with supportedMethods := supportedMethods ++ ["ping"] }

/-! ## The request -/

def supports (method : String) (p : AioXmlRpcProxy) : Bool :=
  p.supportedMethods = [] ∨ method ∈ p.supportedMethods

/-- The getter `circuit_breaker.is_available`. -/
def checkAvailable (now : Nat) (p : AioXmlRpcProxy) : Bool × AioXmlRpcProxy :=
  let (available, breaker) := p.circuitBreaker.isAvailable args.breaker now
  (available, { p with circuitBreaker := breaker })

/-- `_async_request` up to the executor job; `ok` where the request is sent. -/
def gates (now : Nat) (method : String) (p : AioXmlRpcProxy) :
    Except PyException Unit × AioXmlRpcProxy :=
  if ¬p.supports method then (.error { cls := .unsupportedException }, p)
  else if method ∈ bypassMethods then (.ok (), p)
  else
    let (available, p) := p.checkAvailable args now
    if ¬available then (.error { cls := .circuitBreakerOpenException }, p)
    else if p.isIssue args then (.error { cls := .noConnectionException }, p)
    else (.ok (), p)

/-- The handler of `BaseHomematicException`. -/
def homematicError (now : Nat) (exc : PyException) (p : AioXmlRpcProxy) : AioXmlRpcProxy :=
  if exc.cls = .noConnectionException then p.recordFailure args now else p

def startRequest (now : Nat) (method : String) (p : AioXmlRpcProxy) :
    Except PyException Unit × AioXmlRpcProxy :=
  match p.gates args now method with
  | (.ok (), p) => (.ok (), p)
  | (.error exc, p) => (.error exc, p.homematicError args now exc)

/-- The end of the handlers that record a failure. -/
def noConnection (now : Nat) (p : AioXmlRpcProxy) : RequestEnding R × AioXmlRpcProxy :=
  (.error { cls := .noConnectionException }, p.recordFailure args now)

def sslError (now : Nat) (excArgs : List ExceptionArg) (p : AioXmlRpcProxy) :
    RequestEnding R × AioXmlRpcProxy :=
  match excArgs with
  | [] => (.error { cls := .other }, p)
  | code :: rest =>
    match code.isIn sslErrorCodes, rest with
    | none, _ => (.error { cls := .other }, p)
    | some false, _ => p.noConnection args now
    -- the message of a known code is `args[1]`
    | some true, [] => (.error { cls := .other }, p)
    | some true, _ :: _ => (p.addIssue args).noConnection args now

def osError (now : Nat) (excArgs : List ExceptionArg) (p : AioXmlRpcProxy) :
    RequestEnding R × AioXmlRpcProxy :=
  match excArgs with
  | [] => (.error { cls := .other }, p)
  | code :: _ =>
    match code.isIn osErrorCodes with
    | none => (.error { cls := .other }, p)
    | some false => p.noConnection args now
    | some true => (p.addIssue args).noConnection args now

def fault (codeHashable : Bool) (faultString : Option String) : PyException :=
  match codeHashable, faultString with
  | true, some faultString => mapXmlrpcFault faultString
  | _, _ => { cls := .other }

def protocolError (errmsg : String) (p : AioXmlRpcProxy) : RequestEnding R × AioXmlRpcProxy :=
  if ¬p.isIssue args then
    if errmsg = "Unauthorized" then (.error { cls := .authFailure }, p)
    else (.error { cls := .noConnectionException }, p)
  else (.ok none, p)

/-- `_async_request` from the end of the executor job on. -/
def answered (now : Nat) (outcome : TransportOutcome R) (p : AioXmlRpcProxy) :
    RequestEnding R × AioXmlRpcProxy :=
  match outcome with
  | .result value => (.ok (some value), (p.removeIssue args).recordSuccess args)
  | .sslError excArgs => p.sslError args now excArgs
  | .osError excArgs => p.osError args now excArgs
  | .fault codeHashable faultString => (.error (fault codeHashable faultString), p)
  | .typeError => (.error { cls := .clientException }, p)
  | .protocolError errmsg => p.protocolError args errmsg
  | .improperConnectionState => p.noConnection args now
  | .expatError => (.error { cls := .clientException }, p)
  | .other => (.error { cls := .clientException }, p)

/-- A request with nothing in between. -/
def asyncRequest (now : Nat) (method : String) (outcome : TransportOutcome R)
    (p : AioXmlRpcProxy) : RequestEnding R × AioXmlRpcProxy :=
  match p.startRequest args now method with
  | (.ok (), p) => p.answered args now outcome
  | (.error exc, p) => (.error exc, p)

/-! ## What the gates and the handlers do -/

section

variable {args : RpcProxyArgs} {p : AioXmlRpcProxy} {now : Nat} {method : String}

@[simp] theorem isIssue_removeIssue : (p.removeIssue args).isIssue args = false :=
  Bool.eq_false_iff.mpr fun h =>
    (CentralConnectionState.isIssue_removeIssue.mp h).1 ⟨rfl, rfl⟩

@[simp] theorem isIssue_checkAvailable :
    (p.checkAvailable args now).2.isIssue args = p.isIssue args := by
  simp only [isIssue, checkAvailable, CircuitBreaker.connectionState_isAvailable]

theorem gates_unsupported (h : p.supports method = false) :
    p.gates args now method = (.error { cls := .unsupportedException }, p) := by
  simp [gates, h]

theorem gates_bypass (h : p.supports method = true) (hb : method ∈ bypassMethods) :
    p.gates args now method = (.ok (), p) := by
  simp [gates, h, hb]

theorem gates_rejected (h : p.supports method = true) (hb : method ∉ bypassMethods)
    (ha : (p.checkAvailable args now).1 = false) :
    p.gates args now method =
      (.error { cls := .circuitBreakerOpenException }, (p.checkAvailable args now).2) := by
  simp [gates, h, hb, ha]

theorem gates_issue (h : p.supports method = true) (hb : method ∉ bypassMethods)
    (ha : (p.checkAvailable args now).1 = true) (hi : p.isIssue args = true) :
    p.gates args now method =
      (.error { cls := .noConnectionException }, (p.checkAvailable args now).2) := by
  simp [gates, h, hb, ha, hi]

theorem gates_ordinary (h : p.supports method = true) (hb : method ∉ bypassMethods)
    (ha : (p.checkAvailable args now).1 = true) (hi : p.isIssue args = false) :
    p.gates args now method = (.ok (), (p.checkAvailable args now).2) := by
  simp [gates, h, hb, ha, hi]

/-- What `startRequest` can do. -/
theorem startRequest_cases (args : RpcProxyArgs) (now : Nat) (method : String)
    (p : AioXmlRpcProxy) :
    p.startRequest args now method = (.ok (), p) ∧ p.supports method = true ∧
        method ∈ bypassMethods ∨
      p.startRequest args now method = (.ok (), (p.checkAvailable args now).2) ∧
        p.supports method = true ∧ method ∉ bypassMethods ∧
        (p.checkAvailable args now).1 = true ∧ p.isIssue args = false ∨
      p.startRequest args now method = (.error { cls := .unsupportedException }, p) ∧
        p.supports method = false ∨
      p.startRequest args now method =
          (.error { cls := .circuitBreakerOpenException }, (p.checkAvailable args now).2) ∧
        method ∉ bypassMethods ∧ (p.checkAvailable args now).1 = false ∨
      p.startRequest args now method =
          (.error { cls := .noConnectionException },
            (p.checkAvailable args now).2.recordFailure args now) ∧
        p.supports method = true ∧ method ∉ bypassMethods ∧
        (p.checkAvailable args now).1 = true ∧ p.isIssue args = true := by
  simp only [startRequest]
  cases h : p.supports method with
  | false =>
    rw [gates_unsupported h]
    exact .inr (.inr (.inl ⟨rfl, rfl⟩))
  | true =>
    by_cases hb : method ∈ bypassMethods
    · rw [gates_bypass h hb]
      exact .inl ⟨rfl, rfl, hb⟩
    · cases ha : (p.checkAvailable args now).1 with
      | false =>
        rw [gates_rejected h hb ha]
        exact .inr (.inr (.inr (.inl ⟨rfl, hb, rfl⟩)))
      | true =>
        cases hi : p.isIssue args with
        | false =>
          rw [gates_ordinary h hb ha hi]
          exact .inr (.inl ⟨rfl, rfl, hb, rfl, rfl⟩)
        | true =>
          rw [gates_issue h hb ha hi]
          exact .inr (.inr (.inr (.inr ⟨rfl, rfl, hb, rfl, rfl⟩)))

theorem mapXmlrpcFault_cls (faultString : String) :
    (mapXmlrpcFault faultString).cls = .authFailure ∨
      (mapXmlrpcFault faultString).cls = .internalBackendException ∨
      (mapXmlrpcFault faultString).cls = .clientException := by
  rw [mapXmlrpcFault]
  split
  · exact .inl rfl
  · split
    · exact .inr (.inl rfl)
    · exact .inr (.inr rfl)

theorem fault_cls_ne (codeHashable : Bool) (faultString : Option String) :
    (fault codeHashable faultString).cls ≠ .noConnectionException := by
  unfold fault
  split
  next faultString =>
    obtain h | h | h := mapXmlrpcFault_cls faultString <;> rw [h] <;> nofun
  next => nofun

theorem sslError_cases (args : RpcProxyArgs) (now : Nat) (excArgs : List ExceptionArg)
    (p : AioXmlRpcProxy) :
    p.sslError (R := R) args now excArgs = p.noConnection args now ∨
      p.sslError (R := R) args now excArgs = (p.addIssue args).noConnection args now ∨
      p.sslError (R := R) args now excArgs = (.error { cls := .other }, p) := by
  cases excArgs with
  | nil => exact .inr (.inr rfl)
  | cons code rest =>
    unfold sslError
    dsimp only
    split
    · exact .inr (.inr rfl)
    · exact .inl rfl
    · exact .inr (.inr rfl)
    · exact .inr (.inl rfl)

theorem osError_cases (args : RpcProxyArgs) (now : Nat) (excArgs : List ExceptionArg)
    (p : AioXmlRpcProxy) :
    p.osError (R := R) args now excArgs = p.noConnection args now ∨
      p.osError (R := R) args now excArgs = (p.addIssue args).noConnection args now ∨
      p.osError (R := R) args now excArgs = (.error { cls := .other }, p) := by
  cases excArgs with
  | nil => exact .inr (.inr rfl)
  | cons code rest =>
    unfold osError
    dsimp only
    split
    · exact .inr (.inr rfl)
    · exact .inl rfl
    · exact .inr (.inl rfl)

/-- What `answered` can do: a success, a recorded failure, an exception that the breaker is not
told of, or a protocol error. -/
theorem answered_cases (args : RpcProxyArgs) (now : Nat) (outcome : TransportOutcome R)
    (p : AioXmlRpcProxy) :
    (∃ value, outcome = .result value ∧
        p.answered args now outcome =
          (.ok (some value), (p.removeIssue args).recordSuccess args)) ∨
      (p.answered args now outcome = p.noConnection args now ∨
        p.answered args now outcome = (p.addIssue args).noConnection args now) ∨
      (∃ exc : PyException, exc.cls ≠ .noConnectionException ∧
        p.answered args now outcome = (.error exc, p)) ∨
      ∃ errmsg, outcome = .protocolError errmsg ∧
        (p.isIssue args = true ∧ p.answered args now outcome = (.ok none, p) ∨
          p.isIssue args = false ∧ errmsg ≠ "Unauthorized" ∧
            p.answered args now outcome = (.error { cls := .noConnectionException }, p)) := by
  -- the handlers of SSL and OS errors end alike
  have herror {e : RequestEnding R × AioXmlRpcProxy}
      (h : e = p.noConnection args now ∨ e = (p.addIssue args).noConnection args now ∨
        e = (.error { cls := .other }, p)) :
      (e = p.noConnection args now ∨ e = (p.addIssue args).noConnection args now) ∨
        ∃ exc : PyException, exc.cls ≠ .noConnectionException ∧ e = (.error exc, p) := by
    rcases h with h | h | h
    · exact .inl (.inl h)
    · exact .inl (.inr h)
    · exact .inr ⟨_, by decide, h⟩
  cases outcome with
  | result value => exact .inl ⟨value, rfl, rfl⟩
  | sslError excArgs =>
    exact .inr ((herror (sslError_cases args now excArgs p)).imp_right .inl)
  | osError excArgs =>
    exact .inr ((herror (osError_cases args now excArgs p)).imp_right .inl)
  | fault codeHashable faultString =>
    exact .inr (.inr (.inl ⟨_, fault_cls_ne codeHashable faultString, rfl⟩))
  | typeError => exact .inr (.inr (.inl ⟨_, by decide, rfl⟩))
  | protocolError errmsg =>
    simp only [answered, protocolError]
    split
    next hi =>
      split
      next => exact .inr (.inr (.inl ⟨_, by decide, rfl⟩))
      next he =>
        exact .inr (.inr (.inr ⟨errmsg, rfl, .inr ⟨Bool.eq_false_iff.mpr hi, he, rfl⟩⟩))
    next hi => exact .inr (.inr (.inr ⟨errmsg, rfl, .inl ⟨not_not.mp hi, rfl⟩⟩))
  | improperConnectionState => exact .inr (.inl (.inl rfl))
  | expatError => exact .inr (.inr (.inl ⟨_, by decide, rfl⟩))
  | other => exact .inr (.inr (.inl ⟨_, by decide, rfl⟩))

end

end AioXmlRpcProxy

end AioHomematic.Client

/-!
## Runs of the XML-RPC proxy

Any number of requests at a time. A request is numbered when it starts; one that
is sent waits for the executor, and there it is answered, or its caller is
cancelled, which the proxy is not told. The client that owns the proxy resets
the breaker and clears the issue; other components change the connection state,
but for the entry of this proxy.

`due` is what the breaker is to be told: a success for each request answered
with a result, a failure for each sent request that ends with
`NoConnectionException`, and the resets.
-/

namespace AioHomematic.Client

open Central Lib

inductive RpcRequest (R : Type*) where
  | sent
  | ended (ending : RequestEnding R)
  | cancelled
deriving DecidableEq

structure ProxyRun (R : Type*) where
  proxy : AioXmlRpcProxy := {}
  now : Nat := 0
  requests : List (RpcRequest R) := []
  /-- The last one first. -/
  due : List Recorded := []

namespace ProxyRun

inductive Action (R : Type*) where
  | request (method : String)
  | answer (i : Nat) (outcome : TransportOutcome R)
  | cancel (i : Nat)
  | doInit (supportedMethods : List String)
  | resetCircuitBreaker
  | clearConnectionIssue
  | wait (microseconds : Nat)
  /-- By another component. -/
  | addIssue (issuer : ConnectionProblemIssuer) (iid : String)
  | removeIssue (issuer : ConnectionProblemIssuer) (iid : String)

variable {R : Type*} (args : RpcProxyArgs)

/-- What the breaker is to be told of the end of a sent request. -/
def dueAt : TransportOutcome R → RequestEnding R → List Recorded
  | .result _, _ => [.success]
  | _, .error exc => if exc.cls = .noConnectionException then [.failure] else []
  | _, .ok _ => []

def startRequest (method : String) (s : ProxyRun R) : ProxyRun R :=
  match s.proxy.startRequest args s.now method with
  | (.ok (), proxy) => { s with proxy := proxy, requests := s.requests ++ [.sent] }
  | (.error exc, proxy) =>
    { s with proxy := proxy, requests := s.requests ++ [.ended (.error exc)] }

def answered (i : Nat) (outcome : TransportOutcome R) (s : ProxyRun R) : ProxyRun R :=
  let (ending, proxy) := s.proxy.answered args s.now outcome
  { s with
    proxy := proxy
    requests := s.requests.set i (.ended ending)
    due := dueAt outcome ending ++ s.due }

def setConnectionState (connectionState : CentralConnectionState) (s : ProxyRun R) : ProxyRun R :=
  { s with proxy := s.proxy.setConnectionState connectionState }

def step (s : ProxyRun R) : Action R → Option (ProxyRun R)
  | .request method => some (s.startRequest args method)
  | .answer i outcome =>
    match s.requests[i]? with
    | some .sent => some (s.answered args i outcome)
    | _ => none
  | .cancel i =>
    match s.requests[i]? with
    | some .sent => some { s with requests := s.requests.set i .cancelled }
    | _ => none
  | .doInit supportedMethods => some { s with proxy := s.proxy.doInit supportedMethods }
  | .resetCircuitBreaker =>
    some { s with proxy := s.proxy.resetCircuitBreaker, due := .reset :: s.due }
  | .clearConnectionIssue => some { s with proxy := s.proxy.clearConnectionIssue args }
  | .wait microseconds => some { s with now := s.now + microseconds }
  | .addIssue issuer iid =>
    if issuer = .baseRpcProxy ∧ iid = args.interfaceId then none
    else some (s.setConnectionState (s.proxy.circuitBreaker.connectionState.addIssue issuer iid).2)
  | .removeIssue issuer iid =>
    if issuer = .baseRpcProxy ∧ iid = args.interfaceId then none
    else
      some (s.setConnectionState (s.proxy.circuitBreaker.connectionState.removeIssue issuer iid).2)

def system : StepSystem (ProxyRun R) (Action R) where
  init := {}
  step := step args

variable {args : RpcProxyArgs} {s t : ProxyRun R}

theorem step_answer {i : Nat} {outcome : TransportOutcome R}
    (h : s.step args (.answer i outcome) = some t) :
    s.requests[i]? = some .sent ∧ t = s.answered args i outcome := by
  simp only [step] at h
  split at h
  · cases h
    exact ⟨‹_›, rfl⟩
  · cases h

theorem step_cancel {i : Nat} (h : s.step args (.cancel i) = some t) :
    t = { s with requests := s.requests.set i .cancelled } := by
  simp only [step] at h
  split at h
  · cases h
    rfl
  · cases h

/-- Other components only change the connection state. -/
theorem step_other {issuer : ConnectionProblemIssuer} {iid : String}
    (h : s.step args (.addIssue issuer iid) = some t ∨
      s.step args (.removeIssue issuer iid) = some t) :
    ∃ connectionState, t = s.setConnectionState connectionState := by
  simp only [step] at h
  split at h
  · simp at h
  · rcases h with h | h
    · cases h
      exact ⟨_, rfl⟩
    · cases h
      exact ⟨_, rfl⟩

end ProxyRun

end AioHomematic.Client

/-!
## How a request ends

A request that is answered is to return a result that the backend sent for it,
or to raise an exception of the library. Two kinds of outcomes do not: a
protocol error while the issue is registered falls through its handler, so the
request returns `None` as if it had been answered; and a handler that fails on
the exception it handles (no `args`, an unhashable code, a text that is no
`str`) raises what it fails with.
-/

namespace AioHomematic.Client

namespace AioXmlRpcProxy

variable {R : Type*} {args : RpcProxyArgs} {p : AioXmlRpcProxy} {now : Nat} {method : String}

/-- The request returns what the backend sent, or it raises a `BaseHomematicException`. -/
def Genuine (outcome : TransportOutcome R) : RequestEnding R → Prop
  | .ok (some value) => outcome = .result value
  | .ok none => False
  | .error exc => exc.cls.isHomematic = true

variable (args) in
/-- The handler of the outcome raises what it means to. -/
def Handled (p : AioXmlRpcProxy) : TransportOutcome R → Prop
  | .sslError excArgs =>
    ∃ code rest, excArgs = code :: rest ∧ code ≠ .unhashable ∧
      (code = .errno .enoexec → rest ≠ [])
  | .osError excArgs => ∃ code rest, excArgs = code :: rest ∧ code ≠ .unhashable
  | .fault codeHashable faultString => codeHashable = true ∧ faultString.isSome
  | .protocolError _ => p.isIssue args = false
  | _ => True

theorem genuine_noConnection (outcome : TransportOutcome R) (p : AioXmlRpcProxy) :
    Genuine outcome (p.noConnection (R := R) args now).1 :=
  rfl

theorem not_genuine_other (outcome : TransportOutcome R) :
    ¬Genuine outcome (.error { cls := .other }) := by
  rw [Genuine]
  decide

theorem genuine_sslError (excArgs : List ExceptionArg) :
    Genuine (.sslError excArgs) (p.sslError (R := R) args now excArgs).1 ↔
      Handled args p (.sslError (R := R) excArgs) := by
  rw [Handled]
  cases excArgs with
  | nil => exact iff_of_false (not_genuine_other _) (by simp)
  | cons code rest =>
    cases code with
    | unhashable => exact iff_of_false (not_genuine_other _) (by simp)
    | hashable => exact iff_of_true (genuine_noConnection _ _) (by simp)
    | errno code =>
      by_cases hc : code = .enoexec
      · subst hc
        cases rest with
        | nil => exact iff_of_false (not_genuine_other _) (by simp)
        | cons message rest => exact iff_of_true (genuine_noConnection _ _) (by simp)
      · refine iff_of_true ?_ (by simp [hc])
        simp only [sslError, ExceptionArg.isIn, sslErrorCodes, List.mem_singleton, hc, decide_false]
        exact genuine_noConnection _ _

theorem genuine_osError (excArgs : List ExceptionArg) :
    Genuine (.osError excArgs) (p.osError (R := R) args now excArgs).1 ↔
      Handled args p (.osError (R := R) excArgs) := by
  rw [Handled]
  cases excArgs with
  | nil => exact iff_of_false (not_genuine_other _) (by simp)
  | cons code rest =>
    cases code with
    | unhashable => exact iff_of_false (not_genuine_other _) (by simp)
    | hashable => exact iff_of_true (genuine_noConnection _ _) (by simp)
    | errno code =>
      refine iff_of_true ?_ (by simp)
      simp only [osError, ExceptionArg.isIn]
      split
      next h => cases h
      next => exact genuine_noConnection _ _
      next => exact genuine_noConnection _ _

theorem genuine_fault (codeHashable : Bool) (faultString : Option String) :
    Genuine (.fault (R := R) codeHashable faultString) (.error (fault codeHashable faultString)) ↔
      Handled args p (.fault (R := R) codeHashable faultString) := by
  rw [Handled]
  cases codeHashable with
  | false => exact iff_of_false (not_genuine_other _) (by simp)
  | true =>
    cases faultString with
    | none => exact iff_of_false (not_genuine_other _) (by simp)
    | some faultString =>
      refine iff_of_true ?_ (by simp)
      show (mapXmlrpcFault faultString).cls.isHomematic = true
      obtain h | h | h := mapXmlrpcFault_cls faultString
      · rw [h]; rfl
      · rw [h]; rfl
      · rw [h]; rfl

theorem genuine_protocolError (errmsg : String) :
    Genuine (.protocolError errmsg) (p.protocolError (R := R) args errmsg).1 ↔
      Handled args p (.protocolError (R := R) errmsg) := by
  rw [Handled, protocolError]
  cases hi : p.isIssue args with
  | false =>
    refine iff_of_true ?_ rfl
    by_cases he : errmsg = "Unauthorized"
    · simp only [he]
      rfl
    · simp only [he]
      rfl
  | true => exact iff_of_false id (by decide)

/-- The end of an answered request is genuine exactly where its handler can do what it means to. -/
theorem genuine_answered (now : Nat) (outcome : TransportOutcome R) (p : AioXmlRpcProxy) :
    Genuine outcome (p.answered args now outcome).1 ↔ Handled args p outcome := by
  cases outcome with
  | result value => exact iff_of_true rfl trivial
  | sslError excArgs => exact genuine_sslError excArgs
  | osError excArgs => exact genuine_osError excArgs
  | fault codeHashable faultString => exact genuine_fault codeHashable faultString
  | typeError => exact iff_of_true rfl trivial
  | protocolError errmsg => exact genuine_protocolError errmsg
  | improperConnectionState => exact iff_of_true rfl trivial
  | expatError => exact iff_of_true rfl trivial
  | other => exact iff_of_true rfl trivial

/-- A request that is refused raises a `BaseHomematicException`. -/
theorem isHomematic_of_refused {exc : PyException}
    (h : (p.startRequest args now method).1 = .error exc) : exc.cls.isHomematic = true := by
  obtain ⟨hs, -⟩ | ⟨hs, -⟩ | ⟨hs, -⟩ | ⟨hs, -⟩ | ⟨hs, -⟩ := startRequest_cases args now method p
  · rw [hs] at h; cases h
  · rw [hs] at h; cases h
  · rw [hs] at h; cases h; rfl
  · rw [hs] at h; cases h; rfl
  · rw [hs] at h; cases h; rfl

/-- A request is refused with an exception of the library, or it is sent; and whatever the state
when it is answered, its end is genuine exactly where the outcome is handled. -/
theorem request_ends_genuinely (args : RpcProxyArgs) (now : Nat) (method : String)
    (p : AioXmlRpcProxy) :
    (∀ exc, (p.startRequest args now method).1 = .error exc → exc.cls.isHomematic = true) ∧
      ∀ (now : Nat) (outcome : TransportOutcome R) (p : AioXmlRpcProxy),
        Genuine outcome (p.answered args now outcome).1 ↔ Handled args p outcome :=
  ⟨fun _ h => isHomematic_of_refused h, genuine_answered⟩

/-- An ordinary request of a proxy whose breaker is open, and the fault of an unknown parameter. -/
theorem request_ends_genuinely_open :
    (({ circuitBreaker := { state := .opened } } : AioXmlRpcProxy).startRequest
        { interfaceId := "CCU-HmIP-RF" } 0 "getValue").1 =
      .error { cls := .circuitBreakerOpenException } ∧
    Genuine (.fault (R := String) true (some "Unknown Parameter"))
      (({} : AioXmlRpcProxy).answered { interfaceId := "CCU-HmIP-RF" } 0
        (.fault (R := String) true (some "Unknown Parameter"))).1 := by
  obtain ⟨-, hanswered⟩ := request_ends_genuinely (R := String) { interfaceId := "CCU-HmIP-RF" } 0
    "getValue" { circuitBreaker := { state := .opened } }
  exact ⟨by decide, (hanswered 0 _ {}).mpr ⟨rfl, rfl⟩⟩

end AioXmlRpcProxy

namespace ProxyRun

open Lib StepSystem

/-- A lost connection, and then a `ping` that a web server in front of the backend answers. -/
def sampleUnavailable : List (Action String) :=
  [.request "getValue", .answer 0 (.osError [.errno .econnrefused]), .request "ping",
    .answer 1 (.protocolError "Service Unavailable")]

/-- The `ping` returns `None` although nothing answered it. -/
theorem ping_answered_by_protocol_error :
    ∃ s, (system { interfaceId := "CCU-HmIP-RF" }).Reach Free s ∧
      s.requests[1]? = some (.ended (.ok (none : Option String))) := by
  obtain ⟨s, hs, htest⟩ := replay_any
    (p := fun s : ProxyRun String => s.requests[1]? = some (.ended (.ok (none : Option String))))
    (show ((system { interfaceId := "CCU-HmIP-RF" }).replay Free {}
      sampleUnavailable).any _ = true by decide)
  exact ⟨s, reach_of_replay hs, htest⟩

end ProxyRun

end AioHomematic.Client
