import AioHomematic.Lib.StepSystem

/-!
# Sessions of the JSON-RPC client

`AioJsonRpcAioHttpClient` as far as it logs in and out. A call is the request
it has in flight, or what it waits for; a step goes from the answer to a
request to the next request of the same call. The call that holds
`_session_lock` stands in the field of the lock. Every request is answered,
with a result or a JSON-RPC error. The CCU numbers the sessions that it opens,
and a session is open until a `Session.logout` of it is answered with a result.

The client has credentials, and the backend supports the session methods.
Waiting for the login backoff or for the HTTP semaphore is part of a request.
Times are in microseconds, as in `datetime`.
-/

namespace AioHomematic.Client

open Lib

/-- A second in microseconds. -/
def second : Nat := 1000000

/-- `JSON_SESSION_AGE`, in seconds. -/
def jsonSessionAge : Nat := 90

/-- The session id that a `_post` works with. -/
inductive PostSession where
  | kept (sessionId : Nat)
  /-- `keep_session=False`. -/
  | temporary (sessionId : Nat)
deriving DecidableEq

/-- What `_login_or_renew` is called from. -/
inductive LoginCaller where
  | post
  /-- `_get_supported_methods`, which a `_post` with this session calls. -/
  | supportedMethods (session : PostSession)
deriving DecidableEq

/-- The request of the call that holds the lock. -/
inductive LockedRequest where
  | login (renewal : Bool)
  | renew (sessionId : Nat)
  /-- Of the session that could not be renewed. -/
  | logout (sessionId : Nat)
deriving DecidableEq

inductive JsonRpcCall where
  | waitsForLock (caller : LoginCaller)
  | listMethods (session : PostSession)
  | request (session : PostSession)
  | temporaryLogin
  | temporaryLogout (sessionId : Nat)
  /-- The login of `is_service_available`. -/
  | serviceLogin
  /-- `logout` waits for the tasks of the looper. -/
  | blockTillDone
  | logout (sessionId : Nat)
deriving DecidableEq

inductive JsonRpcAnswer where
  /-- Whether the result is truthy (`Session.login`) or `True` (`Session.renew`). -/
  | result (value : Bool)
  | authFailure
  | failure
deriving DecidableEq

structure JsonRpcClient where
  now : Nat := 0
  sessionId : Option Nat := none
  lastSessionIdRefresh : Option Nat := none
  supportedMethodsKnown : Bool := false
  sessionLock : Option (LockedRequest × LoginCaller) := none
  calls : List JsonRpcCall := []
  openSessions : List Nat := []
  nextSessionId : Nat := 0
deriving DecidableEq

namespace JsonRpcCall

def inFlight : JsonRpcCall → Bool
  | waitsForLock _ => false
  | blockTillDone => false
  | _ => true

end JsonRpcCall

namespace JsonRpcClient

variable (s : JsonRpcClient)

/-- `timedelta.seconds` leaves out whole days. -/
def hasSessionRecentlyRefreshed : Bool :=
  s.lastSessionIdRefresh.any fun refresh => (s.now - refresh) / second % 86400 < jsonSessionAge

def isFresh : Bool := s.sessionId.isSome && s.hasSessionRecentlyRefreshed

def clearSession : JsonRpcClient := { s with sessionId := none }

def eraseCall (i : Nat) : JsonRpcClient := { s with calls := s.calls.eraseIdx i }

def goOn (call : JsonRpcCall) : JsonRpcClient := { s with calls := s.calls ++ [call] }

/-! ## The CCU -/

def openSession : JsonRpcClient :=
  { s with
    openSessions := s.openSessions ++ [s.nextSessionId]
    nextSessionId := s.nextSessionId + 1 }

def closeSession (sessionId : Nat) : JsonRpcClient :=
  { s with openSessions := s.openSessions.filter (· ≠ sessionId) }

/-! ## After `_login_or_renew` -/

/-- The rest of `_get_supported_methods`, and of `_post` where it ends. -/
def methodsLoggedIn (session : PostSession) : JsonRpcClient :=
  match s.sessionId with
  | none => { s with supportedMethodsKnown := true }.goOn (.request session)
  | some _ => s.goOn (.listMethods session)

/-- `_post` with a session id. -/
def checkSupportedMethods (session : PostSession) : JsonRpcClient :=
  if s.supportedMethodsKnown then s.goOn (.request session)
  else if s.isFresh then s.methodsLoggedIn session
  else s.goOn (.waitsForLock (.supportedMethods session))

def loggedIn : LoginCaller → JsonRpcClient
  | .post =>
    match s.sessionId with
    | none => s
    | some sessionId => s.checkSupportedMethods (.kept sessionId)
  | .supportedMethods session => s.methodsLoggedIn session

/-- `_login_or_renew` has raised; `_get_supported_methods` catches that. -/
def loginFailed : LoginCaller → JsonRpcClient
  | .post => s
  | .supportedMethods session =>
    { s with supportedMethodsKnown := true }.goOn (.request session)

/-! ## `_login_or_renew` -/

def loginOrRenew (caller : LoginCaller) : JsonRpcClient :=
  if s.isFresh then s.loggedIn caller else s.goOn (.waitsForLock caller)

/-- The lock is acquired. -/
def lockedLoginOrRenew (caller : LoginCaller) : JsonRpcClient :=
  if s.isFresh then s.loggedIn caller
  else
    match s.sessionId with
    | none => { s with sessionLock := some (.login false, caller) }
    | some sessionId => { s with sessionLock := some (.renew sessionId, caller) }

/-- The request under the lock is answered; in `s` the lock is released. -/
def lockedAnswered (caller : LoginCaller) : LockedRequest → JsonRpcAnswer → JsonRpcClient
  | .login renewal, .result true =>
    { s.openSession with
      sessionId := some s.nextSessionId
      lastSessionIdRefresh := if renewal then s.lastSessionIdRefresh else some s.now }.loggedIn
      caller
  | .login renewal, .result false =>
    { s.clearSession with
      lastSessionIdRefresh := if renewal then s.lastSessionIdRefresh else some s.now }.loggedIn
      caller
  | .login _, _ => s.clearSession.loginFailed caller
  | .renew sessionId, .result true =>
    { s with sessionId := some sessionId, lastSessionIdRefresh := some s.now }.loggedIn caller
  | .renew _, .result false => { s with sessionLock := some (.login true, caller) }
  | .renew sessionId, .authFailure =>
    { s.clearSession with sessionLock := some (.logout sessionId, caller) }
  | .renew _, .failure => s.clearSession.loginFailed caller
  | .logout sessionId, .result _ =>
    { (s.closeSession sessionId).clearSession with sessionLock := some (.login true, caller) }
  | .logout _, _ => { s.clearSession with sessionLock := some (.login true, caller) }

/-! ## Answers without the lock -/

/-- The request of a call is answered; in `s` the call is taken out. -/
def answered : JsonRpcCall → JsonRpcAnswer → JsonRpcClient
  | .listMethods session, _ => { s with supportedMethodsKnown := true }.goOn (.request session)
  | .request (.temporary sessionId), .result _ => s.goOn (.temporaryLogout sessionId)
  | .request _, _ => s
  | .temporaryLogin, .result true =>
    s.openSession.checkSupportedMethods (.temporary s.nextSessionId)
  | .serviceLogin, .result true => s.openSession
  | .temporaryLogin, .result false => s
  | .serviceLogin, .result false => s
  | .temporaryLogin, _ => s.clearSession
  | .serviceLogin, _ => s.clearSession
  | .temporaryLogout sessionId, .result _ => (s.closeSession sessionId).clearSession
  | .logout sessionId, .result _ => (s.closeSession sessionId).clearSession
  | .temporaryLogout _, _ => s.clearSession
  | .logout _, _ => s.clearSession
  | .waitsForLock _, _ => s
  | .blockTillDone, _ => s

/-! ## Steps -/

inductive Action where
  | post (keepSession : Bool)
  | isServiceAvailable
  | logout
  | tasksDone (i : Nat)
  | acquire (i : Nat)
  | answer (i : Nat) (a : JsonRpcAnswer)
  | lockedAnswer (a : JsonRpcAnswer)
  | wait (microseconds : Nat)
deriving DecidableEq

/-- `block_till_done` has ended. -/
def startLogout : JsonRpcClient :=
  match s.sessionId with
  | none => s
  | some sessionId => s.goOn (.logout sessionId)

def step : Action → Option JsonRpcClient
  | .post true => some (s.loginOrRenew .post)
  | .post false => some (s.goOn .temporaryLogin)
  | .isServiceAvailable => some (s.goOn .serviceLogin)
  | .logout => some (s.goOn .blockTillDone)
  | .tasksDone i =>
    match s.calls[i]? with
    | some .blockTillDone => some (s.eraseCall i).startLogout
    | _ => none
  | .acquire i =>
    match s.sessionLock, s.calls[i]? with
    | none, some (.waitsForLock caller) => some ((s.eraseCall i).lockedLoginOrRenew caller)
    | _, _ => none
  | .answer i a =>
    match s.calls[i]? with
    | some call => if call.inFlight then some ((s.eraseCall i).answered call a) else none
    | none => none
  | .lockedAnswer a =>
    match s.sessionLock with
    | some (request, caller) => some ({ s with sessionLock := none }.lockedAnswered caller request a)
    | none => none
  | .wait microseconds => some { s with now := s.now + microseconds }

section Steps

variable {s} {t : JsonRpcClient} {i : Nat} {a : JsonRpcAnswer}

theorem step_tasksDone (h : s.step (.tasksDone i) = some t) :
    s.calls[i]? = some .blockTillDone ∧ t = (s.eraseCall i).startLogout := by
  simp only [step] at h
  split at h
  · cases h
    exact ⟨‹_›, rfl⟩
  · cases h

theorem step_acquire (h : s.step (.acquire i) = some t) :
    ∃ caller, s.sessionLock = none ∧ s.calls[i]? = some (.waitsForLock caller) ∧
      t = (s.eraseCall i).lockedLoginOrRenew caller := by
  simp only [step] at h
  split at h
  · cases h
    exact ⟨_, ‹_›, ‹_›, rfl⟩
  · cases h

theorem step_answer (h : s.step (.answer i a) = some t) :
    ∃ call, s.calls[i]? = some call ∧ call.inFlight = true ∧
      t = (s.eraseCall i).answered call a := by
  simp only [step] at h
  split at h
  · split at h
    · cases h
      exact ⟨_, ‹_›, ‹_›, rfl⟩
    · cases h
  · cases h

theorem step_lockedAnswer (h : s.step (.lockedAnswer a) = some t) :
    ∃ request caller, s.sessionLock = some (request, caller) ∧
      t = { s with sessionLock := none }.lockedAnswered caller request a := by
  simp only [step] at h
  split at h
  · cases h
    exact ⟨_, _, ‹_›, rfl⟩
  · cases h

end Steps

def system : StepSystem JsonRpcClient Action where
  init := {}
  step := step

/-- No call is in progress. -/
def Idle : Prop := s.calls = [] ∧ s.sessionLock = none

instance : Decidable s.Idle := inferInstanceAs (Decidable (_ ∧ _))

end JsonRpcClient

end AioHomematic.Client
