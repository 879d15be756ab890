import AioHomematic.Lib.Dict
import AioHomematic.Lib.StepSystem

/-!
# The ping-pong tracker

`PingPongTracker` of `store/dynamic/ping_pong.py`: the pings without a pong and
the pongs without a ping, which expire, and the events that are published when
there are too many of them and when there no longer are.
-/

namespace AioHomematic.Store

open Lib

/-- `PING_PONG_CACHE_MAX_SIZE`. -/
def pingPongCacheMaxSize : Nat := 100

/-- The delay of a retry, 15 s; times are microseconds. -/
def retryDelay : Int := 15 * 1000000

/-! ## `PongTracker` -/

/-- The tokens are the keys of `seenAt`. -/
structure PongTracker where
  seenAt : Dict String Int := .empty
  logged : Bool := false

namespace PongTracker

variable (p : PongTracker)

def length : Nat := p.seenAt.entries.length

def add (token : String) (timestamp : Int) : PongTracker :=
  { p with seenAt := p.seenAt.set token timestamp }

def contains (token : String) : Bool := p.seenAt.contains token

def remove (token : String) : PongTracker := { p with seenAt := p.seenAt.erase token }

def clear (_ : PongTracker) : PongTracker := {}

/-- `_cleanup_tracker`: expired tokens go, and the oldest ones of too many. -/
def cleanup (ttl now : Int) : PongTracker :=
  let expiredTokens := (p.seenAt.entries.filter fun e => ttl < now - e.2).map Prod.fst
  let alive := expiredTokens.foldl remove p
  if pingPongCacheMaxSize < alive.length then
    let sortedEntries := alive.seenAt.entries.mergeSort fun e e' => e.2 ≤ e'.2
    ((sortedEntries.take (alive.length - pingPongCacheMaxSize)).map Prod.fst).foldl remove alive
  else alive

variable {p}

theorem length_remove_le (token : String) : (p.remove token).length ≤ p.length :=
  List.length_filter_le _ _

theorem length_foldl_remove_le (tokens : List String) :
    (tokens.foldl remove p).length ≤ p.length := by
  induction tokens generalizing p with
  | nil => exact Nat.le_refl _
  | cons token tokens ih => exact Nat.le_trans ih (length_remove_le token)

@[simp] theorem logged_foldl_remove (tokens : List String) :
    (tokens.foldl remove p).logged = p.logged := by
  induction tokens generalizing p with
  | nil => rfl
  | cons token tokens ih => exact ih

theorem length_cleanup_le (p : PongTracker) (ttl now : Int) :
    (p.cleanup ttl now).length ≤ p.length := by
  simp only [cleanup]
  split
  · exact Nat.le_trans (length_foldl_remove_le _) (length_foldl_remove_le _)
  · exact length_foldl_remove_le _

@[simp] theorem logged_cleanup (ttl now : Int) : (p.cleanup ttl now).logged = p.logged := by
  simp only [cleanup]
  split <;> simp

end PongTracker

/-! ## The events -/

inductive PingPongMismatchType where
  | pending
  | unknown
deriving DecidableEq

inductive IntegrationIssueSeverity where
  | warning
  | error
deriving DecidableEq

/-- An `IntegrationIssue` of type `PING_PONG_MISMATCH`. -/
structure IntegrationIssue where
  severity : IntegrationIssueSeverity
  interfaceId : String
  mismatchType : PingPongMismatchType
  mismatchCount : Nat
deriving DecidableEq

structure PingPongSettings where
  interfaceId : String
  /-- The central has a looper that runs the retries. -/
  hasLooper : Bool
  allowedDelta : Nat := 15
  ttl : Int := 300 * 1000000
  ttl_pos : 0 < ttl := by decide

/-- `_publish_event`, the issue of the event. -/
def PingPongSettings.issue (settings : PingPongSettings) (mismatchType : PingPongMismatchType)
    (mismatchCount : Nat) : IntegrationIssue where
  severity := if mismatchCount ≤ settings.allowedDelta then .warning else .error
  interfaceId := settings.interfaceId
  mismatchType
  mismatchCount

/-! ## `PingPongTracker` -/

/-- `retryAt` has the tokens that a retry is scheduled for, with the times when it is due. What
has been published is kept in `earlier`, from before the last `clear()`, and `recent`. -/
structure PingPongTracker where
  pending : PongTracker := {}
  unknown : PongTracker := {}
  retryAt : Dict String Int := .empty
  earlier : List IntegrationIssue := []
  recent : List IntegrationIssue := []

namespace PingPongTracker

variable (settings : PingPongSettings) (s : PingPongTracker)

def published : List IntegrationIssue := s.earlier ++ s.recent

def tracker : PingPongMismatchType → PongTracker
  | .pending => s.pending
  | .unknown => s.unknown

def setTracker (p : PongTracker) : PingPongMismatchType → PingPongTracker
  | .pending => { s with pending := p }
  | .unknown => { s with unknown := p }

def count (mismatchType : PingPongMismatchType) : Nat := (s.tracker mismatchType).length

def cleanupTracker (now : Int) (mismatchType : PingPongMismatchType) : PingPongTracker :=
  s.setTracker ((s.tracker mismatchType).cleanup settings.ttl now) mismatchType

def publish (mismatchType : PingPongMismatchType) (mismatchCount : Nat) : PingPongTracker :=
  { s with recent := s.recent ++ [settings.issue mismatchType mismatchCount] }

def setLogged (mismatchType : PingPongMismatchType) (logged : Bool) : PingPongTracker :=
  s.setTracker { s.tracker mismatchType with logged } mismatchType

/-- `_check_and_publish_pong_event`. -/
def checkAndPublishPongEvent (now : Int) (mismatchType : PingPongMismatchType) :
    PingPongTracker :=
  let s := s.cleanupTracker settings now mismatchType
  let count := s.count mismatchType
  if settings.allowedDelta < count then
    (s.publish settings mismatchType count).setLogged mismatchType true
  else if (s.tracker mismatchType).logged then
    (s.publish settings mismatchType 0).setLogged mismatchType false
  -- Only pending pings are told of while there are few.
  else if mismatchType = .pending ∧ 0 < count ∧ count % 2 = 0 then
    s.publish settings mismatchType count
  else s

def clear : PingPongTracker :=
  { s with
    pending := s.pending.clear
    unknown := s.unknown.clear
    earlier := s.published
    recent := [] }

def addTo (now : Int) (mismatchType : PingPongMismatchType) (token : String) : PingPongTracker :=
  (s.setTracker ((s.tracker mismatchType).add token now) mismatchType).cleanupTracker
    settings now mismatchType

def removeFrom (mismatchType : PingPongMismatchType) (token : String) : PingPongTracker :=
  s.setTracker ((s.tracker mismatchType).remove token) mismatchType

/-- The events of a ping are throttled to every second one while there are few. -/
def throttled (mismatchType : PingPongMismatchType) : Bool :=
  decide (s.count mismatchType ≤ settings.allowedDelta) && s.count mismatchType % 2 != 0

def handleSendPing (now : Int) (hasConnectionIssue : Bool) (pingToken : String) :
    PingPongTracker :=
  if hasConnectionIssue then s
  else
    let s := s.addTo settings now .pending pingToken
    if s.throttled settings .pending then s
    else s.checkAndPublishPongEvent settings now .pending

/-- `_schedule_unknown_pong_retry`. -/
def scheduleUnknownPongRetry (now : Int) (token : String) : PingPongTracker :=
  if s.retryAt.contains token then s
  else if settings.hasLooper then
    { s with retryAt := s.retryAt.set token (now + retryDelay) }
  else s

def handleReceivedPong (now : Int) (pongToken : String) : PingPongTracker :=
  if s.pending.contains pongToken then
    ((s.removeFrom .pending pongToken).cleanupTracker settings now
      .pending).checkAndPublishPongEvent settings now .pending
  else
    ((s.addTo settings now .unknown pongToken).checkAndPublishPongEvent settings now
      .unknown).scheduleUnknownPongRetry settings now pongToken

/-- Both trackers cleaned up, as a retry does first. -/
def cleanedUp (now : Int) : PingPongTracker :=
  (s.cleanupTracker settings now .pending).cleanupTracker settings now .unknown

/-- `_retry_reconcile_pong`. -/
def retryReconcilePong (now : Int) (token : String) : PingPongTracker :=
  let s := s.cleanedUp settings now
  let reconciled :=
    if s.pending.contains token then
      if s.unknown.contains token then
        (((s.removeFrom .pending token).removeFrom .unknown token).checkAndPublishPongEvent
          settings now .pending).checkAndPublishPongEvent settings now .unknown
      else (s.removeFrom .pending token).checkAndPublishPongEvent settings now .pending
    else s
  { reconciled with retryAt := reconciled.retryAt.erase token }

/-! ## Runs -/

inductive Action where
  | sendPing (hasConnectionIssue : Bool) (pingToken : String)
  | receivedPong (pongToken : String)
  | retry (token : String)
  | clear

def run (now : Int) : Action → PingPongTracker
  | .sendPing hasConnectionIssue pingToken =>
    s.handleSendPing settings now hasConnectionIssue pingToken
  | .receivedPong pongToken => s.handleReceivedPong settings now pongToken
  | .retry token => s.retryReconcilePong settings now token
  | .clear => s.clear

/-- A retry runs once it is due. -/
def enabled (now : Int) : Action → Bool
  | .retry token => (s.retryAt.get? token).any (· ≤ now)
  | _ => true

/-- The state has the time of the last action; times do not go back. -/
def system (start : Int) : StepSystem (Int × PingPongTracker) (Int × Action) where
  init := (start, {})
  step s a :=
    if s.1 ≤ a.1 ∧ s.2.enabled a.1 a.2 then some (a.1, s.2.run settings a.1 a.2) else none

/-- The action checks what there is of a mismatch type. -/
def checks (now : Int) : Action → PingPongMismatchType → Bool
  | .sendPing hasConnectionIssue pingToken, .pending =>
    !hasConnectionIssue && !(s.addTo settings now .pending pingToken).throttled settings .pending
  | .sendPing .., .unknown => false
  | .receivedPong pongToken, .pending => s.pending.contains pongToken
  | .receivedPong pongToken, .unknown => !s.pending.contains pongToken
  | .retry token, .pending => (s.cleanedUp settings now).pending.contains token
  | .retry token, .unknown =>
    (s.cleanedUp settings now).pending.contains token &&
      (s.cleanedUp settings now).unknown.contains token
  | .clear, _ => false

end PingPongTracker

end AioHomematic.Store
