import AioHomematic.Store.Dynamic.PingPong.Leaving

/-!
# The two structures of a pong tracker

`PongTracker` of `store/types.py` keeps the tokens in a set and, beside it, the
times they were seen. The handlers of `PingPongTracker` are written over both
here. As long as they are `Synced` the set tells nothing that the times do not,
and `abs` forgets it: `abs_run` says that every handler then does what the
tracker without the set does, and `synced_run` that it keeps them so.
-/

namespace AioHomematic.Store.Parallel

open Lib StepSystem

/-! ## `PongTracker` -/

structure PongTracker where
  tokens : List String := []
  nodup : tokens.Nodup := by exact List.nodup_nil
  seenAt : Dict String Int := .empty
  logged : Bool := false

namespace PongTracker

variable (p : PongTracker)

def length : Nat := p.tokens.length

def add (token : String) (timestamp : Int) : PongTracker where
  tokens := p.tokens.insert token
  nodup := p.nodup.insert
  seenAt := p.seenAt.set token timestamp
  logged := p.logged

def clear (_ : PongTracker) : PongTracker := {}

def contains (token : String) : Bool := token ∈ p.tokens

def remove (token : String) : PongTracker where
  tokens := p.tokens.erase token
  nodup := p.nodup.erase token
  seenAt := p.seenAt.erase token
  logged := p.logged

/-- `_cleanup_tracker`: it looks for expired tokens in the set, and for the oldest ones in the
times. -/
def cleanup (ttl now : Int) : PongTracker :=
  let expiredTokens := p.tokens.filter fun token =>
    (p.seenAt.get? token).any fun seenAt => ttl < now - seenAt
  let alive := expiredTokens.foldl remove p
  if pingPongCacheMaxSize < alive.length then
    let sortedEntries := alive.seenAt.entries.mergeSort fun e e' => e.2 ≤ e'.2
    ((sortedEntries.take (alive.length - pingPongCacheMaxSize)).map Prod.fst).foldl remove alive
  else alive

/-- The set has the tokens that were seen. -/
def Synced : Prop := ∀ token, token ∈ p.tokens ↔ token ∈ p.seenAt.keys

/-- The tracker without the set. -/
def abs : Store.PongTracker := { seenAt := p.seenAt, logged := p.logged }

variable {p}

theorem Synced.length_abs (h : p.Synced) : p.abs.length = p.length := by
  have hperm : p.seenAt.keys.Perm p.tokens :=
    (List.perm_ext_iff_of_nodup p.seenAt.nodup p.nodup).mpr fun token => (h token).symm
  rw [length, ← hperm.length_eq, Dict.keys, List.length_map]
  rfl

theorem Synced.contains_abs (h : p.Synced) (token : String) :
    p.abs.contains token = p.contains token := by
  rw [Bool.eq_iff_iff, Store.PongTracker.contains, Dict.contains_iff, contains, decide_eq_true_eq,
    h token, ne_eq, Dict.get?_eq_none, not_not]
  rfl

theorem synced_add (h : p.Synced) (token : String) (timestamp : Int) :
    (p.add token timestamp).Synced := by
  intro token'
  rw [add, List.mem_insert_iff, h token', Dict.keys_set]
  split
  next hknown =>
    exact or_iff_right_of_imp fun heq => heq ▸ hknown
  next => rw [List.mem_append, List.mem_singleton, or_comm]

theorem synced_remove (h : p.Synced) (token : String) : (p.remove token).Synced := by
  intro token'
  rw [remove, p.nodup.mem_erase_iff, h token', Dict.mem_keys, Dict.mem_keys]
  simp only [Dict.get?_erase]
  split
  next heq => simp [heq]
  next hne => simp [Ne.symm hne]

theorem synced_foldl_remove (h : p.Synced) (tokens : List String) :
    (tokens.foldl remove p).Synced := by
  induction tokens generalizing p with
  | nil => exact h
  | cons token tokens ih => exact ih (synced_remove h token)

theorem synced_cleanup (h : p.Synced) (ttl now : Int) : (p.cleanup ttl now).Synced := by
  simp only [cleanup]
  split
  · exact synced_foldl_remove (synced_foldl_remove h _) _
  · exact synced_foldl_remove h _

theorem abs_foldl_remove (p : PongTracker) (tokens : List String) :
    (tokens.foldl remove p).abs = tokens.foldl Store.PongTracker.remove p.abs := by
  induction tokens generalizing p with
  | nil => rfl
  | cons token tokens ih => exact ih (p.remove token)

/-- The order in which tokens are removed does not matter. -/
theorem foldl_remove_congr (p : Store.PongTracker) {tokens tokens' : List String}
    (h : ∀ e ∈ p.seenAt.entries, e.1 ∈ tokens ↔ e.1 ∈ tokens') :
    tokens.foldl Store.PongTracker.remove p = tokens'.foldl Store.PongTracker.remove p := by
  have hseen : (tokens.foldl Store.PongTracker.remove p).seenAt =
      (tokens'.foldl Store.PongTracker.remove p).seenAt := by
    rw [Store.PongTracker.seenAt_foldl_remove, Store.PongTracker.seenAt_foldl_remove]
    refine Dict.ext ?_
    rw [Dict.entries_foldl_erase, Dict.entries_foldl_erase]
    exact List.filter_congr fun e he => decide_eq_decide.mpr (not_congr (h e he))
  have hlogged : (tokens.foldl Store.PongTracker.remove p).logged =
      (tokens'.foldl Store.PongTracker.remove p).logged := by simp
  cases hp : tokens.foldl Store.PongTracker.remove p with
  | mk seenAt logged =>
    rw [hp] at hseen hlogged
    exact congrArg₂ Store.PongTracker.mk hseen hlogged

theorem abs_cleanup (h : p.Synced) (ttl now : Int) :
    (p.cleanup ttl now).abs = p.abs.cleanup ttl now := by
  have halive : ((p.tokens.filter fun token =>
      (p.seenAt.get? token).any fun seenAt => ttl < now - seenAt).foldl remove p).abs =
        (p.abs.expired ttl now).foldl Store.PongTracker.remove p.abs := by
    rw [abs_foldl_remove]
    refine foldl_remove_congr _ fun e he => ?_
    have hget : p.seenAt.get? e.1 = some e.2 := Dict.get?_eq_some.mpr he
    have htoken : e.1 ∈ p.tokens := (h e.1).mpr (Dict.mem_keys.mpr ⟨e.2, hget⟩)
    rw [List.mem_filter, and_iff_right htoken, hget, Option.any_some, decide_eq_true_eq,
      Store.PongTracker.expired, List.mem_map]
    constructor
    · exact fun hold => ⟨e, List.mem_filter.mpr ⟨he, decide_eq_true hold⟩, rfl⟩
    · rintro ⟨e', he', heq⟩
      obtain ⟨he', hold⟩ := List.mem_filter.mp he'
      obtain rfl := List.inj_on_of_nodup_map p.seenAt.nodup he' he heq
      exact of_decide_eq_true hold
  have hsynced := synced_foldl_remove h (p.tokens.filter fun token =>
    (p.seenAt.get? token).any fun seenAt => ttl < now - seenAt)
  unfold Store.PongTracker.expired at halive
  simp only [cleanup, Store.PongTracker.cleanup]
  rw [← halive, hsynced.length_abs]
  split
  · exact abs_foldl_remove _ _
  · rfl

end PongTracker

/-! ## `PingPongTracker` -/

structure PingPongTracker where
  pending : PongTracker := {}
  unknown : PongTracker := {}
  retryAt : Dict String Int := .empty
  earlier : List IntegrationIssue := []
  recent : List IntegrationIssue := []

namespace PingPongTracker

variable (settings : PingPongSettings) (s : PingPongTracker)

def tracker : PingPongMismatchType → PongTracker
  | .pending => s.pending
  | .unknown => s.unknown

def setTracker (p : PongTracker) : PingPongMismatchType → PingPongTracker
  | .pending => { s with pending := p }
  | .unknown => { s with unknown := p }

def count (mismatchType : PingPongMismatchType) : Nat := (s.tracker mismatchType).length

def cleanupTracker (now : Int) (mismatchType : PingPongMismatchType) : PingPongTracker :=
  s.setTracker ((s.tracker mismatchType).cleanup settings.ttl now) mismatchType

def publish (mismatchType : PingPongMismatchType) (mismatchCount : Nat) : PingPongTracker :=
  { s with recent := s.recent ++ [settings.issue mismatchType mismatchCount] }

def setLogged (mismatchType : PingPongMismatchType) (logged : Bool) : PingPongTracker :=
  s.setTracker { s.tracker mismatchType with logged } mismatchType

/-- `_check_and_publish_pong_event`. -/
def checkAndPublishPongEvent (now : Int) (mismatchType : PingPongMismatchType) :
    PingPongTracker :=
  let s := s.cleanupTracker settings now mismatchType
  let count := s.count mismatchType
  if settings.allowedDelta < count then
    (s.publish settings mismatchType count).setLogged mismatchType true
  else if (s.tracker mismatchType).logged then
    (s.publish settings mismatchType 0).setLogged mismatchType false
  else if mismatchType = .pending ∧ 0 < count ∧ count % 2 = 0 then
    s.publish settings mismatchType count
  else s

def clear : PingPongTracker :=
  { s with
    pending := s.pending.clear
    unknown := s.unknown.clear
    earlier := s.earlier ++ s.recent
    recent := [] }

def addTo (now : Int) (mismatchType : PingPongMismatchType) (token : String) : PingPongTracker :=
  (s.setTracker ((s.tracker mismatchType).add token now) mismatchType).cleanupTracker
    settings now mismatchType

def removeFrom (mismatchType : PingPongMismatchType) (token : String) : PingPongTracker :=
  s.setTracker ((s.tracker mismatchType).remove token) mismatchType

def handleSendPing (now : Int) (hasConnectionIssue : Bool) (pingToken : String) :
    PingPongTracker :=
  if hasConnectionIssue then s
  else
    let s := s.addTo settings now .pending pingToken
    let count := s.count .pending
    if settings.allowedDelta < count ∨ count % 2 = 0 then
      s.checkAndPublishPongEvent settings now .pending
    else s

/-- `_schedule_unknown_pong_retry`. -/
def scheduleUnknownPongRetry (now : Int) (token : String) : PingPongTracker :=
  if s.retryAt.contains token then s
  else if settings.hasLooper then
    { s with retryAt := s.retryAt.set token (now + retryDelay) }
  else s

def handleReceivedPong (now : Int) (pongToken : String) : PingPongTracker :=
  if s.pending.contains pongToken then
    ((s.removeFrom .pending pongToken).cleanupTracker settings now
      .pending).checkAndPublishPongEvent settings now .pending
  else
    ((s.addTo settings now .unknown pongToken).checkAndPublishPongEvent settings now
      .unknown).scheduleUnknownPongRetry settings now pongToken

/-- Both trackers cleaned up, as a retry does first. -/
def cleanedUp (now : Int) : PingPongTracker :=
  (s.cleanupTracker settings now .pending).cleanupTracker settings now .unknown

/-- `_retry_reconcile_pong`. -/
def retryReconcilePong (now : Int) (token : String) : PingPongTracker :=
  let s := s.cleanedUp settings now
  let reconciled :=
    if s.pending.contains token then
      let s := s.removeFrom .pending token
      let unknownBefore := s.count .unknown
      let s := if s.unknown.contains token then s.removeFrom .unknown token else s
      let s := s.checkAndPublishPongEvent settings now .pending
      if s.count .unknown ≠ unknownBefore then s.checkAndPublishPongEvent settings now .unknown
      else s
    else s
  { reconciled with retryAt := reconciled.retryAt.erase token }

def run (now : Int) : Store.PingPongTracker.Action → PingPongTracker
  | .sendPing hasConnectionIssue pingToken =>
    s.handleSendPing settings now hasConnectionIssue pingToken
  | .receivedPong pongToken => s.handleReceivedPong settings now pongToken
  | .retry token => s.retryReconcilePong settings now token
  | .clear => s.clear

/-- A retry runs once it is due. -/
def enabled (now : Int) : Store.PingPongTracker.Action → Bool
  | .retry token => (s.retryAt.get? token).any (· ≤ now)
  | _ => true

/-- The state has the time of the last action; times do not go back. -/
def system (start : Int) :
    StepSystem (Int × PingPongTracker) (Int × Store.PingPongTracker.Action) where
  init := (start, {})
  step s a :=
    if s.1 ≤ a.1 ∧ s.2.enabled a.1 a.2 then some (a.1, s.2.run settings a.1 a.2) else none

/-! ## Without the sets -/

def abs : Store.PingPongTracker where
  pending := s.pending.abs
  unknown := s.unknown.abs
  retryAt := s.retryAt
  earlier := s.earlier
  recent := s.recent

/-- Both sets have the tokens that were seen, and `c` is the rest. -/
structure Simulates (s : PingPongTracker) (c : Store.PingPongTracker) : Prop where
  synced : ∀ m, (s.tracker m).Synced
  abs_eq : s.abs = c

variable {settings s} {c : Store.PingPongTracker} {m : PingPongMismatchType} {now : Int}

namespace Simulates

variable (h : s.Simulates c)

include h

theorem tracker_eq (m : PingPongMismatchType) : c.tracker m = (s.tracker m).abs := by
  rw [← h.abs_eq]
  cases m <;> rfl

theorem count_eq (m : PingPongMismatchType) : c.count m = s.count m := by
  rw [Store.PingPongTracker.count, h.tracker_eq, (h.synced m).length_abs]
  rfl

theorem contains_eq (m : PingPongMismatchType) (token : String) :
    (c.tracker m).contains token = (s.tracker m).contains token := by
  rw [h.tracker_eq, (h.synced m).contains_abs]

theorem retryAt_eq : c.retryAt = s.retryAt := by
  rw [← h.abs_eq]
  rfl

theorem setTracker {p : PongTracker} (hp : p.Synced) (m : PingPongMismatchType) :
    (s.setTracker p m).Simulates (c.setTracker p.abs m) where
  synced m' := by
    have hother := h.synced m'
    cases m <;> cases m' <;> first | exact hp | exact hother
  abs_eq := by
    rw [← h.abs_eq]
    cases m <;> rfl

theorem cleanupTracker (now : Int) (m : PingPongMismatchType) :
    (s.cleanupTracker settings now m).Simulates (c.cleanupTracker settings now m) := by
  rw [Store.PingPongTracker.cleanupTracker, h.tracker_eq,
    ← PongTracker.abs_cleanup (h.synced m)]
  exact h.setTracker (PongTracker.synced_cleanup (h.synced m) _ _) m

theorem publish (m : PingPongMismatchType) (n : Nat) :
    (s.publish settings m n).Simulates (c.publish settings m n) where
  synced m' := by
    have hsame := h.synced m'
    cases m' <;> exact hsame
  abs_eq := by
    rw [← h.abs_eq]
    rfl

theorem setLogged (m : PingPongMismatchType) (logged : Bool) :
    (s.setLogged m logged).Simulates (c.setLogged m logged) := by
  rw [Store.PingPongTracker.setLogged, h.tracker_eq]
  exact h.setTracker (p := { s.tracker m with logged }) (h.synced m) m

theorem retryAt (retryAt : Dict String Int) :
    Simulates { s with retryAt } { c with retryAt } where
  synced m' := by
    have hsame := h.synced m'
    cases m' <;> exact hsame
  abs_eq := by
    rw [← h.abs_eq]
    rfl

theorem removeFrom (m : PingPongMismatchType) (token : String) :
    (s.removeFrom m token).Simulates (c.removeFrom m token) := by
  rw [Store.PingPongTracker.removeFrom, h.tracker_eq]
  exact h.setTracker (PongTracker.synced_remove (h.synced m) token) m

theorem addTo (now : Int) (m : PingPongMismatchType) (token : String) :
    (s.addTo settings now m token).Simulates (c.addTo settings now m token) := by
  rw [Store.PingPongTracker.addTo, h.tracker_eq]
  exact (h.setTracker (PongTracker.synced_add (h.synced m) token now) m).cleanupTracker now m

theorem check (now : Int) (m : PingPongMismatchType) :
    (s.checkAndPublishPongEvent settings now m).Simulates
      (c.checkAndPublishPongEvent settings now m) := by
  have hclean : (s.cleanupTracker settings now m).Simulates (c.cleanupTracker settings now m) :=
    h.cleanupTracker now m
  simp only [checkAndPublishPongEvent, Store.PingPongTracker.checkAndPublishPongEvent]
  generalize s.cleanupTracker settings now m = s' at hclean ⊢
  generalize c.cleanupTracker settings now m = c' at hclean ⊢
  have hlogged : (c'.tracker m).logged = (s'.tracker m).logged := by
    rw [hclean.tracker_eq]
    rfl
  rw [hclean.count_eq, hlogged]
  split
  · exact (hclean.publish m _).setLogged m true
  split
  · exact (hclean.publish m 0).setLogged m false
  split
  · exact hclean.publish m _
  · exact hclean

theorem cleanedUp (now : Int) : (s.cleanedUp settings now).Simulates (c.cleanedUp settings now) :=
  (h.cleanupTracker now .pending).cleanupTracker now .unknown

/-! ### The handlers -/

theorem clear : s.clear.Simulates c.clear where
  synced m := by
    intro token
    cases m <;> simp [tracker, PingPongTracker.clear, PongTracker.clear]
  abs_eq := by
    rw [← h.abs_eq]
    rfl

theorem handleSendPing (now : Int) (hasConnectionIssue : Bool) (pingToken : String) :
    (s.handleSendPing settings now hasConnectionIssue pingToken).Simulates
      (c.handleSendPing settings now hasConnectionIssue pingToken) := by
  have hadded : (s.addTo settings now .pending pingToken).Simulates
      (c.addTo settings now .pending pingToken) := h.addTo now .pending pingToken
  simp only [PingPongTracker.handleSendPing, Store.PingPongTracker.handleSendPing]
  split
  · exact h
  have hcount := hadded.count_eq .pending
  generalize s.addTo settings now .pending pingToken = s' at hadded hcount ⊢
  generalize c.addTo settings now .pending pingToken = c' at hadded hcount ⊢
  have hthrottled : c'.throttled settings .pending = true ↔
      ¬ (settings.allowedDelta < s'.count .pending ∨ s'.count .pending % 2 = 0) := by
    rw [Store.PingPongTracker.throttled, hcount, Bool.and_eq_true, decide_eq_true_eq, bne_iff_ne,
      not_or, Nat.not_lt]
  split
  next hpublish =>
    rw [if_neg fun hquiet => hthrottled.mp hquiet hpublish]
    exact hadded.check now .pending
  next hquiet =>
    rw [if_pos (hthrottled.mpr hquiet)]
    exact hadded

theorem scheduleUnknownPongRetry (now : Int) (token : String) :
    (s.scheduleUnknownPongRetry settings now token).Simulates
      (c.scheduleUnknownPongRetry settings now token) := by
  rw [PingPongTracker.scheduleUnknownPongRetry, Store.PingPongTracker.scheduleUnknownPongRetry,
    h.retryAt_eq]
  split
  · exact h
  split
  · exact h.retryAt _
  · exact h

theorem handleReceivedPong (now : Int) (pongToken : String) :
    (s.handleReceivedPong settings now pongToken).Simulates
      (c.handleReceivedPong settings now pongToken) := by
  have hcontains : c.pending.contains pongToken = s.pending.contains pongToken :=
    h.contains_eq .pending pongToken
  rw [PingPongTracker.handleReceivedPong, Store.PingPongTracker.handleReceivedPong, hcontains]
  split
  · exact ((h.removeFrom .pending pongToken).cleanupTracker now .pending).check now .pending
  · exact ((h.addTo now .unknown pongToken).check now .unknown).scheduleUnknownPongRetry now
      pongToken

/-- A check of the pings leaves the count of the unknown pongs. -/
theorem count_unknown_check (now : Int) :
    (s.checkAndPublishPongEvent settings now .pending).count .unknown = s.count .unknown := by
  have hcheck : (s.checkAndPublishPongEvent settings now .pending).Simulates
      (c.checkAndPublishPongEvent settings now .pending) := h.check now .pending
  have hkept : Store.PingPongTracker.Kept settings c
      (c.checkAndPublishPongEvent settings now .pending) .unknown :=
    Store.PingPongTracker.kept_check_of_ne c now (by decide)
  rw [← hcheck.count_eq, ← h.count_eq, Store.PingPongTracker.count, hkept.tracker]
  rfl

theorem retryReconcilePong (now : Int) (token : String) :
    (s.retryReconcilePong settings now token).Simulates
      (c.retryReconcilePong settings now token) := by
  have hclean : (s.cleanedUp settings now).Simulates (c.cleanedUp settings now) :=
    h.cleanedUp now
  simp only [PingPongTracker.retryReconcilePong, Store.PingPongTracker.retryReconcilePong]
  generalize s.cleanedUp settings now = s₁ at hclean ⊢
  generalize c.cleanedUp settings now = c₁ at hclean ⊢
  have hpending : c₁.pending.contains token = s₁.pending.contains token :=
    hclean.contains_eq .pending token
  have hunknown : c₁.unknown.contains token = s₁.unknown.contains token :=
    hclean.contains_eq .unknown token
  have hremoved := hclean.removeFrom .pending token
  rw [hpending, hunknown]
  split
  swap
  · rw [hclean.retryAt_eq]
    exact hclean.retryAt _
  have hsame : (s₁.removeFrom .pending token).unknown.contains token =
      s₁.unknown.contains token := rfl
  rw [hsame]
  split
  next hknown =>
    have hboth := hremoved.removeFrom .unknown token
    have hfewer : ((s₁.removeFrom .pending token).removeFrom .unknown token).count .unknown ≠
        (s₁.removeFrom .pending token).count .unknown := by
      have hmem : token ∈ s₁.unknown.tokens := of_decide_eq_true hknown
      have hlength := List.length_erase_of_mem hmem
      have hpos := List.length_pos_of_mem hmem
      change (s₁.unknown.tokens.erase token).length ≠ s₁.unknown.tokens.length
      omega
    rw [hboth.count_unknown_check, if_pos hfewer]
    have hchecked : ((((s₁.removeFrom .pending token).removeFrom .unknown
        token).checkAndPublishPongEvent settings now .pending).checkAndPublishPongEvent settings
          now .unknown).Simulates _ := (hboth.check now .pending).check now .unknown
    rw [hchecked.retryAt_eq]
    exact hchecked.retryAt _
  next =>
    rw [hremoved.count_unknown_check, if_neg (not_not.mpr rfl)]
    have hchecked : ((s₁.removeFrom .pending token).checkAndPublishPongEvent settings now
        .pending).Simulates _ := hremoved.check now .pending
    rw [hchecked.retryAt_eq]
    exact hchecked.retryAt _

end Simulates

theorem simulates_run (h : s.Simulates c) (now : Int) (a : Store.PingPongTracker.Action) :
    (s.run settings now a).Simulates (c.run settings now a) := by
  cases a with
  | sendPing hasConnectionIssue pingToken => exact h.handleSendPing now hasConnectionIssue pingToken
  | receivedPong pongToken => exact h.handleReceivedPong now pongToken
  | retry token => exact h.retryReconcilePong now token
  | clear => exact h.clear

/-! ## Runs -/

/-- How a token leaves the pings without a pong in a step from `s` to `t`; `as` are the actions
before it. -/
inductive Leaves (settings : PingPongSettings) (as : List (Int × Store.PingPongTracker.Action))
    (now : Int) (a : Store.PingPongTracker.Action) (s t : PingPongTracker) (token : String) :
    Prop where
  | pong (h : a = .receivedPong token)
  /-- The pong came before its ping. -/
  | latePing {earlier : Int} (h : a = .retry token) (hpong : (earlier, .receivedPong token) ∈ as)
  | expired {seenAt : Int} (hseen : s.pending.seenAt.get? token = some seenAt)
      (hold : settings.ttl < now - seenAt)
  | cleared (h : a = .clear)
  | oldest {pingToken : String} {seenAt : Int} (h : a = .sendPing false pingToken)
      (hmany : pingPongCacheMaxSize < (s.pending.add pingToken now).length)
      (hseen : (s.pending.add pingToken now).seenAt.get? token = some seenAt)
      (holdest : ∀ token' seenAt', t.pending.seenAt.get? token' = some seenAt' → seenAt ≤ seenAt')

/-- The sets have the tokens that were seen, neither is too large, and a retry waits only for
tokens of pongs. -/
structure Tracked (as : List (Int × Store.PingPongTracker.Action)) (s : PingPongTracker) :
    Prop where
  synced : ∀ m, (s.tracker m).Synced
  bounded : ∀ m, (s.tracker m).length ≤ pingPongCacheMaxSize
  retries : ∀ token, s.retryAt.get? token ≠ none →
    ∃ earlier, (earlier, .receivedPong token) ∈ as

variable {t : PingPongTracker} {as : List (Int × Store.PingPongTracker.Action)}
  {a : Store.PingPongTracker.Action} {token : String}

theorem Tracked.simulates (h : Tracked as s) : s.Simulates s.abs := ⟨h.synced, rfl⟩

theorem Tracked.mem_pending (h : Tracked as s) :
    token ∈ s.pending.tokens ↔ ∃ seenAt, s.pending.seenAt.get? token = some seenAt := by
  have hsynced : s.pending.Synced := h.synced .pending
  rw [hsynced token, Dict.mem_keys]

/-! ### Retries -/

theorem retryAt_setTracker (s : PingPongTracker) (p : PongTracker) (m : PingPongMismatchType) :
    (s.setTracker p m).retryAt = s.retryAt := by
  cases m <;> rfl

theorem retryAt_publish (s : PingPongTracker) (m : PingPongMismatchType) (n : Nat) :
    (s.publish settings m n).retryAt = s.retryAt := rfl

theorem retryAt_setLogged (s : PingPongTracker) (m : PingPongMismatchType) (logged : Bool) :
    (s.setLogged m logged).retryAt = s.retryAt := retryAt_setTracker s _ m

theorem retryAt_cleanupTracker (s : PingPongTracker) (now : Int) (m : PingPongMismatchType) :
    (s.cleanupTracker settings now m).retryAt = s.retryAt := retryAt_setTracker s _ m

theorem retryAt_removeFrom (s : PingPongTracker) (m : PingPongMismatchType) (token : String) :
    (s.removeFrom m token).retryAt = s.retryAt := retryAt_setTracker s _ m

theorem retryAt_check (s : PingPongTracker) (now : Int) (m : PingPongMismatchType) :
    (s.checkAndPublishPongEvent settings now m).retryAt = s.retryAt := by
  simp only [checkAndPublishPongEvent]
  split
  · rw [retryAt_setLogged, retryAt_publish, retryAt_cleanupTracker]
  split
  · rw [retryAt_setLogged, retryAt_publish, retryAt_cleanupTracker]
  split
  · rw [retryAt_publish, retryAt_cleanupTracker]
  · rw [retryAt_cleanupTracker]

theorem retryAt_cleanedUp (s : PingPongTracker) (now : Int) :
    (s.cleanedUp settings now).retryAt = s.retryAt := by
  rw [cleanedUp, retryAt_cleanupTracker, retryAt_cleanupTracker]

theorem retryAt_retry (s : PingPongTracker) (now : Int) (token : String) :
    (s.retryReconcilePong settings now token).retryAt = s.retryAt.erase token := by
  simp only [retryReconcilePong]
  congr 1
  split
  · split
    · split
      · rw [retryAt_check, retryAt_check, retryAt_removeFrom, retryAt_removeFrom,
          retryAt_cleanedUp]
      · rw [retryAt_check, retryAt_removeFrom, retryAt_removeFrom, retryAt_cleanedUp]
    · split
      · rw [retryAt_check, retryAt_check, retryAt_removeFrom, retryAt_cleanedUp]
      · rw [retryAt_check, retryAt_removeFrom, retryAt_cleanedUp]
  · rw [retryAt_cleanedUp]

/-- A retry is only scheduled for a token that comes. -/
theorem retryAt_run (h : (s.run settings now a).retryAt.get? token ≠ none) :
    s.retryAt.get? token ≠ none ∨ a = .receivedPong token := by
  cases a with
  | sendPing hasConnectionIssue pingToken =>
    left
    simp only [run, handleSendPing] at h
    split at h
    · exact h
    split at h
    · rwa [retryAt_check] at h
    · exact h
  | receivedPong pongToken =>
    simp only [run, handleReceivedPong] at h
    split at h
    · rw [retryAt_check] at h
      exact .inl h
    · rw [scheduleUnknownPongRetry, retryAt_check] at h
      split at h
      · rw [retryAt_check] at h
        exact .inl h
      split at h
      · rw [Dict.get?_set] at h
        split at h
        next heq => exact .inr (heq ▸ rfl)
        next => exact .inl h
      · rw [retryAt_check] at h
        exact .inl h
  | retry pongToken =>
    left
    rw [run, retryAt_retry, Dict.get?_erase] at h
    split at h
    · exact absurd rfl h
    · exact h
  | clear => exact .inl h

/-! ### A step -/

variable (settings) in
theorem tracked_run (h : Tracked as s) (now : Int) (a : Store.PingPongTracker.Action) :
    Tracked (as ++ [(now, a)]) (s.run settings now a) := by
  have hsim : (s.run settings now a).Simulates (s.abs.run settings now a) :=
    simulates_run h.simulates now a
  constructor
  case synced => exact hsim.synced
  case bounded =>
    intro m
    rw [show ((s.run settings now a).tracker m).length = _ from (hsim.count_eq m).symm]
    refine Store.PingPongTracker.length_run_le a ?_
    rw [h.simulates.tracker_eq, (h.synced m).length_abs]
    exact h.bounded m
  case retries =>
    intro token hretry
    rcases retryAt_run hretry with hbefore | rfl
    · obtain ⟨earlier, hmem⟩ := h.retries token hbefore
      exact ⟨earlier, List.mem_append_left _ hmem⟩
    · exact ⟨now, List.mem_append_right _ (List.mem_singleton_self _)⟩

variable (settings) in
theorem seenAt_run (h : Tracked as s) (now : Int) (a : Store.PingPongTracker.Action) :
    (s.run settings now a).pending.seenAt = (s.abs.run settings now a).pending.seenAt := by
  have hsim : (s.run settings now a).Simulates (s.abs.run settings now a) :=
    simulates_run h.simulates now a
  rw [← hsim.abs_eq]
  rfl

/-- Seen in a step, a token of the pings is still there, or it has left for a reason. -/
theorem leaves_run (h : Tracked as s) {now : Int}
    (henabled : s.enabled now a = true) (htoken : token ∈ s.pending.tokens)
    (hgone : token ∉ (s.run settings now a).pending.tokens) :
    Leaves settings as now a s (s.run settings now a) token := by
  have hseen := h.mem_pending.mp htoken
  have hlost : ∀ seenAt, (s.abs.run settings now a).pending.seenAt.get? token ≠ some seenAt := by
    intro seenAt hget
    rw [← seenAt_run settings h now a] at hget
    exact hgone ((tracked_run settings h now a).mem_pending.mpr ⟨seenAt, hget⟩)
  have hshrinks : Store.PongTracker.Shrinks _ _ _ (s.abs.entering now a .pending)
      (s.abs.run settings now a).pending := Store.PingPongTracker.shrinks_run s.abs a .pending
  -- A step that adds no ping has no more than it had, so nothing leaves for being too old.
  have hfew : ¬ pingPongCacheMaxSize < s.abs.pending.length := by
    have hlength := (h.synced .pending).length_abs
    have hbounded := h.bounded .pending
    exact Nat.not_lt.mpr (hlength ▸ hbounded)
  have hother : s.abs.entering now a .pending = s.abs.pending →
      Leaves settings as now a s (s.run settings now a) token := by
    intro hsame
    obtain ⟨seenAt, hget⟩ := hseen
    rw [hsame] at hshrinks
    rcases hshrinks.gone token seenAt hget with hkept | hmay | hold | ⟨hmany, -⟩
    · exact absurd hkept (hlost seenAt)
    · cases a with
      | sendPing => exact absurd hmay id
      | receivedPong pongToken => exact .pong (by rw [show token = pongToken from hmay])
      | retry pongToken =>
        obtain rfl : token = pongToken := hmay
        have hretry : s.retryAt.get? token ≠ none := by
          intro hnone
          rw [enabled, hnone] at henabled
          cases henabled
        obtain ⟨earlier, hpong⟩ := h.retries token hretry
        exact .latePing rfl hpong
      | clear => exact .cleared rfl
    · exact .expired hget hold
    · exact absurd hmany hfew
  cases a with
  | sendPing hasConnectionIssue pingToken =>
    cases hasConnectionIssue with
    | true => exact hother rfl
    | false =>
      have hadd : (s.pending.add pingToken now).Synced :=
        PongTracker.synced_add (h.synced .pending) pingToken now
      obtain ⟨seenAt, hget⟩ := Dict.mem_keys.mp ((hadd token).mp (List.mem_insert_of_mem htoken))
      rcases hshrinks.gone token seenAt hget with hkept | hmay | hold | ⟨hmany, holdest⟩
      · exact absurd hkept (hlost seenAt)
      · exact absurd hmay id
      · -- The ping of this step is new, so it is another one that has expired.
        have hget' : (s.pending.seenAt.set pingToken now).get? token = some seenAt := hget
        rw [Dict.get?_set] at hget'
        split at hget'
        next =>
          obtain rfl := Option.some.inj hget'
          have hpos := settings.ttl_pos
          omega
        next => exact .expired hget' hold
      · refine .oldest rfl ?_ hget ?_
        · rw [← hadd.length_abs]
          exact hmany
        · rw [seenAt_run settings h now (.sendPing false pingToken)]
          exact holdest
  | _ => exact hother rfl

/-- A pong that a ping waits for takes only that ping with it, apart from expired ones. -/
structure Answered (settings : PingPongSettings) (now : Int) (s t : PingPongTracker)
    (token : String) : Prop where
  unknown : t.unknown = s.unknown
  removed : token ∉ t.pending.tokens
  subset : t.pending.tokens ⊆ s.pending.tokens
  others : ∀ other ∈ s.pending.tokens, other ≠ token → other ∉ t.pending.tokens →
    ∃ seenAt, s.pending.seenAt.get? other = some seenAt ∧ settings.ttl < now - seenAt

theorem unknown_check_pending (s : PingPongTracker) (now : Int) :
    (s.checkAndPublishPongEvent settings now .pending).unknown = s.unknown := by
  have hclean : (s.cleanupTracker settings now .pending).unknown = s.unknown := rfl
  rw [← hclean]
  simp only [checkAndPublishPongEvent]
  generalize s.cleanupTracker settings now .pending = s'
  split
  · rfl
  split
  · rfl
  split <;> rfl

theorem answered_run (h : Tracked as s) (now : Int)
    (htoken : s.pending.contains token = true) :
    Answered settings now s (s.run settings now (.receivedPong token)) token := by
  have habs : s.abs.pending.contains token = true := by
    rw [← htoken]
    exact h.simulates.contains_eq .pending token
  have hshrinks : Store.PongTracker.Shrinks _ _ _ s.abs.pending
      (s.abs.run settings now (.receivedPong token)).pending :=
    Store.PingPongTracker.shrinks_run s.abs (.receivedPong token) .pending
  have hseen := seenAt_run settings h now (.receivedPong token)
  have htracked := tracked_run settings h now (.receivedPong token)
  constructor
  case unknown =>
    have hrun : s.run settings now (.receivedPong token) =
        ((s.removeFrom .pending token).cleanupTracker settings now
          .pending).checkAndPublishPongEvent settings now .pending :=
      if_pos htoken
    rw [hrun, unknown_check_pending]
    rfl
  case removed =>
    rw [htracked.mem_pending, hseen, Store.PingPongTracker.notMem_run_of_contains habs]
    simp
  case subset =>
    intro other hother
    rw [htracked.mem_pending, hseen] at hother
    obtain ⟨seenAt, hget⟩ := hother
    exact h.mem_pending.mpr ⟨seenAt, hshrinks.kept other seenAt hget⟩
  case others =>
    intro other hother hne hgone
    cases leaves_run h (a := .receivedPong token) rfl hother hgone with
    | pong heq =>
      cases heq
      exact absurd rfl hne
    | latePing heq => cases heq
    | expired hget hold => exact ⟨_, hget, hold⟩
    | cleared heq => cases heq
    | oldest heq => cases heq

theorem tracked_init : Tracked [] {} where
  synced m := by
    intro token
    cases m <;> simp [tracker]
  bounded m := by cases m <;> exact Nat.zero_le _
  retries token h := absurd rfl h

/-- In every run the set of either tracker has the tokens that were seen, and not more than the
maximum; a pong that is waited for takes its ping only, and a ping that leaves has a reason. -/
theorem tracked_of_steps {start : Int} {s : Int × PingPongTracker}
    (h : (system settings start).Steps Free (system settings start).init as s) :
    (∀ m, (s.2.tracker m).Synced ∧ (s.2.tracker m).length ≤ pingPongCacheMaxSize) ∧
      ∀ now a t, (system settings start).step s (now, a) = some t →
        (∀ token, a = .receivedPong token → s.2.pending.contains token = true →
          Answered settings now s.2 t.2 token) ∧
        ∀ token ∈ s.2.pending.tokens, token ∉ t.2.pending.tokens →
          Leaves settings as now a s.2 t.2 token := by
  have hrun : ∀ (s t : Int × PingPongTracker) b, (system settings start).step s b = some t →
      s.2.enabled b.1 b.2 = true ∧ t.2 = s.2.run settings b.1 b.2 := by
    intro s t b hs
    simp only [system] at hs
    split at hs
    next henabled => exact ⟨henabled.2, (congrArg Prod.snd (Option.some.inj hs)).symm⟩
    next => cases hs
  have htracked : Tracked as s.2 := by
    have hall := Steps.history (P := fun as (s : Int × PingPongTracker) => Tracked as s.2)
      (fun as s b t hs _ hstep => (hrun s t b hstep).2 ▸ tracked_run settings hs b.1 b.2)
      h tracked_init
    rwa [List.nil_append] at hall
  refine ⟨fun m => ⟨htracked.synced m, htracked.bounded m⟩, fun now a t hs => ?_⟩
  obtain ⟨henabled, ht⟩ := hrun s t (now, a) hs
  rw [ht]
  constructor
  · rintro token rfl htoken
    exact answered_run htracked now htoken
  · exact fun token htoken hgone => leaves_run htracked henabled htoken hgone

/-- A pong comes before its ping, and waits for it. -/
def latePing : List (Int × Store.PingPongTracker.Action) :=
  [(0, .sendPing false "CCU-HmIP-RF#1"), (1000000, .receivedPong "CCU-HmIP-RF#2"),
    (2000000, .sendPing false "CCU-HmIP-RF#2")]

theorem tracked_of_steps_latePing : ∃ s : Int × PingPongTracker,
    s.2.pending.contains "CCU-HmIP-RF#2" = true ∧ s.2.unknown.contains "CCU-HmIP-RF#2" = true ∧
    (∀ m, (s.2.tracker m).Synced ∧ (s.2.tracker m).length ≤ pingPongCacheMaxSize) ∧
      ∀ now a t,
        (system Store.PingPongTracker.defaults 0).step s (now, a) = some t →
        (∀ token, a = .receivedPong token → s.2.pending.contains token = true →
          Answered Store.PingPongTracker.defaults now s.2 t.2 token) ∧
        ∀ token ∈ s.2.pending.tokens, token ∉ t.2.pending.tokens →
          Leaves Store.PingPongTracker.defaults latePing now a s.2 t.2 token := by
  obtain ⟨s, hs, hpending, hunknown⟩ := replay_any (p := fun s : Int × PingPongTracker =>
      s.2.pending.contains "CCU-HmIP-RF#2" = true ∧ s.2.unknown.contains "CCU-HmIP-RF#2" = true)
    (show ((system Store.PingPongTracker.defaults 0).replay Free
      (system Store.PingPongTracker.defaults 0).init latePing).any _ = true by decide)
  exact ⟨s, hpending, hunknown, tracked_of_steps (steps_of_replay hs)⟩

end PingPongTracker

end AioHomematic.Store.Parallel
