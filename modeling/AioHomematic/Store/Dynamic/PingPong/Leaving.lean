import AioHomematic.Store.Dynamic.PingPong.Alarms

/-!
# How tokens leave the ping-pong tracker

A tracker that is cleaned up loses the tokens that have expired and, if there
are too many, the oldest ones. `Shrinks` says so, apart from tokens that may go
for another reason, and `pending_run` and `unknown_run` tell for each action
what that reason is.
-/

namespace AioHomematic.Store

open Lib StepSystem

namespace PongTracker

/-- Tokens have gone from `p` because they may, have expired or are the oldest of too many. -/
structure Shrinks (may : String → Prop) (ttl now : Int) (p p' : PongTracker) : Prop where
  kept : ∀ token seenAt, p'.seenAt.get? token = some seenAt → p.seenAt.get? token = some seenAt
  gone : ∀ token seenAt, p.seenAt.get? token = some seenAt →
    p'.seenAt.get? token = some seenAt ∨ may token ∨ ttl < now - seenAt ∨
      (pingPongCacheMaxSize < p.length ∧
        ∀ token' seenAt', p'.seenAt.get? token' = some seenAt' → seenAt ≤ seenAt')

variable {may may' : String → Prop} {ttl now : Int} {p p' p'' : PongTracker}

theorem Shrinks.length_le (h : Shrinks may ttl now p p') : p'.length ≤ p.length := by
  have hsub : p'.seenAt.keys ⊆ p.seenAt.keys := by
    intro token htoken
    obtain ⟨seenAt, hget⟩ := Dict.mem_keys.mp htoken
    exact Dict.mem_keys.mpr ⟨seenAt, h.kept token seenAt hget⟩
  have hle := List.Nodup.length_le_of_subset p'.seenAt.nodup hsub
  simpa only [length, Dict.keys, List.length_map] using hle

/-- Only the times of the tokens count. -/
theorem Shrinks.of_eq (h : p'.seenAt = p.seenAt) : Shrinks may ttl now p p' where
  kept _ _ hget := h ▸ hget
  gone _ _ hget := .inl (h ▸ hget)

theorem Shrinks.mono (h : Shrinks may ttl now p p') (hmay : ∀ token, may token → may' token) :
    Shrinks may' ttl now p p' where
  kept := h.kept
  gone token seenAt hget := (h.gone token seenAt hget).imp_right (Or.imp_left (hmay token))

theorem Shrinks.trans (h : Shrinks may ttl now p p') (h' : Shrinks may ttl now p' p'') :
    Shrinks may ttl now p p'' where
  kept token seenAt hget := h.kept token seenAt (h'.kept token seenAt hget)
  gone token seenAt hget := by
    rcases h.gone token seenAt hget with hmid | hmay | hexpired | ⟨hmany, holdest⟩
    · rcases h'.gone token seenAt hmid with hlast | hmay | hexpired | ⟨hmany, holdest⟩
      · exact .inl hlast
      · exact .inr (.inl hmay)
      · exact .inr (.inr (.inl hexpired))
      · exact .inr (.inr (.inr ⟨Nat.lt_of_lt_of_le hmany h.length_le, holdest⟩))
    · exact .inr (.inl hmay)
    · exact .inr (.inr (.inl hexpired))
    · refine .inr (.inr (.inr ⟨hmany, fun token' seenAt' hget' => ?_⟩))
      exact holdest token' seenAt' (h'.kept token' seenAt' hget')

theorem shrinks_remove (p : PongTracker) (token : String) :
    Shrinks (· = token) ttl now p (p.remove token) where
  kept token' seenAt hget := by
    simp only [remove, Dict.get?_erase] at hget
    split at hget
    · cases hget
    · exact hget
  gone token' seenAt hget := by
    simp only [remove, Dict.get?_erase]
    split
    next heq => exact .inr (.inl heq.symm)
    next => exact .inl hget

theorem seenAt_foldl_remove (tokens : List String) (p : PongTracker) :
    (tokens.foldl remove p).seenAt = tokens.foldl Dict.erase p.seenAt := by
  induction tokens generalizing p with
  | nil => rfl
  | cons token tokens ih => exact ih (p.remove token)

/-- One token was not seen later than another. -/
def notLater (e e' : String × Int) : Bool := e.2 ≤ e'.2

/-- The tokens that have expired. -/
def expired (ttl now : Int) (p : PongTracker) : List String :=
  (p.seenAt.entries.filter fun e => ttl < now - e.2).map Prod.fst

theorem seenAt_cleanup (p : PongTracker) (ttl now : Int) : (p.cleanup ttl now).seenAt =
    ((p.expired ttl now).foldl Dict.erase p.seenAt).evict notLater
      (((p.expired ttl now).foldl Dict.erase p.seenAt).entries.length - pingPongCacheMaxSize) := by
  have halive := seenAt_foldl_remove (p.expired ttl now) p
  simp only [cleanup]
  split
  · rw [seenAt_foldl_remove]
    change (List.map Prod.fst (List.take (length (List.foldl remove p (p.expired ttl now)) - _)
      (((List.foldl remove p (p.expired ttl now)).seenAt.entries).mergeSort notLater))).foldl
      Dict.erase (List.foldl remove p (p.expired ttl now)).seenAt = _
    rw [length, halive]
    rfl
  next hfew =>
    have hzero : ((p.expired ttl now).foldl Dict.erase p.seenAt).entries.length -
        pingPongCacheMaxSize = 0 := by
      rw [← halive]
      exact Nat.sub_eq_zero_of_le (Nat.not_lt.mp hfew)
    rw [hzero]
    exact halive

theorem length_cleanup_le_max (p : PongTracker) (ttl now : Int) :
    (p.cleanup ttl now).length ≤ pingPongCacheMaxSize := by
  rw [length, seenAt_cleanup, Dict.length_evict]
  omega

theorem shrinks_cleanup (p : PongTracker) (ttl now : Int) :
    Shrinks (fun _ => False) ttl now p (p.cleanup ttl now) := by
  have hmem : ∀ token seenAt,
      ((p.expired ttl now).foldl Dict.erase p.seenAt).get? token = some seenAt ↔
        p.seenAt.get? token = some seenAt ∧ token ∉ p.expired ttl now := by
    intro token seenAt
    rw [Dict.get?_foldl_erase]
    split
    next h => simp [h]
    next h => simp [h]
  have hkept : ∀ token seenAt, (p.cleanup ttl now).seenAt.get? token = some seenAt →
      ((p.expired ttl now).foldl Dict.erase p.seenAt).get? token = some seenAt := by
    intro token seenAt hget
    rw [seenAt_cleanup, Dict.evict, Dict.get?_foldl_erase] at hget
    split at hget
    · cases hget
    · exact hget
  constructor
  case kept => exact fun token seenAt hget => ((hmem token seenAt).mp (hkept token seenAt hget)).1
  case gone =>
    intro token seenAt hget
    by_cases hstays : (p.cleanup ttl now).seenAt.get? token = some seenAt
    · exact .inl hstays
    refine .inr (.inr ?_)
    by_cases hexpired : token ∈ p.expired ttl now
    · left
      obtain ⟨e, he, rfl⟩ := List.mem_map.mp hexpired
      obtain ⟨he, hold⟩ := List.mem_filter.mp he
      have heq : e.2 = seenAt := Option.some.inj ((Dict.get?_eq_some.mpr he).symm.trans hget)
      exact heq ▸ of_decide_eq_true hold
    · right
      have halive := (hmem token seenAt).mpr ⟨hget, hexpired⟩
      rw [seenAt_cleanup] at hstays
      constructor
      · by_contra hfew
        have hle := Dict.length_foldl_erase_le (p.expired ttl now) p.seenAt
        rw [Nat.sub_eq_zero_of_le (Nat.le_trans hle (Nat.not_lt.mp hfew))] at hstays
        exact hstays halive
      · intro token' seenAt' hget'
        rw [seenAt_cleanup] at hget'
        have hle : notLater (token, seenAt) (token', seenAt') = true := Dict.le_of_evicted
          (fun a b c hab hbc => decide_eq_true
            (Int.le_trans (of_decide_eq_true hab) (of_decide_eq_true hbc)))
          (fun a b => by simpa [notLater] using Int.le_total a.2 b.2)
          (Dict.get?_eq_some.mp halive) (fun hmem => hstays (Dict.get?_eq_some.mpr hmem))
          (Dict.get?_eq_some.mp hget')
        exact of_decide_eq_true hle

end PongTracker

namespace PingPongTracker

open PongTracker

variable {settings : PingPongSettings} {s : PingPongTracker} {m : PingPongMismatchType}
  {now : Int}

/-- The tokens that an action removes itself. -/
def MayLeave : Action → String → Prop
  | .sendPing .., _ => False
  | .receivedPong pongToken, token => token = pongToken
  | .retry pongToken, token => token = pongToken
  | .clear, _ => True

/-- A tracker with the token that an action adds to it. -/
def entering (s : PingPongTracker) (now : Int) : Action → PingPongMismatchType → PongTracker
  | .sendPing false pingToken, .pending => s.pending.add pingToken now
  | .receivedPong pongToken, .unknown =>
    if s.pending.contains pongToken then s.unknown else s.unknown.add pongToken now
  | _, m => s.tracker m

/-! ## The parts of an action -/

theorem tracker_cleanupTracker (s : PingPongTracker) (m' : PingPongMismatchType) :
    (s.cleanupTracker settings now m').tracker m =
      if m' = m then (s.tracker m).cleanup settings.ttl now else s.tracker m := by
  rw [cleanupTracker, tracker_setTracker]
  split
  next heq => rw [heq]
  next => rfl

theorem shrinks_cleanupTracker (s : PingPongTracker) (m' : PingPongMismatchType)
    (may : String → Prop) :
    Shrinks may settings.ttl now (s.tracker m) ((s.cleanupTracker settings now m').tracker m) := by
  rw [tracker_cleanupTracker]
  split
  · exact (shrinks_cleanup _ _ _).mono fun _ => False.elim
  · exact .of_eq rfl

theorem seenAt_check (s : PingPongTracker) (m' : PingPongMismatchType) :
    ((s.checkAndPublishPongEvent settings now m').tracker m).seenAt =
      ((s.cleanupTracker settings now m').tracker m).seenAt := by
  simp only [checkAndPublishPongEvent]
  generalize s.cleanupTracker settings now m' = c
  have hlogged : ∀ n logged,
      (((c.publish settings m' n).setLogged m' logged).tracker m).seenAt = (c.tracker m).seenAt := by
    intro n logged
    cases m' <;> cases m <;> rfl
  split
  · exact hlogged _ true
  split
  · exact hlogged _ false
  split
  · cases m <;> rfl
  · rfl

theorem shrinks_check (s : PingPongTracker) (m' : PingPongMismatchType) (may : String → Prop) :
    Shrinks may settings.ttl now (s.tracker m)
      ((s.checkAndPublishPongEvent settings now m').tracker m) :=
  (shrinks_cleanupTracker s m' may).trans (.of_eq (seenAt_check s m'))

theorem shrinks_removeFrom (s : PingPongTracker) (m' : PingPongMismatchType) (token : String) :
    Shrinks (· = token) settings.ttl now (s.tracker m) ((s.removeFrom m' token).tracker m) := by
  rw [removeFrom, tracker_setTracker]
  split
  next heq => exact heq ▸ shrinks_remove _ token
  next => exact .of_eq rfl

theorem tracker_addTo (s : PingPongTracker) (token : String) :
    (s.addTo settings now m token).tracker m =
      ((s.tracker m).add token now).cleanup settings.ttl now := by
  rw [addTo, tracker_cleanupTracker, if_pos rfl, tracker_setTracker, if_pos rfl]

theorem tracker_addTo_of_ne (s : PingPongTracker) (token : String) {m' : PingPongMismatchType}
    (hne : m' ≠ m) : (s.addTo settings now m' token).tracker m = s.tracker m := by
  rw [addTo, tracker_cleanupTracker, if_neg hne, tracker_setTracker, if_neg hne]

theorem tracker_scheduleUnknownPongRetry (s : PingPongTracker) (token : String) :
    (s.scheduleUnknownPongRetry settings now token).tracker m = s.tracker m := by
  have hkept : Kept settings s (s.scheduleUnknownPongRetry settings now token) m :=
    kept_scheduleUnknownPongRetry s now token
  exact hkept.tracker

theorem tracker_retryAt (s : PingPongTracker) (retryAt : Dict String Int) :
    ({ s with retryAt } : PingPongTracker).tracker m = s.tracker m := by
  cases m <;> rfl

/-! ## What an action leaves -/

theorem shrinks_retry (s : PingPongTracker) (token : String) :
    Shrinks (· = token) settings.ttl now (s.tracker m)
      ((s.retryReconcilePong settings now token).tracker m) := by
  have hclean : Shrinks (· = token) settings.ttl now (s.tracker m)
      ((s.cleanedUp settings now).tracker m) :=
    (shrinks_cleanupTracker s .pending _).trans (shrinks_cleanupTracker _ .unknown _)
  simp only [retryReconcilePong]
  generalize s.cleanedUp settings now = c at hclean ⊢
  have hpending : Shrinks (· = token) settings.ttl now (s.tracker m)
      ((c.removeFrom .pending token).tracker m) :=
    hclean.trans (shrinks_removeFrom c .pending token)
  split
  · split
    · have hunknown : Shrinks (· = token) settings.ttl now (s.tracker m)
          (((c.removeFrom .pending token).removeFrom .unknown token).tracker m) :=
        hpending.trans (shrinks_removeFrom _ .unknown token)
      generalize (c.removeFrom .pending token).removeFrom .unknown token = c' at hunknown ⊢
      have hcheck : Shrinks (· = token) settings.ttl now (s.tracker m)
          ((c'.checkAndPublishPongEvent settings now .pending).tracker m) :=
        hunknown.trans (shrinks_check c' .pending _)
      generalize c'.checkAndPublishPongEvent settings now .pending = c'' at hcheck ⊢
      have hlast := hcheck.trans (shrinks_check c'' .unknown _)
      generalize c''.checkAndPublishPongEvent settings now .unknown = last at hlast ⊢
      rw [tracker_retryAt]
      exact hlast
    · generalize c.removeFrom .pending token = c' at hpending ⊢
      have hcheck := hpending.trans (shrinks_check c' .pending _)
      generalize c'.checkAndPublishPongEvent settings now .pending = last at hcheck ⊢
      rw [tracker_retryAt]
      exact hcheck
  · rw [tracker_retryAt]
    exact hclean

theorem shrinks_run (s : PingPongTracker) (a : Action) (m : PingPongMismatchType) :
    Shrinks (MayLeave a) settings.ttl now (s.entering now a m)
      ((s.run settings now a).tracker m) := by
  cases a with
  | sendPing hasConnectionIssue pingToken =>
    simp only [run, handleSendPing]
    cases hasConnectionIssue with
    | true => cases m <;> exact .of_eq rfl
    | false =>
      have hadded : Shrinks (MayLeave (.sendPing false pingToken)) settings.ttl now
          (s.entering now (.sendPing false pingToken) m)
          ((s.addTo settings now .pending pingToken).tracker m) := by
        cases m with
        | pending =>
          rw [tracker_addTo]
          exact (shrinks_cleanup _ _ _).mono fun _ => False.elim
        | unknown =>
          rw [tracker_addTo_of_ne s pingToken (by decide)]
          exact .of_eq rfl
      simp only [Bool.false_eq_true, if_false]
      split
      · exact hadded
      · exact hadded.trans (shrinks_check _ .pending _)
  | receivedPong pongToken =>
    simp only [run, handleReceivedPong]
    split
    next hpending =>
      have hsame : s.entering now (.receivedPong pongToken) m = s.tracker m := by
        cases m with
        | pending => rfl
        | unknown => exact if_pos hpending
      rw [hsame]
      exact ((shrinks_removeFrom s .pending pongToken).trans
        (shrinks_cleanupTracker _ .pending _)).trans (shrinks_check _ .pending _)
    next hunknown =>
      have hadded : Shrinks (MayLeave (.receivedPong pongToken)) settings.ttl now
          (s.entering now (.receivedPong pongToken) m)
          ((s.addTo settings now .unknown pongToken).tracker m) := by
        cases m with
        | pending =>
          rw [tracker_addTo_of_ne s pongToken (by decide)]
          exact .of_eq rfl
        | unknown =>
          rw [tracker_addTo, entering, if_neg hunknown]
          exact (shrinks_cleanup _ _ _).mono fun _ => False.elim
      rw [tracker_scheduleUnknownPongRetry]
      exact hadded.trans (shrinks_check _ .unknown _)
  | retry token =>
    have hretry : Shrinks (· = token) settings.ttl now (s.tracker m)
        ((s.retryReconcilePong settings now token).tracker m) := shrinks_retry s token
    cases m <;> exact hretry
  | clear =>
    constructor
    · intro token seenAt hget
      cases m <;> cases hget
    · exact fun _ _ _ => .inr (.inl trivial)

theorem length_run_le (a : Action) (h : (s.tracker m).length ≤ pingPongCacheMaxSize) :
    ((s.run settings now a).tracker m).length ≤ pingPongCacheMaxSize := by
  by_cases hsame : s.entering now a m = s.tracker m
  · exact Nat.le_trans (hsame ▸ (shrinks_run s a m).length_le) h
  -- A token comes in, and the tracker is cleaned up at once.
  have hadded : ∀ token, ((s.addTo settings now m token).tracker m).length ≤
      pingPongCacheMaxSize := by
    intro token
    rw [tracker_addTo]
    exact length_cleanup_le_max _ _ _
  have hchecked : ∀ token, (((s.addTo settings now m token).checkAndPublishPongEvent
      settings now m).tracker m).length ≤ pingPongCacheMaxSize := fun token =>
    Nat.le_trans (shrinks_check _ m fun _ => False).length_le (hadded token)
  cases a with
  | sendPing hasConnectionIssue pingToken =>
    cases m with
    | unknown => exact absurd (by cases hasConnectionIssue <;> rfl) hsame
    | pending =>
      simp only [run, handleSendPing]
      split
      · exact h
      split
      · exact hadded pingToken
      · exact hchecked pingToken
  | receivedPong pongToken =>
    cases m with
    | pending => exact absurd rfl hsame
    | unknown =>
      simp only [run, handleReceivedPong]
      split
      next hpending => exact absurd (if_pos hpending) hsame
      next =>
        rw [tracker_scheduleUnknownPongRetry]
        exact hchecked pongToken
  | retry token => exact absurd (by cases m <;> rfl) hsame
  | clear => exact absurd (by cases m <;> rfl) hsame

theorem notMem_run_of_contains {pongToken : String} (h : s.pending.contains pongToken = true) :
    (s.run settings now (.receivedPong pongToken)).pending.seenAt.get? pongToken = none := by
  have hshrinks : Shrinks (fun _ => False) settings.ttl now (s.pending.remove pongToken)
      ((s.run settings now (.receivedPong pongToken)).tracker .pending) := by
    simp only [run, handleReceivedPong, h, if_true]
    exact (shrinks_cleanupTracker (m := .pending) (s.removeFrom .pending pongToken) .pending
      _).trans (shrinks_check _ .pending _)
  rw [Option.eq_none_iff_forall_ne_some]
  intro seenAt hget
  have hkept := hshrinks.kept pongToken seenAt hget
  rw [remove, Dict.get?_erase_self] at hkept
  cases hkept

end PingPongTracker

end AioHomematic.Store
