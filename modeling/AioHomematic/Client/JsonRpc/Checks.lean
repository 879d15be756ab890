import AioHomematic.Client.JsonRpc
import Mathlib.Data.List.Perm.Basic

/-!
# Checks of the kept session

When a step hands the session id that the client holds to a request, and when it
sends a renewal. A `_post` takes the session id after its check and carries it
to its request; `_get_supported_methods` takes the one of that moment. So
`Checks x` counts the calls that carry `x`, and the `system.listMethods`
requests while `x` is held. `Checks.cases` says what a step has found before it
hands out a session, `moves` what a step does with the session, its time and the
lock.
-/

namespace AioHomematic.Client

open Lib

/-! ## Carried session ids -/

def PostSession.carries (x : Nat) : PostSession → Bool
  | .kept sessionId => sessionId = x
  | .temporary _ => false

def LoginCaller.carries (x : Nat) : LoginCaller → Bool
  | .post => false
  | .supportedMethods session => session.carries x

def JsonRpcCall.carries (x : Nat) : JsonRpcCall → Bool
  | .waitsForLock caller => caller.carries x
  | .listMethods session => session.carries x
  | .request session => session.carries x
  | _ => false

def JsonRpcCall.lists : JsonRpcCall → Bool
  | .listMethods _ => true
  | _ => false

namespace JsonRpcClient

variable {s t : JsonRpcClient} {x i : Nat} {b : Bool} {call : JsonRpcCall} {caller : LoginCaller}
  {session : PostSession} {request : LockedRequest} {a : JsonRpcAnswer} {action : Action}

/-- The calls that go on with the session id `x`. -/
def carried (x : Nat) (s : JsonRpcClient) : Nat :=
  s.calls.countP (·.carries x) + (s.sessionLock.any (·.2.carries x)).toNat

/-- The requests for the supported methods, which are sent with the session that is held. -/
def listing (s : JsonRpcClient) : Nat := s.calls.countP JsonRpcCall.lists

/-- One more request goes with the kept session `x`; `b` says whether the call that goes on from
`s` carries it already. -/
def Hands (b : Bool) (x : Nat) (s t : JsonRpcClient) : Prop :=
  carried x s + b.toNat < carried x t ∨ listing s < listing t ∧ t.sessionId = some x

/-- The check of the kept session gives `x` to a call. -/
def Checks (x : Nat) (s t : JsonRpcClient) : Prop := Hands false x s t

/-- A renewal of `x` is sent. -/
def Renews (x : Nat) (s t : JsonRpcClient) : Prop :=
  s.sessionLock ≠ t.sessionLock ∧ ∃ caller, t.sessionLock = some (.renew x, caller)

instance : Decidable (Checks x s t) := inferInstanceAs (Decidable (_ ∨ _))

theorem countP_eraseCall {p : JsonRpcCall → Bool} (hcall : s.calls[i]? = some call) :
    s.calls.countP p = (s.eraseCall i).calls.countP p + (p call).toNat := by
  obtain ⟨hi, rfl⟩ := List.getElem?_eq_some_iff.mp hcall
  rw [← (List.getElem_cons_eraseIdx_perm hi).countP_eq p, List.countP_cons]
  show _ = (s.calls.eraseIdx i).countP p + _
  cases p s.calls[i] <;> rfl

theorem countP_goOn (p : JsonRpcCall → Bool) :
    (s.goOn call).calls.countP p = s.calls.countP p + (p call).toNat := by
  show (s.calls ++ [call]).countP p = _
  rw [List.countP_append, List.countP_singleton]
  cases p call <;> rfl

theorem carried_eraseCall (hcall : s.calls[i]? = some call) :
    carried x s = carried x (s.eraseCall i) + (call.carries x).toNat := by
  show s.calls.countP _ + _ = (s.eraseCall i).calls.countP _ + (s.sessionLock.any _).toNat + _
  rw [countP_eraseCall hcall]
  omega

theorem carried_goOn : carried x (s.goOn call) = carried x s + (call.carries x).toNat := by
  show (s.goOn call).calls.countP _ + (s.sessionLock.any _).toNat = s.calls.countP _ + _ + _
  rw [countP_goOn]
  omega

theorem carried_releaseLock (hlock : s.sessionLock = some (request, caller)) :
    carried x s = carried x { s with sessionLock := none } + (caller.carries x).toNat := by
  show s.calls.countP _ + (s.sessionLock.any _).toNat = s.calls.countP _ + 0 + _
  rw [hlock]
  rfl

theorem listing_eraseCall (hcall : s.calls[i]? = some call) :
    listing s = listing (s.eraseCall i) + call.lists.toNat :=
  countP_eraseCall hcall

theorem listing_goOn : listing (s.goOn call) = listing s + call.lists.toNat :=
  countP_goOn JsonRpcCall.lists

/-- The call that goes on was taken out before. -/
theorem Hands.eraseCall (hcall : s.calls[i]? = some call) (h : Hands false x s t) :
    Hands (call.carries x) x (s.eraseCall i) t := by
  rcases h with hcarried | ⟨hlisting, hheld⟩
  · rw [carried_eraseCall hcall] at hcarried
    exact .inl hcarried
  · rw [listing_eraseCall hcall] at hlisting
    exact .inr ⟨by omega, hheld⟩

theorem Hands.releaseLock (hlock : s.sessionLock = some (request, caller))
    (h : Hands false x s t) : Hands (caller.carries x) x { s with sessionLock := none } t := by
  rcases h with hcarried | ⟨hlisting, hheld⟩
  · rw [carried_releaseLock hlock] at hcarried
    exact .inl hcarried
  · exact .inr ⟨hlisting, hheld⟩

/-! ## Going on with a call -/

/-- A call goes on with what it carried. -/
theorem not_hands_goOn (hcarries : (call.carries x).toNat ≤ b.toNat) (hlists : call.lists = false) :
    ¬ Hands b x s (s.goOn call) := by
  rintro (hcarried | ⟨hlisting, -⟩)
  · rw [carried_goOn] at hcarried
    omega
  · rw [listing_goOn, hlists] at hlisting
    exact Nat.lt_irrefl _ hlisting

/-- No call goes on. -/
theorem not_hands_of_eq (hcalls : t.calls = s.calls) (hlock : t.sessionLock = s.sessionLock) :
    ¬ Hands b x s t := by
  unfold Hands carried listing
  rw [hcalls, hlock]
  omega

theorem Hands.methodsLoggedIn (h : Hands (session.carries x) x s (s.methodsLoggedIn session)) :
    s.sessionId = some x := by
  unfold JsonRpcClient.methodsLoggedIn at h
  split at h
  · exact absurd h (not_hands_goOn (Nat.le_refl _) rfl)
  · rcases h with hcarried | ⟨-, hheld⟩
    · rw [carried_goOn] at hcarried
      exact absurd hcarried (Nat.lt_irrefl _)
    · exact hheld

theorem Hands.checkSupportedMethods (hb : session.carries x = b)
    (h : Hands b x s (s.checkSupportedMethods session)) :
    s.supportedMethodsKnown = false ∧ s.isFresh = true ∧ s.sessionId = some x := by
  subst hb
  unfold JsonRpcClient.checkSupportedMethods at h
  split at h
  · exact absurd h (not_hands_goOn (Nat.le_refl _) rfl)
  · rename_i hunknown
    split at h
    · exact ⟨Bool.eq_false_iff.mpr hunknown, ‹_›, h.methodsLoggedIn⟩
    · exact absurd h (not_hands_goOn (Nat.le_refl _) rfl)

theorem Hands.loggedIn (h : Hands (caller.carries x) x s (s.loggedIn caller)) :
    s.sessionId = some x := by
  cases caller with
  | supportedMethods session => exact h.methodsLoggedIn
  | post =>
    simp only [JsonRpcClient.loggedIn] at h
    split at h
    · exact absurd h (not_hands_of_eq rfl rfl)
    · rename_i sessionId hheld
      by_cases hsame : sessionId = x
      · exact hsame ▸ hheld
      · have hother : (PostSession.kept sessionId).carries x = false := decide_eq_false hsame
        exact (Hands.checkSupportedMethods hother h).2.2

theorem not_hands_loginFailed : ¬ Hands (caller.carries x) x s (s.loginFailed caller) := by
  cases caller with
  | post => exact not_hands_of_eq rfl rfl
  | supportedMethods session => exact not_hands_goOn (Nat.le_refl _) rfl

theorem Hands.loginOrRenew (h : Hands (caller.carries x) x s (s.loginOrRenew caller)) :
    s.isFresh = true ∧ s.sessionId = some x := by
  unfold JsonRpcClient.loginOrRenew at h
  split at h
  · exact ⟨‹_›, h.loggedIn⟩
  · exact absurd h (not_hands_goOn (Nat.le_refl _) rfl)

theorem not_hands_takeLock (hlock : s.sessionLock = none) :
    ¬ Hands (caller.carries x) x s { s with sessionLock := some (request, caller) } := by
  rintro (hcarried | ⟨hlisting, -⟩)
  · have hfree : carried x s = s.calls.countP (·.carries x) := by
      unfold carried
      rw [hlock]
      rfl
    rw [hfree] at hcarried
    exact absurd hcarried (Nat.lt_irrefl _)
  · exact absurd hlisting (Nat.lt_irrefl _)

theorem Hands.lockedLoginOrRenew (hlock : s.sessionLock = none)
    (h : Hands (caller.carries x) x s (s.lockedLoginOrRenew caller)) :
    s.isFresh = true ∧ s.sessionId = some x := by
  unfold JsonRpcClient.lockedLoginOrRenew at h
  split at h
  · exact ⟨‹_›, h.loggedIn⟩
  · split at h
    · exact absurd h (not_hands_takeLock hlock)
    · exact absurd h (not_hands_takeLock hlock)

/-! ## What a step has looked at -/

/-- The session that an answer under the lock confirms. -/
def confirms (s : JsonRpcClient) : LockedRequest → JsonRpcAnswer → Option Nat
  | .login _, .result true => some s.nextSessionId
  | .renew sessionId, .result true => some sessionId
  | _, _ => none

/-- The session that a step confirms. -/
def confirmed (s : JsonRpcClient) : Action → Option Nat
  | .lockedAnswer a => s.sessionLock.bind fun l => s.confirms l.1 a
  | _ => none

/-- A call looks whether the session that is held was refreshed recently. -/
def looks (s : JsonRpcClient) : Action → Bool
  | .post true => true
  | .acquire _ => true
  | .answer i (.result true) => s.calls[i]? = some .temporaryLogin && !s.supportedMethodsKnown
  | _ => false

def Action.isAcquire : Action → Bool
  | .acquire _ => true
  | _ => false

theorem looks_of_isAcquire (h : action.isAcquire = true) : s.looks action = true := by
  cases action with
  | acquire i => rfl
  | _ => cases h

theorem confirmed_of_looks (h : s.looks action = true) : s.confirmed action = none := by
  cases action with
  | lockedAnswer a => cases h
  | _ => rfl

theorem Hands.answered (h : Hands (call.carries x) x s (s.answered call a)) :
    call = .temporaryLogin ∧ a = .result true ∧ s.supportedMethodsKnown = false ∧
      s.isFresh = true ∧ s.sessionId = some x := by
  cases call with
  | waitsForLock caller => exact absurd h (not_hands_of_eq rfl rfl)
  | blockTillDone => exact absurd h (not_hands_of_eq rfl rfl)
  | listMethods session => exact absurd h (not_hands_goOn (Nat.le_refl _) rfl)
  | request session =>
    cases session with
    | kept sessionId => exact absurd h (not_hands_of_eq rfl rfl)
    | temporary sessionId =>
      cases a with
      | result value => exact absurd h (not_hands_goOn (Nat.le_refl _) rfl)
      | authFailure => exact absurd h (not_hands_of_eq rfl rfl)
      | failure => exact absurd h (not_hands_of_eq rfl rfl)
  | temporaryLogin =>
    cases a with
    | result value =>
      cases value with
      | true =>
        have htemporary : (PostSession.temporary s.nextSessionId).carries x = false := rfl
        exact ⟨rfl, rfl, Hands.checkSupportedMethods (s := s.openSession) htemporary h⟩
      | false => exact absurd h (not_hands_of_eq rfl rfl)
    | authFailure => exact absurd h (not_hands_of_eq rfl rfl)
    | failure => exact absurd h (not_hands_of_eq rfl rfl)
  | serviceLogin =>
    cases a with
    | result value => cases value <;> exact absurd h (not_hands_of_eq rfl rfl)
    | authFailure => exact absurd h (not_hands_of_eq rfl rfl)
    | failure => exact absurd h (not_hands_of_eq rfl rfl)
  | temporaryLogout sessionId => cases a <;> exact absurd h (not_hands_of_eq rfl rfl)
  | logout sessionId => cases a <;> exact absurd h (not_hands_of_eq rfl rfl)

/-- Under the lock, a call gets the session that was confirmed right now. -/
theorem Hands.lockedAnswered (hlock : s.sessionLock = none)
    (h : Hands (caller.carries x) x s (s.lockedAnswered caller request a)) :
    s.confirms request a = some x := by
  cases request with
  | login renewal =>
    cases a with
    | result value =>
      cases value with
      | true =>
        exact Hands.loggedIn
          (s := { s.openSession with sessionId := _, lastSessionIdRefresh := _ }) h
      | false =>
        exact nomatch Hands.loggedIn (s := { s.clearSession with lastSessionIdRefresh := _ }) h
    | authFailure => exact absurd h (not_hands_loginFailed (s := s.clearSession))
    | failure => exact absurd h (not_hands_loginFailed (s := s.clearSession))
  | renew sessionId =>
    cases a with
    | result value =>
      cases value with
      | true =>
        exact Hands.loggedIn (s := { s with sessionId := _, lastSessionIdRefresh := _ }) h
      | false => exact absurd h (not_hands_takeLock hlock)
    | authFailure => exact absurd h (not_hands_takeLock (s := s.clearSession) hlock)
    | failure => exact absurd h (not_hands_loginFailed (s := s.clearSession))
  | logout sessionId =>
    cases a with
    | result value =>
      exact absurd h (not_hands_takeLock (s := (s.closeSession sessionId).clearSession) hlock)
    | authFailure => exact absurd h (not_hands_takeLock (s := s.clearSession) hlock)
    | failure => exact absurd h (not_hands_takeLock (s := s.clearSession) hlock)

theorem Checks.cases (h : Checks x s t) (hstep : s.step action = some t) :
    s.looks action = true ∧ s.isFresh = true ∧ s.sessionId = some x ∨
      s.confirmed action = some x := by
  cases action with
  | post keepSession =>
    cases keepSession with
    | true =>
      cases hstep
      have h : Hands (LoginCaller.post.carries x) x s (s.loginOrRenew .post) := h
      exact .inl ⟨rfl, h.loginOrRenew⟩
    | false =>
      cases hstep
      exact absurd h (not_hands_goOn (Nat.le_refl _) rfl)
  | isServiceAvailable =>
    cases hstep
    exact absurd h (not_hands_goOn (Nat.le_refl _) rfl)
  | logout =>
    cases hstep
    exact absurd h (not_hands_goOn (Nat.le_refl _) rfl)
  | wait microseconds =>
    cases hstep
    exact absurd h (not_hands_of_eq rfl rfl)
  | tasksDone i =>
    obtain ⟨hcall, rfl⟩ := step_tasksDone hstep
    have h := h.eraseCall hcall
    unfold startLogout at h
    split at h
    · exact absurd h (not_hands_of_eq rfl rfl)
    · exact absurd h (not_hands_goOn (Nat.le_refl _) rfl)
  | acquire i =>
    obtain ⟨caller, hlock, hcall, rfl⟩ := step_acquire hstep
    have h := h.eraseCall hcall
    exact .inl ⟨rfl, Hands.lockedLoginOrRenew (s := s.eraseCall i) hlock h⟩
  | answer i a =>
    obtain ⟨call, hcall, -, rfl⟩ := step_answer hstep
    obtain ⟨rfl, rfl, hunknown, hfresh⟩ := (h.eraseCall hcall).answered
    refine .inl ⟨?_, hfresh⟩
    show (decide (s.calls[i]? = _) && !s.supportedMethodsKnown) = true
    rw [hcall, show s.supportedMethodsKnown = false from hunknown]
    rfl
  | lockedAnswer a =>
    obtain ⟨request, caller, hlock, rfl⟩ := step_lockedAnswer hstep
    have hconfirms := (h.releaseLock hlock).lockedAnswered rfl
    refine .inr ?_
    show s.sessionLock.bind _ = some x
    rw [hlock]
    exact hconfirms

/-! ## What a step leaves alone -/

/-- Only calls have gone on. -/
structure Resumes (s t : JsonRpcClient) : Prop where
  now : t.now = s.now
  sessionId : t.sessionId = s.sessionId
  lastSessionIdRefresh : t.lastSessionIdRefresh = s.lastSessionIdRefresh
  sessionLock : t.sessionLock = s.sessionLock

namespace Resumes

theorem refl (s : JsonRpcClient) : Resumes s s := ⟨rfl, rfl, rfl, rfl⟩

theorem goOn : Resumes s (s.goOn call) := ⟨rfl, rfl, rfl, rfl⟩

theorem methodsLoggedIn : Resumes s (s.methodsLoggedIn session) := by
  unfold JsonRpcClient.methodsLoggedIn
  split
  · exact ⟨rfl, rfl, rfl, rfl⟩
  · exact goOn

theorem checkSupportedMethods : Resumes s (s.checkSupportedMethods session) := by
  unfold JsonRpcClient.checkSupportedMethods
  split
  · exact goOn
  · split
    · exact methodsLoggedIn
    · exact goOn

theorem loggedIn : Resumes s (s.loggedIn caller) := by
  cases caller with
  | supportedMethods session => exact methodsLoggedIn
  | post =>
    simp only [JsonRpcClient.loggedIn]
    split
    · exact refl s
    · exact checkSupportedMethods

theorem loginFailed : Resumes s (s.loginFailed caller) := by
  cases caller with
  | post => exact refl s
  | supportedMethods session => exact ⟨rfl, rfl, rfl, rfl⟩

theorem loginOrRenew : Resumes s (s.loginOrRenew caller) := by
  unfold JsonRpcClient.loginOrRenew
  split
  · exact loggedIn
  · exact goOn

theorem startLogout : Resumes s s.startLogout := by
  unfold JsonRpcClient.startLogout
  split
  · exact refl s
  · exact goOn

end Resumes

/-- What becomes of the session `held` and of the time of its refresh: they stay, or no session is
held, or the one that is confirmed. -/
inductive Settles (now : Nat) (held refresh : Option Nat) :
    Option Nat → JsonRpcClient → Prop where
  | kept {t : JsonRpcClient} : t.sessionId = held → t.lastSessionIdRefresh = refresh →
      Settles now held refresh none t
  | dropped {t : JsonRpcClient} {x? : Option Nat} : t.sessionId = none →
      t.lastSessionIdRefresh = refresh ∨ t.lastSessionIdRefresh = some now →
      Settles now held refresh x? t
  | confirmed {t : JsonRpcClient} {x : Nat} : t.sessionId = some x →
      t.lastSessionIdRefresh = refresh ∨ t.lastSessionIdRefresh = some now →
      Settles now held refresh (some x) t

abbrev SettlesFrom (s : JsonRpcClient) : Option Nat → JsonRpcClient → Prop :=
  Settles s.now s.sessionId s.lastSessionIdRefresh

theorem Resumes.settles (h : Resumes s t) : SettlesFrom s none t :=
  .kept h.sessionId h.lastSessionIdRefresh

theorem Settles.resumes {now : Nat} {held refresh x? : Option Nat}
    (h : Settles now held refresh x? s) (ht : Resumes s t) : Settles now held refresh x? t := by
  cases h with
  | kept hheld hrefresh =>
    exact .kept (ht.sessionId.trans hheld) (ht.lastSessionIdRefresh.trans hrefresh)
  | dropped hheld hrefresh =>
    exact .dropped (ht.sessionId.trans hheld) (ht.lastSessionIdRefresh ▸ hrefresh)
  | confirmed hheld hrefresh =>
    exact .confirmed (ht.sessionId.trans hheld) (ht.lastSessionIdRefresh ▸ hrefresh)

/-- No answer without the lock confirms the session that is held. -/
theorem settles_answered (s : JsonRpcClient) (call : JsonRpcCall) (a : JsonRpcAnswer) :
    SettlesFrom s none (s.answered call a) ∧ (s.answered call a).now = s.now ∧
      (s.answered call a).sessionLock = s.sessionLock := by
  have hresumes {t} (h : Resumes s t) :
      SettlesFrom s none t ∧ t.now = s.now ∧ t.sessionLock = s.sessionLock :=
    ⟨h.settles, h.now, h.sessionLock⟩
  cases call with
  | waitsForLock caller => exact hresumes (.refl s)
  | blockTillDone => exact hresumes (.refl s)
  | listMethods session => exact hresumes ⟨rfl, rfl, rfl, rfl⟩
  | request session =>
    cases session with
    | kept sessionId => exact hresumes (.refl s)
    | temporary sessionId => cases a <;> exact hresumes ⟨rfl, rfl, rfl, rfl⟩
  | temporaryLogin =>
    cases a with
    | result value =>
      cases value with
      | true =>
        have h : Resumes s.openSession
          (s.openSession.checkSupportedMethods (.temporary s.nextSessionId)) :=
          .checkSupportedMethods
        exact hresumes ⟨h.now, h.sessionId, h.lastSessionIdRefresh, h.sessionLock⟩
      | false => exact hresumes (.refl s)
    | authFailure => exact ⟨.dropped rfl (.inl rfl), rfl, rfl⟩
    | failure => exact ⟨.dropped rfl (.inl rfl), rfl, rfl⟩
  | serviceLogin =>
    cases a with
    | result value => cases value <;> exact hresumes ⟨rfl, rfl, rfl, rfl⟩
    | authFailure => exact ⟨.dropped rfl (.inl rfl), rfl, rfl⟩
    | failure => exact ⟨.dropped rfl (.inl rfl), rfl, rfl⟩
  | temporaryLogout sessionId => cases a <;> exact ⟨.dropped rfl (.inl rfl), rfl, rfl⟩
  | logout sessionId => cases a <;> exact ⟨.dropped rfl (.inl rfl), rfl, rfl⟩

/-- An answer under the lock: it is free then, or its next request is not a renewal. -/
structure LockSettles (s : JsonRpcClient) (x? : Option Nat) (t : JsonRpcClient) : Prop where
  now : t.now = s.now
  settles : SettlesFrom s x? t
  lock : ∀ x caller, t.sessionLock ≠ some (.renew x, caller)

theorem LockSettles.resumes {u : JsonRpcClient} {x? : Option Nat} (h : LockSettles s x? t)
    (hu : Resumes t u) : LockSettles s x? u where
  now := hu.now.trans h.now
  settles := h.settles.resumes hu
  lock x caller := hu.sessionLock ▸ h.lock x caller

theorem lockSettles_lockedAnswered (hlock : s.sessionLock = none) :
    LockSettles s (s.confirms request a) (s.lockedAnswered caller request a) := by
  have hfree : ∀ x caller', s.sessionLock ≠ some (.renew x, caller') :=
    fun _ _ hrenew => nomatch hlock.symm.trans hrenew
  have hcleared {x? : Option Nat} : LockSettles s x? s.clearSession :=
    ⟨rfl, .dropped rfl (.inl rfl), hfree⟩
  have hrefreshed (renewal : Bool) (refresh : Option Nat)
      (h : refresh = if renewal then s.lastSessionIdRefresh else some s.now) :
      refresh = s.lastSessionIdRefresh ∨ refresh = some s.now := by
    cases renewal with
    | true => exact .inl h
    | false => exact .inr h
  cases request with
  | login renewal =>
    cases a with
    | result value =>
      cases value with
      | true =>
        have h : LockSettles s (some s.nextSessionId) { s.openSession with
            sessionId := some s.nextSessionId
            lastSessionIdRefresh := if renewal then s.lastSessionIdRefresh else some s.now } :=
          ⟨rfl, .confirmed rfl (hrefreshed renewal _ rfl), hfree⟩
        exact h.resumes .loggedIn
      | false =>
        have h : LockSettles s none { s.clearSession with
            lastSessionIdRefresh := if renewal then s.lastSessionIdRefresh else some s.now } :=
          ⟨rfl, .dropped rfl (hrefreshed renewal _ rfl), hfree⟩
        exact h.resumes .loggedIn
    | authFailure => exact hcleared.resumes .loginFailed
    | failure => exact hcleared.resumes .loginFailed
  | renew sessionId =>
    cases a with
    | result value =>
      cases value with
      | true =>
        have h : LockSettles s (some sessionId)
            { s with sessionId := some sessionId, lastSessionIdRefresh := some s.now } :=
          ⟨rfl, .confirmed rfl (.inr rfl), hfree⟩
        exact h.resumes .loggedIn
      | false => exact ⟨rfl, .kept rfl rfl, nofun⟩
    | authFailure => exact ⟨rfl, .dropped rfl (.inl rfl), nofun⟩
    | failure => exact hcleared.resumes .loginFailed
  | logout sessionId => cases a <;> exact ⟨rfl, .dropped rfl (.inl rfl), nofun⟩

/-- What a step makes of the session, the time and the lock; it sends a renewal only of a session
that is held and not fresh. -/
structure Moves (s : JsonRpcClient) (action : Action) (t : JsonRpcClient) : Prop where
  now : (∀ microseconds, action ≠ .wait microseconds) → t.now = s.now
  now_le : s.now ≤ t.now
  settles : SettlesFrom s (s.confirmed action) t
  renews : ∀ x, Renews x s t →
    action.isAcquire = true ∧ s.isFresh = false ∧ s.sessionId = some x

theorem Moves.of_lock (hnow : t.now = s.now) (hsettles : SettlesFrom s (s.confirmed action) t)
    (hlock : t.sessionLock = s.sessionLock) : Moves s action t where
  now _ := hnow
  now_le := Nat.le_of_eq hnow.symm
  settles := hsettles
  renews _ hrenews := absurd hlock.symm hrenews.1

theorem Resumes.moves (h : Resumes s t) (hconfirmed : s.confirmed action = none) :
    Moves s action t :=
  .of_lock h.now (hconfirmed ▸ h.settles) h.sessionLock

theorem moves_lockedLoginOrRenew :
    Moves s (.acquire i) ((s.eraseCall i).lockedLoginOrRenew caller) := by
  unfold JsonRpcClient.lockedLoginOrRenew
  split
  · have h : Resumes (s.eraseCall i) ((s.eraseCall i).loggedIn caller) := .loggedIn
    exact Resumes.moves ⟨h.now, h.sessionId, h.lastSessionIdRefresh, h.sessionLock⟩ rfl
  · rename_i hstale
    split
    · refine ⟨fun _ => rfl, Nat.le_refl _, .kept rfl rfl, ?_⟩
      rintro x ⟨-, caller', hrenew⟩
      cases hrenew
    · rename_i sessionId hheld
      refine ⟨fun _ => rfl, Nat.le_refl _, .kept rfl rfl, ?_⟩
      rintro x ⟨-, caller', hrenew⟩
      cases hrenew
      exact ⟨rfl, Bool.eq_false_iff.mpr hstale, hheld⟩

theorem moves (hstep : s.step action = some t) : Moves s action t := by
  cases action with
  | post keepSession =>
    cases keepSession with
    | true =>
      cases hstep
      exact Resumes.loginOrRenew.moves rfl
    | false =>
      cases hstep
      exact Resumes.goOn.moves rfl
  | isServiceAvailable =>
    cases hstep
    exact Resumes.goOn.moves rfl
  | logout =>
    cases hstep
    exact Resumes.goOn.moves rfl
  | wait microseconds =>
    cases hstep
    exact ⟨fun h => absurd rfl (h microseconds), Nat.le_add_right _ _, .kept rfl rfl,
      fun _ hrenews => absurd rfl hrenews.1⟩
  | tasksDone i =>
    obtain ⟨-, rfl⟩ := step_tasksDone hstep
    have h : Resumes (s.eraseCall i) (s.eraseCall i).startLogout := .startLogout
    exact Resumes.moves ⟨h.now, h.sessionId, h.lastSessionIdRefresh, h.sessionLock⟩ rfl
  | acquire i =>
    obtain ⟨caller, -, -, rfl⟩ := step_acquire hstep
    exact moves_lockedLoginOrRenew
  | answer i a =>
    obtain ⟨call, -, -, rfl⟩ := step_answer hstep
    obtain ⟨hsettles, hnow, hlock⟩ := settles_answered (s.eraseCall i) call a
    exact .of_lock hnow hsettles hlock
  | lockedAnswer a =>
    obtain ⟨request, caller, hlock, rfl⟩ := step_lockedAnswer hstep
    have h : LockSettles { s with sessionLock := none } (s.confirms request a)
        ({ s with sessionLock := none }.lockedAnswered caller request a) :=
      lockSettles_lockedAnswered rfl
    have hconfirmed : s.confirmed (.lockedAnswer a) = s.confirms request a := by
      show s.sessionLock.bind _ = _
      rw [hlock]
      rfl
    exact ⟨fun _ => h.now, Nat.le_of_eq h.now.symm, hconfirmed ▸ h.settles,
      fun x ⟨_, caller', hrenew⟩ => absurd hrenew (h.lock x caller')⟩

end JsonRpcClient

end AioHomematic.Client
