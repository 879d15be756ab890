import AioHomematic.Client.JsonRpc
import Mathlib.Data.List.Nodup

/-!
# Sessions that are not logged out

Which open sessions the client still knows: the one it holds, those that a call
is to log out, and the expired one under the lock. `Accounted P` says that
there are no others but those in `P`, which are on the way from one call to the
next. A step keeps this unless it forgets an open session, and `Keeps` says
when it does not: `is_service_available` never logs out what it has logged in,
a temporary session is not logged out after an error and its logout drops the
kept one, a failed renewal leaves the old session open.
-/

namespace AioHomematic.Client

open Lib

/-! ## Owners -/

def PostSession.Owns (x : Nat) : PostSession → Prop
  | .kept _ => False
  | .temporary sessionId => sessionId = x

def LoginCaller.Owns (x : Nat) : LoginCaller → Prop
  | .post => False
  | .supportedMethods session => session.Owns x

def LockedRequest.Owns (x : Nat) : LockedRequest → Prop
  | .login _ => False
  | .renew _ => False
  | .logout sessionId => sessionId = x

/-- The call is to log out the session. -/
def JsonRpcCall.Owns (x : Nat) : JsonRpcCall → Prop
  | .waitsForLock caller => caller.Owns x
  | .listMethods session => session.Owns x
  | .request session => session.Owns x
  | .temporaryLogout sessionId => sessionId = x
  | _ => False

namespace JsonRpcClient

variable {s t : JsonRpcClient} {P Q : Nat → Prop} {x sessionId : Nat}

/-- The session that is held is not open, or one of these. -/
def HoldsOpenOnly (s : JsonRpcClient) (P : Nat → Prop) : Prop :=
  ∀ x ∈ s.sessionId, x ∈ s.openSessions → P x

/-- No open session is held. -/
def HoldsNoOpen (s : JsonRpcClient) : Prop := s.HoldsOpenOnly fun _ => False

/-- What the client may hold while the lock is held. -/
def LockConsistent (s : JsonRpcClient) : LockedRequest → Prop
  | .login _ => s.HoldsNoOpen
  | .logout _ => s.HoldsNoOpen
  | .renew sessionId => sessionId < s.nextSessionId ∧ s.HoldsOpenOnly (· = sessionId)

structure Accounted (P : Nat → Prop) (s : JsonRpcClient) : Prop where
  nodup : s.openSessions.Nodup
  lt_next : ∀ x ∈ s.openSessions, x < s.nextSessionId
  held_lt : ∀ x ∈ s.sessionId, x < s.nextSessionId
  lock : ∀ l ∈ s.sessionLock, s.LockConsistent l.1
  owned : ∀ x ∈ s.openSessions, s.sessionId = some x ∨ P x ∨ (∃ call ∈ s.calls, call.Owns x) ∨
    ∃ l ∈ s.sessionLock, l.1.Owns x ∨ l.2.Owns x

theorem HoldsOpenOnly.mono (h : s.HoldsOpenOnly P) (hPQ : ∀ x, P x → Q x) : s.HoldsOpenOnly Q :=
  fun x hx hopen => hPQ x (h x hx hopen)

theorem LockConsistent.transfer {request : LockedRequest} (h : s.LockConsistent request)
    (hnext : s.nextSessionId ≤ t.nextSessionId)
    (hholds : ∀ R, s.HoldsOpenOnly R → t.HoldsOpenOnly R) : t.LockConsistent request := by
  cases request with
  | login renewal => exact hholds _ h
  | logout sessionId => exact hholds _ h
  | renew sessionId => exact ⟨Nat.lt_of_lt_of_le h.1 hnext, hholds _ h.2⟩

namespace Accounted

/-! ## Parts of a step -/

theorem mono (h : s.Accounted P) (hPQ : ∀ x ∈ s.openSessions, P x → Q x) : s.Accounted Q where
  nodup := h.nodup
  lt_next := h.lt_next
  held_lt := h.held_lt
  lock := h.lock
  owned x hx := (h.owned x hx).imp_right (Or.imp_left (hPQ x hx))

theorem goOn {call : JsonRpcCall} (h : s.Accounted P)
    (hcall : ∀ x ∈ s.openSessions, P x → call.Owns x) : (s.goOn call).Accounted Q where
  nodup := h.nodup
  lt_next := h.lt_next
  held_lt := h.held_lt
  lock := h.lock
  owned x hx := by
    rcases h.owned x hx with hheld | hP | ⟨call', hmem, howns⟩ | hlock
    · exact .inl hheld
    · exact .inr (.inr (.inl ⟨call, List.mem_append_right _ List.mem_cons_self, hcall x hx hP⟩))
    · exact .inr (.inr (.inl ⟨call', List.mem_append_left _ hmem, howns⟩))
    · exact .inr (.inr (.inr hlock))

theorem eraseCall {i : Nat} {call : JsonRpcCall} (h : s.Accounted P)
    (hcall : s.calls[i]? = some call) :
    (s.eraseCall i).Accounted fun x => P x ∨ call.Owns x where
  nodup := h.nodup
  lt_next := h.lt_next
  held_lt := h.held_lt
  lock := h.lock
  owned x hx := by
    rcases h.owned x hx with hheld | hP | ⟨call', hmem, howns⟩ | hlock
    · exact .inl hheld
    · exact .inr (.inl (.inl hP))
    · obtain ⟨j, hj⟩ := List.mem_iff_getElem?.mp hmem
      by_cases hij : j = i
      · subst hij
        cases hcall.symm.trans hj
        exact .inr (.inl (.inr howns))
      · refine .inr (.inr (.inl ⟨call', ?_, howns⟩))
        exact List.mem_eraseIdx_iff_getElem?.mpr ⟨j, hij, hj⟩
    · exact .inr (.inr (.inr hlock))

theorem releaseLock {request : LockedRequest} {caller : LoginCaller} (h : s.Accounted P)
    (hlock : s.sessionLock = some (request, caller)) :
    { s with sessionLock := none }.Accounted fun x => P x ∨ request.Owns x ∨ caller.Owns x where
  nodup := h.nodup
  lt_next := h.lt_next
  held_lt := h.held_lt
  lock := fun l hl => by cases hl
  owned x hx := by
    rcases h.owned x hx with hheld | hP | hcall | ⟨l, hl, howns⟩
    · exact .inl hheld
    · exact .inr (.inl (.inl hP))
    · exact .inr (.inr (.inl hcall))
    · cases hlock.symm.trans hl
      exact .inr (.inl (.inr howns))

theorem takeLock {request : LockedRequest} {caller : LoginCaller} (h : s.Accounted P)
    (hlock : s.sessionLock = none) (hconsistent : s.LockConsistent request)
    (howns : ∀ x ∈ s.openSessions, P x → request.Owns x ∨ caller.Owns x) :
    { s with sessionLock := some (request, caller) }.Accounted Q where
  nodup := h.nodup
  lt_next := h.lt_next
  held_lt := h.held_lt
  lock := fun l hl => by
    cases hl
    cases request <;> exact hconsistent
  owned x hx := by
    rcases h.owned x hx with hheld | hP | hcall | ⟨l, hl, -⟩
    · exact .inl hheld
    · exact .inr (.inr (.inr ⟨_, rfl, howns x hx hP⟩))
    · exact .inr (.inr (.inl hcall))
    · rw [hlock] at hl
      cases hl

theorem clearSession (h : s.Accounted P) (hheld : s.HoldsOpenOnly P) :
    s.clearSession.Accounted P where
  nodup := h.nodup
  lt_next := h.lt_next
  held_lt := fun x hx => by cases hx
  lock := fun l hl => (h.lock l hl).transfer (Nat.le_refl _) fun R _ x hx => by cases hx
  owned x hx := by
    rcases h.owned x hx with hsome | hrest
    · exact .inr (.inl (hheld x hsome hx))
    · exact .inr hrest

theorem setSession (h : s.Accounted P) (hlock : s.sessionLock = none)
    (hlt : sessionId < s.nextSessionId) (hheld : s.HoldsOpenOnly (· = sessionId)) :
    { s with sessionId := some sessionId }.Accounted fun x => P x ∧ x ≠ sessionId where
  nodup := h.nodup
  lt_next := h.lt_next
  held_lt := fun x hx => by
    cases hx
    exact hlt
  lock := fun l hl => by
    rw [hlock] at hl
    cases hl
  owned x hx := by
    by_cases hne : x = sessionId
    · exact .inl (congrArg some hne.symm)
    · rcases h.owned x hx with hsome | hP | hrest
      · exact absurd (hheld x hsome hx) hne
      · exact .inr (.inl ⟨hP, hne⟩)
      · exact .inr (.inr hrest)

/-- A session that was not open when it was held stays so: new sessions have new numbers. -/
theorem holdsOpenOnly_openSession (h : s.Accounted P) {R : Nat → Prop} (hheld : s.HoldsOpenOnly R) :
    s.openSession.HoldsOpenOnly R := by
  intro x hx hopen
  rcases List.mem_append.mp hopen with hopen | hnew
  · exact hheld x hx hopen
  · have := h.held_lt x hx
    have := List.mem_singleton.mp hnew
    omega

theorem openSession (h : s.Accounted P) :
    s.openSession.Accounted fun x => P x ∨ x = s.nextSessionId where
  nodup := by
    refine List.nodup_append.mpr ⟨h.nodup, List.nodup_singleton _, ?_⟩
    rintro x hx y hy rfl
    have := h.lt_next x hx
    have := List.mem_singleton.mp hy
    omega
  lt_next := fun x hx => by
    show x < s.nextSessionId + 1
    rcases List.mem_append.mp hx with hx | hnew
    · have := h.lt_next x hx
      omega
    · have := List.mem_singleton.mp hnew
      omega
  held_lt := fun x hx => Nat.lt_succ_of_lt (h.held_lt x hx)
  lock := fun l hl => (h.lock l hl).transfer (Nat.le_succ _) fun R => h.holdsOpenOnly_openSession
  owned x hx := by
    rcases List.mem_append.mp hx with hx | hnew
    · rcases h.owned x hx with hheld | hP | hrest
      · exact .inl hheld
      · exact .inr (.inl (.inl hP))
      · exact .inr (.inr hrest)
    · exact .inr (.inl (.inr (List.mem_singleton.mp hnew)))

theorem mem_closeSession : x ∈ (s.closeSession sessionId).openSessions ↔
    x ∈ s.openSessions ∧ x ≠ sessionId := by
  simp [JsonRpcClient.closeSession]

theorem holdsOpenOnly_closeSession {R : Nat → Prop} (hheld : s.HoldsOpenOnly R) :
    (s.closeSession sessionId).HoldsOpenOnly fun x => R x ∧ x ≠ sessionId := by
  intro x hx hopen
  obtain ⟨hopen, hne⟩ := mem_closeSession.mp hopen
  exact ⟨hheld x hx hopen, hne⟩

theorem closeSession (h : s.Accounted P) :
    (s.closeSession sessionId).Accounted fun x => P x ∧ x ≠ sessionId where
  nodup := h.nodup.filter _
  lt_next := fun x hx => h.lt_next x (mem_closeSession.mp hx).1
  held_lt := h.held_lt
  lock := fun l hl => (h.lock l hl).transfer (Nat.le_refl _) fun R hholds =>
    (holdsOpenOnly_closeSession hholds).mono fun _ h => h.1
  owned x hx := by
    obtain ⟨hx, hne⟩ := mem_closeSession.mp hx
    rcases h.owned x hx with hheld | hP | hrest
    · exact .inl hheld
    · exact .inr (.inl ⟨hP, hne⟩)
    · exact .inr (.inr hrest)

/-! ### What the accounting does not look at -/

theorem wait (h : s.Accounted P) (microseconds : Nat) :
    { s with now := s.now + microseconds }.Accounted P :=
  ⟨h.nodup, h.lt_next, h.held_lt, h.lock, h.owned⟩

theorem refreshed (h : s.Accounted P) (refresh : Option Nat) :
    { s with lastSessionIdRefresh := refresh }.Accounted P :=
  ⟨h.nodup, h.lt_next, h.held_lt, h.lock, h.owned⟩

theorem methodsKnown (h : s.Accounted P) : { s with supportedMethodsKnown := true }.Accounted P :=
  ⟨h.nodup, h.lt_next, h.held_lt, h.lock, h.owned⟩

/-! ## Going on with a call -/

theorem methodsLoggedIn {session : PostSession} (h : s.Accounted P)
    (howns : ∀ x ∈ s.openSessions, P x → session.Owns x) :
    (s.methodsLoggedIn session).Accounted Q := by
  unfold JsonRpcClient.methodsLoggedIn
  split
  · exact h.methodsKnown.goOn howns
  · exact h.goOn howns

theorem checkSupportedMethods {session : PostSession} (h : s.Accounted P)
    (howns : ∀ x ∈ s.openSessions, P x → session.Owns x) :
    (s.checkSupportedMethods session).Accounted Q := by
  unfold JsonRpcClient.checkSupportedMethods
  split
  · exact h.goOn howns
  · split
    · exact h.methodsLoggedIn howns
    · exact h.goOn howns

theorem loggedIn {caller : LoginCaller} (h : s.Accounted P)
    (howns : ∀ x ∈ s.openSessions, P x → caller.Owns x) : (s.loggedIn caller).Accounted Q := by
  cases caller with
  | post =>
    simp only [JsonRpcClient.loggedIn]
    split
    · exact h.mono fun x hx hP => (howns x hx hP).elim
    · exact h.checkSupportedMethods fun x hx hP => (howns x hx hP).elim
  | supportedMethods session => exact h.methodsLoggedIn howns

theorem loginFailed {caller : LoginCaller} (h : s.Accounted P)
    (howns : ∀ x ∈ s.openSessions, P x → caller.Owns x) : (s.loginFailed caller).Accounted Q := by
  cases caller with
  | post => exact h.mono fun x hx hP => (howns x hx hP).elim
  | supportedMethods session =>
    exact h.methodsKnown.goOn howns

theorem loginOrRenew {caller : LoginCaller} (h : s.Accounted P)
    (howns : ∀ x ∈ s.openSessions, P x → caller.Owns x) :
    (s.loginOrRenew caller).Accounted Q := by
  unfold JsonRpcClient.loginOrRenew
  split
  · exact h.loggedIn howns
  · exact h.goOn howns

theorem lockedLoginOrRenew {caller : LoginCaller} (h : s.Accounted P)
    (hlock : s.sessionLock = none) (howns : ∀ x ∈ s.openSessions, P x → caller.Owns x) :
    (s.lockedLoginOrRenew caller).Accounted Q := by
  unfold JsonRpcClient.lockedLoginOrRenew
  split
  · exact h.loggedIn howns
  · split
    · rename_i hnone
      refine h.takeLock hlock (fun x hx => ?_) fun x hx hP => .inr (howns x hx hP)
      rw [hnone] at hx
      cases hx
    · rename_i sessionId hsome
      refine h.takeLock hlock ⟨h.held_lt _ hsome, fun x hx _ => ?_⟩
        fun x hx hP => .inr (howns x hx hP)
      rw [hsome] at hx
      cases hx
      rfl

end Accounted

/-! ## Answers that keep the sessions -/

/-- A renewal is refused as unauthorized, or it fails for a session that is no longer open, and
the logout of the old session does not fail while it is open. -/
def KeepsLocked (s : JsonRpcClient) : LockedRequest → JsonRpcAnswer → Prop
  | .renew sessionId, .result false => sessionId ∉ s.openSessions
  | .renew sessionId, .failure => sessionId ∉ s.openSessions
  | .logout _, .result _ => True
  | .logout sessionId, _ => sessionId ∉ s.openSessions
  | _, _ => True

/-- The service check gets no session, a temporary session gets no error, and no open session is
held where the answer clears the session id. -/
def KeepsAnswered (s : JsonRpcClient) : JsonRpcCall → JsonRpcAnswer → Prop
  | .request (.temporary _), .result _ => True
  | .request (.temporary sessionId), _ => sessionId ∉ s.openSessions
  | .temporaryLogin, .result _ => True
  | .temporaryLogin, _ => s.HoldsNoOpen
  | .serviceLogin, .result value => value = false
  | .serviceLogin, _ => s.HoldsNoOpen
  | .temporaryLogout sessionId, .result _ => s.HoldsOpenOnly (· = sessionId)
  | .temporaryLogout sessionId, _ => sessionId ∉ s.openSessions ∧ s.HoldsNoOpen
  | .logout sessionId, .result _ => s.HoldsOpenOnly (· = sessionId)
  | .logout _, _ => s.HoldsNoOpen
  | _, _ => True

/-- The step forgets no open session. -/
def Keeps (s : JsonRpcClient) : Action → Prop
  | .answer i a => ∀ call ∈ s.calls[i]?, s.KeepsAnswered call a
  | .lockedAnswer a => ∀ l ∈ s.sessionLock, s.KeepsLocked l.1 a
  | _ => True

instance (s : JsonRpcClient) (P : Nat → Prop) [DecidablePred P] : Decidable (s.HoldsOpenOnly P) :=
  inferInstanceAs (Decidable (∀ x ∈ s.sessionId, x ∈ s.openSessions → P x))

instance (s : JsonRpcClient) : Decidable s.HoldsNoOpen :=
  inferInstanceAs (Decidable (s.HoldsOpenOnly fun _ => False))

instance (s : JsonRpcClient) (request : LockedRequest) (a : JsonRpcAnswer) :
    Decidable (s.KeepsLocked request a) := by
  unfold KeepsLocked
  split <;> infer_instance

instance (s : JsonRpcClient) (call : JsonRpcCall) (a : JsonRpcAnswer) :
    Decidable (s.KeepsAnswered call a) := by
  unfold KeepsAnswered
  split <;> infer_instance

instance : DecidableRel Keeps := fun s action =>
  match action with
  | .answer i a => inferInstanceAs (Decidable (∀ call ∈ s.calls[i]?, s.KeepsAnswered call a))
  | .lockedAnswer a => inferInstanceAs (Decidable (∀ l ∈ s.sessionLock, s.KeepsLocked l.1 a))
  | .post _ => .isTrue trivial
  | .isServiceAvailable => .isTrue trivial
  | .logout => .isTrue trivial
  | .tasksDone _ => .isTrue trivial
  | .acquire _ => .isTrue trivial
  | .wait _ => .isTrue trivial

namespace Accounted

theorem closed (h : s.Accounted (· = sessionId)) (hheld : s.HoldsOpenOnly (· = sessionId)) :
    (s.closeSession sessionId).clearSession.Accounted Q := by
  refine (h.closeSession.clearSession (holdsOpenOnly_closeSession hheld)).mono ?_
  rintro x - ⟨hx, hne⟩
  exact absurd hx hne

theorem cleared (h : s.Accounted fun _ => False) (hheld : s.HoldsNoOpen) :
    s.clearSession.Accounted Q :=
  (h.clearSession hheld).mono fun _ _ hx => hx.elim

/-- The answer to the request of a call that was taken out. -/
theorem answered {call : JsonRpcCall} {a : JsonRpcAnswer} (h : s.Accounted call.Owns)
    (hflight : call.inFlight = true) (hkeeps : s.KeepsAnswered call a) :
    (s.answered call a).Accounted Q := by
  cases call with
  | waitsForLock caller => cases hflight
  | blockTillDone => cases hflight
  | listMethods session =>
    exact h.methodsKnown.goOn
      fun x _ howns => howns
  | request session =>
    cases session with
    | kept sessionId => exact h.mono fun x _ howns => howns.elim
    | temporary sessionId =>
      have hfailed : sessionId ∉ s.openSessions → s.Accounted Q := fun hclosed =>
        h.mono fun x hx howns => absurd hx (howns ▸ hclosed)
      cases a with
      | result value => exact h.goOn fun x _ howns => howns
      | authFailure => exact hfailed hkeeps
      | failure => exact hfailed hkeeps
  | temporaryLogin =>
    cases a with
    | result value =>
      cases value with
      | true =>
        refine h.openSession.checkSupportedMethods ?_
        rintro x - (howns | rfl)
        · exact howns.elim
        · rfl
      | false => exact h.mono fun x _ howns => howns.elim
    | authFailure => exact cleared h hkeeps
    | failure => exact cleared h hkeeps
  | serviceLogin =>
    cases a with
    | result value =>
      cases hkeeps
      exact h.mono fun x _ howns => howns.elim
    | authFailure => exact cleared h hkeeps
    | failure => exact cleared h hkeeps
  | temporaryLogout sessionId =>
    have hfailed : sessionId ∉ s.openSessions ∧ s.HoldsNoOpen → s.clearSession.Accounted Q := by
      rintro ⟨hclosed, hheld⟩
      exact (h.mono fun x hx howns => absurd hx (howns ▸ hclosed)).cleared hheld
    cases a with
    | result value => exact (h.mono fun x _ howns => howns.symm).closed hkeeps
    | authFailure => exact hfailed hkeeps
    | failure => exact hfailed hkeeps
  | logout sessionId =>
    cases a with
    | result value => exact (h.mono fun x _ howns => howns.elim).closed hkeeps
    | authFailure => exact cleared h hkeeps
    | failure => exact cleared h hkeeps

/-! ### Answers under the lock, which was released -/

theorem loginAnswered {renewal : Bool} {caller : LoginCaller} {a : JsonRpcAnswer}
    (h : s.Accounted caller.Owns) (hlock : s.sessionLock = none) (hheld : s.HoldsNoOpen) :
    (s.lockedAnswered caller (.login renewal) a).Accounted Q := by
  have hcleared : s.clearSession.Accounted caller.Owns :=
    h.clearSession (hheld.mono fun x hx => hx.elim)
  cases a with
  | result value =>
    cases value with
    | true =>
      have hopen := h.openSession.setSession hlock (Nat.lt_succ_self s.nextSessionId)
        ((h.holdsOpenOnly_openSession hheld).mono fun x hx => hx.elim)
      refine (hopen.refreshed _).loggedIn ?_
      rintro x - ⟨howns, hne⟩
      exact howns.resolve_right hne
    | false => exact (hcleared.refreshed _).loggedIn fun x _ howns => howns
  | authFailure => exact hcleared.loginFailed fun x _ howns => howns
  | failure => exact hcleared.loginFailed fun x _ howns => howns

theorem renewAnswered {caller : LoginCaller} {a : JsonRpcAnswer} (h : s.Accounted caller.Owns)
    (hlock : s.sessionLock = none) (hlt : sessionId < s.nextSessionId)
    (hheld : s.HoldsOpenOnly (· = sessionId)) (hkeeps : s.KeepsLocked (.renew sessionId) a) :
    (s.lockedAnswered caller (.renew sessionId) a).Accounted Q := by
  have hnoOpen : sessionId ∉ s.openSessions → s.HoldsNoOpen := by
    rintro hclosed x hx hopen
    exact hclosed (hheld x hx hopen ▸ hopen)
  cases a with
  | result value =>
    cases value with
    | true =>
      have hset := h.setSession hlock hlt hheld
      exact (hset.refreshed _).loggedIn fun x _ howns => howns.1
    | false => exact h.takeLock hlock (hnoOpen hkeeps) fun x _ howns => .inr howns
  | authFailure =>
    -- from here on the lock owns the old session
    have hboth : s.Accounted fun x => x = sessionId ∨ caller.Owns x :=
      h.mono fun x _ howns => .inr howns
    refine (hboth.clearSession (hheld.mono fun x hx => .inl hx)).takeLock hlock
      (fun x hx => by cases hx) ?_
    rintro x - (hx | howns)
    · exact .inl hx.symm
    · exact .inr howns
  | failure =>
    have hcleared := h.clearSession ((hnoOpen hkeeps).mono fun x hx => hx.elim)
    exact hcleared.loginFailed fun x _ howns => howns

theorem expiredLogoutAnswered {caller : LoginCaller} {a : JsonRpcAnswer}
    (h : s.Accounted fun x => sessionId = x ∨ caller.Owns x) (hlock : s.sessionLock = none)
    (hheld : s.HoldsNoOpen) (hkeeps : s.KeepsLocked (.logout sessionId) a) :
    (s.lockedAnswered caller (.logout sessionId) a).Accounted Q := by
  have hfailed : sessionId ∉ s.openSessions →
      { s.clearSession with sessionLock := some (.login true, caller) }.Accounted Q := by
    intro hclosed
    refine (h.clearSession (hheld.mono fun x hx => hx.elim)).takeLock hlock
      (fun x hx => by cases hx) ?_
    rintro x hx (howns | howns)
    · exact absurd hx (howns ▸ hclosed)
    · exact .inr howns
  cases a with
  | result value =>
    have hheld' : (s.closeSession sessionId).HoldsOpenOnly fun x => False ∧ x ≠ sessionId :=
      holdsOpenOnly_closeSession hheld
    have hclosed := h.closeSession.clearSession (hheld'.mono fun x hx => hx.1.elim)
    refine hclosed.takeLock hlock (fun x hx => by cases hx) ?_
    rintro x - ⟨howns | howns, hne⟩
    · exact absurd howns.symm hne
    · exact .inr howns
  | authFailure => exact hfailed hkeeps
  | failure => exact hfailed hkeeps

theorem lockedAnswered {request : LockedRequest} {caller : LoginCaller} {a : JsonRpcAnswer}
    (h : s.Accounted fun x => request.Owns x ∨ caller.Owns x) (hlock : s.sessionLock = none)
    (hconsistent : s.LockConsistent request) (hkeeps : s.KeepsLocked request a) :
    (s.lockedAnswered caller request a).Accounted Q := by
  cases request with
  | login renewal =>
    exact loginAnswered (h.mono fun x _ howns => howns.resolve_left id) hlock hconsistent
  | renew sessionId =>
    exact renewAnswered (h.mono fun x _ howns => howns.resolve_left id) hlock hconsistent.1
      hconsistent.2 hkeeps
  | logout sessionId => exact expiredLogoutAnswered h hlock hconsistent hkeeps

/-- A step that forgets no open session leaves all sessions accounted. -/
theorem step {action : Action} (h : s.Accounted fun _ => False) (hkeeps : s.Keeps action)
    (hstep : s.step action = some t) : t.Accounted fun _ => False := by
  cases action with
  | post keepSession =>
    cases keepSession with
    | true =>
      cases hstep
      exact h.loginOrRenew fun x _ hx => hx.elim
    | false =>
      cases hstep
      exact h.goOn fun x _ hx => hx.elim
  | isServiceAvailable =>
    cases hstep
    exact h.goOn fun x _ hx => hx.elim
  | logout =>
    cases hstep
    exact h.goOn fun x _ hx => hx.elim
  | tasksDone i =>
    obtain ⟨hcall, rfl⟩ := step_tasksDone hstep
    have herased := (h.eraseCall hcall).mono fun x _ hx => hx.elim id id
    unfold startLogout
    split
    · exact herased
    · exact herased.goOn fun x _ hx => hx.elim
  | acquire i =>
    obtain ⟨caller, hlock, hcall, rfl⟩ := step_acquire hstep
    exact (h.eraseCall hcall).lockedLoginOrRenew hlock fun x _ hx => hx.resolve_left id
  | answer i a =>
    obtain ⟨call, hcall, hflight, rfl⟩ := step_answer hstep
    have herased := (h.eraseCall hcall).mono fun x _ hx => hx.resolve_left id
    exact herased.answered hflight (hkeeps call hcall)
  | lockedAnswer a =>
    obtain ⟨request, caller, hlock, rfl⟩ := step_lockedAnswer hstep
    have hreleased := (h.releaseLock hlock).mono fun x _ hx => hx.resolve_left id
    exact hreleased.lockedAnswered rfl (h.lock _ hlock) (hkeeps _ hlock)
  | wait microseconds =>
    cases hstep
    exact h.wait microseconds

theorem init : ({} : JsonRpcClient).Accounted fun _ => False where
  nodup := List.nodup_nil
  lt_next := fun x hx => absurd hx List.not_mem_nil
  held_lt := fun x hx => by cases hx
  lock := fun l hl => by cases hl
  owned := fun x hx => absurd hx List.not_mem_nil

end Accounted

/-- The first call logs in and asks for the supported methods. -/
def sampleKept : List Action :=
  [.post true, .acquire 0, .lockedAnswer (.result true), .answer 0 (.result true),
    .answer 0 (.result true)]

/-- After a logout a call takes a temporary session, the next one keeps its own. When that has
expired, it is logged out and replaced. -/
def sampleRenewed : List Action :=
  sampleKept ++
    [.logout, .tasksDone 0, .answer 0 (.result true), .post false, .answer 0 (.result true),
      .answer 0 (.result true), .answer 0 (.result true), .post true, .acquire 0,
      .lockedAnswer (.result true), .answer 0 .failure, .wait (90 * second), .post true, .acquire 0,
      .lockedAnswer .authFailure, .lockedAnswer (.result true), .lockedAnswer (.result true),
      .answer 0 (.result true)]

end JsonRpcClient

end AioHomematic.Client
