import AioHomematic.Client.JsonRpc.Checks
import AioHomematic.Lib.Dict

/-!
# Freshness of the kept session

The client with the time at which the CCU has confirmed each session last, by its
login or by a renewal. The client's own record is the time of its last refresh,
which is never later than that (`Records`). It looks at this time without the
whole days, and a login that follows a failed renewal does not write it. So a
check must not come where that makes a difference (`Recorded`).
-/

namespace AioHomematic.Client

open Lib JsonRpcClient

structure SessionHistory where
  client : JsonRpcClient := {}
  confirmedAt : Dict Nat Nat := .empty

namespace SessionHistory

variable {o o' : SessionHistory} {action : Action} {x : Nat}

def step (o : SessionHistory) (action : Action) : Option SessionHistory :=
  (o.client.step action).map fun client =>
    { client
      confirmedAt :=
        match o.client.confirmed action with
        | some x => o.confirmedAt.set x o.client.now
        | none => o.confirmedAt }

def system : StepSystem SessionHistory Action where
  init := {}
  step := step

/-- The session was obtained or renewed less than `JSON_SESSION_AGE` seconds ago. -/
def Fresh (x : Nat) (o : SessionHistory) : Prop :=
  ∃ time ∈ o.confirmedAt.get? x, time ≤ o.client.now ∧ o.client.now < time + jsonSessionAge * second

/-- A whole day or more has passed, and less than `JSON_SESSION_AGE` seconds of the next one. -/
def Wraps (o : SessionHistory) : Prop :=
  ∃ refresh ∈ o.client.lastSessionIdRefresh, 86400 ≤ (o.client.now - refresh) / second ∧
    (o.client.now - refresh) / second % 86400 < jsonSessionAge

/-- Where a call looks at the session that is held, the time since the refresh has not wrapped. A
renewal is considered only for a session whose last confirmation the client has recorded, or
that is old by now. -/
def Recorded (o : SessionHistory) (action : Action) : Prop :=
  o.client.looks action = true → ∀ x ∈ o.client.sessionId, ¬ o.Wraps ∧
    (action.isAcquire = true → o.Fresh x →
      o.client.lastSessionIdRefresh = o.confirmedAt.get? x)

instance (o : SessionHistory) : Decidable (o.Fresh x) :=
  inferInstanceAs (Decidable (∃ time ∈ o.confirmedAt.get? x, _ ∧ _))

instance (o : SessionHistory) : Decidable o.Wraps :=
  inferInstanceAs (Decidable (∃ refresh ∈ o.client.lastSessionIdRefresh, _ ∧ _))

instance : DecidableRel Recorded := fun o _ =>
  inferInstanceAs (Decidable (_ → ∀ x ∈ o.client.sessionId, _ ∧ (_ → _ → _)))

/-- The client's record of the session that is held. -/
structure Records (o : SessionHistory) : Prop where
  past : ∀ refresh ∈ o.client.lastSessionIdRefresh, refresh ≤ o.client.now
  confirmed : ∀ x ∈ o.client.sessionId, ∃ time ∈ o.confirmedAt.get? x, time ≤ o.client.now ∧
    ∀ refresh ∈ o.client.lastSessionIdRefresh, refresh ≤ time

namespace Records

theorem step (h : Records o) (hstep : o.step action = some o') : Records o' := by
  obtain ⟨t, ht, rfl⟩ := Option.map_eq_some_iff.mp hstep
  obtain ⟨-, hnow, hsettles, -⟩ := moves ht
  generalize o.client.confirmed action = x? at hsettles ⊢
  cases hsettles with
  | kept hheld hrefresh =>
    constructor
    · intro refresh hmem
      exact Nat.le_trans (h.past refresh (hrefresh ▸ hmem)) hnow
    · intro x hx
      obtain ⟨time, htime, hle, hrecent⟩ := h.confirmed x (hheld ▸ hx)
      exact ⟨time, htime, Nat.le_trans hle hnow, hrefresh ▸ hrecent⟩
  | dropped hnone hrefresh =>
    constructor
    · intro refresh hmem
      rcases hrefresh with hrefresh | hrefresh
      · exact Nat.le_trans (h.past refresh (hrefresh ▸ hmem)) hnow
      · cases hrefresh.symm.trans hmem
        exact hnow
    · intro x hx
      cases hnone.symm.trans hx
  | confirmed hheld hrefresh =>
    have hpast : ∀ refresh ∈ t.lastSessionIdRefresh, refresh ≤ o.client.now := by
      intro refresh hmem
      rcases hrefresh with hrefresh | hrefresh
      · exact h.past refresh (hrefresh ▸ hmem)
      · cases hrefresh.symm.trans hmem
        exact Nat.le_refl _
    refine ⟨fun refresh hmem => Nat.le_trans (hpast refresh hmem) hnow, fun x hx => ?_⟩
    cases hheld.symm.trans hx
    exact ⟨o.client.now, Dict.get?_set_self .., hnow, hpast⟩

theorem init : Records {} where
  past _ hmem := nomatch hmem
  confirmed _ hx := nomatch hx

/-- What the check of the client says is true. -/
theorem fresh_of_isFresh (h : Records o) (hwraps : ¬ o.Wraps) (hheld : o.client.sessionId = some x)
    (hfresh : o.client.isFresh = true) : o.Fresh x := by
  obtain ⟨time, htime, hle, hrecent⟩ := h.confirmed x hheld
  obtain ⟨refresh, hrefresh, hage⟩ := (Option.any_eq_true _ _).mp (Bool.and_eq_true_iff.mp hfresh).2
  have hage := of_decide_eq_true hage
  have hday : (o.client.now - refresh) / second < 86400 :=
    Nat.not_le.mp fun hday => hwraps ⟨refresh, hrefresh, hday, hage⟩
  rw [Nat.mod_eq_of_lt hday, Nat.div_lt_iff_lt_mul (by decide)] at hage
  have hrecent := hrecent refresh hrefresh
  exact ⟨time, htime, hle, by omega⟩

/-- The check of the client says what is true. -/
theorem isFresh_of_fresh (hheld : o.client.sessionId = some x)
    (hrecorded : o.client.lastSessionIdRefresh = o.confirmedAt.get? x) (hfresh : o.Fresh x) :
    o.client.isFresh = true := by
  obtain ⟨time, htime, hle, hage⟩ := hfresh
  refine Bool.and_eq_true_iff.mpr ⟨by rw [hheld]; rfl, (Option.any_eq_true _ _).mpr ⟨time, ?_, ?_⟩⟩
  · exact hrecorded.trans htime
  · have hage : (o.client.now - time) / second < jsonSessionAge :=
      (Nat.div_lt_iff_lt_mul (by decide)).mpr (by omega)
    exact decide_eq_true (Nat.lt_of_le_of_lt (Nat.mod_le _ _) hage)

end Records

theorem reach_records {ok : SessionHistory → Action → Prop} (h : system.Reach ok o) : Records o :=
  h.invariant .init fun _ _ _ hs _ hstep => hs.step hstep

theorem client_step (hstep : o.step action = some o') :
    o.client.step action = some o'.client := by
  obtain ⟨t, ht, rfl⟩ := Option.map_eq_some_iff.mp hstep
  exact ht

/-- A check takes no time and confirms nothing. -/
theorem fresh_of_looks (hlooks : o.client.looks action = true) (hstep : o.step action = some o') :
    o'.Fresh x ↔ o.Fresh x := by
  obtain ⟨t, ht, rfl⟩ := Option.map_eq_some_iff.mp hstep
  have hnow : t.now = o.client.now := (moves ht).now fun _ hwait => by
    rw [hwait] at hlooks
    cases hlooks
  rw [confirmed_of_looks hlooks]
  unfold Fresh
  rw [hnow]

/-- What the CCU has confirmed right now is fresh. -/
theorem fresh_of_confirmed (hconfirmed : o.client.confirmed action = some x)
    (hstep : o.step action = some o') : o'.Fresh x := by
  obtain ⟨t, ht, rfl⟩ := Option.map_eq_some_iff.mp hstep
  have hnow : t.now = o.client.now := (moves ht).now fun _ hwait => by
    rw [hwait] at hconfirmed
    cases hconfirmed
  rw [hconfirmed]
  refine ⟨o.client.now, Dict.get?_set_self .., Nat.le_of_eq hnow.symm, ?_⟩
  show t.now < o.client.now + _
  rw [hnow]
  exact Nat.lt_add_of_pos_right (by decide)

/-- **Session freshness**: in runs whose checks find what was recorded, the kept session that a
check gives to a request was obtained or renewed less than `JSON_SESSION_AGE` seconds ago, and a
renewal is sent only of a session that was not. -/
theorem session_freshness (hreach : system.Reach Recorded o) (hok : Recorded o action)
    (hstep : o.step action = some o') :
    (∀ x, Checks x o.client o'.client → o'.Fresh x) ∧
      ∀ x, Renews x o.client o'.client → ¬ o'.Fresh x := by
  have hrecords := reach_records hreach
  constructor
  · intro x hchecks
    rcases hchecks.cases (client_step hstep) with ⟨hlooks, hfresh, hheld⟩ | hconfirmed
    · have hfresh := hrecords.fresh_of_isFresh (hok hlooks x hheld).1 hheld hfresh
      exact (fresh_of_looks hlooks hstep).mpr hfresh
    · exact fresh_of_confirmed hconfirmed hstep
  · intro x hrenews hfresh
    obtain ⟨hacquire, hstale, hheld⟩ := (moves (client_step hstep)).renews x hrenews
    have hlooks : o.client.looks action = true := looks_of_isAcquire hacquire
    have hfresh := (fresh_of_looks hlooks hstep).mp hfresh
    have hrecorded := (hok hlooks x hheld).2 hacquire hfresh
    exact Bool.noConfusion (hstale.symm.trans (Records.isFresh_of_fresh hheld hrecorded hfresh))

/-! ## A renewal, a long gap and a login after a failed renewal -/

/-- The first call logs in, asks for the supported methods and sends its request. -/
def sampleFirst : List Action :=
  [.post true, .acquire 0, .lockedAnswer (.result true), .answer 0 (.result true),
    .answer 0 (.result true)]

/-- The next call renews the session, whose age is 100 seconds. -/
def sampleRenewal : List Action :=
  sampleFirst ++
    [.wait (100 * second), .post true, .acquire 0, .lockedAnswer (.result true),
      .answer 0 (.result true), .wait (89 * second)]

theorem session_freshness_renewed :
    ∃ o o', system.replay Recorded system.init sampleRenewal = some o ∧
      o.step (.post true) = some o' ∧ Checks 0 o.client o'.client ∧ o'.Fresh 0 := by
  obtain ⟨o, ho, hsome, hok⟩ := StepSystem.replay_any
    (p := fun o => (o.step (.post true)).any (fun o' => Checks 0 o.client o'.client) ∧
      Recorded o (.post true))
    (show (system.replay Recorded system.init sampleRenewal).any _ = true by decide)
  obtain ⟨o', hstep, hchecks⟩ := (Option.any_eq_true _ _).mp hsome
  have hchecks := of_decide_eq_true hchecks
  have hfresh := (session_freshness (StepSystem.reach_of_replay ho) hok hstep).1 0 hchecks
  exact ⟨o, o', ho, hstep, hchecks, hfresh⟩

/-- A day and ten seconds later, the old session is used without a renewal. A login that follows a
failed renewal is not recorded, and the next call renews the new session at once. -/
theorem session_freshness_wrapped :
    (∃ o o', system.Reach StepSystem.Free o ∧ o.step (.post true) = some o' ∧
      Checks 0 o.client o'.client ∧ ¬ o'.Fresh 0) ∧
    ∃ o o', system.Reach StepSystem.Free o ∧ o.step (.acquire 0) = some o' ∧
      Renews 1 o.client o'.client ∧ o'.Fresh 1 := by
  constructor
  · have hrun : system.replay StepSystem.Free system.init
        (sampleFirst ++ [.wait (86410 * second)]) = some _ := rfl
    exact ⟨_, _, StepSystem.reach_of_replay hrun, rfl, by decide, by decide⟩
  · have hrun : system.replay StepSystem.Free system.init
        (sampleFirst ++ [.wait (100 * second), .post true, .acquire 0,
          .lockedAnswer (.result false), .lockedAnswer (.result true), .answer 0 (.result true),
          .post true]) = some _ := rfl
    exact ⟨_, _, StepSystem.reach_of_replay hrun, rfl, ⟨nofun, _, rfl⟩, by decide⟩

end SessionHistory

end AioHomematic.Client
