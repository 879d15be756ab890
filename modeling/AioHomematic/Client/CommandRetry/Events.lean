import AioHomematic.Client.CommandRetry
import AioHomematic.Lib.Numbered
import Mathlib.Order.Lattice
import Mathlib.Order.Nat

/-!
# Cancel events and registrations

A cancel event that is set stays set, and a registration only goes with its
event set, or when its own call ends (`Later`). `Advance` says what one stretch
of an execution does: it leaves the events alone, drops at most its own
registration, and starts another attempt only while its event is not set.
-/

namespace AioHomematic.Client

open Lib

namespace CommandRetryHandler

variable {h h' h'' : CommandRetryHandler}

/-- Every registered event exists. -/
def Bounded (h : CommandRetryHandler) : Prop :=
  ∀ dpk event, h.activeRetries.get? dpk = some event → event < h.cancelEvents.length

/-- `h'` is `h` later on, but for a registration of the event `own`. -/
structure Later (own : Option Nat) (h h' : CommandRetryHandler) : Prop where
  length : h.cancelEvents.length ≤ h'.cancelEvents.length
  isSet : ∀ event, h.isSet event → h'.isSet event
  kept : ∀ dpk event, h.activeRetries.get? dpk = some event → own ≠ some event →
    h'.activeRetries.get? dpk = some event ∨ h'.isSet event

theorem Later.refl (own : Option Nat) (h : CommandRetryHandler) : Later own h h :=
  ⟨le_rfl, fun _ => id, fun _ _ hget _ => .inl hget⟩

theorem Later.trans (h₁ : Later none h h') (h₂ : Later none h' h'') : Later none h h'' := by
  refine ⟨h₁.length.trans h₂.length, fun event => h₂.isSet event ∘ h₁.isSet event, ?_⟩
  intro dpk event hget hown
  rcases h₁.kept dpk event hget hown with hget | hset
  · exact h₂.kept dpk event hget hown
  · exact .inr (h₂.isSet event hset)

theorem isSet_set {events : List Bool} {event event' : Nat} (hlt : event < events.length) :
    (events.set event true)[event']? = some true ↔
      event' = event ∨ events[event']? = some true := by
  rw [List.getElem?_set]
  by_cases heq : event = event'
  · subst heq; simp [hlt]
  · simp [heq, Ne.symm heq]

theorem cancelRetryForDpk_bounded (hb : Bounded h) (dpk : DataPointKey) :
    Bounded (h.cancelRetryForDpk dpk) := by
  unfold cancelRetryForDpk
  split
  · intro dpk' event' hget
    dsimp only at hget
    rw [Dict.get?_erase] at hget
    split at hget
    · cases hget
    · simpa [cancelEvent] using hb dpk' event' hget
  · exact hb

theorem cancelRetryForDpk_later (hb : Bounded h) (dpk : DataPointKey) :
    Later none h (h.cancelRetryForDpk dpk) := by
  unfold cancelRetryForDpk
  split
  · rename_i event hreg
    have hset (event' : Nat) : (h.cancelEvent event).isSet event' ↔ event' = event ∨ h.isSet event' :=
      isSet_set (hb dpk event hreg)
    refine ⟨by simp [cancelEvent], fun event' hev => (hset event').mpr (.inr hev), ?_⟩
    intro dpk' event' hget _
    dsimp only
    rw [Dict.get?_erase]
    split
    · subst_vars
      rw [hreg] at hget
      cases hget
      exact .inr ((hset event).mpr (.inl rfl))
    · exact .inl hget
  · exact .refl none h

theorem cancelRetryForDpk_isSet (hb : Bounded h) {dpk : DataPointKey} {event : Nat}
    (hreg : h.activeRetries.get? dpk = some event) : (h.cancelRetryForDpk dpk).isSet event := by
  have hlt := hb dpk event hreg
  unfold cancelRetryForDpk
  rw [hreg]
  exact (isSet_set hlt).mpr (.inl rfl)

/-- Cancelling a list of keys. -/
theorem foldl_cancel (hb : Bounded h) (keys : List DataPointKey) :
    Bounded (keys.foldl cancelRetryForDpk h) ∧ Later none h (keys.foldl cancelRetryForDpk h) ∧
      ∀ dpk ∈ keys, ∀ event, h.activeRetries.get? dpk = some event →
        (keys.foldl cancelRetryForDpk h).isSet event := by
  induction keys generalizing h with
  | nil => exact ⟨hb, .refl none h, fun _ hmem => by cases hmem⟩
  | cons key keys ih =>
    have hlater := cancelRetryForDpk_later hb key
    obtain ⟨hb', hlater', hall⟩ := ih (cancelRetryForDpk_bounded hb key)
    refine ⟨hb', hlater.trans hlater', fun dpk hmem event hget => ?_⟩
    rcases List.mem_cons.mp hmem with rfl | hmem
    · exact hlater'.isSet event (cancelRetryForDpk_isSet hb hget)
    · rcases hlater.kept dpk event hget (by simp) with hget | hset
      · exact hall dpk hmem event hget
      · exact hlater'.isSet event hset

/-- Cancelling a list of addresses; the event of every call on one of them is set. -/
theorem foldl_cancelDevice (hb : Bounded h) (addresses : List String) :
    Bounded (addresses.foldl cancelRetriesForDevice h) ∧
      Later none h (addresses.foldl cancelRetriesForDevice h) ∧
      ∀ dpk event, dpk.channelAddress ∈ addresses → h.activeRetries.get? dpk = some event →
        (addresses.foldl cancelRetriesForDevice h).isSet event := by
  induction addresses generalizing h with
  | nil => exact ⟨hb, .refl none h, fun _ _ hmem => by cases hmem⟩
  | cons address addresses ih =>
    obtain ⟨hb₁, hlater₁, hall₁⟩ := foldl_cancel hb (h.retriesForDevice address)
    obtain ⟨hb₂, hlater₂, hall₂⟩ := ih hb₁
    refine ⟨hb₂, hlater₁.trans hlater₂, fun dpk event hmem hget => ?_⟩
    rcases List.mem_cons.mp hmem with heq | hmem
    · refine hlater₂.isSet event (hall₁ dpk (List.mem_filter.mpr ⟨?_, by simp [heq]⟩) event hget)
      exact Dict.mem_keys.mpr ⟨event, hget⟩
    · rcases hlater₁.kept dpk event hget (by simp) with hget | hset
      · exact hall₂ dpk event hmem hget
      · exact hlater₂.isSet event hset

/-- A new registration: its event is new and not set, and the one it supersedes is set. -/
theorem registerRetry_spec (hb : Bounded h) (dpk : DataPointKey) :
    (registerRetry dpk h).1 = h.cancelEvents.length ∧
      (registerRetry dpk h).2.cancelEvents.length = h.cancelEvents.length + 1 ∧
      (registerRetry dpk h).2.activeRetries = h.activeRetries.set dpk h.cancelEvents.length ∧
      Bounded (registerRetry dpk h).2 ∧ Later none h (registerRetry dpk h).2 ∧
      ∀ event, h.activeRetries.get? dpk = some event → (registerRetry dpk h).2.isSet event := by
  have hget (dpk' : DataPointKey) (event' : Nat)
      (hreg : (h.activeRetries.set dpk h.cancelEvents.length).get? dpk' = some event') :
      event' ≤ h.cancelEvents.length := by
    rw [Dict.get?_set] at hreg
    split at hreg
    · cases hreg; exact le_rfl
    · exact (hb dpk' event' hreg).le
  unfold registerRetry
  cases hreg : h.activeRetries.get? dpk with
  | none =>
    dsimp only
    refine ⟨rfl, by simp, rfl, fun dpk' event' hr => ?_,
      ⟨by simp, fun _ hev => getElem?_concat_of_some hev _, ?_⟩, ?_⟩
    · simpa [Nat.lt_succ_iff] using hget dpk' event' hr
    · intro dpk' event' hr _
      dsimp only
      rw [Dict.get?_set_of_ne _ _ (by rintro rfl; simp [hreg] at hr)]
      exact .inl hr
    · intro event hev; cases hev
  | some existing =>
    have hset (event' : Nat) : (h.cancelEvents.set existing true)[event']? = some true ↔
        event' = existing ∨ h.isSet event' := isSet_set (hb dpk existing hreg)
    dsimp only [cancelEvent]
    rw [List.length_set]
    refine ⟨rfl, by simp, rfl, fun dpk' event' hr => ?_, ⟨by simp, fun event' hev => ?_, ?_⟩, ?_⟩
    · simpa [Nat.lt_succ_iff] using hget dpk' event' hr
    · exact getElem?_concat_of_some ((hset event').mpr (.inr hev)) _
    · intro dpk' event' hr _
      dsimp only
      by_cases heq : dpk = dpk'
      · subst heq
        rw [hreg] at hr
        cases hr
        exact .inr (getElem?_concat_of_some ((hset existing).mpr (.inl rfl)) _)
      · rw [Dict.get?_set_of_ne _ _ heq]
        exact .inl hr
    · intro event hev
      cases hev
      exact getElem?_concat_of_some ((hset existing).mpr (.inl rfl)) _

end CommandRetryHandler

/-! ## Executions -/

namespace Execution

open CommandRetryHandler

variable {e : Execution} {h h' : CommandRetryHandler} {r : Execution × CommandRetryHandler}

def Finished (e : Execution) : Prop := ∃ outcome, e.phase = .finished outcome

/-- What a stretch of the execution `e` does. -/
structure Advance (e : Execution) (h : CommandRetryHandler)
    (r : Execution × CommandRetryHandler) : Prop where
  dpk : r.1.dpk = e.dpk
  event : r.1.event = e.event
  events : r.2.cancelEvents = h.cancelEvents
  registrations : r.2.activeRetries = h.activeRetries ∨
    r.1.Finished ∧ ∃ event, e.event = some event ∧ h.activeRetries.get? e.dpk = some event ∧
      r.2.activeRetries = h.activeRetries.erase e.dpk
  attempt : r.1.attempt = e.attempt ∨
    ∃ event, e.event = some event ∧ ¬ h.isSet event ∧ r.1.attempt = e.attempt + 1

theorem finish_advance (outcome : Except PyException Unit) (hevents : h'.cancelEvents = h.cancelEvents)
    (hactive : h'.activeRetries = h.activeRetries) : Advance e h (e.finish outcome h') := by
  unfold finish
  refine ⟨rfl, rfl, ?_, ?_, .inl rfl⟩
  · dsimp only
    cases e.event with
    | none => exact hevents
    | some event =>
      dsimp only [unregister]
      split <;> exact hevents
  · dsimp only
    cases hev : e.event with
    | none => exact .inl hactive
    | some event =>
      dsimp only [unregister]
      split
      · rename_i hreg
        rw [hactive] at hreg ⊢
        exact .inr ⟨⟨outcome, rfl⟩, event, rfl, hreg, rfl⟩
      · exact .inl hactive

theorem nextAttempt_advance : Advance e h (e.nextAttempt h) := by
  unfold nextAttempt
  cases hev : e.event with
  | none => exact ⟨rfl, rfl, rfl, .inl rfl, .inl rfl⟩
  | some event =>
    dsimp only
    split
    · exact finish_advance _ rfl rfl
    · exact ⟨rfl, hev.symm, rfl, .inl rfl, .inr ⟨event, hev, ‹_›, rfl⟩⟩

theorem operationEnded_advance {maxAttempts : Int} {outcome : Except PyException Unit} :
    Advance e h (e.operationEnded maxAttempts outcome h) := by
  unfold operationEnded
  split
  · exact finish_advance _ rfl rfl
  · split
    · exact finish_advance _ rfl rfl
    · exact finish_advance _ rfl rfl
  · split
    · exact finish_advance _ rfl rfl
    · split
      · exact finish_advance _ rfl rfl
      · dsimp only
        split <;> exact ⟨rfl, rfl, rfl, .inl rfl, .inl rfl⟩

theorem recoveryEnded_advance {recovered : Bool} {exc : PyException} :
    Advance e h (e.recoveryEnded recovered exc h) := by
  unfold recoveryEnded
  split
  · split
    · exact nextAttempt_advance
    · exact finish_advance _ rfl rfl
  · exact ⟨rfl, rfl, rfl, .inl rfl, .inl rfl⟩

theorem cancelled_advance : Advance e h (e.cancelled h) := finish_advance _ rfl rfl

end Execution

end AioHomematic.Client
