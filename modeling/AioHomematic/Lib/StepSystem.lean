import Mathlib.Algebra.GroupWithZero.Nat
import Mathlib.Logic.Basic

/-!
# Runs of a guarded step function

A `StepSystem` is a state with a guarded, executable step: `step s a` is
`none` where the action `a` is not enabled in `s`. `Steps ok s as t` says that
the actions `as` lead from `s` to `t` and that each of them meets `ok` in the
state before it; `ok` is the condition a result puts on its runs (`Free` for
none at all). `replay` computes a run. The rules:

* `Steps.invariant`: what one step keeps, a run keeps;
* `Steps.history`: the same for a state and the actions that have led to it;
* `Steps.amortized`: what the steps of a run cost is paid by a potential and by what they bring;
* `steps_of_replay`: a computed run is a run.
-/

namespace AioHomematic.Lib

structure StepSystem (σ α : Type*) where
  init : σ
  step : σ → α → Option σ

namespace StepSystem

variable {σ α : Type*} {S : StepSystem σ α} {ok ok' : σ → α → Prop}

/-- No condition on the steps of a run. -/
def Free : σ → α → Prop := fun _ _ => True

instance : DecidableRel (Free : σ → α → Prop) := fun _ _ => .isTrue trivial

variable (S) in
inductive Steps (ok : σ → α → Prop) : σ → List α → σ → Prop where
  | nil (s : σ) : Steps ok s [] s
  | cons {s t u : σ} {a : α} {as : List α} : ok s a → S.step s a = some t → Steps ok t as u →
      Steps ok s (a :: as) u

variable (S) in
/-- `t` is reached from the initial state by steps that meet `ok`. -/
def Reach (ok : σ → α → Prop) (t : σ) : Prop := ∃ as, S.Steps ok S.init as t

namespace Steps

theorem trans {s t u : σ} {as bs : List α} (h₁ : S.Steps ok s as t) (h₂ : S.Steps ok t bs u) :
    S.Steps ok s (as ++ bs) u := by
  induction h₁ with
  | nil => exact h₂
  | cons ho hs _ ih => exact .cons ho hs (ih h₂)

theorem single {s t : σ} {a : α} (ho : ok s a) (hs : S.step s a = some t) : S.Steps ok s [a] t :=
  .cons ho hs (.nil t)

theorem snoc {s t u : σ} {a : α} {as : List α} (h : S.Steps ok s as t) (ho : ok t a)
    (hs : S.step t a = some u) : S.Steps ok s (as ++ [a]) u :=
  h.trans (single ho hs)

theorem mono (hok : ∀ s a, ok s a → ok' s a) {s t : σ} {as : List α} (h : S.Steps ok s as t) :
    S.Steps ok' s as t := by
  induction h with
  | nil => exact .nil _
  | cons ho hs _ ih => exact .cons (hok _ _ ho) hs ih

theorem free {s t : σ} {as : List α} (h : S.Steps ok s as t) : S.Steps Free s as t :=
  h.mono fun _ _ _ => trivial

/-- What every step keeps, a run keeps. -/
theorem invariant {P : σ → Prop} (hP : ∀ s a t, P s → ok s a → S.step s a = some t → P t)
    {s t : σ} {as : List α} (h : S.Steps ok s as t) (h0 : P s) : P t := by
  induction h with
  | nil => exact h0
  | cons ho hs _ ih => exact ih (hP _ _ _ h0 ho hs)

/-- `mono` for a condition that follows from an invariant of the run. -/
theorem mono_of_invariant {P : σ → Prop}
    (hP : ∀ s a t, P s → ok s a → S.step s a = some t → P t)
    (hok : ∀ s a t, P s → ok s a → S.step s a = some t → ok' s a)
    {s t : σ} {as : List α} (h : S.Steps ok s as t) (h0 : P s) : S.Steps ok' s as t := by
  induction h with
  | nil => exact .nil _
  | cons ho hs _ ih => exact .cons (hok _ _ _ h0 ho hs) hs (ih (hP _ _ _ h0 ho hs))

/-- `invariant` for what relates a state to the actions that have led to it. -/
theorem history {P : List α → σ → Prop}
    (hP : ∀ as s a t, P as s → ok s a → S.step s a = some t → P (as ++ [a]) t)
    {before as : List α} {s t : σ} (h : S.Steps ok s as t) (h0 : P before s) :
    P (before ++ as) t := by
  induction h generalizing before with
  | nil => rwa [List.append_nil]
  | cons ho hs _ ih =>
    rw [List.append_cons]
    exact ih (hP _ _ _ _ h0 ho hs)

/-- Where each step pays its cost from a potential and from what it brings, so does a run. -/
theorem amortized {P : σ → Prop} {potential : σ → Nat} {cost income : α → Nat}
    (hP : ∀ s a t, P s → ok s a → S.step s a = some t → P t)
    (hpays : ∀ s a t, P s → ok s a → S.step s a = some t →
      potential t + cost a ≤ potential s + income a)
    {s t : σ} {as : List α} (h : S.Steps ok s as t) (h0 : P s) :
    potential t + (as.map cost).sum ≤ potential s + (as.map income).sum := by
  induction h with
  | nil => exact Nat.le_refl _
  | cons ho hs _ ih =>
    have hstep := hpays _ _ _ h0 ho hs
    have hrest := ih (hP _ _ _ h0 ho hs)
    rw [List.map_cons, List.map_cons, List.sum_cons, List.sum_cons]
    omega

end Steps

theorem Reach.init : S.Reach ok S.init := ⟨[], .nil _⟩

theorem Reach.step {s t : σ} {a : α} (h : S.Reach ok s) (ho : ok s a) (hs : S.step s a = some t) :
    S.Reach ok t := by
  obtain ⟨as, h⟩ := h
  exact ⟨as ++ [a], h.snoc ho hs⟩

theorem Reach.steps {s t : σ} {as : List α} (h : S.Reach ok s) (hs : S.Steps ok s as t) :
    S.Reach ok t := by
  obtain ⟨bs, h⟩ := h
  exact ⟨bs ++ as, h.trans hs⟩

theorem Reach.invariant {P : σ → Prop} (h0 : P S.init)
    (hP : ∀ s a t, P s → ok s a → S.step s a = some t → P t) {t : σ} (h : S.Reach ok t) : P t := by
  obtain ⟨as, h⟩ := h
  exact h.invariant hP h0

/-! ## Computed runs -/

variable (S) in
/-- Replay `as` from `s`; `none` as soon as an action is not enabled or does not meet `ok`. -/
def replay (ok : σ → α → Prop) [DecidableRel ok] (s : σ) : List α → Option σ
  | [] => some s
  | a :: as => if ok s a then (S.step s a).bind fun t => replay ok t as else none

theorem steps_of_replay [DecidableRel ok] {s t : σ} {as : List α}
    (h : S.replay ok s as = some t) : S.Steps ok s as t := by
  induction as generalizing s with
  | nil => cases h; exact .nil _
  | cons a as ih =>
    simp only [replay] at h
    split at h
    · obtain ⟨u, hu, h'⟩ := Option.bind_eq_some_iff.mp h
      exact .cons ‹_› hu (ih h')
    · cases h

theorem reach_of_replay [DecidableRel ok] {t : σ} {as : List α}
    (h : S.replay ok S.init as = some t) : S.Reach ok t :=
  ⟨as, steps_of_replay h⟩

/-- The end of a computed run meets a test that was evaluated on it. -/
theorem replay_any [DecidableRel ok] {s : σ} {as : List α} {p : σ → Prop} [DecidablePred p]
    (h : (S.replay ok s as).any (p ·) = true) : ∃ t, S.replay ok s as = some t ∧ p t := by
  obtain ⟨t, ht, hp⟩ := (Option.any_eq_true _ _).mp h
  exact ⟨t, ht, of_decide_eq_true hp⟩

end StepSystem

end AioHomematic.Lib
