import AioHomematic.Client.RequestCoalescer.Pending

/-!
# The completion of requests

What a leader and its future say of each other (`Agrees`) and what the waiters
of a future have ended with (`Settled`), without a `clear()` under an executing
leader: the leader finds its future pending or, where the task of a waiter was
cancelled, cancelled. In the first case it completes the future with what its
executor has ended with, unless that is a `CancelledError`.
-/

namespace AioHomematic.Client.RequestCoalescer

open Lib ExecuteResult

variable {V : Type*} {s t : RequestCoalescer V} {a : Action V} {i j f : Nat} {key : String}
  {c d : ExecuteCall V} {outcome : Except PyException V} {x : Future V PyException}

inductive Agrees (c : ExecuteCall V) : Future V PyException → Prop where
  | executing {x : Future V PyException} (hx : x = .pending ∨ x = .cancelled)
      (hexecutor : c.executor = none) (hresult : c.result = none) : Agrees c x
  | ended {x : Future V PyException} {outcome : Except PyException V}
      (hx : x = .pending ∨ x = .cancelled) (hexecutor : c.executor = some outcome)
      (hresult : c.result = some (complete x outcome).2) : Agrees c (complete x outcome).1

theorem Agrees.cancel (h : Agrees c x) : Agrees c x.cancel := by
  cases h with
  | executing hx hexecutor hresult =>
    refine .executing (.inr ?_) hexecutor hresult
    rcases hx with rfl | rfl <;> rfl
  | @ended x outcome hx hexecutor hresult =>
    have hcancelled : c.result = some (complete .cancelled outcome).2 →
        Agrees c (complete .cancelled outcome).1 := .ended (.inr rfl) hexecutor
    rcases hx with rfl | rfl
    · cases outcome with
      | ok value => exact .ended (.inl rfl) hexecutor hresult
      | error exc =>
        by_cases hexc : exc.cls.isException
        · have hdone := Agrees.ended (.inl rfl) hexecutor hresult
          simp only [complete, hexc, if_true] at hdone ⊢
          exact hdone
        · -- such an exception leaves the future as it is, pending or cancelled
          simp only [complete, hexc] at hresult hcancelled ⊢
          exact hcancelled hresult
    · rw [Future.cancel_of_done]
      · exact hcancelled hresult
      · rw [complete_cancelled]
        rfl

/-- The leader has answered with what its executor has ended with, or nobody has. -/
theorem Agrees.cases (h : Agrees c x) :
    (∃ outcome, c.executor = some outcome ∧ c.result = some (ofOutcome outcome) ∧
      ofFuture x = some (ofOutcome outcome)) ∨
    (x = .pending ∨ x = .cancelled) ∧ ∀ r, c.result = some r → r.fails = true := by
  cases h with
  | executing hx hexecutor hresult =>
    refine .inr ⟨hx, fun r hr => ?_⟩
    rw [hresult] at hr
    cases hr
  | @ended x outcome hx hexecutor hresult =>
    cases outcome with
    | ok value =>
      rcases hx with rfl | rfl
      · exact .inl ⟨_, hexecutor, hresult, rfl⟩
      · refine .inr ⟨.inr rfl, fun r hr => ?_⟩
        rw [hresult] at hr
        cases hr
        rfl
    | error exc =>
      by_cases hexc : exc.cls.isException
      · simp only [complete, hexc, if_true] at hresult ⊢
        rcases hx with rfl | rfl
        · exact .inl ⟨_, hexecutor, hresult, rfl⟩
        · refine .inr ⟨.inr rfl, fun r hr => ?_⟩
          rw [hresult] at hr
          cases hr
          rfl
      · simp only [complete, hexc] at hresult ⊢
        refine .inr ⟨hx, fun r hr => ?_⟩
        rw [hresult] at hr
        cases hr
        rfl

structure Settled (s : RequestCoalescer V) : Prop where
  leader : ∀ (i : Nat) (c : ExecuteCall V) (x : Future V PyException), s.calls[i]? = some c →
    c.leads = true → s.futures[c.future]? = some x → Agrees c x
  waiter : ∀ (j : Nat) (c : ExecuteCall V) (r : ExecuteResult V), s.calls[j]? = some c →
    c.leads = false → c.cancelled = false → c.result = some r →
    (s.futures[c.future]?).bind ofFuture = some r

namespace Settled

theorem execute (h : Settled s) (hs : Consistent s) (key : String) : Settled (s.execute key) := by
  unfold RequestCoalescer.execute
  dsimp only
  cases hget : s.pending.get? key with
  | some request =>
    refine ⟨fun i c x hc hleads hx => ?_, fun j c r hc hwaits hcancelled hr => ?_⟩
    · rcases getElem?_concat_cases hc with hc | ⟨-, rfl⟩
      · exact h.leader i c x hc hleads hx
      · cases hleads
    · rcases getElem?_concat_cases hc with hc | ⟨-, rfl⟩
      · exact h.waiter j c r hc hwaits hcancelled hr
      · exact hr
  | none =>
    have hold {i : Nat} {c : ExecuteCall V} (hc : s.calls[i]? = some c) :
        (s.futures ++ [Future.pending])[c.future]? = s.futures[c.future]? :=
      List.getElem?_append_left (hs.bounded i c hc)
    refine ⟨fun i c x hc hleads hx => ?_, fun j c r hc hwaits hcancelled hr => ?_⟩
    · rcases getElem?_concat_cases hc with hc | ⟨-, rfl⟩
      · exact h.leader i c x hc hleads (hold hc ▸ hx)
      · rw [List.getElem?_concat_length] at hx
        cases hx
        exact .executing (.inl rfl) rfl rfl
    · rcases getElem?_concat_cases hc with hc | ⟨-, rfl⟩
      · dsimp only
        rw [hold hc]
        exact h.waiter j c r hc hwaits hcancelled hr
      · cases hwaits

/-- The leader that ends was executing on a future that is pending or cancelled. -/
theorem executor_open (h : Settled s) (hc : s.unfinished i true = some c)
    (hx : s.futures[c.future]? = some x) : (x = .pending ∨ x = .cancelled) ∧ c.executor = none := by
  obtain ⟨hc, hleads, hnone⟩ := unfinished_eq_some.mp hc
  cases h.leader i c x hc hleads hx with
  | executing hx hexecutor _ => exact ⟨hx, hexecutor⟩
  | ended _ _ hresult =>
    rw [hnone] at hresult
    cases hresult

theorem executorEnded (h : Settled s) (hs : Consistent s) (hregistered : Registered s)
    (hc : s.unfinished i true = some c) : Settled (s.executorEnded i c outcome) := by
  obtain ⟨x, hx⟩ := hs.future (unfinished_eq_some.mp hc).1
  obtain ⟨hopen, hexecutor⟩ := h.executor_open hc hx
  obtain ⟨hc, hleads, hnone⟩ := unfinished_eq_some.mp hc
  have hcontains : s.pending.contains c.key = true := by
    obtain ⟨request, hget, -⟩ := hregistered i c.key c.future ⟨c, hc, hleads, hnone, rfl, rfl⟩
    rw [Dict.contains_iff, hget]
    nofun
  unfold RequestCoalescer.executorEnded
  rw [hx, Option.getD_some]
  dsimp only
  rw [if_pos hcontains]
  refine ⟨fun j d y hd hdl hy => ?_, fun j d r hd hdw hcancelled hr => ?_⟩
  · dsimp only at hy
    rcases getElem?_set_cases hd with ⟨-, rfl⟩ | ⟨hne, hd⟩
    · rw [getElem?_set_self_of_some hx] at hy
      cases hy
      exact .ended hopen rfl rfl
    · rw [getElem?_set_of_some hx, if_neg fun hf => hne (hs.unique i j c d hc hd hleads hdl hf)] at hy
      exact h.leader j d y hd hdl hy
  · dsimp only
    rcases getElem?_set_cases hd with ⟨-, rfl⟩ | ⟨-, hd⟩
    · rw [hleads] at hdw
      cases hdw
    · have hdr := h.waiter j d r hd hdw hcancelled hr
      rw [getElem?_set_of_some hx]
      split
      · rename_i hf
        rw [← hf, hx, Option.bind_some] at hdr
        -- the waiter has ended, so the future was done before
        have hdone : x ≠ .pending := by
          rintro rfl
          cases hdr
        rw [(complete_later x outcome).resolve_left hdone]
        exact hdr
      · exact hdr

theorem ofFuture_cancel {r : ExecuteResult V} (h : ofFuture x = some r) :
    ofFuture x.cancel = some r := by
  cases x with
  | pending => cases h
  | _ => exact h

/-- A waiter ends or is cancelled, or futures are cancelled. -/
theorem frame (h : Settled s)
    (hcalls : ∀ (i : Nat) (c : ExecuteCall V), t.calls[i]? = some c → s.calls[i]? = some c ∨
      c.leads = false ∧ (c.cancelled = true ∨ (s.futures[c.future]?).bind ofFuture = c.result))
    (hfutures : ∀ (f : Nat) (x : Future V PyException), s.futures[f]? = some x →
      ∃ y, t.futures[f]? = some y ∧ (y = x ∨ y = x.cancel))
    (hlength : t.futures.length = s.futures.length) : Settled t := by
  refine ⟨fun i c y hc hleads hy => ?_, fun j c r hc hwaits hcancelled hr => ?_⟩
  · rcases hcalls i c hc with hc | ⟨hwaits, -⟩
    · obtain ⟨x, hx⟩ : ∃ x, s.futures[c.future]? = some x := by
        have hlt := (List.getElem?_eq_some_iff.mp hy).1
        exact ⟨_, List.getElem?_eq_getElem (hlength ▸ hlt)⟩
      obtain ⟨y', hy', hcases⟩ := hfutures c.future x hx
      rw [hy] at hy'
      cases hy'
      have hagrees := h.leader i c x hc hleads hx
      rcases hcases with rfl | rfl
      · exact hagrees
      · exact hagrees.cancel
    · rw [hleads] at hwaits
      cases hwaits
  · have hresult : (s.futures[c.future]?).bind ofFuture = some r := by
      rcases hcalls j c hc with hc | ⟨-, htrue | hresult⟩
      · exact h.waiter j c r hc hwaits hcancelled hr
      · rw [hcancelled] at htrue
        cases htrue
      · rw [hresult, hr]
    obtain ⟨x, hx, hxr⟩ := Option.bind_eq_some_iff.mp hresult
    obtain ⟨y, hy, rfl | rfl⟩ := hfutures c.future x hx
    · rw [hy, Option.bind_some, hxr]
    · rw [hy, Option.bind_some, ofFuture_cancel hxr]

theorem step (h : Settled s) (hs : Consistent s) (hregistered : Registered s)
    (hstep : s.step a = some t) : Settled t := by
  cases a with
  | execute key =>
    cases hstep
    exact h.execute hs key
  | executorEnded i outcome =>
    obtain ⟨c, hc, rfl⟩ := Option.map_eq_some_iff.mp hstep
    exact h.executorEnded hs hregistered hc
  | resume i =>
    obtain ⟨c, hc, hresume⟩ := Option.bind_eq_some_iff.mp hstep
    obtain ⟨result, hresult, rfl⟩ := Option.map_eq_some_iff.mp hresume
    refine h.frame (fun j d hd => ?_) (fun f x hx => ⟨x, hx, .inl rfl⟩) rfl
    rcases getElem?_set_cases hd with ⟨-, rfl⟩ | ⟨-, hd⟩
    · exact .inr ⟨(unfinished_eq_some.mp hc).2.1, .inr hresult⟩
    · exact .inl hd
  | cancelWaiter i =>
    obtain ⟨c, hc, rfl⟩ := Option.map_eq_some_iff.mp hstep
    refine h.frame (fun j d hd => ?_) (fun f x hx => ?_) (List.length_modify _ _ _)
    · rcases getElem?_set_cases hd with ⟨-, rfl⟩ | ⟨-, hd⟩
      · exact .inr ⟨(unfinished_eq_some.mp hc).2.1, .inl rfl⟩
      · exact .inl hd
    · refine ⟨_, getElem?_modify_cancel hx c.future, ?_⟩
      split
      · exact .inr rfl
      · exact .inl rfl
  | clear =>
    cases hstep
    exact h.frame (fun i c hc => .inl hc) (fun f x hx => getElem?_cancelAll hx)
      (length_cancelAll _ _)

theorem init : Settled ({} : RequestCoalescer V) where
  leader i c x hc := by simp at hc
  waiter j c r hc := by simp at hc

end Settled

theorem reach_settled {ok : RequestCoalescer V → Action V → Prop}
    (hok : ∀ s a, ok s a → ClearsIdle s a) (h : system.Reach ok s) : Settled s := by
  have hinv : (Consistent s ∧ Registered s) ∧ Settled s :=
    h.invariant (P := fun s => (Consistent s ∧ Registered s) ∧ Settled s) ⟨⟨.init, .init⟩, .init⟩
      fun s a _ hs ho hstep => ⟨⟨hs.1.1.step hstep, hs.1.2.step hs.1.1 (hok s a ho) hstep⟩,
        hs.2.step hs.1.1 hs.1.2 hstep⟩
  exact hinv.2

end AioHomematic.Client.RequestCoalescer

/-!
## Cancelled waiters

`Task.cancel()` on the task of a waiter cancels the future that it waits for,
and that is the future of all: the leader fails to complete it, and the other
waiters end with the cancellation. A task that is cancelled when its future is
done harms nobody (`waiters_isolated`).
-/

namespace AioHomematic.Client.RequestCoalescer

open Lib ExecuteResult

variable {V : Type*} {s t : RequestCoalescer V} {a : Action V} {i j f : Nat} {key : String}
  {c d : ExecuteCall V} {outcome : Except PyException V} {x : Future V PyException}

/-- The task of a waiter is cancelled only when its future is done. -/
def Isolates (s : RequestCoalescer V) : Action V → Prop
  | .cancelWaiter j => ∀ c ∈ s.unfinished j false, s.waitsFor c.future = false
  | a => ClearsIdle s a

instance : DecidableRel (Isolates : RequestCoalescer V → Action V → Prop)
  | s, .cancelWaiter j =>
    inferInstanceAs (Decidable (∀ c ∈ s.unfinished j false, s.waitsFor c.future = false))
  | s, .clear => inferInstanceAs (Decidable (ClearsIdle s .clear))
  | _, .execute _ => .isTrue trivial
  | _, .executorEnded _ _ => .isTrue trivial
  | _, .resume _ => .isTrue trivial

theorem Isolates.clearsIdle (s : RequestCoalescer V) (a : Action V) (h : Isolates s a) :
    ClearsIdle s a := by
  cases a with
  | cancelWaiter j => exact trivial
  | _ => exact h

/-- `cancel()` on a future that is done, or is not there, changes nothing. -/
theorem modify_cancel {futures : List (Future V PyException)}
    (h : (futures[f]?).any Future.isPending = false) : futures.modify f Future.cancel = futures := by
  refine List.ext_getElem? fun g => ?_
  by_cases hfg : f = g
  · subst hfg
    rw [List.getElem?_modify_eq]
    cases hx : futures[f]? with
    | none => rfl
    | some x =>
      rw [hx] at h
      exact congrArg some (Future.cancel_of_done h)
  · exact List.getElem?_modify_ne _ _ hfg

/-- A map that is cleared while no leader is executing is empty. -/
theorem values_eq_nil (hs : Consistent s) (hok : ClearsIdle s .clear) : s.pending.values = [] := by
  refine List.eq_nil_iff_forall_not_mem.mpr fun request hrequest => ?_
  obtain ⟨⟨key, request⟩, hmem, rfl⟩ := List.mem_map.mp hrequest
  obtain ⟨i, c, hc, hleads, hnone, -⟩ := hs.entry key request (Dict.get?_eq_some.mpr hmem)
  have hsome := hok c (List.mem_of_getElem? hc) hleads
  rw [hnone] at hsome
  cases hsome

def Uncancelled (s : RequestCoalescer V) : Prop := ∀ f : Nat, s.futures[f]? ≠ some .cancelled

theorem complete_ne_cancelled (h : x ≠ .cancelled) : (complete x outcome).1 ≠ .cancelled := by
  rcases complete_later x outcome with rfl | hsame
  · intro hcancelled
    cases outcome with
    | ok value => cases hcancelled
    | error exc =>
      simp only [complete] at hcancelled
      split at hcancelled <;> cases hcancelled
  · rw [hsame]
    exact h

theorem Uncancelled.step (h : Uncancelled s) (hs : Consistent s) (hok : Isolates s a)
    (hstep : s.step a = some t) : Uncancelled t := by
  intro g hg
  cases a with
  | execute key =>
    cases hstep
    unfold execute at hg
    dsimp only at hg
    cases hget : s.pending.get? key with
    | some request =>
      rw [hget] at hg
      exact h g hg
    | none =>
      rw [hget] at hg
      rcases getElem?_concat_cases hg with hg | ⟨-, hpending⟩
      · exact h g hg
      · cases hpending
  | executorEnded i outcome =>
    obtain ⟨c, hc, rfl⟩ := Option.map_eq_some_iff.mp hstep
    rcases getElem?_set_cases hg with ⟨-, hcancelled⟩ | ⟨-, hg⟩
    · refine complete_ne_cancelled ?_ hcancelled.symm
      cases hx : s.futures[c.future]? with
      | none => nofun
      | some x =>
        rintro rfl
        exact h c.future hx
    · exact h g hg
  | resume i =>
    obtain ⟨c, -, hresume⟩ := Option.bind_eq_some_iff.mp hstep
    obtain ⟨result, -, rfl⟩ := Option.map_eq_some_iff.mp hresume
    exact h g hg
  | cancelWaiter i =>
    obtain ⟨c, hc, rfl⟩ := Option.map_eq_some_iff.mp hstep
    dsimp only [cancelWaiter] at hg
    rw [modify_cancel (hok c hc)] at hg
    exact h g hg
  | clear =>
    cases hstep
    dsimp only [clear] at hg
    rw [values_eq_nil hs hok] at hg
    exact h g hg

theorem reach_uncancelled (h : system.Reach Isolates s) : Uncancelled s := by
  have hinv : Consistent s ∧ Uncancelled s :=
    h.invariant (P := fun s => Consistent s ∧ Uncancelled s)
      ⟨.init, fun f hf => by simp [system] at hf⟩
      fun _ _ _ hs ho hstep => ⟨hs.1.step hstep, hs.2.step hs.1 ho hstep⟩
  exact hinv.2

/-- **Isolation of waiters**: in runs where tasks of waiters are cancelled only when their future
is done, a leader ends as its executor has, every other waiter ends as its leader does, and
cancelling the task of a waiter changes nothing but that call. -/
theorem waiters_isolated (hreach : system.Reach Isolates s) :
    (∀ (i : Nat) (c : ExecuteCall V) (r : ExecuteResult V), s.calls[i]? = some c →
      c.leads = true → c.result = some r →
      ∃ outcome, c.executor = some outcome ∧ r = ofOutcome outcome) ∧
    (∀ (j : Nat) (c : ExecuteCall V) (r : ExecuteResult V), s.calls[j]? = some c →
      c.leads = false → c.cancelled = false → c.result = some r →
      ∃ (i : Nat) (d : ExecuteCall V), s.calls[i]? = some d ∧ d.leads = true ∧ d.key = c.key ∧
        d.future = c.future ∧ d.result = some r) ∧
    ∀ j t, Isolates s (.cancelWaiter j) → s.step (.cancelWaiter j) = some t →
      t.futures = s.futures ∧ t.pending = s.pending ∧ ∀ k, k ≠ j → t.calls[k]? = s.calls[k]? := by
  have hs := reach_consistent hreach
  have hsettled := reach_settled Isolates.clearsIdle hreach
  have huncancelled := reach_uncancelled hreach
  refine ⟨fun i c r hc hleads hr => ?_, fun j c r hc hwaits hcancelled hr => ?_,
    fun j t hok hstep => ?_⟩
  · obtain ⟨x, hx⟩ := hs.future hc
    cases hsettled.leader i c x hc hleads hx with
    | executing _ _ hnone =>
      rw [hr] at hnone
      cases hnone
    | @ended x outcome hopen hexecutor hresult =>
      refine ⟨outcome, hexecutor, ?_⟩
      rw [hr] at hresult
      cases hresult
      rcases hopen with rfl | rfl
      · cases outcome with
        | ok value => rfl
        | error exc =>
          simp only [complete]
          split <;> rfl
      · rw [complete_cancelled] at hx
        exact absurd hx (huncancelled c.future)
  · obtain ⟨x, hx, hxr⟩ := Option.bind_eq_some_iff.mp
      (hsettled.waiter j c r hc hwaits hcancelled hr)
    obtain ⟨i, d, hd, hleads, hkey, hfuture⟩ := hs.leader j c hc
    refine ⟨i, d, hd, hleads, hkey, hfuture, ?_⟩
    rcases (hsettled.leader i d x hd hleads (hfuture ▸ hx)).cases with
      ⟨outcome, -, hresult, hox⟩ | ⟨rfl | rfl, -⟩
    · rw [hresult, ← hox, hxr]
    · cases hxr
    · exact absurd hx (huncancelled c.future)
  · obtain ⟨c, hc, rfl⟩ := Option.map_eq_some_iff.mp hstep
    exact ⟨modify_cancel (hok c hc), rfl, fun k hk => List.getElem?_set_ne hk.symm⟩

/-- The condition is needed: where the task of a waiter is cancelled under its leader, the leader
fails, whatever its executor ends with but a `CancelledError`, if nothing else happens before. -/
theorem invalidStateError_of_cancelWaiter (hregistered : Registered s)
    (hd : s.unfinished j false = some d) (hpending : s.waitsFor d.future = true)
    (hc : s.unfinished i true = some c) (hf : c.future = d.future)
    (houtcome : ∀ exc, outcome = .error exc → exc.cls.isException = true) :
    ∃ t, (s.cancelWaiter j d).step (.executorEnded i outcome) = some t ∧
      (t.calls[i]?).bind ExecuteCall.result = some .invalidStateError := by
  obtain ⟨hci, hleads, hnone⟩ := unfinished_eq_some.mp hc
  obtain ⟨hdj, hwaits, -⟩ := unfinished_eq_some.mp hd
  have hne : j ≠ i := by
    rintro rfl
    rw [hci] at hdj
    cases hdj
    rw [hleads] at hwaits
    cases hwaits
  have hci' : (s.cancelWaiter j d).calls[i]? = some c := (List.getElem?_set_ne hne).trans hci
  obtain ⟨x, hx, hxp⟩ := (Option.any_eq_true _ _).mp hpending
  obtain rfl := Future.isPending_iff.mp hxp
  have hcancelled : (s.cancelWaiter j d).futures[c.future]? = some .cancelled := by
    rw [hf]
    exact (getElem?_modify_cancel hx d.future).trans (by rw [if_pos rfl]; rfl)
  have hcontains : (s.cancelWaiter j d).pending.contains c.key = true := by
    obtain ⟨request, hget, -⟩ := hregistered i c.key c.future ⟨c, hci, hleads, hnone, rfl, rfl⟩
    exact Dict.contains_iff.mpr (by show s.pending.get? c.key ≠ none; rw [hget]; nofun)
  refine ⟨_, by rw [step, unfinished_eq_some.mpr ⟨hci', hleads, hnone⟩, Option.map_some], ?_⟩
  unfold executorEnded
  dsimp only
  rw [getElem?_set_self_of_some hci', Option.bind_some, hcancelled, Option.getD_some,
    if_pos hcontains]
  cases outcome with
  | ok value => rfl
  | error exc =>
    simp only [complete, houtcome exc rfl, if_true]
    rfl

/-! ## Tasks of waiters that are cancelled -/

/-- One of two waiters is cancelled between the end of its leader and its own. -/
def sampleCancellations : List (Action Nat) :=
  [.execute "a", .execute "a", .execute "a", .executorEnded 0 (.ok 5), .cancelWaiter 1, .resume 2]

theorem waiters_isolated_again :
    ∃ s, system.replay Isolates system.init sampleCancellations = some s ∧
      (∃ outcome, (s.calls[0]?).bind ExecuteCall.executor = some outcome ∧
        .returned 5 = ofOutcome outcome) ∧
      ∃ d ∈ s.calls, d.leads = true ∧ d.result = some (.returned 5) := by
  have hs : system.replay Isolates system.init sampleCancellations = some _ := rfl
  obtain ⟨hleader, hwaiter, -⟩ := waiters_isolated (StepSystem.reach_of_replay hs)
  obtain ⟨outcome, houtcome, hr⟩ := hleader 0 _ (.returned 5) rfl rfl rfl
  obtain ⟨i, d, hd, hleads, -, -, hresult⟩ := hwaiter 2 _ (.returned 5) rfl rfl rfl rfl
  exact ⟨_, hs, ⟨outcome, houtcome, hr⟩, d, List.mem_of_getElem? hd, hleads, hresult⟩

/-- One of two waiters is cancelled while the leader is executing: the leader does not return what
its executor has returned, and the other waiter is cancelled as well. -/
theorem waiters_isolated_cancelled :
    ∃ s : RequestCoalescer Nat, system.Reach StepSystem.Free s ∧
      (∃ c, s.calls[0]? = some c ∧ c.leads = true ∧ c.executor = some (.ok 5) ∧
        c.result = some .invalidStateError) ∧
      ∃ c, s.calls[2]? = some c ∧ c.leads = false ∧ c.cancelled = false ∧
        c.result = some cancelledError := by
  let as : List (Action Nat) :=
    [.execute "a", .execute "a", .execute "a", .cancelWaiter 1, .executorEnded 0 (.ok 5), .resume 2]
  have hs : system.replay StepSystem.Free system.init as = some _ := rfl
  exact ⟨_, StepSystem.reach_of_replay hs, ⟨_, rfl, rfl, rfl, rfl⟩, _, rfl, rfl, rfl, rfl⟩

end AioHomematic.Client.RequestCoalescer
