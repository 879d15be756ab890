import AioHomematic.Client.RequestCoalescer
import AioHomematic.Lib.Numbered

/-!
# Leaders of requests

Every future has one leader, and an entry of the pending map belongs to a
leader that is still executing: these hold whatever happens (`Consistent`).
-/

namespace AioHomematic.Client.RequestCoalescer

open Lib ExecuteResult

variable {V : Type*} {s t : RequestCoalescer V} {a : Action V} {i j f : Nat} {key : String}
  {c d : ExecuteCall V} {outcome : Except PyException V}

/-- The call `i` leads the future `f` and runs its executor for `key`. -/
def Executing (s : RequestCoalescer V) (i : Nat) (key : String) (f : Nat) : Prop :=
  ∃ c, s.calls[i]? = some c ∧ c.leads = true ∧ c.result = none ∧ c.key = key ∧ c.future = f

def waitsFor (s : RequestCoalescer V) (f : Nat) : Bool := (s.futures[f]?).any Future.isPending

theorem unfinished_eq_some {leads : Bool} : s.unfinished i leads = some c ↔
    s.calls[i]? = some c ∧ c.leads = leads ∧ c.result = none := by
  simp [unfinished, Option.filter_eq_some_iff, Option.isNone_iff_eq_none]

/-- The call is the same one later on. -/
structure Same (c c' : ExecuteCall V) : Prop where
  key : c'.key = c.key
  future : c'.future = c.future
  leads : c'.leads = c.leads

theorem Same.refl (c : ExecuteCall V) : Same c c := ⟨rfl, rfl, rfl⟩

/-! ## Futures over a step -/

theorem length_cancelAll (requests : List PendingRequest) (futures : List (Future V PyException)) :
    (requests.foldl (fun futures r => futures.modify r.future Future.cancel) futures).length =
      futures.length := by
  induction requests generalizing futures with
  | nil => rfl
  | cons r requests ih => rw [List.foldl_cons, ih, List.length_modify]

theorem getElem?_modify_cancel {futures : List (Future V PyException)}
    {x : Future V PyException} (h : futures[f]? = some x) (g : Nat) :
    (futures.modify g Future.cancel)[f]? = some (if g = f then x.cancel else x) := by
  rw [List.getElem?_modify, h]
  split <;> rfl

theorem getElem?_cancelAll {requests : List PendingRequest} {futures : List (Future V PyException)}
    {x : Future V PyException} (h : futures[f]? = some x) :
    ∃ y, (requests.foldl (fun futures r => futures.modify r.future Future.cancel) futures)[f]? =
      some y ∧ (y = x ∨ y = x.cancel) := by
  induction requests generalizing futures x with
  | nil => exact ⟨x, h, .inl rfl⟩
  | cons r requests ih =>
    obtain ⟨y, hy, hxy⟩ := ih (getElem?_modify_cancel h r.future)
    refine ⟨y, hy, ?_⟩
    split at hxy
    · rw [Future.cancel_cancel, or_self] at hxy
      exact .inr hxy
    · exact hxy

theorem complete_later (x : Future V PyException) (outcome : Except PyException V) :
    x.Later (complete x outcome).1 := by
  cases x with
  | pending => exact .inl rfl
  | result | exception | cancelled =>
    refine .inr ?_
    cases outcome with
    | ok value => rfl
    | error exc =>
      simp only [complete]
      split <;> rfl

theorem complete_cancelled (outcome : Except PyException V) :
    (complete .cancelled outcome).1 = .cancelled := by
  rcases complete_later Future.cancelled outcome with hpending | hsame
  · cases hpending
  · exact hsame

/-! ## What holds whatever happens -/

structure Consistent (s : RequestCoalescer V) : Prop where
  bounded : ∀ (i : Nat) (c : ExecuteCall V), s.calls[i]? = some c → c.future < s.futures.length
  leader : ∀ (i : Nat) (c : ExecuteCall V), s.calls[i]? = some c →
    ∃ (j : Nat) (d : ExecuteCall V), s.calls[j]? = some d ∧ d.leads = true ∧ d.key = c.key ∧
      d.future = c.future
  unique : ∀ (i j : Nat) (c d : ExecuteCall V), s.calls[i]? = some c → s.calls[j]? = some d →
    c.leads = true → d.leads = true → c.future = d.future → i = j
  entry : ∀ key request, s.pending.get? key = some request → ∃ i, s.Executing i key request.future

namespace Consistent

theorem future (h : Consistent s) (hc : s.calls[i]? = some c) :
    ∃ x, s.futures[c.future]? = some x :=
  ⟨_, List.getElem?_eq_getElem (h.bounded i c hc)⟩

/-- No call comes or goes. -/
theorem frame (h : Consistent s) (hlength : t.futures.length = s.futures.length)
    (hback : ∀ (i : Nat) (c' : ExecuteCall V), t.calls[i]? = some c' →
      ∃ c, s.calls[i]? = some c ∧ Same c c')
    (hforth : ∀ (i : Nat) (c : ExecuteCall V), s.calls[i]? = some c →
      ∃ c', t.calls[i]? = some c' ∧ Same c c')
    (hentry : ∀ key request, t.pending.get? key = some request →
      ∃ i, t.Executing i key request.future) : Consistent t where
  bounded i c' hc' := by
    obtain ⟨c, hc, hsame⟩ := hback i c' hc'
    rw [hlength, hsame.future]
    exact h.bounded i c hc
  leader i c' hc' := by
    obtain ⟨c, hc, hsame⟩ := hback i c' hc'
    obtain ⟨j, d, hd, hleads, hkey, hfuture⟩ := h.leader i c hc
    obtain ⟨d', hd', hsame'⟩ := hforth j d hd
    exact ⟨j, d', hd', hsame'.leads.trans hleads, by rw [hsame'.key, hkey, hsame.key],
      by rw [hsame'.future, hfuture, hsame.future]⟩
  unique i j c' d' hc' hd' hleads hleads' hfuture := by
    obtain ⟨c, hc, hsame⟩ := hback i c' hc'
    obtain ⟨d, hd, hsame'⟩ := hback j d' hd'
    refine h.unique i j c d hc hd (hsame.leads ▸ hleads) (hsame'.leads ▸ hleads') ?_
    rw [← hsame.future, ← hsame'.future, hfuture]
  entry := hentry

/-- The call `i` changes, but for what names it. -/
theorem setCall {c' : ExecuteCall V} (h : Consistent s) (hc : s.calls[i]? = some c)
    (hcalls : t.calls = s.calls.set i c') (hsame : Same c c')
    (hlength : t.futures.length = s.futures.length)
    (hentry : ∀ key request, t.pending.get? key = some request →
      ∃ i, t.Executing i key request.future) : Consistent t := by
  refine h.frame hlength (fun j d' hd' => ?_) (fun j d hd => ?_) hentry
  · rw [hcalls] at hd'
    rcases getElem?_set_cases hd' with ⟨rfl, rfl⟩ | ⟨-, hd⟩
    · exact ⟨c, hc, hsame⟩
    · exact ⟨d', hd, .refl d'⟩
  · rw [hcalls, getElem?_set_of_some hc]
    split
    · subst_vars
      rw [hc] at hd
      cases hd
      exact ⟨c', rfl, hsame⟩
    · exact ⟨d, hd, .refl d⟩

/-- The executing leader of an entry is still there when another call changes. -/
theorem executing_set {c' : ExecuteCall V} {k : Nat} (h : s.Executing k key f)
    (hc : s.calls[i]? = some c) (hne : i ≠ k) (hcalls : t.calls = s.calls.set i c') :
    t.Executing k key f := by
  obtain ⟨d, hd, hrest⟩ := h
  refine ⟨d, ?_, hrest⟩
  rw [hcalls, getElem?_set_of_some hc, if_neg hne, hd]

/-- A waiter is no executing leader. -/
theorem executing_setWaiter {c' : ExecuteCall V} {k : Nat} (hc : s.unfinished i false = some c)
    (hcalls : t.calls = s.calls.set i c') (h : s.Executing k key f) : t.Executing k key f := by
  obtain ⟨hc, hwaits, -⟩ := unfinished_eq_some.mp hc
  refine executing_set h hc ?_ hcalls
  rintro rfl
  obtain ⟨d, hd, hleads, -⟩ := h
  rw [hc] at hd
  cases hd
  rw [hleads] at hwaits
  cases hwaits

theorem executing_concat {k : Nat} (h : s.Executing k key f)
    (hcalls : t.calls = s.calls ++ [d]) : t.Executing k key f := by
  obtain ⟨c, hc, hrest⟩ := h
  exact ⟨c, hcalls ▸ getElem?_concat_of_some hc d, hrest⟩

theorem execute (h : Consistent s) (key : String) : Consistent (s.execute key) := by
  unfold RequestCoalescer.execute
  dsimp only
  cases hget : s.pending.get? key with
  | some request =>
    obtain ⟨k, l, hl, hleads, hnone, hkey, hfuture⟩ := h.entry key request hget
    refine ⟨fun i c hc => ?_, fun i c hc => ?_, fun i j c d hc hd hcl hdl => ?_,
      fun key' request' hget' => ?_⟩
    · rcases getElem?_concat_cases hc with hc | ⟨-, rfl⟩
      · exact h.bounded i c hc
      · exact hfuture ▸ h.bounded k l hl
    · rcases getElem?_concat_cases hc with hc | ⟨-, rfl⟩
      · obtain ⟨j, d, hd, hrest⟩ := h.leader i c hc
        exact ⟨j, d, getElem?_concat_of_some hd _, hrest⟩
      · exact ⟨k, l, getElem?_concat_of_some hl _, hleads, hkey, hfuture⟩
    · rcases getElem?_concat_cases hc with hc | ⟨-, rfl⟩
      · rcases getElem?_concat_cases hd with hd | ⟨-, rfl⟩
        · exact h.unique i j c d hc hd hcl hdl
        · cases hdl
      · cases hcl
    · dsimp only at hget'
      rw [Dict.get?_set] at hget'
      split at hget'
      · cases hget'
        subst_vars
        exact ⟨k, executing_concat ⟨l, hl, hleads, hnone, rfl, hfuture⟩ rfl⟩
      · obtain ⟨m, hm⟩ := h.entry key' request' hget'
        exact ⟨m, executing_concat hm rfl⟩
  | none =>
    have hold {i : Nat} {c : ExecuteCall V} (hc : s.calls[i]? = some c) :
        c.future ≠ s.futures.length := Nat.ne_of_lt (h.bounded i c hc)
    refine ⟨fun i c hc => ?_, fun i c hc => ?_, fun i j c d hc hd hcl hdl hf => ?_,
      fun key' request' hget' => ?_⟩
    · rw [List.length_append, List.length_singleton]
      rcases getElem?_concat_cases hc with hc | ⟨-, rfl⟩
      · exact Nat.lt_succ_of_lt (h.bounded i c hc)
      · exact Nat.lt_succ_self _
    · rcases getElem?_concat_cases hc with hc | ⟨rfl, rfl⟩
      · obtain ⟨j, d, hd, hrest⟩ := h.leader i c hc
        exact ⟨j, d, getElem?_concat_of_some hd _, hrest⟩
      · exact ⟨_, _, hc, rfl, rfl, rfl⟩
    · rcases getElem?_concat_cases hc with hc | ⟨rfl, rfl⟩
      · rcases getElem?_concat_cases hd with hd | ⟨rfl, rfl⟩
        · exact h.unique i j c d hc hd hcl hdl hf
        · exact absurd hf (hold hc)
      · rcases getElem?_concat_cases hd with hd | ⟨rfl, rfl⟩
        · exact absurd hf.symm (hold hd)
        · rfl
    · dsimp only at hget'
      rw [Dict.get?_set] at hget'
      split at hget'
      · cases hget'
        subst_vars
        exact ⟨_, _, List.getElem?_concat_length, rfl, rfl, rfl, rfl⟩
      · obtain ⟨m, hm⟩ := h.entry key' request' hget'
        exact ⟨m, executing_concat hm rfl⟩

theorem executorEnded (h : Consistent s) (hc : s.unfinished i true = some c) :
    Consistent (s.executorEnded i c outcome) := by
  obtain ⟨hc, -, -⟩ := unfinished_eq_some.mp hc
  refine h.setCall hc rfl ⟨rfl, rfl, rfl⟩ (by simp [RequestCoalescer.executorEnded]) ?_
  intro key request hget
  dsimp only [RequestCoalescer.executorEnded] at hget
  rw [Dict.get?_erase] at hget
  split at hget
  · cases hget
  · rename_i hne
    obtain ⟨k, hk⟩ := h.entry key request hget
    refine ⟨k, executing_set hk hc ?_ rfl⟩
    rintro rfl
    obtain ⟨d, hd, -, -, hkey, -⟩ := hk
    rw [hc] at hd
    cases hd
    exact hne hkey

/-- A waiter changes; the entries are as before. -/
theorem setWaiter {c' : ExecuteCall V} (h : Consistent s) (hc : s.unfinished i false = some c)
    (hcalls : t.calls = s.calls.set i c') (hsame : Same c c')
    (hlength : t.futures.length = s.futures.length) (hpending : t.pending = s.pending) :
    Consistent t := by
  refine h.setCall (unfinished_eq_some.mp hc).1 hcalls hsame hlength fun key request hget => ?_
  obtain ⟨k, hk⟩ := h.entry key request (hpending ▸ hget)
  exact ⟨k, executing_setWaiter hc hcalls hk⟩

theorem clear (h : Consistent s) : Consistent s.clear := by
  refine h.frame ?_ (fun i c hc => ⟨c, hc, .refl c⟩) (fun i c hc => ⟨c, hc, .refl c⟩) ?_
  · exact length_cancelAll _ _
  · intro key request hget
    cases hget

theorem step (h : Consistent s) (hstep : s.step a = some t) : Consistent t := by
  cases a with
  | execute key =>
    cases hstep
    exact h.execute key
  | executorEnded i outcome =>
    obtain ⟨c, hc, rfl⟩ := Option.map_eq_some_iff.mp hstep
    exact h.executorEnded hc
  | resume i =>
    obtain ⟨c, hc, hresume⟩ := Option.bind_eq_some_iff.mp hstep
    obtain ⟨result, -, rfl⟩ := Option.map_eq_some_iff.mp hresume
    exact h.setWaiter hc rfl ⟨rfl, rfl, rfl⟩ rfl rfl
  | cancelWaiter i =>
    obtain ⟨c, hc, rfl⟩ := Option.map_eq_some_iff.mp hstep
    exact h.setWaiter hc rfl ⟨rfl, rfl, rfl⟩ (List.length_modify _ _ _) rfl
  | clear =>
    cases hstep
    exact h.clear

theorem init : Consistent ({} : RequestCoalescer V) where
  bounded i c hc := by simp at hc
  leader i c hc := by simp at hc
  unique i j c d hc := by simp at hc
  entry key request hget := by cases hget

end Consistent

theorem reach_consistent {ok : RequestCoalescer V → Action V → Prop}
    (h : system.Reach ok s) : Consistent s :=
  h.invariant .init fun _ _ _ hs _ hstep => hs.step hstep

end AioHomematic.Client.RequestCoalescer
