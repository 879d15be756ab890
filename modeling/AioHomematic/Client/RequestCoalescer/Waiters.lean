import AioHomematic.Client.RequestCoalescer.Completion

/-!
# Waiters of requests

A waiter waits for a future that its leader completes when the executor ends,
with a result or with an exception. A `CancelledError` of the executor leaves
the future pending: then nobody completes it any more, and who waits for it is
stranded (`Stranded`). In runs without that every waiter is answered
(`waiters_answered`).
-/

namespace AioHomematic.Client.RequestCoalescer

open Lib ExecuteResult

variable {V : Type*} {s t : RequestCoalescer V} {a : Action V} {i j f : Nat} {key : String}
  {c d : ExecuteCall V} {outcome : Except PyException V}

/-- Some waiter waits for the future `f`. -/
def Awaited (s : RequestCoalescer V) (f : Nat) : Prop :=
  s.waitsFor f = true ∧ ∃ c ∈ s.calls, c.leads = false ∧ c.result.isNone ∧ c.future = f

instance : Decidable (s.Awaited f) :=
  inferInstanceAs (Decidable (_ ∧ ∃ c ∈ s.calls, c.leads = false ∧ c.result.isNone ∧ c.future = f))

/-- An executor ends with a `CancelledError` only while nobody waits for its future. -/
def Answers (s : RequestCoalescer V) : Action V → Prop
  | .executorEnded i (.error exc) =>
    exc.cls.isException = true ∨ ∀ c ∈ s.unfinished i true, ¬ s.Awaited c.future
  | a => ClearsIdle s a

instance : DecidableRel (Answers : RequestCoalescer V → Action V → Prop)
  | s, .executorEnded i (.error exc) => inferInstanceAs
      (Decidable (exc.cls.isException = true ∨ ∀ c ∈ s.unfinished i true, ¬ s.Awaited c.future))
  | _, .executorEnded _ (.ok _) => .isTrue trivial
  | s, .clear => inferInstanceAs (Decidable (ClearsIdle s .clear))
  | _, .execute _ => .isTrue trivial
  | _, .resume _ => .isTrue trivial
  | _, .cancelWaiter _ => .isTrue trivial

theorem Answers.clearsIdle (s : RequestCoalescer V) (a : Action V) (h : Answers s a) :
    ClearsIdle s a := by
  cases a with
  | executorEnded i outcome => exact trivial
  | _ => exact h

/-- A waiter on a pending future has a leader that is executing. -/
def Served (s : RequestCoalescer V) : Prop :=
  ∀ (j : Nat) (c : ExecuteCall V), s.calls[j]? = some c → c.leads = false → c.result = none →
    s.waitsFor c.future = true → ∃ i, s.Executing i c.key c.future

theorem waitsFor_of_cancel {futures : List (Future V PyException)} (hf : f < s.futures.length)
    (hfutures : ∀ x, s.futures[f]? = some x → ∃ y, futures[f]? = some y ∧ (y = x ∨ y = x.cancel))
    (h : (futures[f]?).any Future.isPending = true) : s.waitsFor f = true := by
  obtain ⟨x, hx⟩ : ∃ x, s.futures[f]? = some x := ⟨_, List.getElem?_eq_getElem hf⟩
  obtain ⟨y, hy, hyx⟩ := hfutures x hx
  rw [hy] at h
  unfold waitsFor
  rw [hx]
  rcases hyx with rfl | rfl
  · exact h
  · cases x with
    | pending => rfl
    | _ => exact h

namespace Served

theorem execute (h : Served s) (hs : Consistent s) (key : String) : Served (s.execute key) := by
  unfold RequestCoalescer.execute
  dsimp only
  cases hget : s.pending.get? key with
  | some request =>
    intro j c hc hwaits hnone hpending
    rcases getElem?_concat_cases hc with hc | ⟨-, rfl⟩
    · obtain ⟨i, hi⟩ := h j c hc hwaits hnone hpending
      exact ⟨i, Consistent.executing_concat hi rfl⟩
    · obtain ⟨i, hi⟩ := hs.entry key request hget
      exact ⟨i, Consistent.executing_concat hi rfl⟩
  | none =>
    intro j c hc hwaits hnone hpending
    rcases getElem?_concat_cases hc with hc | ⟨-, rfl⟩
    · dsimp only [waitsFor] at hpending
      rw [List.getElem?_append_left (hs.bounded j c hc)] at hpending
      obtain ⟨i, hi⟩ := h j c hc hwaits hnone hpending
      exact ⟨i, Consistent.executing_concat hi rfl⟩
    · cases hwaits

theorem executorEnded (h : Served s) (hs : Consistent s) (hsettled : Settled s)
    (hok : Answers s (.executorEnded i outcome)) (hc : s.unfinished i true = some c) :
    Served (s.executorEnded i c outcome) := by
  obtain ⟨x, hx⟩ := hs.future (unfinished_eq_some.mp hc).1
  obtain ⟨hopen, -⟩ := hsettled.executor_open hc hx
  have hget := hc
  obtain ⟨hc, hleads, -⟩ := unfinished_eq_some.mp hc
  intro j d hd' hwaits hnone hpending
  dsimp only [RequestCoalescer.executorEnded] at hd'
  rcases getElem?_set_cases hd' with ⟨-, rfl⟩ | ⟨-, hd⟩
  · cases hnone
  simp only [waitsFor, RequestCoalescer.executorEnded, hx, Option.getD_some] at hpending
  rw [getElem?_set_of_some hx] at hpending
  split at hpending
  · rename_i hf
    -- the future is still pending, so the executor has ended with no `Exception`
    exfalso
    cases outcome with
    | ok value =>
      rcases hopen with rfl | rfl <;> cases hpending
    | error exc =>
      rcases hok with hexc | hawaited
      · simp only [complete, hexc, if_true] at hpending
        rcases hopen with rfl | rfl <;> cases hpending
      · refine hawaited c hget ⟨?_, d, List.mem_of_getElem? hd, hwaits, ?_, hf.symm⟩
        · unfold waitsFor
          rw [hx]
          rcases complete_later x (.error exc) with rfl | hsame
          · rfl
          · rw [← hsame]
            exact hpending
        · rw [hnone]
          rfl
  · rename_i hf
    obtain ⟨k, hk⟩ := h j d hd hwaits hnone hpending
    refine ⟨k, Consistent.executing_set hk hc ?_ rfl⟩
    rintro rfl
    obtain ⟨e, he, -, -, -, hef⟩ := hk
    rw [hc] at he
    cases he
    exact hf hef

/-- A waiter ends, or futures are cancelled. -/
theorem frame (h : Served s) (hs : Consistent s)
    (hcalls : ∀ (j : Nat) (c : ExecuteCall V), t.calls[j]? = some c → c.result = none →
      s.calls[j]? = some c)
    (hexecuting : ∀ i key f, s.Executing i key f → t.Executing i key f)
    (hfutures : ∀ (f : Nat) (x : Future V PyException), s.futures[f]? = some x →
      ∃ y, t.futures[f]? = some y ∧ (y = x ∨ y = x.cancel)) : Served t := by
  intro j c hc hwaits hnone hpending
  have hc := hcalls j c hc hnone
  obtain ⟨i, hi⟩ := h j c hc hwaits hnone
    (waitsFor_of_cancel (hs.bounded j c hc) (hfutures c.future) hpending)
  exact ⟨i, hexecuting i c.key c.future hi⟩

theorem step (h : Served s) (hs : Consistent s) (hsettled : Settled s) (hok : Answers s a)
    (hstep : s.step a = some t) : Served t := by
  cases a with
  | execute key =>
    cases hstep
    exact h.execute hs key
  | executorEnded i outcome =>
    obtain ⟨c, hc, rfl⟩ := Option.map_eq_some_iff.mp hstep
    exact h.executorEnded hs hsettled hok hc
  | resume i =>
    obtain ⟨c, hc, hresume⟩ := Option.bind_eq_some_iff.mp hstep
    obtain ⟨result, -, rfl⟩ := Option.map_eq_some_iff.mp hresume
    refine h.frame hs (fun j d hd hnone => ?_) (fun k key f => Consistent.executing_setWaiter hc rfl)
      fun f x hx => ⟨x, hx, .inl rfl⟩
    rcases getElem?_set_cases hd with ⟨-, rfl⟩ | ⟨-, hd⟩
    · cases hnone
    · exact hd
  | cancelWaiter i =>
    obtain ⟨c, hc, rfl⟩ := Option.map_eq_some_iff.mp hstep
    refine h.frame hs (fun j d hd hnone => ?_) (fun k key f => Consistent.executing_setWaiter hc rfl)
      fun f x hx => ⟨_, getElem?_modify_cancel hx c.future, ?_⟩
    · rcases getElem?_set_cases hd with ⟨-, rfl⟩ | ⟨-, hd⟩
      · cases hnone
      · exact hd
    · split
      · exact .inr rfl
      · exact .inl rfl
  | clear =>
    cases hstep
    exact h.frame hs (fun j c hc _ => hc) (fun i key f hi => hi)
      fun f x hx => getElem?_cancelAll hx

theorem init : Served ({} : RequestCoalescer V) := by
  intro j c hc
  simp at hc

end Served

theorem reach_served (h : system.Reach Answers s) : Served s := by
  have hinv : ((Consistent s ∧ Registered s) ∧ Settled s) ∧ Served s :=
    h.invariant (P := fun s => ((Consistent s ∧ Registered s) ∧ Settled s) ∧ Served s)
      ⟨⟨⟨.init, .init⟩, .init⟩, .init⟩ fun s a _ ⟨⟨⟨hs, hr⟩, hsettled⟩, hserved⟩ ho hstep =>
        ⟨⟨⟨hs.step hstep, hr.step hs (Answers.clearsIdle s a ho) hstep⟩,
          hsettled.step hs hr hstep⟩, hserved.step hs hsettled ho hstep⟩
  exact hinv.2

/-- A waiter whose future is done can go on. -/
theorem resume_of_done (hc : s.unfinished j false = some c) (hf : c.future < s.futures.length)
    (hdone : s.waitsFor c.future = false) :
    ∃ r t, s.step (.resume j) = some t ∧ t.calls[j]? = some { c with result := some r } := by
  obtain ⟨x, hx⟩ : ∃ x, s.futures[c.future]? = some x := ⟨_, List.getElem?_eq_getElem hf⟩
  obtain ⟨r, hr⟩ : ∃ r, ofFuture x = some r := by
    cases x with
    | pending =>
      unfold waitsFor at hdone
      rw [hx] at hdone
      cases hdone
    | _ => exact ⟨_, rfl⟩
  refine ⟨r, { s with calls := s.calls.set j { c with result := some r } }, ?_, ?_⟩
  · show (s.unfinished j false).bind _ = _
    rw [hc, Option.bind_some, resume, hx, Option.bind_some, hr, Option.map_some]
  · dsimp only
    rw [getElem?_set_self_of_some (unfinished_eq_some.mp hc).1]

/-- **No stranded waiter**: in runs where no executor ends with a `CancelledError` under a waiter,
every waiter has a leader; once that has ended, the waiter can go on; and it ends as its leader
does, where its own task was not cancelled: with the same result, or like it with an exception. -/
theorem waiters_answered (hreach : system.Reach Answers s) (hc : s.calls[j]? = some c)
    (hwaits : c.leads = false) :
    ∃ (i : Nat) (d : ExecuteCall V), s.calls[i]? = some d ∧ d.leads = true ∧ d.key = c.key ∧
      d.future = c.future ∧
      (c.result = none → d.result = none ∨
        ∃ r t, s.step (.resume j) = some t ∧ t.calls[j]? = some { c with result := some r }) ∧
      ∀ r, c.result = some r → c.cancelled = true ∨ d.result = some r ∨
        r = cancelledError ∧ ∀ r', d.result = some r' → r'.fails = true := by
  have hs := reach_consistent hreach
  have hsettled := reach_settled Answers.clearsIdle hreach
  obtain ⟨i, d, hd, hleads, hkey, hfuture⟩ := hs.leader j c hc
  refine ⟨i, d, hd, hleads, hkey, hfuture, fun hnone => ?_, fun r hr => ?_⟩
  · cases hpending : s.waitsFor c.future with
    | true =>
      obtain ⟨k, e, he, hel, hen, -, hef⟩ := reach_served hreach j c hc hwaits hnone hpending
      obtain rfl := hs.unique i k d e hd he hleads hel (hfuture.trans hef.symm)
      rw [hd] at he
      cases he
      exact .inl hen
    | false =>
      exact .inr (resume_of_done (unfinished_eq_some.mpr ⟨hc, hwaits, hnone⟩) (hs.bounded j c hc)
        hpending)
  · cases hcancelled : c.cancelled with
    | true => exact .inl rfl
    | false =>
      obtain ⟨x, hx, hxr⟩ := Option.bind_eq_some_iff.mp
        (hsettled.waiter j c r hc hwaits hcancelled hr)
      refine .inr ?_
      rcases (hsettled.leader i d x hd hleads (hfuture ▸ hx)).cases with
        ⟨outcome, -, hresult, hox⟩ | ⟨rfl | rfl, hfails⟩
      · rw [hxr] at hox
        exact .inl (hresult.trans hox.symm)
      · cases hxr
      · cases hxr
        exact .inr ⟨rfl, hfails⟩

/-! ## A waiter that nobody answers -/

/-- The waiter `j` waits for the pending future `f`, and the leader of `f` has ended. -/
structure Stranded (s : RequestCoalescer V) (j f : Nat) : Prop where
  waiter : ∃ c, s.unfinished j false = some c ∧ c.future = f
  pending : s.futures[f]? = some .pending
  ended : ∀ i key, ¬ s.Executing i key f

/-- No task that waits for `f` is cancelled. -/
def Spares (f : Nat) (s : RequestCoalescer V) : Action V → Prop
  | .cancelWaiter i => ∀ c ∈ s.unfinished i false, c.future ≠ f
  | _ => True

theorem getElem?_cancelAll_of_ne {requests : List PendingRequest}
    {futures : List (Future V PyException)} (h : ∀ r ∈ requests, r.future ≠ f) :
    (requests.foldl (fun futures r => futures.modify r.future Future.cancel) futures)[f]? =
      futures[f]? := by
  induction requests generalizing futures with
  | nil => rfl
  | cons r requests ih =>
    rw [List.foldl_cons, ih fun r' hr' => h r' (List.mem_cons_of_mem r hr'),
      List.getElem?_modify_ne _ _ (h r List.mem_cons_self)]

namespace Stranded

/-- Another call changes, and `f` is left as it is. -/
theorem setCall {c' : ExecuteCall V} (h : Stranded s j f) (hij : i ≠ j)
    (hfutures : t.futures[f]? = s.futures[f]?) (hcalls : t.calls = s.calls.set i c')
    (hended : ∀ key, ¬ (c'.leads = true ∧ c'.result = none ∧ c'.key = key ∧ c'.future = f)) :
    Stranded t j f := by
  obtain ⟨d, hd, hdf⟩ := h.waiter
  obtain ⟨hd, hwaits⟩ := unfinished_eq_some.mp hd
  refine ⟨⟨d, unfinished_eq_some.mpr ⟨?_, hwaits⟩, hdf⟩, hfutures.trans h.pending, ?_⟩
  · rw [hcalls, List.getElem?_set_ne hij, hd]
  · rintro k key ⟨e, he, hrest⟩
    rw [hcalls] at he
    rcases getElem?_set_cases he with ⟨-, rfl⟩ | ⟨-, he⟩
    · exact hended key hrest
    · exact h.ended k key ⟨e, he, hrest⟩

theorem execute (h : Stranded s j f) (hs : Consistent s) (key : String) :
    Stranded (s.execute key) j f := by
  obtain ⟨c, hc, hcf⟩ := h.waiter
  obtain ⟨hc, hwaits⟩ := unfinished_eq_some.mp hc
  unfold RequestCoalescer.execute
  dsimp only
  cases hget : s.pending.get? key with
  | some request =>
    refine ⟨⟨c, unfinished_eq_some.mpr ⟨getElem?_concat_of_some hc _, hwaits⟩, hcf⟩, h.pending, ?_⟩
    rintro k key' ⟨e, he, hel, hrest⟩
    rcases getElem?_concat_cases he with he | ⟨-, rfl⟩
    · exact h.ended k key' ⟨e, he, hel, hrest⟩
    · cases hel
  | none =>
    refine ⟨⟨c, unfinished_eq_some.mpr ⟨getElem?_concat_of_some hc _, hwaits⟩, hcf⟩,
      getElem?_concat_of_some h.pending _, ?_⟩
    rintro k key' ⟨e, he, hel, hen, hek, hef⟩
    rcases getElem?_concat_cases he with he | ⟨-, rfl⟩
    · exact h.ended k key' ⟨e, he, hel, hen, hek, hef⟩
    · have hlt := hs.bounded j c hc
      dsimp only at hef
      omega

theorem step (h : Stranded s j f) (hs : Consistent s) (hok : Spares f s a)
    (hstep : s.step a = some t) : Stranded t j f := by
  obtain ⟨c, hc, hcf⟩ := h.waiter
  cases a with
  | execute key =>
    cases hstep
    exact h.execute hs key
  | executorEnded i outcome =>
    obtain ⟨d, hd, rfl⟩ := Option.map_eq_some_iff.mp hstep
    obtain ⟨hdi, hleads, hnone⟩ := unfinished_eq_some.mp hd
    have hdf : d.future ≠ f := fun hdf => h.ended i d.key ⟨d, hdi, hleads, hnone, rfl, hdf⟩
    refine h.setCall ?_ (List.getElem?_set_ne hdf) rfl fun key => ?_
    · rintro rfl
      obtain ⟨hci, hwaits, -⟩ := unfinished_eq_some.mp hc
      rw [hdi] at hci
      cases hci
      rw [hleads] at hwaits
      cases hwaits
    · rintro ⟨-, hnone', -⟩
      cases hnone'
  | resume i =>
    obtain ⟨d, hd, hresume⟩ := Option.bind_eq_some_iff.mp hstep
    obtain ⟨result, hresult, rfl⟩ := Option.map_eq_some_iff.mp hresume
    refine h.setCall ?_ rfl rfl fun key => ?_
    · rintro rfl
      rw [hc] at hd
      cases hd
      rw [hcf, h.pending] at hresult
      cases hresult
    · rintro ⟨-, hnone, -⟩
      cases hnone
  | cancelWaiter i =>
    obtain ⟨d, hd, rfl⟩ := Option.map_eq_some_iff.mp hstep
    have hdf := hok d hd
    refine h.setCall ?_ (List.getElem?_modify_ne _ _ hdf) rfl fun key => ?_
    · rintro rfl
      rw [hc] at hd
      cases hd
      exact hdf hcf
    · rintro ⟨-, hnone, -⟩
      cases hnone
  | clear =>
    cases hstep
    refine ⟨h.waiter, ?_, h.ended⟩
    refine (getElem?_cancelAll_of_ne fun request hrequest hf => ?_).trans h.pending
    -- an entry belongs to a leader that is executing
    obtain ⟨⟨key, request⟩, hmem, rfl⟩ := List.mem_map.mp hrequest
    obtain ⟨i, hi⟩ := hs.entry key request (Dict.get?_eq_some.mpr hmem)
    exact h.ended i key (hf ▸ hi)

/-- Whatever else happens, a stranded waiter stays as long as no task that waits with it is
cancelled. -/
theorem steps (h : Stranded s j f) (hs : Consistent s) {as : List (Action V)}
    (hsteps : system.Steps (Spares f) s as t) : Stranded t j f := by
  have hinv : Consistent t ∧ Stranded t j f :=
    hsteps.invariant (P := fun s => Consistent s ∧ Stranded s j f)
      (fun _ _ _ hs ho hstep => ⟨hs.1.step hstep, hs.2.step hs.1 ho hstep⟩) ⟨hs, h⟩
  exact hinv.2

end Stranded

/-- The condition of `waiters_answered` is needed: without it some waiter is stranded. -/
theorem stranded_of_cancelledError (hs : Consistent s) (hc : s.unfinished i true = some c)
    {exc : PyException} (hexc : exc.cls.isException = false) (hawaited : s.Awaited c.future) :
    ∃ j, Stranded (s.executorEnded i c (.error exc)) j c.future := by
  obtain ⟨hpending, d, hd, hwaits, hnone, hdf⟩ := hawaited
  obtain ⟨j, hd⟩ := List.mem_iff_getElem?.mp hd
  obtain ⟨hc, hleads, -⟩ := unfinished_eq_some.mp hc
  obtain ⟨x, hx, hxp⟩ := (Option.any_eq_true _ _).mp hpending
  obtain rfl := Future.isPending_iff.mp hxp
  have hij : i ≠ j := by
    rintro rfl
    rw [hc] at hd
    cases hd
    rw [hleads] at hwaits
    cases hwaits
  refine ⟨j, ⟨d, unfinished_eq_some.mpr ⟨?_, hwaits, Option.isNone_iff_eq_none.mp hnone⟩, hdf⟩, ?_,
    ?_⟩
  · exact (List.getElem?_set_ne hij).trans hd
  · simp only [executorEnded, hx, Option.getD_some, complete, hexc]
    rw [getElem?_set_self_of_some hx]
    rfl
  · rintro k key ⟨e, he, hel, hen, -, hef⟩
    rcases getElem?_set_cases he with ⟨-, rfl⟩ | ⟨hne, he⟩
    · cases hen
    · exact hne (hs.unique i k c e hc he hleads hel hef.symm)

/-! ## Runs of waiters -/

/-- The leader is cancelled while nobody waits, and a later one fails under two waiters. -/
def sampleAnswers : List (Action Nat) :=
  [.execute "a", .executorEnded 0 (.error { cls := .cancelledError }), .execute "a", .execute "a",
    .execute "a", .executorEnded 1 (.error { cls := .timeoutError }), .resume 2]

theorem waiters_answered_again :
    ∃ s, system.replay Answers system.init sampleAnswers = some s ∧
      ∃ r t, s.step (.resume 3) = some t ∧
        (t.calls[3]?).bind ExecuteCall.result = some r := by
  obtain ⟨s, hs, hcall⟩ := StepSystem.replay_any
    (p := fun s : RequestCoalescer Nat =>
      ((s.unfinished 3 false).any fun c => c.future = 1 ∧
        (s.calls.all fun d => d.future ≠ 1 ∨ d.leads = false ∨ d.result.isSome)) = true)
    (show (system.replay Answers system.init sampleAnswers).any _ = true by decide)
  obtain ⟨c, hc, htest⟩ := (Option.any_eq_true _ _).mp hcall
  obtain ⟨hfuture, hall⟩ := of_decide_eq_true htest
  obtain ⟨hc, hwaits, hnone⟩ := unfinished_eq_some.mp hc
  obtain ⟨i, d, hd, hleads, -, hdf, hgoes, -⟩ :=
    waiters_answered (StepSystem.reach_of_replay hs) hc hwaits
  refine ⟨s, hs, ?_⟩
  rcases hgoes hnone with hdn | ⟨r, t, hstep, ht⟩
  · have hd := of_decide_eq_true (List.all_eq_true.mp hall d (List.mem_of_getElem? hd))
    rw [hdf, hfuture, hleads, hdn] at hd
    simp at hd
  · exact ⟨r, t, hstep, by rw [ht]; rfl⟩

/-- The task of a leader is cancelled under a waiter, which then waits forever unless it is
cancelled itself. -/
theorem waiters_answered_cancelled :
    ∃ s : RequestCoalescer Nat, system.Reach StepSystem.Free s ∧
      (∃ d, s.calls[0]? = some d ∧ d.leads = true ∧ d.future = 0 ∧ d.result = some cancelledError) ∧
      ∀ as t, system.Steps (Spares 0) s as t →
        ∃ c, t.unfinished 1 false = some c ∧ c.future = 0 ∧ t.step (.resume 1) = none := by
  let as : List (Action Nat) :=
    [.execute "a", .execute "a", .executorEnded 0 (.error { cls := .cancelledError })]
  let s := (({} : RequestCoalescer Nat).execute "a").execute "a"
  let t := s.executorEnded 0 ⟨"a", 0, true, none, false, none⟩ (.error { cls := .cancelledError })
  have ht : system.replay StepSystem.Free system.init as = some t := rfl
  have hstranded : Stranded t 1 0 := by
    refine ⟨⟨_, rfl, rfl⟩, rfl, ?_⟩
    rintro i key ⟨c, hc, hleads, hnone, -⟩
    match i with
    | 0 => cases hc; cases hnone
    | 1 => cases hc; cases hleads
    | _ + 2 => cases hc
  refine ⟨t, StepSystem.reach_of_replay ht, ⟨_, rfl, rfl, rfl, rfl⟩, fun bs u hsteps => ?_⟩
  have hu := hstranded.steps (reach_consistent (StepSystem.reach_of_replay ht)) hsteps
  obtain ⟨c, hc, hf⟩ := hu.waiter
  refine ⟨c, hc, hf, ?_⟩
  show (u.unfinished 1 false).bind _ = none
  rw [hc, Option.bind_some, resume, hf, hu.pending]
  rfl

end AioHomematic.Client.RequestCoalescer
