import AioHomematic.Client.RequestCoalescer.Leaders

/-!
# Where returned values come from

Coalesced calls linearize: the value that a call returns was read by one
execution for its key, which had begun when the call was made, or began with
it, and had not ended by then. So no call returns a value older than itself,
whatever is cancelled or cleared in between.
-/

namespace AioHomematic.Client.RequestCoalescer

open Lib ExecuteResult

variable {V : Type*} {s t : RequestCoalescer V} {as : List (Action V)} {a : Action V}
  {i j f : Nat} {key : String} {c d : ExecuteCall V} {outcome : Except PyException V} {value : V}

/-- The keys of the calls that a run has made, in their order. -/
def executes (as : List (Action V)) : List String :=
  as.filterMap fun
    | .execute key => some key
    | _ => none

@[simp] theorem executes_append (as bs : List (Action V)) :
    executes (as ++ bs) = executes as ++ executes bs := List.filterMap_append

@[simp] theorem executes_execute (key : String) :
    executes [(.execute key : Action V)] = [key] := rfl

/-- In the run `as`, the executor of the call `i` has ended with `value`, when the first `n` calls
had been made. -/
def Produces (as : List (Action V)) (i : Nat) (key : String) (f : Nat) (value : V) (n : Nat) :
    Prop :=
  ∃ before after s, as = before ++ .executorEnded i (.ok value) :: after ∧
    system.Steps StepSystem.Free system.init before s ∧ s.Executing i key f ∧
    (executes before).length = n

theorem Produces.append {n : Nat} (h : Produces as i key f value n) (bs : List (Action V)) :
    Produces (as ++ bs) i key f value n := by
  obtain ⟨before, after, s, rfl, hrest⟩ := h
  exact ⟨before, after ++ bs, s, by rw [List.append_assoc, List.cons_append], hrest⟩

/-- What the futures of a run hold, and what its calls have returned. -/
structure Overlaps (as : List (Action V)) (s : RequestCoalescer V) : Prop where
  keys : executes as = s.calls.map ExecuteCall.key
  first : ∀ (i j : Nat) (c d : ExecuteCall V), s.calls[i]? = some c → s.calls[j]? = some d →
    c.leads = true → c.future = d.future → i ≤ j
  produced : ∀ (f : Nat) (value : V), s.futures[f]? = some (.result value) →
    ∃ i c n, s.calls[i]? = some c ∧ c.leads = true ∧ c.future = f ∧ c.result ≠ none ∧
      Produces as i c.key f value n ∧
      ∀ (j : Nat) (d : ExecuteCall V), s.calls[j]? = some d → d.future = f → j < n
  returned : ∀ (j : Nat) (c : ExecuteCall V) (value : V), s.calls[j]? = some c →
    c.result = some (.returned value) → s.futures[c.future]? = some (.result value)

theorem result_of_ofFuture {x : Option (Future V PyException)}
    (h : x.bind ofFuture = some (.returned value)) : x = some (.result value) := by
  obtain ⟨y, rfl, hy⟩ := Option.bind_eq_some_iff.mp h
  cases y with
  | result =>
    cases hy
    rfl
  | pending | exception | cancelled => cases hy

/-- What a leader returns is what it has put into its future. -/
theorem returned_complete {x : Future V PyException}
    (h : (complete x outcome).2 = .returned value) : (complete x outcome).1 = .result value := by
  cases outcome with
  | ok value' =>
    cases x with
    | pending =>
      cases h
      rfl
    | result | exception | cancelled => cases h
  | error exc =>
    simp only [complete] at h
    split at h
    · cases x <;> cases h
    · cases h

theorem complete_result {x : Future V PyException}
    (h : (complete x outcome).1 = .result value) : outcome = .ok value ∨ x = .result value := by
  rcases complete_later x outcome with rfl | hsame
  · refine .inl ?_
    cases outcome with
    | ok value' =>
      cases h
      rfl
    | error exc =>
      simp only [complete] at h
      split at h <;> cases h
  · exact .inr (hsame ▸ h)

/-! ## Cancelling gives no future a value -/

theorem cancel_eq_result {x : Future V PyException} :
    x.cancel = .result value ↔ x = .result value := by
  cases x with
  | pending => constructor <;> nofun
  | result | exception | cancelled => exact .rfl

theorem result_modify_cancel (futures : List (Future V PyException)) (g f : Nat) :
    (futures.modify g Future.cancel)[f]? = some (.result value) ↔
      futures[f]? = some (.result value) := by
  rw [List.getElem?_modify]
  cases futures[f]? with
  | none => exact .rfl
  | some x =>
    simp only [Option.map_eq_map, Option.map_some, Option.some_inj]
    split
    · exact cancel_eq_result
    · exact .rfl

theorem result_cancelAll (requests : List PendingRequest) (futures : List (Future V PyException))
    (f : Nat) :
    (requests.foldl (fun futures r => futures.modify r.future Future.cancel) futures)[f]? =
      some (.result value) ↔ futures[f]? = some (.result value) := by
  induction requests generalizing futures with
  | nil => exact .rfl
  | cons r requests ih => exact (ih _).trans (result_modify_cancel futures r.future f)

/-! ## A call that changes -/

section

variable {c' : ExecuteCall V} (hc : s.calls[i]? = some c) (hcalls : t.calls = s.calls.set i c')
  (hsame : Same c c')
include hc hcalls hsame

theorem keys_set : t.calls.map ExecuteCall.key = s.calls.map ExecuteCall.key := by
  refine List.ext_getElem? fun k => ?_
  rw [hcalls, List.getElem?_map, List.getElem?_map, getElem?_set_of_some hc]
  split
  · subst_vars
    rw [hc, Option.map_some, Option.map_some, hsame.key]
  · rfl

theorem call_before {d' : ExecuteCall V} (hd' : t.calls[j]? = some d') :
    ∃ d, s.calls[j]? = some d ∧ Same d d' ∧ (d' = d ∨ d = c ∧ d' = c') := by
  rw [hcalls] at hd'
  rcases getElem?_set_cases hd' with ⟨rfl, rfl⟩ | ⟨-, hd⟩
  · exact ⟨c, hc, hsame, .inr ⟨rfl, rfl⟩⟩
  · exact ⟨d', hd, .refl d', .inl rfl⟩

theorem call_after (hd : s.calls[j]? = some d) :
    ∃ d', t.calls[j]? = some d' ∧ Same d d' ∧ (d' = d ∨ d' = c') := by
  rw [hcalls, getElem?_set_of_some hc]
  split
  · subst_vars
    rw [hc] at hd
    cases hd
    exact ⟨c', rfl, hsame, .inr rfl⟩
  · exact ⟨d, hd, .refl d, .inl rfl⟩

end

namespace Overlaps

theorem init : Overlaps [] ({} : RequestCoalescer V) where
  keys := rfl
  first i j c d hc := by simp at hc
  produced f value hf := by simp at hf
  returned j c value hc := by simp at hc

/-- While a leader executes, its future holds no value. -/
theorem open_of_executing (h : Overlaps as s) (hs : Consistent s)
    (hexecuting : s.Executing i key f) : s.futures[f]? ≠ some (.result value) := by
  intro hf
  obtain ⟨c, hc, hleads, hnone, -, hfuture⟩ := hexecuting
  obtain ⟨k, d, n, hd, hdl, hdf, hended, -⟩ := h.produced f value hf
  have hik : i = k := hs.unique i k c d hc hd hleads hdl (hfuture.trans hdf.symm)
  subst hik
  rw [hc] at hd
  cases hd
  exact hended hnone

/-- No call is made, and no future gets a value. -/
theorem frame (h : Overlaps as s) (ha : executes [a] = [])
    (hkeys : t.calls.map ExecuteCall.key = s.calls.map ExecuteCall.key)
    (hback : ∀ (i : Nat) (c' : ExecuteCall V), t.calls[i]? = some c' →
      ∃ c, s.calls[i]? = some c ∧ Same c c' ∧ (c'.result = c.result ∨ ∀ value,
        c'.result = some (.returned value) → s.futures[c.future]? = some (.result value)))
    (hforth : ∀ (i : Nat) (c : ExecuteCall V), s.calls[i]? = some c →
      ∃ c', t.calls[i]? = some c' ∧ Same c c' ∧ (c.result ≠ none → c'.result ≠ none))
    (hfutures : ∀ (f : Nat) (value : V),
      t.futures[f]? = some (.result value) ↔ s.futures[f]? = some (.result value)) :
    Overlaps (as ++ [a]) t where
  keys := by rw [executes_append, ha, List.append_nil, h.keys, hkeys]
  first i j c' d' hc' hd' hleads hf := by
    obtain ⟨c, hc, hcc, -⟩ := hback i c' hc'
    obtain ⟨d, hd, hdd, -⟩ := hback j d' hd'
    exact h.first i j c d hc hd (hcc.leads ▸ hleads) (by rw [← hcc.future, ← hdd.future, hf])
  produced f value hf := by
    obtain ⟨i, c, n, hc, hleads, hcf, hended, hproduces, hmade⟩ :=
      h.produced f value ((hfutures f value).mp hf)
    obtain ⟨c', hc', hsame, hresult⟩ := hforth i c hc
    refine ⟨i, c', n, hc', hsame.leads.trans hleads, hsame.future.trans hcf, hresult hended, ?_,
      fun j d' hd' hdf => ?_⟩
    · rw [hsame.key]
      exact hproduces.append [a]
    · obtain ⟨d, hd, hdd, -⟩ := hback j d' hd'
      exact hmade j d hd (hdd.future ▸ hdf)
  returned j c' value hc' hr := by
    obtain ⟨c, hc, hsame, hsource⟩ := hback j c' hc'
    rw [hsame.future, hfutures]
    rcases hsource with hsource | hsource
    · exact h.returned j c value hc (hsource ▸ hr)
    · exact hsource value hr

/-- A waiter ends. -/
theorem setWaiter {c' : ExecuteCall V} (h : Overlaps as s) (ha : executes [a] = [])
    (hc : s.calls[i]? = some c) (hcalls : t.calls = s.calls.set i c') (hsame : Same c c')
    (hended : c'.result ≠ none)
    (hresult : ∀ value, c'.result = some (.returned value) →
      s.futures[c.future]? = some (.result value))
    (hfutures : ∀ (f : Nat) (value : V),
      t.futures[f]? = some (.result value) ↔ s.futures[f]? = some (.result value)) :
    Overlaps (as ++ [a]) t := by
  refine h.frame ha (keys_set hc hcalls hsame) (fun j d' hd' => ?_) (fun j d hd => ?_) hfutures
  · obtain ⟨d, hd, hdd, rfl | ⟨rfl, rfl⟩⟩ := call_before hc hcalls hsame hd'
    · exact ⟨d', hd, hdd, .inl rfl⟩
    · exact ⟨d, hd, hdd, .inr hresult⟩
  · obtain ⟨d', hd', hdd, rfl | rfl⟩ := call_after hc hcalls hsame hd
    · exact ⟨d', hd', hdd, id⟩
    · exact ⟨d', hd', hdd, fun _ => hended⟩

theorem execute (h : Overlaps as s) (hs : Consistent s) (key : String) :
    Overlaps (as ++ [.execute key]) (s.execute key) := by
  unfold RequestCoalescer.execute
  dsimp only
  cases hget : s.pending.get? key with
  | some request =>
    obtain ⟨k, l, hl, hleads, hnone, hkey, hfuture⟩ := hs.entry key request hget
    have hopen (value : V) : s.futures[request.future]? ≠ some (.result value) :=
      h.open_of_executing hs ⟨l, hl, hleads, hnone, hkey, hfuture⟩
    refine ⟨?_, fun i j c d hc hd hcl hf => ?_, fun f value hf => ?_, fun j c value hc hr => ?_⟩
    · rw [executes_append, executes_execute, h.keys, List.map_append]
      rfl
    · rcases getElem?_concat_cases hc with hc | ⟨rfl, rfl⟩
      · rcases getElem?_concat_cases hd with hd | ⟨rfl, rfl⟩
        · exact h.first i j c d hc hd hcl hf
        · exact Nat.le_of_lt (List.getElem?_eq_some_iff.mp hc).1
      · cases hcl
    · obtain ⟨i, c, n, hc, hcl, hcf, hended, hproduces, hmade⟩ := h.produced f value hf
      refine ⟨i, c, n, getElem?_concat_of_some hc _, hcl, hcf, hended, hproduces.append _,
        fun j d hd hdf => ?_⟩
      rcases getElem?_concat_cases hd with hd | ⟨rfl, rfl⟩
      · exact hmade j d hd hdf
      · subst hdf
        exact absurd hf (hopen value)
    · rcases getElem?_concat_cases hc with hc | ⟨rfl, rfl⟩
      · exact h.returned j c value hc hr
      · exact absurd (result_of_ofFuture hr) (hopen value)
  | none =>
    have hold {i : Nat} {c : ExecuteCall V} (hc : s.calls[i]? = some c) :
        c.future < s.futures.length := hs.bounded i c hc
    refine ⟨?_, fun i j c d hc hd hcl hf => ?_, fun f value hf => ?_, fun j c value hc hr => ?_⟩
    · rw [executes_append, executes_execute, h.keys, List.map_append]
      rfl
    · rcases getElem?_concat_cases hc with hc | ⟨rfl, rfl⟩
      · rcases getElem?_concat_cases hd with hd | ⟨rfl, rfl⟩
        · exact h.first i j c d hc hd hcl hf
        · exact absurd hf (Nat.ne_of_lt (hold hc))
      · rcases getElem?_concat_cases hd with hd | ⟨rfl, rfl⟩
        · exact absurd hf.symm (Nat.ne_of_lt (hold hd))
        · exact Nat.le_refl _
    · rcases getElem?_concat_cases hf with hf | ⟨-, hf⟩
      · obtain ⟨i, c, n, hc, hcl, hcf, hended, hproduces, hmade⟩ := h.produced f value hf
        refine ⟨i, c, n, getElem?_concat_of_some hc _, hcl, hcf, hended, hproduces.append _,
          fun j d hd hdf => ?_⟩
        rcases getElem?_concat_cases hd with hd | ⟨rfl, rfl⟩
        · exact hmade j d hd hdf
        · exact absurd (hcf.trans hdf.symm) (Nat.ne_of_lt (hold hc))
      · cases hf
    · rcases getElem?_concat_cases hc with hc | ⟨rfl, rfl⟩
      · exact getElem?_concat_of_some (h.returned j c value hc hr) _
      · cases hr

/-- A leader ends, with what its executor makes of its future. -/
theorem setLeader {c' : ExecuteCall V} {x : Future V PyException} (h : Overlaps as s)
    (hs : Consistent s) (hrun : system.Steps StepSystem.Free system.init as s)
    (hc : s.calls[i]? = some c) (hexecuting : s.Executing i c.key c.future)
    (hx : s.futures[c.future]? = some x) (hcalls : t.calls = s.calls.set i c') (hsame : Same c c')
    (hended : c'.result ≠ none)
    (hresult : ∀ value, c'.result = some (.returned value) →
      (complete x outcome).1 = .result value)
    (hfutures : t.futures = s.futures.set c.future (complete x outcome).1) :
    Overlaps (as ++ [.executorEnded i outcome]) t := by
  have hopen (value : V) : x ≠ .result value := fun hx' =>
    h.open_of_executing hs hexecuting (hx.trans (congrArg some hx'))
  have hmade {j : Nat} {d' : ExecuteCall V} (hd' : t.calls[j]? = some d') :
      j < (executes as).length := by
    obtain ⟨d, hd, -⟩ := call_before hc hcalls hsame hd'
    rw [h.keys, List.length_map]
    exact (List.getElem?_eq_some_iff.mp hd).1
  refine ⟨?_, fun j k d' e' hd' he' hdl hf => ?_, fun f value hf => ?_,
    fun j d' value hd' hr => ?_⟩
  · rw [executes_append, keys_set hc hcalls hsame, ← h.keys]
    exact List.append_nil _
  · obtain ⟨d, hd, hdd, -⟩ := call_before hc hcalls hsame hd'
    obtain ⟨e, he, hee, -⟩ := call_before hc hcalls hsame he'
    exact h.first j k d e hd he (hdd.leads ▸ hdl) (by rw [← hdd.future, ← hee.future, hf])
  · rw [hfutures, getElem?_set_of_some hx] at hf
    split at hf
    · rename_i hcf
      obtain rfl := (complete_result (Option.some.inj hf)).resolve_right (hopen value)
      refine ⟨i, c', _, hcalls ▸ getElem?_set_self_of_some hc c', ?_,
        hsame.future.trans hcf, hended, ⟨as, [], s, rfl, hrun, ?_, rfl⟩,
        fun j d' hd' _ => hmade hd'⟩
      · obtain ⟨d, hd, hleads, -⟩ := hexecuting
        rw [hc] at hd
        cases hd
        exact hsame.leads.trans hleads
      · rw [hsame.key, ← hcf]
        exact hexecuting
    · obtain ⟨k, d, n, hd, hdl, hdf, hdr, hproduces, hbefore⟩ := h.produced f value hf
      obtain ⟨d', hd', hdd, hcases⟩ := call_after hc hcalls hsame hd
      refine ⟨k, d', n, hd', hdd.leads.trans hdl, hdd.future.trans hdf, ?_, ?_,
        fun j e' he' hef => ?_⟩
      · rcases hcases with rfl | rfl
        · exact hdr
        · exact hended
      · rw [hdd.key]
        exact hproduces.append _
      · obtain ⟨e, he, hee, -⟩ := call_before hc hcalls hsame he'
        exact hbefore j e he (hee.future ▸ hef)
  · rw [hfutures, getElem?_set_of_some hx]
    obtain ⟨d, hd, hdd, rfl | ⟨rfl, rfl⟩⟩ := call_before hc hcalls hsame hd'
    · have hdf := h.returned j d' value hd hr
      split
      · rename_i hf
        rw [← hf, hx] at hdf
        exact absurd (Option.some.inj hdf) (hopen value)
      · exact hdf
    · rw [hsame.future, if_pos rfl, hresult value hr]

theorem executorEnded (h : Overlaps as s) (hs : Consistent s)
    (hrun : system.Steps StepSystem.Free system.init as s) (hc : s.unfinished i true = some c) :
    Overlaps (as ++ [.executorEnded i outcome]) (s.executorEnded i c outcome) := by
  obtain ⟨x, hx⟩ := hs.future (unfinished_eq_some.mp hc).1
  obtain ⟨hc, hleads, hnone⟩ := unfinished_eq_some.mp hc
  unfold RequestCoalescer.executorEnded
  rw [hx, Option.getD_some]
  refine h.setLeader hs hrun hc ⟨c, hc, hleads, hnone, rfl, rfl⟩ hx rfl ⟨rfl, rfl, rfl⟩ nofun
    (fun value hr => ?_) rfl
  dsimp only at hr
  split at hr
  · exact returned_complete (Option.some.inj hr)
  · cases hr

theorem step (h : Overlaps as s) (hs : Consistent s)
    (hrun : system.Steps StepSystem.Free system.init as s) (hstep : s.step a = some t) :
    Overlaps (as ++ [a]) t := by
  cases a with
  | execute key =>
    cases hstep
    exact h.execute hs key
  | executorEnded i outcome =>
    obtain ⟨c, hc, rfl⟩ := Option.map_eq_some_iff.mp hstep
    exact h.executorEnded hs hrun hc
  | resume i =>
    obtain ⟨c, hc, hresume⟩ := Option.bind_eq_some_iff.mp hstep
    obtain ⟨result, hresult, rfl⟩ := Option.map_eq_some_iff.mp hresume
    refine h.setWaiter rfl (unfinished_eq_some.mp hc).1 rfl ⟨rfl, rfl, rfl⟩ nofun
      (fun value hr => ?_) (fun _ _ => .rfl)
    cases hr
    exact result_of_ofFuture hresult
  | cancelWaiter i =>
    obtain ⟨c, hc, rfl⟩ := Option.map_eq_some_iff.mp hstep
    refine h.setWaiter rfl (unfinished_eq_some.mp hc).1 rfl ⟨rfl, rfl, rfl⟩ nofun nofun
      fun f value =>
        result_modify_cancel s.futures c.future f
  | clear =>
    cases hstep
    refine h.frame rfl rfl (fun i c hc => ⟨c, hc, .refl c, .inl rfl⟩)
      (fun i c hc => ⟨c, hc, .refl c, id⟩) fun f value =>
        result_cancelAll s.pending.values s.futures f

end Overlaps

/-- A run with what holds at its end. -/
structure Recorded (as : List (Action V)) (s : RequestCoalescer V) : Prop where
  steps : system.Steps StepSystem.Free system.init as s
  consistent : Consistent s
  overlaps : Overlaps as s

theorem steps_recorded (h : system.Steps StepSystem.Free system.init as s) : Recorded as s := by
  have hinv : Recorded ([] ++ as) s :=
    h.history (fun as s a t hs ho hstep => ⟨hs.steps.snoc ho hstep, hs.consistent.step hstep,
      hs.overlaps.step hs.consistent hs.steps hstep⟩) ⟨.nil _, .init, .init⟩
  exact hinv

/-! ## Coalesced calls linearize -/

/-- The value that a call returns is what one executor for its key has ended with. That executor's
call was made no later than this one, and this one before the executor has ended. -/
theorem returned_overlaps (h : system.Steps StepSystem.Free system.init as s)
    (hc : s.calls[j]? = some c) (hr : c.result = some (.returned value)) :
    ∃ i before after s₁, as = before ++ .executorEnded i (.ok value) :: after ∧
      system.Steps StepSystem.Free system.init before s₁ ∧ s₁.Executing i c.key c.future ∧
      i ≤ j ∧ j < (executes before).length ∧
      (executes as)[i]? = some c.key ∧ (executes as)[j]? = some c.key := by
  obtain ⟨-, hs, hoverlaps⟩ := steps_recorded h
  have hf := hoverlaps.returned j c value hc hr
  obtain ⟨i, d, n, hd, hdl, hdf, -, ⟨before, after, s₁, has, hbefore, hexecuting, rfl⟩, hmade⟩ :=
    hoverlaps.produced c.future value hf
  obtain ⟨k, e, he, hel, hek, hef⟩ := hs.leader j c hc
  have hik : i = k := hs.unique i k d e hd he hdl hel (hdf.trans hef.symm)
  subst hik
  rw [hd] at he
  cases he
  have hkey {k : Nat} {e : ExecuteCall V} (he : s.calls[k]? = some e) :
      (executes as)[k]? = some e.key := by
    rw [hoverlaps.keys, List.getElem?_map, he, Option.map_some]
  exact ⟨i, before, after, s₁, has, hbefore, hek ▸ hexecuting,
    hoverlaps.first i j d c hd hc hdl hdf, hmade j c hc rfl, hek ▸ hkey hd, hkey hc⟩

/-- A call joins an execution whose entry is then cleared; a third one starts another. -/
theorem returned_overlaps_cleared :
    ∃ i before after, ([.execute "a", .clear, .execute "a", .execute "a",
        .executorEnded 1 (.ok 7), .resume 2] : List (Action Nat)) =
          before ++ .executorEnded i (.ok 7) :: after ∧ i ≤ 2 ∧ 2 < (executes before).length := by
  let as : List (Action Nat) := [.execute "a", .clear, .execute "a", .execute "a",
    .executorEnded 1 (.ok 7), .resume 2]
  obtain ⟨s, hs, hcall⟩ := StepSystem.replay_any
    (p := fun s : RequestCoalescer Nat =>
      ((s.calls[2]?).any fun c => c.result = some (.returned 7)) = true)
    (show (system.replay StepSystem.Free system.init as).any _ = true by decide)
  obtain ⟨c, hc, hresult⟩ := (Option.any_eq_true _ _).mp hcall
  obtain ⟨i, before, after, -, has, -, -, hij, hmade, -⟩ :=
    returned_overlaps (StepSystem.steps_of_replay hs) hc (of_decide_eq_true hresult)
  exact ⟨i, before, after, has, hij, hmade⟩

end AioHomematic.Client.RequestCoalescer
