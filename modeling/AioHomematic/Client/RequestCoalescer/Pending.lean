import AioHomematic.Client.RequestCoalescer.Leaders

/-!
# The pending map

The entry of a leader goes when the leader ends, by `del self._pending[key]`,
whoever put the entry there. So the map is right as long as `clear()` is called
only while no leader is executing (`ClearsIdle`): then every executing leader
is registered. A `clear()` under an executing leader leaves it without an entry
and lets it fail, or lets it remove the entry of a later one.
-/

namespace AioHomematic.Client.RequestCoalescer

open Lib ExecuteResult

variable {V : Type*} {s t : RequestCoalescer V} {a : Action V} {i j f : Nat} {key : String}
  {c d : ExecuteCall V} {outcome : Except PyException V}

/-- `clear()` finds no executing leader. -/
def ClearsIdle (s : RequestCoalescer V) : Action V → Prop
  | .clear => ∀ c ∈ s.calls, c.leads = true → c.result.isSome
  | _ => True

instance : DecidableRel (ClearsIdle : RequestCoalescer V → Action V → Prop)
  | s, .clear => inferInstanceAs (Decidable (∀ c ∈ s.calls, c.leads = true → c.result.isSome))
  | _, .execute _ => .isTrue trivial
  | _, .executorEnded _ _ => .isTrue trivial
  | _, .resume _ => .isTrue trivial
  | _, .cancelWaiter _ => .isTrue trivial

/-- Every executing leader has its entry. -/
def Registered (s : RequestCoalescer V) : Prop :=
  ∀ i key f, s.Executing i key f → ∃ request, s.pending.get? key = some request ∧ request.future = f

/-- A leader that is executing after one call has changed was so before, or is that call. -/
theorem Executing.of_set {c' : ExecuteCall V} (h : t.Executing j key f)
    (hcalls : t.calls = s.calls.set i c') :
    s.Executing j key f ∧ i ≠ j ∨ i = j ∧ c'.leads = true ∧ c'.result = none := by
  obtain ⟨d, hd, hleads, hnone, hrest⟩ := h
  rw [hcalls] at hd
  rcases getElem?_set_cases hd with ⟨hij, rfl⟩ | ⟨hne, hd⟩
  · exact .inr ⟨hij, hleads, hnone⟩
  · exact .inl ⟨⟨d, hd, hleads, hnone, hrest⟩, hne⟩

namespace Registered

theorem execute (h : Registered s) (key : String) : Registered (s.execute key) := by
  unfold RequestCoalescer.execute
  dsimp only
  cases hget : s.pending.get? key with
  | some request =>
    rintro i key' f ⟨c, hc, hleads, hrest⟩
    rcases getElem?_concat_cases hc with hc | ⟨-, rfl⟩
    · obtain ⟨r, hr, hf⟩ := h i key' f ⟨c, hc, hleads, hrest⟩
      dsimp only
      rw [Dict.get?_set]
      split
      · subst_vars
        rw [hget] at hr
        cases hr
        exact ⟨_, rfl, rfl⟩
      · exact ⟨r, hr, hf⟩
    · cases hleads
  | none =>
    rintro i key' f ⟨c, hc, hleads, hnone, hkey, hfuture⟩
    dsimp only
    rcases getElem?_concat_cases hc with hc | ⟨-, rfl⟩
    · obtain ⟨r, hr, hf⟩ := h i key' f ⟨c, hc, hleads, hnone, hkey, hfuture⟩
      rw [Dict.get?_set_of_ne, hr]
      · exact ⟨r, rfl, hf⟩
      · rintro rfl
        rw [hget] at hr
        cases hr
    · subst hkey hfuture
      exact ⟨_, Dict.get?_set_self _ _ _, rfl⟩

theorem executorEnded (h : Registered s) (hs : Consistent s) (hc : s.unfinished i true = some c) :
    Registered (s.executorEnded i c outcome) := by
  obtain ⟨hc, hleads, hnone⟩ := unfinished_eq_some.mp hc
  intro j key f hj
  rcases hj.of_set rfl with ⟨hj, hne⟩ | ⟨-, -, hsome⟩
  · obtain ⟨request, hget, hf⟩ := h j key f hj
    refine ⟨request, ?_, hf⟩
    dsimp only [RequestCoalescer.executorEnded]
    rw [Dict.get?_erase_of_ne _ ?_, hget]
    rintro rfl
    -- the entry would be that of both leaders
    obtain ⟨request', hget', hf'⟩ := h i c.key c.future ⟨c, hc, hleads, hnone, rfl, rfl⟩
    rw [hget] at hget'
    cases hget'
    obtain ⟨d, hd, hdl, -, -, hdf⟩ := hj
    exact hne (hs.unique i j c d hc hd hleads hdl (by rw [hdf, ← hf, hf']))
  · cases hsome

theorem setWaiter {c' : ExecuteCall V} (h : Registered s) (hcalls : t.calls = s.calls.set i c')
    (hwaits : c'.leads = false) (hpending : t.pending = s.pending) : Registered t := by
  intro j key f hj
  rcases hj.of_set hcalls with ⟨hj, -⟩ | ⟨-, hleads, -⟩
  · rw [hpending]
    exact h j key f hj
  · rw [hleads] at hwaits
    cases hwaits

theorem step (h : Registered s) (hs : Consistent s) (hok : ClearsIdle s a)
    (hstep : s.step a = some t) : Registered t := by
  cases a with
  | execute key =>
    cases hstep
    exact h.execute key
  | executorEnded i outcome =>
    obtain ⟨c, hc, rfl⟩ := Option.map_eq_some_iff.mp hstep
    exact h.executorEnded hs hc
  | resume i =>
    obtain ⟨c, hc, hresume⟩ := Option.bind_eq_some_iff.mp hstep
    obtain ⟨result, -, rfl⟩ := Option.map_eq_some_iff.mp hresume
    exact h.setWaiter rfl (unfinished_eq_some.mp hc).2.1 rfl
  | cancelWaiter i =>
    obtain ⟨c, hc, rfl⟩ := Option.map_eq_some_iff.mp hstep
    exact h.setWaiter rfl (unfinished_eq_some.mp hc).2.1 rfl
  | clear =>
    rintro i key f ⟨c, hc, hleads, hnone, -⟩
    cases hstep
    have hsome := hok c (List.mem_of_getElem? hc) hleads
    rw [hnone] at hsome
    cases hsome

theorem init : Registered ({} : RequestCoalescer V) := by
  rintro i key f ⟨c, hc, -⟩
  simp at hc

end Registered

theorem reach_registered {ok : RequestCoalescer V → Action V → Prop}
    (hok : ∀ s a, ok s a → ClearsIdle s a) (h : system.Reach ok s) : Registered s := by
  have hinv : Consistent s ∧ Registered s :=
    h.invariant (P := fun s => Consistent s ∧ Registered s) ⟨.init, .init⟩
      fun s a _ hs ho hstep => ⟨hs.1.step hstep, hs.2.step hs.1 (hok s a ho) hstep⟩
  exact hinv.2

/-- The call `i` has ended with a `KeyError`. -/
def FailsByKey (s : RequestCoalescer V) (i : Nat) : Prop :=
  ∃ c, s.calls[i]? = some c ∧ c.result = some .keyError

theorem executing_iff : s.Executing i key f ↔
    ∃ c, s.unfinished i true = some c ∧ c.key = key ∧ c.future = f := by
  constructor
  · rintro ⟨c, hc, hleads, hnone, hrest⟩
    exact ⟨c, unfinished_eq_some.mpr ⟨hc, hleads, hnone⟩, hrest⟩
  · rintro ⟨c, hc, hrest⟩
    obtain ⟨hc, hleads, hnone⟩ := unfinished_eq_some.mp hc
    exact ⟨c, hc, hleads, hnone, hrest⟩

theorem complete_ne_keyError (x : Future V PyException) (outcome : Except PyException V) :
    (complete x outcome).2 ≠ .keyError := by
  cases outcome with
  | ok value =>
    simp only [complete]
    split <;> simp
  | error exc =>
    simp only [complete]
    split
    · split <;> simp
    · simp

/-- A leader whose executor has ended fails by the key if there is no entry for it. -/
theorem failsByKey_executorEnded (hc : s.calls[i]? = some c) :
    (s.executorEnded i c outcome).FailsByKey i ↔ s.pending.get? c.key = none := by
  unfold FailsByKey executorEnded
  dsimp only
  rw [getElem?_set_self_of_some hc]
  simp only [Option.some.injEq, exists_eq_left']
  by_cases hget : s.pending.get? c.key = none
  · rw [if_neg (by rw [Dict.contains_iff]; exact not_not_intro hget)]
    exact iff_of_true rfl hget
  · rw [if_pos (Dict.contains_iff.mpr hget)]
    exact iff_of_false (complete_ne_keyError _ _) hget

/-- **The pending map**: in runs that clear it only while no leader is executing, every entry is
that of an executing leader, no two leaders execute for one key, and a leader that ends removes
its own entry and does not fail for want of it. -/
theorem pending_map (hreach : system.Reach ClearsIdle s) :
    (∀ key request, s.pending.get? key = some request → ∃ i, s.Executing i key request.future) ∧
      (∀ i j key f g, s.Executing i key f → s.Executing j key g → i = j) ∧
      ∀ i key f outcome t, s.Executing i key f → s.step (.executorEnded i outcome) = some t →
        (∃ request, s.pending.get? key = some request ∧ request.future = f) ∧
          t.pending = s.pending.erase key ∧ ¬ t.FailsByKey i := by
  have hs := reach_consistent hreach
  have hregistered := reach_registered (fun _ _ => id) hreach
  refine ⟨hs.entry, fun i j key f g hi hj => ?_, fun i key f outcome t hi hstep => ?_⟩
  · obtain ⟨request, hget, hf⟩ := hregistered i key f hi
    obtain ⟨request', hget', hg⟩ := hregistered j key g hj
    rw [hget] at hget'
    cases hget'
    obtain ⟨c, hc, hcl, -, -, hcf⟩ := hi
    obtain ⟨d, hd, hdl, -, -, hdf⟩ := hj
    exact hs.unique i j c d hc hd hcl hdl (by rw [hcf, hdf, ← hf, hg])
  · obtain ⟨request, hget, hf⟩ := hregistered i key f hi
    obtain ⟨c, hc, rfl, rfl⟩ := executing_iff.mp hi
    obtain ⟨c', hc', rfl⟩ := Option.map_eq_some_iff.mp hstep
    rw [hc] at hc'
    cases hc'
    refine ⟨⟨request, hget, hf⟩, rfl, fun hfails => ?_⟩
    rw [failsByKey_executorEnded (unfinished_eq_some.mp hc).1, hget] at hfails
    cases hfails

/-! ## A map that is cleared -/

/-- Two calls for one key, one for another; the map is cleared when the leaders have ended. -/
def sampleRequests : List (Action Nat) :=
  [.execute "a", .execute "b", .execute "a", .executorEnded 0 (.ok 5),
    .executorEnded 1 (.error { cls := .timeoutError }), .clear, .resume 2, .execute "a",
    .execute "a"]

theorem pending_map_again :
    ∃ s, system.replay ClearsIdle system.init sampleRequests = some s ∧
      (∃ request, s.pending.get? "a" = some request ∧ s.Executing 3 "a" request.future) ∧
      ∀ outcome t, s.step (.executorEnded 3 outcome) = some t →
        t.pending = s.pending.erase "a" ∧ ¬ t.FailsByKey 3 := by
  obtain ⟨s, hs, hget, hcall⟩ := StepSystem.replay_any
    (p := fun s : RequestCoalescer Nat => s.pending.get? "a" = some ⟨2, 2⟩ ∧
      ((s.unfinished 3 true).any fun c => c.key = "a" ∧ c.future = 2) = true)
    (show (system.replay ClearsIdle system.init sampleRequests).any _ = true by decide)
  obtain ⟨c, hc, htest⟩ := (Option.any_eq_true _ _).mp hcall
  obtain ⟨hkey, hfuture⟩ := of_decide_eq_true htest
  have hexecuting : s.Executing 3 "a" 2 := executing_iff.mpr ⟨c, hc, hkey, hfuture⟩
  refine ⟨s, hs, ⟨_, hget, hexecuting⟩, fun outcome t hstep => ?_⟩
  obtain ⟨-, -, hends⟩ := pending_map (StepSystem.reach_of_replay hs)
  exact (hends 3 "a" 2 outcome t hexecuting hstep).2

/-- The map is cleared under a leader: it removes the entry of the next leader, which then fails. -/
theorem pending_map_cleared :
    ∃ s t u, system.Reach StepSystem.Free s ∧
      (∃ request, s.pending.get? "a" = some request ∧ s.Executing 1 "a" request.future) ∧
      s.step (.executorEnded 0 (.ok 5)) = some t ∧ t.pending.get? "a" = none ∧
      t.Executing 1 "a" 1 ∧ t.step (.executorEnded 1 (.ok 6)) = some u ∧ u.FailsByKey 1 := by
  let as : List (Action Nat) := [.execute "a", .clear, .execute "a"]
  let s := ((({} : RequestCoalescer Nat).execute "a").clear).execute "a"
  have hs : system.replay StepSystem.Free system.init as = some s := rfl
  exact ⟨s, _, _, StepSystem.reach_of_replay hs, ⟨⟨1, 1⟩, rfl, _, rfl, rfl, rfl, rfl, rfl⟩, rfl,
    rfl, ⟨_, rfl, rfl, rfl, rfl, rfl⟩, rfl, _, rfl, rfl⟩

end AioHomematic.Client.RequestCoalescer
