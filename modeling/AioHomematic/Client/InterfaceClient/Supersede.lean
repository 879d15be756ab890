import AioHomematic.Client.CommandThrottle.Purge
import AioHomematic.Client.InterfaceClient.Moves

/-!
# Superseded calls

A call whose cancel event is set makes no further attempt, nor does one that
has ended or that the throttle will not grant (`Stilled`). Which event a call
listens to and which one is cancelled in its place meet in `Registered`: the
event of an unfinished call that is not set is the one registered for its key.
-/

namespace AioHomematic.Client

open Lib Relation

variable {V : Type*}

/-- The cancel event of a call that has started with retry enabled. -/
def Call.event (c : Call V) : Option Nat := c.execution.bind (·.event)

namespace InterfaceClient

variable [DecidableEq V] {cfg : Config} {s t u : InterfaceClient V} {a : Action V}
  {P : StartCondition V}

/-! ## Registrations -/

structure Registered (cfg : Config) (s : InterfaceClient V) : Prop where
  bounded : s.retryHandler.Bounded
  created : ∀ (i : Nat) (c : Call V) (event : Nat), s.calls[i]? = some c → c.event = some event →
    event < s.retryHandler.cancelEvents.length
  own : ∀ (i j : Nat) (c d : Call V) (event : Nat), s.calls[i]? = some c → s.calls[j]? = some d →
    c.event = some event → d.event = some event → i = j
  key : ∀ (i : Nat) (c : Call V) (e : Execution), s.calls[i]? = some c → c.execution = some e →
    e.dpk = c.request.retryKey cfg.interfaceId
  registered : ∀ (i : Nat) (c : Call V) (event : Nat), s.calls[i]? = some c →
    c.event = some event → c.result = none → ¬ s.retryHandler.isSet event →
    s.retryHandler.activeRetries.get? (c.request.retryKey cfg.interfaceId) = some event

/-- What `continueCall` makes of the call. -/
theorem continueCall_eq (cfg : Config) (i : Nat) (c : Call V)
    (r : Execution × CommandRetryHandler) (s : InterfaceClient V) :
    ∃ result inFlight, s.continueCall cfg i c r =
        { s with
          retryHandler := r.2
          inFlight
          calls := s.calls.set i { c with execution := some r.1, result } } ∧
      (result = c.result ∧ ¬ r.1.Finished ∨ result ≠ none ∧ r.1.Finished) := by
  unfold continueCall
  split
  · rename_i outcome hphase
    exact ⟨_, _, rfl, .inr ⟨by simp, outcome, hphase⟩⟩
  · rename_i hphase
    exact ⟨_, _, rfl, .inl ⟨rfl, fun ⟨outcome, h⟩ => hphase outcome h⟩⟩

@[simp] theorem continueCall_throttle (i : Nat) (c : Call V)
    (r : Execution × CommandRetryHandler) :
    (s.continueCall cfg i c r).throttle = s.throttle := by
  unfold continueCall; split <;> rfl

@[simp] theorem startExecution_throttle (i : Nat) (c : Call V) :
    (s.startExecution cfg i c).throttle = s.throttle := by
  unfold startExecution; simp

omit [DecidableEq V] in
/-- Nothing happens to the executions, and the handler only goes on. -/
theorem Registered.frame (hs : Registered cfg s)
    (hb : t.retryHandler.Bounded)
    (hlater : CommandRetryHandler.Later none s.retryHandler t.retryHandler)
    (hcalls : ∀ (i : Nat) (c : Call V), t.calls[i]? = some c → c.execution = none ∨
      ∃ d, s.calls[i]? = some d ∧ d.request = c.request ∧ d.execution = c.execution ∧
        (c.result = none → d.result = none)) : Registered cfg t := by
  have old {i : Nat} {c : Call V} {event : Nat} (hc : t.calls[i]? = some c)
      (hev : c.event = some event) :
      ∃ d, s.calls[i]? = some d ∧ d.request = c.request ∧ d.event = some event ∧
        (c.result = none → d.result = none) := by
    rcases hcalls i c hc with hnone | ⟨d, hd, hreq, hexec, hres⟩
    · simp [Call.event, hnone] at hev
    · exact ⟨d, hd, hreq, by rw [← hev, Call.event, Call.event, hexec], hres⟩
  refine ⟨hb, fun i c event hc hev => ?_, fun i j c d event hc hd hev hev' => ?_,
    fun i c e hc he => ?_, fun i c event hc hev hres hset => ?_⟩
  · obtain ⟨d, hd, -, hev', -⟩ := old hc hev
    exact (hs.created i d event hd hev').trans_le hlater.length
  · obtain ⟨c', hc', -, hevc, -⟩ := old hc hev
    obtain ⟨d', hd', -, hevd, -⟩ := old hd hev'
    exact hs.own i j c' d' event hc' hd' hevc hevd
  · rcases hcalls i c hc with hnone | ⟨d, hd, hreq, hexec, -⟩
    · simp [hnone] at he
    · rw [← hreq]
      exact hs.key i d e hd (hexec ▸ he)
  · obtain ⟨d, hd, hreq, hev', hres'⟩ := old hc hev
    have hget := hs.registered i d event hd hev' (hres' hres) fun h => hset (hlater.isSet event h)
    rw [← hreq]
    exact (hlater.kept _ event hget (by simp)).resolve_right hset

omit [DecidableEq V] in
/-- A call is answered or starts to wait; its execution, if any, is as before. -/
theorem Registered.setCall {i : Nat} {c c' : Call V} (hs : Registered cfg s)
    (hc : s.calls[i]? = some c) (hexec : c'.execution = none) :
    Registered cfg (s.setCall i c') := by
  refine hs.frame hs.bounded (.refl none _) fun j d hd => ?_
  rw [InterfaceClient.setCall, getElem?_set_of_some hc] at hd
  split at hd
  · cases hd; exact .inl hexec
  · exact .inr ⟨d, hd, rfl, rfl, id⟩

omit [DecidableEq V] in
/-- The call `i` gets the execution `e'`, in a handler that has only gone on otherwise. -/
theorem Registered.update {i : Nat} {c : Call V} {e' : Execution}
    {result : Option (Except PyException CallResult)} (hs : Registered cfg s)
    (hc : s.calls[i]? = some c)
    (hcalls : t.calls = s.calls.set i { c with execution := some e', result })
    (hb : t.retryHandler.Bounded)
    (hlength : s.retryHandler.cancelEvents.length ≤ t.retryHandler.cancelEvents.length)
    (hkey : e'.dpk = c.request.retryKey cfg.interfaceId)
    (hevent : ∀ event, e'.event = some event → event < t.retryHandler.cancelEvents.length ∧
      ∀ (j : Nat) (d : Call V), j ≠ i → s.calls[j]? = some d → d.event ≠ some event)
    (hothers : ∀ (j : Nat) (d : Call V) (event : Nat), j ≠ i → s.calls[j]? = some d →
      d.event = some event → d.result = none → ¬ t.retryHandler.isSet event →
      t.retryHandler.activeRetries.get? (d.request.retryKey cfg.interfaceId) = some event)
    (hself : ∀ event, e'.event = some event → result = none → ¬ t.retryHandler.isSet event →
      t.retryHandler.activeRetries.get? (c.request.retryKey cfg.interfaceId) = some event) :
    Registered cfg t := by
  have hget (j : Nat) : t.calls[j]? =
      if i = j then some { c with execution := some e', result } else s.calls[j]? := by
    rw [hcalls]; exact getElem?_set_of_some hc _ j
  have hcreated (j : Nat) (d : Call V) (event : Nat) (hd : t.calls[j]? = some d)
      (hev : d.event = some event) : event < t.retryHandler.cancelEvents.length := by
    rw [hget] at hd
    split at hd
    · cases hd; exact (hevent event hev).1
    · exact (hs.created j d event hd hev).trans_le hlength
  refine ⟨hb, hcreated, fun j k d f event hd hf hev hev' => ?_, fun j d e hd he => ?_,
    fun j d event hd hev hres hset => ?_⟩
  · rw [hget] at hd hf
    split at hd <;> split at hf
    · subst_vars; rfl
    · cases hd
      exact absurd hev' ((hevent event hev).2 k f (Ne.symm ‹_›) hf)
    · cases hf
      exact absurd hev ((hevent event hev').2 j d (Ne.symm ‹_›) hd)
    · exact hs.own j k d f event hd hf hev hev'
  · rw [hget] at hd
    split at hd
    · cases hd; cases he; exact hkey
    · exact hs.key j d e hd he
  · rw [hget] at hd
    split at hd
    · cases hd; exact hself event hev hres hset
    · exact hothers j d event (Ne.symm ‹_›) hd hev hres hset

theorem Registered.proceed {i : Nat} {c : Call V} {e : Execution}
    {r : Execution × CommandRetryHandler} (hs : Registered cfg s) (hc : s.calls[i]? = some c)
    (hexec : c.execution = some e) (hres : c.result = none)
    (hadv : e.Advance s.retryHandler r) : Registered cfg (s.continueCall cfg i c r) := by
  obtain ⟨result, inFlight, heq, hresult⟩ := continueCall_eq cfg i c r s
  have hcev (event : Nat) (hev : e.event = some event) : c.event = some event := by
    rw [Call.event, hexec]; exact hev
  have hkey := hs.key i c e hc hexec
  have hset (event : Nat) : r.2.isSet event ↔ s.retryHandler.isSet event := by
    unfold CommandRetryHandler.isSet; rw [hadv.events]
  rw [heq]
  refine hs.update hc rfl ?_ (by dsimp only; rw [hadv.events]) (hadv.dpk.trans hkey) ?_ ?_ ?_
  · intro dpk event hget
    dsimp only at hget ⊢
    rw [hadv.events]
    rcases hadv.registrations with hreg | ⟨-, own, -, -, hreg⟩
    · exact hs.bounded dpk event (hreg ▸ hget)
    · rw [hreg, Dict.get?_erase] at hget
      split at hget
      · cases hget
      · exact hs.bounded dpk event hget
  · intro event hev
    rw [hadv.event] at hev
    dsimp only
    rw [hadv.events]
    exact ⟨hs.created i c event hc (hcev event hev), fun j d hne hd hev' =>
      hne (hs.own j i d c event hd hc hev' (hcev event hev))⟩
  · intro j d event hne hd hev hdres hunset
    have hget := hs.registered j d event hd hev hdres fun h => hunset ((hset event).mpr h)
    dsimp only
    rcases hadv.registrations with hreg | ⟨-, own, hown, hregown, hreg⟩
    · rw [hreg, hget]
    · -- the registration that goes is that of `i`, and `j` has another event
      rw [hreg, Dict.get?_erase, if_neg, hget]
      intro heqkey
      rw [heqkey, hget] at hregown
      cases hregown
      exact hne (hs.own j i d c event hd hc hev (hcev event hown))
  · intro event hev hnone hunset
    rw [hadv.event] at hev
    rcases hresult with ⟨-, hnot⟩ | ⟨hsome, -⟩
    · rcases hadv.registrations with hreg | ⟨hfin, -⟩
      · dsimp only
        rw [hreg]
        exact hs.registered i c event hc (hcev event hev) hres fun h => hunset ((hset event).mpr h)
      · exact absurd hfin hnot
    · exact absurd hnone hsome

theorem Registered.start {i : Nat} {c : Call V} (hs : Registered cfg s)
    (hc : s.calls[i]? = some c) : Registered cfg (s.startExecution cfg i c) := by
  unfold startExecution Execution.executeWithRetry
  dsimp only
  split
  · refine hs.update hc rfl hs.bounded le_rfl rfl (fun event hev => by cases hev) ?_
      (fun event hev => by cases hev)
    intro j d event hne hd hev hres hset
    exact hs.registered j d event hd hev hres hset
  · obtain ⟨hid, hlength, hactive, hb, hlater, -⟩ := CommandRetryHandler.registerRetry_spec
      hs.bounded (c.request.retryKey cfg.interfaceId)
    refine hs.update hc rfl hb hlater.length rfl ?_ ?_ ?_
    · intro event hev
      cases hev
      rw [hid]
      refine ⟨by simp only [continueCall]; omega, fun j d hne hd hev => ?_⟩
      exact absurd (hs.created j d _ hd hev) (lt_irrefl _)
    · intro j d event hne hd hev hres hset
      have hget := hs.registered j d event hd hev hres fun h => hset (hlater.isSet event h)
      exact (hlater.kept _ event hget (by simp)).resolve_right hset
    · intro event hev _ _
      cases hev
      rw [hid]
      simp only [continueCall]
      rw [hactive, Dict.get?_set_self]

theorem Registered.move (hs : Registered cfg s) (h : Move cfg P s t) : Registered cfg t := by
  cases h with
  | cancel dpks =>
    obtain ⟨hb, hlater, -⟩ := CommandRetryHandler.foldl_cancel hs.bounded dpks
    exact hs.frame hb hlater fun i c hc => .inr ⟨c, hc, rfl, rfl, id⟩
  | throttle => exact hs.frame hs.bounded (.refl none _) fun i c hc => .inr ⟨c, hc, rfl, rfl, id⟩
  | create r =>
    refine hs.frame hs.bounded (.refl none _) fun i c hc => ?_
    dsimp only at hc
    rcases getElem?_concat_cases hc with hc | ⟨-, rfl⟩
    · exact .inr ⟨c, hc, rfl, rfl, id⟩
    · exact .inl rfl
  | wait hc _ _ hexec => exact hs.setCall hc hexec
  | reject hc hexec => exact hs.setCall hc hexec
  | start hc => exact hs.start hc
  | proceed hc hexec hres hadv => exact hs.proceed hc hexec hres hadv

omit [DecidableEq V] in
theorem init_registered : Registered cfg (init cfg : InterfaceClient V) := by
  have hnone (i : Nat) : (init cfg : InterfaceClient V).calls[i]? = none := rfl
  refine ⟨fun _ _ h => ?_, fun i _ _ h => ?_, fun i _ _ _ _ h => ?_, fun i _ _ h => ?_,
    fun i _ _ h => ?_⟩
  · cases h
  all_goals
    rw [hnone] at h
    cases h

/-! ## One call over a move -/

theorem startExecution_isSet {i : Nat} {c : Call V} (hs : Registered cfg s) {event : Nat}
    (h : s.retryHandler.isSet event) : (s.startExecution cfg i c).retryHandler.isSet event := by
  unfold startExecution Execution.executeWithRetry
  dsimp only
  split
  · exact h
  · obtain ⟨-, -, -, -, hlater, -⟩ := CommandRetryHandler.registerRetry_spec hs.bounded
      (c.request.retryKey cfg.interfaceId)
    exact hlater.isSet event h

theorem startExecution_calls (cfg : Config) (s : InterfaceClient V) (i : Nat) (c : Call V) :
    ∃ c', (s.startExecution cfg i c).calls = s.calls.set i c' ∧ c'.request = c.request ∧
      c'.attempts = 1 := by
  unfold startExecution Execution.executeWithRetry
  dsimp only
  split <;> exact ⟨_, rfl, rfl, rfl⟩

/-- A set event stays set. -/
theorem Move.isSet (h : Move cfg P s t) (hs : Registered cfg s) {event : Nat}
    (hset : s.retryHandler.isSet event) : t.retryHandler.isSet event := by
  cases h with
  | cancel dpks =>
    obtain ⟨-, hlater, -⟩ := CommandRetryHandler.foldl_cancel hs.bounded dpks
    exact hlater.isSet event hset
  | start => exact startExecution_isSet hs hset
  | @proceed i c e r _ _ _ hadv =>
    obtain ⟨result, inFlight, heq, -⟩ := continueCall_eq cfg i c r s
    rw [heq]
    unfold CommandRetryHandler.isSet at hset ⊢
    rw [hadv.events]
    exact hset
  | _ => exact hset

theorem Move.ungranted (h : Move cfg P s t) {future : Nat} (hs : s.throttle.Ungranted future) :
    t.throttle.Ungranted future := by
  cases h with
  | throttle hstep => exact (CommandThrottle.step_effect hstep).ungranted hs
  | start => rw [startExecution_throttle]; exact hs
  | proceed => rw [continueCall_throttle]; exact hs
  | _ => exact hs

/-- What a move makes of the call `i`. -/
inductive Fate (cfg : Config) (P : StartCondition V) (s t : InterfaceClient V) (i : Nat)
    (c c' : Call V) : Prop where
  | same (hexec : c'.execution = c.execution) (hfuture : c'.future = c.future)
      (hresult : c'.result = none → c.result = none)
  | waits (hlast : i + 1 = s.calls.length) (hfuture : c.future = none)
      (hexec : c.execution = none) (hexec' : c'.execution = none) (hresult : c.result = none)
  | starts (hexec : c.execution = none) (hresult : c.result = none)
      (hgranted : ∀ future, c.future = some future →
        ∃ w, s.throttle.waiters[future]? = some w ∧ w.future = .result)
      (hlast : c.future = none → i + 1 = s.calls.length) (hP : P s.retryHandler s.calls i c)
      (ht : t = s.startExecution cfg i c)
  | proceeds (e : Execution) (r : Execution × CommandRetryHandler) (hexec : c.execution = some e)
      (hresult : c.result = none) (hadvance : e.Advance s.retryHandler r)
      (hexec' : c'.execution = some r.1)

theorem Move.fate (h : Move cfg P s t) {i : Nat} {c : Call V} (hc : s.calls[i]? = some c) :
    ∃ c', t.calls[i]? = some c' ∧ c'.request = c.request ∧ Fate cfg P s t i c c' := by
  have same : Fate cfg P s t i c c := .same rfl rfl id
  have set {j : Nat} {d d' : Call V} (hcalls : t.calls = s.calls.set j d')
      (hd : s.calls[j]? = some d) (hreq : d'.request = d.request)
      (hfate : j = i → Fate cfg P s t j d d') :
      ∃ c', t.calls[i]? = some c' ∧ c'.request = c.request ∧ Fate cfg P s t i c c' := by
    rw [hcalls, getElem?_set_of_some hd]
    by_cases hji : j = i
    · subst hji
      rw [hc] at hd
      cases hd
      exact ⟨d', if_pos rfl, hreq, hfate rfl⟩
    · exact ⟨c, by rw [if_neg hji, hc], rfl, same⟩
  cases h with
  | cancel => exact ⟨c, hc, rfl, same⟩
  | throttle => exact ⟨c, hc, rfl, same⟩
  | create r =>
    exact ⟨c, getElem?_concat_of_some hc _, rfl, same⟩
  | wait hd hfuture hlast hexec hresult _ _ =>
    exact set rfl hd rfl fun _ => .waits hlast hfuture hexec hexec hresult
  | reject hd hexec hresult => exact set rfl hd rfl fun _ => .same rfl rfl fun _ => hresult
  | @start j d hd hexec hresult hgranted hlast hP =>
    obtain ⟨d', hcalls, hreq, -⟩ := startExecution_calls cfg s j d
    exact set hcalls hd hreq fun _ => .starts hexec hresult hgranted hlast hP rfl
  | @proceed j d e r hd hexec hresult hadvance =>
    obtain ⟨result, inFlight, heq, -⟩ := continueCall_eq cfg j d r s
    have hcalls : (s.continueCall cfg j d r).calls =
        s.calls.set j { d with execution := some r.1, result } := by rw [heq]
    exact set hcalls hd rfl fun _ => .proceeds e r hexec hresult hadvance rfl

theorem Move.length (h : Move cfg P s t) : s.calls.length ≤ t.calls.length := by
  by_contra hlt
  obtain ⟨c, hc⟩ : ∃ c, s.calls[t.calls.length]? = some c :=
    ⟨_, List.getElem?_eq_getElem (Nat.lt_of_not_le hlt)⟩
  obtain ⟨c', hc', -⟩ := h.fate hc
  simp at hc'

/-- A call that a move creates has not started. -/
theorem Move.fresh (h : Move cfg P s t) {i : Nat} {c : Call V} (hi : s.calls[i]? = none)
    (hc : t.calls[i]? = some c) : c.execution = none := by
  have set {j : Nat} {d : Call V} (hcalls : t.calls = s.calls.set j d) : c.execution = none := by
    rw [hcalls, List.getElem?_eq_none (by simpa using hi)] at hc
    cases hc
  cases h with
  | cancel | throttle =>
    rw [hi] at hc
    cases hc
  | create r =>
    rcases getElem?_concat_cases hc with hc | ⟨-, rfl⟩
    · rw [hi] at hc
      cases hc
    · rfl
  | wait => exact set rfl
  | reject => exact set rfl
  | @start j d =>
    obtain ⟨d', hcalls, -⟩ := startExecution_calls cfg s j d
    exact set hcalls
  | @proceed j d e r =>
    obtain ⟨result, inFlight, heq, -⟩ := continueCall_eq cfg j d r s
    have hcalls : (s.continueCall cfg j d r).calls =
        s.calls.set j { d with execution := some r.1, result } := by rw [heq]
    exact set hcalls

/-! ## Stilled calls -/

/-- The call `i` makes no further attempt: it has ended, its cancel event is set (or it has no retry
at all), or its command will not be granted. -/
def Stilled (s : InterfaceClient V) (i : Nat) (c : Call V) : Prop :=
  c.result ≠ none ∨
    (∃ e, c.execution = some e ∧ ∀ event, e.event = some event → s.retryHandler.isSet event) ∨
    c.execution = none ∧ (∀ future, c.future = some future → s.throttle.Ungranted future) ∧
      (c.future = none → i + 1 < s.calls.length)

theorem Stilled.move {i : Nat} {c : Call V} (h : Stilled s i c) (hs : Registered cfg s)
    (hc : s.calls[i]? = some c) (hmove : Move cfg P s t) :
    ∃ c', t.calls[i]? = some c' ∧ c'.attempts = c.attempts ∧ Stilled t i c' := by
  obtain ⟨c', hc', -, hfate⟩ := hmove.fate hc
  refine ⟨c', hc', ?_⟩
  cases hfate with
  | same hexec hfuture hresult =>
    refine ⟨by rw [Call.attempts, Call.attempts, hexec], ?_⟩
    rcases h with hres | ⟨e, he, hev⟩ | ⟨hnone, hu, hlast⟩
    · exact .inl fun hres' => hres (hresult hres')
    · exact .inr (.inl ⟨e, hexec.trans he, fun event hevent => hmove.isSet hs (hev event hevent)⟩)
    · refine .inr (.inr ⟨hexec.trans hnone, fun future hf => ?_, fun hf => ?_⟩)
      · exact hmove.ungranted (hu future (hfuture ▸ hf))
      · exact (hlast (hfuture ▸ hf)).trans_le hmove.length
  | waits hlast hfuture hexec _ hresult =>
    rcases h with hres | ⟨e, he, -⟩ | ⟨-, -, hlt⟩
    · exact absurd hresult hres
    · simp [hexec] at he
    · exact absurd hlast (hlt hfuture).ne
  | starts hexec hresult hgranted hlast _ _ =>
    rcases h with hres | ⟨e, he, -⟩ | ⟨-, hu, hlt⟩
    · exact absurd hresult hres
    · simp [hexec] at he
    · cases hf : c.future with
      | none => exact absurd (hlast hf) (hlt hf).ne
      | some future =>
        obtain ⟨w, hw, hne, -⟩ := hu future hf
        obtain ⟨w', hw', hr⟩ := hgranted future hf
        rw [hw] at hw'
        cases hw'
        exact absurd hr hne
  | proceeds e r hexec hresult hadvance hexec' =>
    rcases h with hres | ⟨e', he', hev⟩ | ⟨hnone, -⟩
    · exact absurd hresult hres
    · rw [hexec] at he'
      cases he'
      constructor
      · rw [Call.attempts, Call.attempts, hexec, hexec']
        rcases hadvance.attempt with hsame | ⟨event, hevent, hunset, -⟩
        · exact hsame
        · exact absurd (hev event hevent) hunset
      · refine .inr (.inl ⟨r.1, hexec', fun event hevent => hmove.isSet hs (hev event ?_)⟩)
        rw [← hadvance.event]
        exact hevent
    · simp [hexec] at hnone

/-! ## Runs -/

omit [DecidableEq V] in
theorem starting_free (s : InterfaceClient V) (a : Action V) :
    Starting cfg (fun _ _ _ _ => True) s a := by
  cases a <;> simp [Starting]

/-- What every move keeps, a run keeps. -/
theorem steps_invariant {ok : InterfaceClient V → Action V → Prop} {as : List (Action V)}
    {I : InterfaceClient V → Prop}
    (hI : ∀ s t, I s → Move cfg (fun _ _ _ _ => True) s t → I t)
    (h : (system cfg).Steps ok s as t) (hs : I s) : I t :=
  h.invariant (fun u a _ hu _ hstep => moves_invariant hI (step_moves (starting_free u a) hstep) hu)
    hs

theorem reach_registered {ok : InterfaceClient V → Action V → Prop}
    (h : (system cfg).Reach ok s) : Registered cfg s := by
  obtain ⟨as, h⟩ := h
  exact steps_invariant (fun _ _ => Registered.move) h init_registered

/-- The throttle of a run has a run of its own. -/
theorem reach_throttle {ok : InterfaceClient V → Action V → Prop} (h : (system cfg).Reach ok s) :
    (CommandThrottle.system cfg.throttle).Reach StepSystem.Free s.throttle := by
  obtain ⟨as, h⟩ := h
  refine steps_invariant (I := fun s =>
    (CommandThrottle.system cfg.throttle).Reach StepSystem.Free s.throttle) ?_ h .init
  intro s t hs hmove
  cases hmove with
  | throttle hstep => exact hs.step trivial hstep
  | start => rw [startExecution_throttle]; exact hs
  | proceed => rw [continueCall_throttle]; exact hs
  | _ => exact hs

theorem steps_stilled {ok : InterfaceClient V → Action V → Prop} {as : List (Action V)} {i : Nat}
    {c : Call V} (h : (system cfg).Steps ok t as u) (ht : Registered cfg t)
    (hc : t.calls[i]? = some c) (hstill : Stilled t i c) :
    ∃ c', u.calls[i]? = some c' ∧ c'.attempts = c.attempts := by
  have hI := steps_invariant (I := fun s => Registered cfg s ∧
    ∃ c', s.calls[i]? = some c' ∧ c'.attempts = c.attempts ∧ Stilled s i c') ?_ h
    ⟨ht, c, hc, rfl, hstill⟩
  · obtain ⟨-, c', hc', hatt, -⟩ := hI
    exact ⟨c', hc', hatt⟩
  · rintro s v ⟨hs, c₁, hc₁, hatt, hstill₁⟩ hmove
    obtain ⟨c₂, hc₂, hatt', hstill₂⟩ := hstill₁.move hs hc₁ hmove
    exact ⟨hs.move hmove, c₂, hc₂, hatt'.trans hatt, hstill₂⟩

end InterfaceClient

end AioHomematic.Client
