import AioHomematic.Client.InterfaceClient.Moves

/-!
# Sends

A send is a call of `set_value` or `put_paramset` from the start of its
execution, which stages its values as in flight, to its result, which clears
those that are still its own. `step_effect` says what a step does to the sends
and to the in-flight map: it starts or ends one send at most.
-/

namespace AioHomematic.Client.InterfaceClient

open Lib

variable {V : Type*} {cfg : Config} {s t u : InterfaceClient V} {a : Action V} {r : Request V}
  {d : Dict DataPointKey V} {k : DataPointKey} {i j : Nat} {v : V}

/-- The value that the request stages for `k`. -/
def sentValue (cfg : Config) (r : Request V) (k : DataPointKey) : Option V :=
  match r.paramset with
  | .link _ => none
  | .key _ => if dataPointKey cfg r k.parameter = k then r.values.get? k.parameter else none

theorem sentValue_eq_some (h : sentValue cfg r k = some v) :
    k.parameter ∈ r.parameters ∧ dataPointKey cfg r k.parameter = k := by
  unfold sentValue at h
  split at h
  · cases h
  · split at h
    · exact ⟨Dict.mem_keys.mpr ⟨v, h⟩, ‹_›⟩
    · cases h

/-! ## Staged values -/

theorem stage_entries (es : List (String × V)) (hnodup : (es.map Prod.fst).Nodup)
    (d : Dict DataPointKey V) :
    (es.foldl (fun d pv => d.set (dataPointKey cfg r pv.1) pv.2) d).get? k =
      (if dataPointKey cfg r k.parameter = k then Dict.lookup k.parameter es else none).or
        (d.get? k) := by
  induction es generalizing d with
  | nil => simp [Dict.lookup]
  | cons pv es ih =>
    obtain ⟨p, v⟩ := pv
    obtain ⟨hp, hnodup⟩ := List.nodup_cons.mp hnodup
    rw [List.foldl_cons, ih hnodup, Dict.get?_set]
    by_cases hk : dataPointKey cfg r p = k
    · subst hk
      have hnone : Dict.lookup p es = none := Dict.lookup_eq_none.mpr hp
      simp [dataPointKey, Dict.lookup, hnone]
    · rw [if_neg hk]
      split
      · rename_i hkey
        have hne : p ≠ k.parameter := by
          rintro rfl
          exact hk hkey
        rw [Dict.lookup, if_neg hne]
      · rfl

theorem get?_stageInFlight :
    (stageInFlight cfg r d).get? k = (sentValue cfg r k).or (d.get? k) := by
  unfold stageInFlight sentValue
  cases r.paramset with
  | link => rfl
  | key => exact stage_entries r.values.entries r.values.nodup d

/-! ## Calls under way -/

/-- The call `i` has staged its values. -/
def isStaged (s : InterfaceClient V) (i : Nat) : Bool :=
  (s.calls[i]?).any fun c => c.execution.isSome

/-- The request of the call `i`, while its values are staged and it has not finished. -/
def underWay (s : InterfaceClient V) (i : Nat) : Option (Request V) :=
  (s.calls[i]?).bind fun c =>
    if c.execution.isSome && c.result.isNone then some c.request else none

theorem isStaged_of_underWay (h : s.underWay i = some r) : s.isStaged i = true := by
  obtain ⟨c, hc, hif⟩ := Option.bind_eq_some_iff.mp h
  unfold isStaged
  rw [hc, Option.any_some]
  cases hexec : c.execution with
  | none =>
    rw [hexec] at hif
    cases hif
  | some e => rfl

theorem isStaged_set {c c' : Call V} (hc : s.calls[i]? = some c)
    (hcalls : t.calls = s.calls.set i c') (j : Nat) :
    t.isStaged j = if i = j then c'.execution.isSome else s.isStaged j := by
  rw [isStaged, hcalls, getElem?_set_of_some hc]
  split <;> rfl

theorem underWay_set {c c' : Call V} (hc : s.calls[i]? = some c)
    (hcalls : t.calls = s.calls.set i c') (j : Nat) :
    t.underWay j = if i = j then
        if c'.execution.isSome && c'.result.isNone then some c'.request else none
      else s.underWay j := by
  rw [underWay, hcalls, getElem?_set_of_some hc]
  split <;> rfl

structure Same (s t : InterfaceClient V) : Prop where
  inFlight : t.inFlight = s.inFlight
  staged : ∀ i, t.isStaged i = s.isStaged i
  active : ∀ i, t.underWay i = s.underWay i

structure Starts (cfg : Config) (s t : InterfaceClient V) (i : Nat) (r : Request V) : Prop where
  inFlight : t.inFlight = stageInFlight cfg r s.inFlight
  before : s.isStaged i = false
  staged : t.isStaged i = true
  active : t.underWay i = some r
  others : ∀ j, j ≠ i → t.isStaged j = s.isStaged j ∧ t.underWay j = s.underWay j

theorem Same.of_calls (hinFlight : t.inFlight = s.inFlight) (hcalls : t.calls = s.calls) :
    Same s t :=
  ⟨hinFlight, fun i => by rw [isStaged, hcalls, isStaged],
    fun i => by rw [underWay, hcalls, underWay]⟩

/-- A call that has not staged its values changes. -/
theorem Same.set {c c' : Call V} (hc : s.calls[i]? = some c) (hexec : c.execution = none)
    (hinFlight : t.inFlight = s.inFlight) (hcalls : t.calls = s.calls.set i c')
    (hexec' : c'.execution = none) : Same s t := by
  refine ⟨hinFlight, fun j => ?_, fun j => ?_⟩
  · rw [isStaged, isStaged, hcalls, getElem?_set_of_some hc]
    split
    · subst_vars
      simp [hc, hexec, hexec']
    · rfl
  · rw [underWay, underWay, hcalls, getElem?_set_of_some hc]
    split
    · subst_vars
      simp [hc, hexec, hexec']
    · rfl

theorem Same.create (r : Request V) : Same s { s with calls := s.calls ++ [{ request := r }] } := by
  have hcall (i : Nat) : (s.calls ++ [({ request := r } : Call V)])[i]? = s.calls[i]? ∨
      s.calls[i]? = none ∧ (s.calls ++ [({ request := r } : Call V)])[i]? = some { request := r } ∨
      s.calls[i]? = none ∧ (s.calls ++ [({ request := r } : Call V)])[i]? = none := by
    rcases Nat.lt_trichotomy i s.calls.length with hlt | rfl | hgt
    · exact .inl (List.getElem?_append_left hlt)
    · exact .inr (.inl ⟨List.getElem?_eq_none le_rfl, List.getElem?_concat_length⟩)
    · refine .inr (.inr ⟨List.getElem?_eq_none (by omega), List.getElem?_eq_none ?_⟩)
      rw [List.length_append, List.length_singleton]
      omega
  refine ⟨rfl, fun i => ?_, fun i => ?_⟩
  · unfold isStaged
    dsimp only
    rcases hcall i with h | ⟨h, h'⟩ | ⟨h, h'⟩
    · rw [h]
    · rw [h, h']
      rfl
    · rw [h, h']
  · unfold underWay
    dsimp only
    rcases hcall i with h | ⟨h, h'⟩ | ⟨h, h'⟩
    · rw [h]
    · rw [h, h']
      rfl
    · rw [h, h']

variable [DecidableEq V]

/-! ## Cleared values -/

/-- What clearing `sent` leaves of what the map holds. -/
def cleared (sent held : Option V) : Option V := if held = sent then none else held

theorem cleared_none (held : Option V) : cleared none held = held := by
  unfold cleared
  split
  · rename_i h
    rw [h]
  · rfl

theorem clear_entries (es : List (String × V)) (hnodup : (es.map Prod.fst).Nodup)
    (d : Dict DataPointKey V) :
    (es.foldl
      (fun d pv =>
        if d.get? (dataPointKey cfg r pv.1) = some pv.2 then d.erase (dataPointKey cfg r pv.1)
        else d)
      d).get? k =
      cleared (if dataPointKey cfg r k.parameter = k then Dict.lookup k.parameter es else none)
        (d.get? k) := by
  induction es generalizing d with
  | nil =>
    simp only [List.foldl_nil, Dict.lookup, ite_self]
    rw [cleared_none]
  | cons pv es ih =>
    obtain ⟨p, v⟩ := pv
    obtain ⟨hp, hnodup⟩ := List.nodup_cons.mp hnodup
    rw [List.foldl_cons, ih hnodup]
    dsimp only
    by_cases hk : dataPointKey cfg r p = k
    · subst hk
      have hnone : Dict.lookup p es = none := Dict.lookup_eq_none.mpr hp
      have hself : dataPointKey cfg r (dataPointKey cfg r p).parameter = dataPointKey cfg r p := rfl
      have hparameter : (dataPointKey cfg r p).parameter = p := rfl
      rw [if_pos hself, if_pos hself, hparameter, hnone, cleared_none, Dict.lookup, if_pos rfl,
        cleared]
      split
      · rw [Dict.get?_erase_self]
      · rfl
    · have hget : (if d.get? (dataPointKey cfg r p) = some v then d.erase (dataPointKey cfg r p)
          else d).get? k = d.get? k := by
        split
        · exact Dict.get?_erase_of_ne _ hk
        · rfl
      rw [hget]
      congr 1
      split
      · rename_i hkey
        have hne : p ≠ k.parameter := by
          rintro rfl
          exact hk hkey
        rw [Dict.lookup, if_neg hne]
      · rfl

theorem get?_clearInFlight :
    (clearInFlight cfg r d).get? k = cleared (sentValue cfg r k) (d.get? k) := by
  unfold clearInFlight sentValue
  cases r.paramset with
  | link => exact (cleared_none _).symm
  | key => exact clear_entries r.values.entries r.values.nodup d

/-! ## The effect of a step -/

structure Ends (cfg : Config) (s t : InterfaceClient V) (i : Nat) (r : Request V) : Prop where
  inFlight : t.inFlight = clearInFlight cfg r s.inFlight
  before : s.underWay i = some r
  active : t.underWay i = none
  staged : ∀ j, t.isStaged j = s.isStaged j
  others : ∀ j, j ≠ i → t.underWay j = s.underWay j

/-- What a step does to the sends: nothing, or it starts one, or it ends one. -/
inductive Effect (cfg : Config) (s t : InterfaceClient V) : Prop where
  | same (h : Same s t)
  | starts (i : Nat) (r : Request V) (h : Starts cfg s t i r)
  | ends (i : Nat) (r : Request V) (h : Ends cfg s t i r)

theorem Same.trans_effect (h₁ : Same s t) (h₂ : Effect cfg t u) : Effect cfg s u := by
  cases h₂ with
  | same h =>
    exact .same ⟨h.inFlight.trans h₁.inFlight, fun i => (h.staged i).trans (h₁.staged i),
      fun i => (h.active i).trans (h₁.active i)⟩
  | starts i r h =>
    refine .starts i r ⟨h₁.inFlight ▸ h.inFlight, h₁.staged i ▸ h.before, h.staged, h.active,
      fun j hj => ?_⟩
    rw [← h₁.staged j, ← h₁.active j]
    exact h.others j hj
  | ends i r h =>
    exact .ends i r ⟨h₁.inFlight ▸ h.inFlight, h₁.active i ▸ h.before, h.active,
      fun j => (h.staged j).trans (h₁.staged j),
      fun j hj => (h.others j hj).trans (h₁.active j)⟩

theorem startExecution_effect {c : Call V} (hc : s.calls[i]? = some c)
    (hexec : c.execution = none) (hresult : c.result = none) :
    Effect cfg s (s.startExecution cfg i c) := by
  refine .starts i c.request ?_
  have hcalls : ∃ e, (s.startExecution cfg i c).calls =
      s.calls.set i { c with execution := some e } := by
    unfold startExecution continueCall Execution.executeWithRetry
    split
    · exact ⟨_, rfl⟩
    · exact ⟨_, rfl⟩
  have hinFlight :
      (s.startExecution cfg i c).inFlight = stageInFlight cfg c.request s.inFlight := by
    unfold startExecution continueCall Execution.executeWithRetry
    split <;> rfl
  obtain ⟨e, hcalls⟩ := hcalls
  refine ⟨hinFlight, ?_, ?_, ?_, fun j hj => ⟨?_, ?_⟩⟩
  · rw [isStaged, hc, Option.any_some, hexec]
    rfl
  · rw [isStaged_set hc hcalls, if_pos rfl]
    rfl
  · rw [underWay_set hc hcalls, if_pos rfl, hresult]
    rfl
  · rw [isStaged_set hc hcalls, if_neg hj.symm]
  · rw [underWay_set hc hcalls, if_neg hj.symm]

theorem continueCall_effect {c : Call V} {e : Execution} {r : Execution × CommandRetryHandler}
    (hc : s.calls[i]? = some c) (hexec : c.execution = some e) (hresult : c.result = none) :
    Effect cfg s (s.continueCall cfg i c r) := by
  have hbefore : s.underWay i = some c.request := by
    rw [underWay, hc, Option.bind_some, hexec, hresult]
    rfl
  have hstaged : s.isStaged i = true := by
    rw [isStaged, hc, Option.any_some, hexec]
    rfl
  unfold continueCall
  split
  · refine .ends i c.request ⟨rfl, hbefore, ?_, fun j => ?_, fun j hj => ?_⟩
    · rw [underWay_set hc rfl, if_pos rfl]
      rfl
    · rw [isStaged_set hc rfl]
      split
      · subst_vars
        rw [hstaged]
        rfl
      · rfl
    · rw [underWay_set hc rfl, if_neg hj.symm]
  · refine .same ⟨rfl, fun j => ?_, fun j => ?_⟩
    · rw [isStaged_set hc rfl]
      split
      · subst_vars
        rw [hstaged]
        rfl
      · rfl
    · rw [underWay_set hc rfl]
      split
      · subst_vars
        rw [hbefore, hresult]
        rfl
      · rfl

variable {P : StartCondition V}

theorem Move.effect (h : Move cfg P s t) : Effect cfg s t := by
  cases h with
  | cancel dpks => exact .same (.of_calls rfl rfl)
  | throttle hstep => exact .same (.of_calls rfl rfl)
  | create r => exact .same (.create r)
  | wait hc _ _ hexec _ _ _ => exact .same (.set hc hexec rfl rfl hexec)
  | reject hc hexec _ => exact .same (.set hc hexec rfl rfl hexec)
  | start hc hexec hresult _ _ _ => exact startExecution_effect hc hexec hresult
  | proceed hc hexec hresult _ => exact continueCall_effect hc hexec hresult

theorem acquired_effect {c : Call V} {x : AcquireResult} (hc : s.calls[i]? = some c)
    (hexec : c.execution = none) (hresult : c.result = none) :
    Effect cfg s (s.acquired cfg i c x) := by
  cases x with
  | returned => exact startExecution_effect hc hexec hresult
  | commandSuperseded => exact .same (.set hc hexec rfl rfl hexec)
  | cancelledError => exact .same (.set hc hexec rfl rfl hexec)

theorem startCall_effect {tBurst tStamp : Int} (h : s.startCall cfg r tBurst tStamp = some t) :
    Effect cfg s t := by
  unfold startCall checkAndAcquire at h
  dsimp only at h
  have hcall : (s.calls ++ [({ request := r } : Call V)])[s.calls.length]? = some { request := r } :=
    List.getElem?_concat_length
  refine (Same.create r).trans_effect ?_
  split at h
  · split at h
    · cases h
    · cases h
      exact .same (.set hcall rfl rfl rfl rfl)
  · obtain ⟨throttle, -, rfl⟩ := Option.map_eq_some_iff.mp h
    refine Same.trans_effect (t := { s with
      throttle
      retryHandler :=
        r.purgeAddresses.foldl CommandRetryHandler.cancelRetriesForDevice s.retryHandler
      calls := s.calls ++ [{ request := r }] }) (.of_calls rfl rfl) ?_
    split
    · exact acquired_effect hcall rfl rfl
    · exact .same (.set hcall rfl rfl rfl rfl)

theorem granted_effect (h : s.granted cfg i = some t) : Effect cfg s t := by
  unfold granted at h
  split at h
  · rename_i c hc
    split at h
    · rename_i future hfuture hexec hresult
      split at h
      · obtain ⟨throttle, -, rfl⟩ := Option.map_eq_some_iff.mp h
        exact Same.trans_effect (t := { s with throttle }) (.of_calls rfl rfl)
          (acquired_effect hc hexec hresult)
      · cases h
    · cases h
  · cases h

theorem cancelCall_effect (h : s.cancelCall cfg i = some t) : Effect cfg s t := by
  unfold cancelCall at h
  split at h
  · rename_i c hc
    split at h
    · rename_i future hfuture hexec hresult
      obtain ⟨throttle, -, rfl⟩ := Option.map_eq_some_iff.mp h
      exact Same.trans_effect (t := { s with throttle }) (.of_calls rfl rfl)
        (acquired_effect (x := .cancelledError) hc hexec hresult)
    · exact (resumeExecution_move (P := fun _ _ _ _ => True)
        (fun _ _ _ => cancelExecution_advance) h).effect
  · cases h

/-- A step starts or ends one send at most. -/
theorem step_effect (h : step cfg s a = some t) : Effect cfg s t := by
  have resumed {f : Execution → CommandRetryHandler → Option (Execution × CommandRetryHandler)}
      (hf : ∀ e h r, f e h = some r → e.Advance h r) {i : Nat}
      (h : s.resumeExecution cfg i f = some t) : Effect cfg s t :=
    (resumeExecution_move (P := fun _ _ _ _ => True) hf h).effect
  have throttle {a : CommandThrottle.Action} (h : s.throttleStep cfg a = some t) :
      Effect cfg s t := by
    obtain ⟨throttle, -, rfl⟩ := Option.map_eq_some_iff.mp h
    exact .same (.of_calls rfl rfl)
  cases a with
  | setValue => exact startCall_effect h
  | putParamset => exact startCall_effect h
  | granted => exact granted_effect h
  | operationEnded => exact resumed (fun _ _ _ => operationEnded_advance) h
  | sleepEnded => exact resumed (fun _ _ _ => sleepEnded_advance) h
  | recoveryEnded => exact resumed (fun _ _ _ => recoveryEnded_advance) h
  | cancelCall => exact cancelCall_effect h
  | worker => exact throttle h
  | cancelWorker => exact throttle h
  | stopThrottle => exact throttle h
  | cancelRetries deviceAddress =>
    simp only [step] at h
    split at h
    · cases h
    · cases h
      exact .same (.of_calls rfl rfl)
  | stop =>
    simp only [step] at h
    split at h
    · cases h
    · cases h
      exact .same (.of_calls rfl rfl)

end AioHomematic.Client.InterfaceClient
