import AioHomematic.Model.DataPoint
import Mathlib.Logic.Function.Basic

/-!
# Collecting the values of several data points

`CallParameterCollector`: `add_data_point` sorts values into paramsets by
paramset key, collector order and channel, and keeps a list of what was added;
`send_data` applies every optimistic value of that list and then sends the
paramsets one by one. A data point is known by its key, and `DataPoints` is the
state of all of them. `answer` gives what `set_value` or `put_paramset` makes
of the n-th paramset that is sent.
-/

namespace AioHomematic.Model

open Client Lib

abbrev DataPoints (R P : Type*) := DataPointKey → DataPoint R P

structure CollectedDataPoint (P : Type*) where
  dpk : DataPointKey
  value : Option P
  retry : Option Bool

/-- A paramset as `send_data` sends it. -/
structure ParamsetSend (P : Type*) where
  paramsetKey : ParamsetKey
  collectorOrder : Int
  channelAddress : String
  values : Dict String (Option P)

structure CallParameterCollector (P : Type*) where
  paramsets : Dict ParamsetKey (Dict Int (Dict String (Dict String (Option P)))) := .empty
  collectedDataPoints : List (CollectedDataPoint P) := []
  priority : Option CommandPriority := none

variable {R P : Type*}

namespace ParamsetSend

/-- The data point's parameter is in the paramset. -/
def Covers (s : ParamsetSend P) (dpk : DataPointKey) : Prop :=
  dpk.channelAddress = s.channelAddress ∧ dpk.paramsetKey = s.paramsetKey ∧
    dpk.parameter ∈ s.values.keys

instance (s : ParamsetSend P) (dpk : DataPointKey) : Decidable (s.Covers dpk) :=
  inferInstanceAs (Decidable (_ ∧ _))

end ParamsetSend

namespace CallParameterCollector

/-- The paramset of a channel, as far as it is collected. -/
def paramset (c : CallParameterCollector P) (paramsetKey : ParamsetKey) (collectorOrder : Int)
    (channelAddress : String) : Dict String (Option P) :=
  ((((c.paramsets.get? paramsetKey).getD .empty).get? collectorOrder).getD .empty).get?
    channelAddress |>.getD .empty

/-- The lower value is the higher priority. -/
def raisePriority (dpPriority : CommandPriority) : Option CommandPriority → Option CommandPriority
  | none => some dpPriority
  | some priority => if dpPriority.value < priority.value then some dpPriority else some priority

def addDataPoint (dpk : DataPointKey) (value : Option P) (collectorOrder : Int)
    (retry : Option Bool) (c : CallParameterCollector P) : CallParameterCollector P :=
  let byOrder := (c.paramsets.get? dpk.paramsetKey).getD .empty
  let byChannel := (byOrder.get? collectorOrder).getD .empty
  let paramset := (byChannel.get? dpk.channelAddress).getD .empty
  { paramsets := c.paramsets.set dpk.paramsetKey
      (byOrder.set collectorOrder
        (byChannel.set dpk.channelAddress (paramset.set dpk.parameter value)))
    collectedDataPoints := c.collectedDataPoints ++ [{ dpk, value, retry }]
    priority := raisePriority .high c.priority }

/-- The paramsets in the order in which they are sent: keys and channels as they came in, collector
orders sorted. -/
def orderedParamsets (c : CallParameterCollector P) : List (ParamsetSend P) :=
  c.paramsets.entries.flatMap fun (paramsetKey, paramsets) =>
    (paramsets.entries.insertionSort (·.1 ≤ ·.1)).flatMap fun (collectorOrder, paramsetNo) =>
      paramsetNo.entries.map fun (channelAddress, values) =>
        { paramsetKey, collectorOrder, channelAddress, values }

/-! ## Sending -/

def applyOptimistic (now : Nat) (c : CallParameterCollector P) (dps : DataPoints R P) :
    DataPoints R P :=
  c.collectedDataPoints.foldl
    (fun dps e => Function.update dps e.dpk ((dps e.dpk).applyOptimisticValue e.value now)) dps

/-- `_rollback_optimistic_for_paramset`. -/
def rollbackOptimisticForParamset (s : ParamsetSend P) (c : CallParameterCollector P)
    (dps : DataPoints R P) : DataPoints R P :=
  c.collectedDataPoints.foldl
    (fun dps e =>
      if s.Covers e.dpk then Function.update dps e.dpk (dps e.dpk).rollbackOptimisticValue
      else dps)
    dps

/-- The call for a paramset has raised `exc`. -/
def paramsetFailed (s : ParamsetSend P) (exc : PyException) (c : CallParameterCollector P)
    (dps : DataPoints R P) : DataPoints R P :=
  if exc.cls.isException then c.rollbackOptimisticForParamset s dps else dps

/-- The loop of `send_data`, from the n-th paramset on. -/
def sendParamsets (answer : Nat → Except PyException CallResult) (c : CallParameterCollector P) :
    Nat → List (ParamsetSend P) → DataPoints R P → Except PyException Unit × DataPoints R P
  | _, [], dps => (.ok (), dps)
  | n, s :: sends, dps =>
    match answer n with
    | .ok _ => sendParamsets answer c (n + 1) sends dps
    | .error exc => (.error exc, c.paramsetFailed s exc dps)

def sendData (answer : Nat → Except PyException CallResult) (now : Nat)
    (c : CallParameterCollector P) (dps : DataPoints R P) :
    Except PyException Unit × DataPoints R P :=
  c.sendParamsets answer 0 c.orderedParamsets (c.applyOptimistic now dps)

end CallParameterCollector

/-- The collector path of `send_value`. -/
def DataPoint.collectValue (value : R) (collectorOrder : Int) (doValidate : Bool)
    (retry : Option Bool) (c : CallParameterCollector P) (d : DataPoint R P) :
    CallParameterCollector P :=
  match d.convertForSending value doValidate with
  | none => c
  | some converted => c.addDataPoint d.info.dpk converted collectorOrder retry

/-! ## The data points one by one -/

/-- Entries that each update their own key act on a key one after the other. -/
theorem foldl_update {ε κ σ : Type*} [DecidableEq κ] (key : ε → κ) (f : σ → ε → σ) (es : List ε)
    (s : κ → σ) (k : κ) :
    es.foldl (fun s e => Function.update s (key e) (f (s (key e)) e)) s k =
      (es.filter (key · = k)).foldl f (s k) := by
  induction es generalizing s with
  | nil => rfl
  | cons e es ih =>
    rw [List.foldl_cons, ih]
    by_cases he : key e = k
    · subst he
      rw [Function.update_self, List.filter_cons_of_pos (by simp), List.foldl_cons]
    · rw [Function.update_of_ne (Ne.symm he), List.filter_cons_of_neg (by simpa using he)]

namespace CallParameterCollector

variable {c : CallParameterCollector P} {dps : DataPoints R P}

/-- What was added for a data point. -/
def collectedFor (c : CallParameterCollector P) (dpk : DataPointKey) :
    List (CollectedDataPoint P) :=
  c.collectedDataPoints.filter (·.dpk = dpk)

theorem applyOptimistic_apply (now : Nat) (dpk : DataPointKey) :
    c.applyOptimistic now dps dpk =
      (c.collectedFor dpk).foldl (fun d e => d.applyOptimisticValue e.value now) (dps dpk) :=
  foldl_update CollectedDataPoint.dpk
    (fun (d : DataPoint R P) e => d.applyOptimisticValue e.value now) _ dps dpk

theorem info_foldl_applyOptimisticValue (now : Nat) (es : List (CollectedDataPoint P))
    (d : DataPoint R P) :
    (es.foldl (fun d e => d.applyOptimisticValue e.value now) d).info = d.info := by
  induction es generalizing d with
  | nil => rfl
  | cons e es ih => rw [List.foldl_cons, ih, DataPoint.info_applyOptimisticValue]

@[simp] theorem info_applyOptimistic (now : Nat) (dpk : DataPointKey) :
    (c.applyOptimistic now dps dpk).info = (dps dpk).info := by
  rw [applyOptimistic_apply, info_foldl_applyOptimisticValue]

/-- A second entry for the data point rolls back nothing more. -/
theorem foldl_rollback (s : ParamsetSend P) {dpk : DataPointKey} {es : List (CollectedDataPoint P)}
    (hes : ∀ e ∈ es, e.dpk = dpk) (d : DataPoint R P) :
    es.foldl (fun d e => if s.Covers e.dpk then d.rollbackOptimisticValue else d) d =
      if es ≠ [] ∧ s.Covers dpk then d.rollbackOptimisticValue else d := by
  induction es generalizing d with
  | nil => rfl
  | cons e es ih =>
    rw [List.foldl_cons, hes e List.mem_cons_self, ih fun x hx => hes x (List.mem_cons_of_mem _ hx)]
    by_cases hcovers : s.Covers dpk
    · simp [hcovers, DataPoint.rollbackOptimisticValue_idem]
    · simp [hcovers]

theorem rollbackOptimisticForParamset_apply (s : ParamsetSend P) (dpk : DataPointKey) :
    c.rollbackOptimisticForParamset s dps dpk =
      if c.collectedFor dpk ≠ [] ∧ s.Covers dpk then (dps dpk).rollbackOptimisticValue
      else dps dpk := by
  have hupdate : c.rollbackOptimisticForParamset s dps =
      c.collectedDataPoints.foldl (fun dps e => Function.update dps e.dpk
        (if s.Covers e.dpk then (dps e.dpk).rollbackOptimisticValue else dps e.dpk)) dps := by
    unfold rollbackOptimisticForParamset
    congr
    funext dps e
    split
    · rfl
    · exact (Function.update_eq_self e.dpk dps).symm
  rw [hupdate, foldl_update CollectedDataPoint.dpk
    (fun (d : DataPoint R P) e => if s.Covers e.dpk then d.rollbackOptimisticValue else d)]
  exact foldl_rollback s (fun e he => of_decide_eq_true (List.mem_filter.mp he).2) _

/-! ## The paramsets of a data point -/

theorem paramset_addDataPoint (dpk : DataPointKey) (value : Option P) (collectorOrder : Int)
    (retry : Option Bool) (k : ParamsetKey) (o : Int) (a : String) :
    (c.addDataPoint dpk value collectorOrder retry).paramset k o a =
      if dpk.paramsetKey = k ∧ collectorOrder = o ∧ dpk.channelAddress = a then
        (c.paramset k o a).set dpk.parameter value
      else c.paramset k o a := by
  unfold addDataPoint paramset
  dsimp only
  rw [Dict.get?_set]
  by_cases hk : dpk.paramsetKey = k
  · subst hk
    rw [if_pos rfl, Option.getD_some, Dict.get?_set]
    by_cases ho : collectorOrder = o
    · subst ho
      rw [if_pos rfl, Option.getD_some, Dict.get?_set]
      by_cases ha : dpk.channelAddress = a
      · subst ha
        simp
      · simp [ha]
    · simp [ho]
  · simp [hk]

/-- A paramset that holds a value is sent. -/
theorem mem_orderedParamsets {k : ParamsetKey} {o : Int} {a parameter : String}
    (h : parameter ∈ (c.paramset k o a).keys) :
    { paramsetKey := k, collectorOrder := o, channelAddress := a,
      values := c.paramset k o a } ∈ c.orderedParamsets := by
  cases hk : c.paramsets.get? k with
  | none => simp [paramset, hk] at h
  | some byOrder =>
    cases ho : byOrder.get? o with
    | none => simp [paramset, hk, ho] at h
    | some byChannel =>
      cases ha : byChannel.get? a with
      | none => simp [paramset, hk, ho, ha] at h
      | some values =>
        have hvalues : c.paramset k o a = values := by simp [paramset, hk, ho, ha]
        rw [hvalues]
        refine List.mem_flatMap.mpr ⟨(k, byOrder), Dict.get?_eq_some.mp hk, ?_⟩
        refine List.mem_flatMap.mpr ⟨(o, byChannel), ?_, ?_⟩
        · exact (List.mem_insertionSort _).mpr (Dict.get?_eq_some.mp ho)
        · exact List.mem_map.mpr ⟨(a, values), Dict.get?_eq_some.mp ha, rfl⟩

end CallParameterCollector

end AioHomematic.Model

/-!
## A paramset that fails

`send_data` applies all optimistic values first and sends the paramsets one
after the other. When a call raises an `Exception`, the data points of that one
paramset are rolled back, whatever was sent of them before, and no others. So
the optimistic values that are left are those of the sent paramsets exactly
where every data point was either sent or is in the failed paramset.
-/

namespace AioHomematic.Model.CallParameterCollector

open Client Lib

variable {R P : Type*} {c : CallParameterCollector P} {dps : DataPoints R P}
  {answer : Nat → Except PyException CallResult}

/-- The value collected last for a data point. -/
def lastValue (c : CallParameterCollector P) (dpk : DataPointKey) : Option P :=
  (c.collectedFor dpk).getLast?.bind (·.value)

/-- One of the first `n` paramsets was sent and has a value for the data point. -/
def Sent (answer : Nat → Except PyException CallResult) (n : Nat) (c : CallParameterCollector P)
    (dpk : DataPointKey) : Prop :=
  ∃ m < n, ∃ s, c.orderedParamsets[m]? = some s ∧ s.Covers dpk ∧ answer m = .ok .sent

/-- The data point shows the value of this call if it was sent, and no optimistic value if not. -/
def ShowsSent (sent : Prop) (last : Option P) (d : DataPoint R P) : Prop :=
  (sent → d.optimistic.value = last) ∧ (¬ sent → d.isOptimistic = false)

/-- Where `send_data` raises, it is at the first call that raises, and with the rollback of that
paramset. -/
theorem sendParamsets_error {k : Nat} {sends : List (ParamsetSend P)} {exc : PyException}
    {dps' : DataPoints R P} (h : c.sendParamsets answer k sends dps = (.error exc, dps')) :
    ∃ n s, sends[n]? = some s ∧ answer (k + n) = .error exc ∧
      (∀ m < n, ∃ r, answer (k + m) = .ok r) ∧ dps' = c.paramsetFailed s exc dps := by
  induction sends generalizing k with
  | nil => cases h
  | cons s sends ih =>
    unfold sendParamsets at h
    split at h
    · rename_i r hok
      obtain ⟨n, s', hs', herror, hbefore, hdps⟩ := ih h
      refine ⟨n + 1, s', hs', by rw [← herror]; congr 1; omega, fun m hm => ?_, hdps⟩
      cases m with
      | zero => exact ⟨r, hok⟩
      | succ m =>
        obtain ⟨r', hr'⟩ := hbefore m (by omega)
        exact ⟨r', by rw [← hr']; congr 1; omega⟩
    · rename_i exc' herror
      cases h
      exact ⟨0, s, rfl, herror, fun m hm => absurd hm (Nat.not_lt_zero m), rfl⟩

/-- A collected data point has the optimistic value that was collected last. -/
theorem value_applyOptimistic {now : Nat} {dpk : DataPointKey} (hdpk : c.collectedFor dpk ≠ [])
    (happlies : DataPoint.appliesOptimistic (dps dpk).info = true) :
    (c.applyOptimistic now dps dpk).optimistic.value = c.lastValue dpk := by
  rw [applyOptimistic_apply, lastValue]
  obtain ⟨es, e, hes⟩ := (List.eq_nil_or_concat (c.collectedFor dpk)).resolve_left hdpk
  rw [hes, List.concat_eq_append, List.foldl_append, List.getLast?_concat, Option.bind_some,
    List.foldl_cons, List.foldl_nil, DataPoint.applyOptimisticValue_of_applies]
  · rfl
  · rwa [info_foldl_applyOptimisticValue]

/-- What the failure of `s` makes of a data point that has an optimistic value of this call. -/
theorem showsSent_paramsetFailed {s : ParamsetSend P} {exc : PyException} {dpk : DataPointKey}
    {sent : Prop} {last : Option P} (hdpk : c.collectedFor dpk ≠ [])
    (hvalue : (dps dpk).optimistic.value = last) :
    ShowsSent sent last (c.paramsetFailed s exc dps dpk) ↔
      (last ≠ none → ((s.Covers dpk ∧ exc.cls.isException = true) ↔ ¬ sent)) := by
  have hactive : (dps dpk).isOptimistic = last.isSome := by
    rw [DataPoint.isOptimistic, OptimisticValueTracker.isActive, hvalue]
  by_cases hfailed : s.Covers dpk ∧ exc.cls.isException = true
  · have hrolled : c.paramsetFailed s exc dps dpk = (dps dpk).rollbackOptimisticValue := by
      rw [paramsetFailed, if_pos hfailed.2, rollbackOptimisticForParamset_apply,
        if_pos ⟨hdpk, hfailed.1⟩]
    have hnone : (dps dpk).rollbackOptimisticValue.optimistic.value = none :=
      (OptimisticValueTracker.isActive_eq_false _).mp
        (DataPoint.isActive_rollbackOptimisticValue _)
    rw [hrolled, ShowsSent, hnone, iff_true_left hfailed]
    constructor
    · rintro ⟨hkeeps, -⟩ hlast hsent
      exact hlast (hkeeps hsent).symm
    · intro hunsent
      refine ⟨fun hsent => ?_, fun _ => DataPoint.isActive_rollbackOptimisticValue _⟩
      by_contra hlast
      exact hunsent (Ne.symm hlast) hsent
  · have hkept : c.paramsetFailed s exc dps dpk = dps dpk := by
      unfold paramsetFailed
      split
      · rw [rollbackOptimisticForParamset_apply, if_neg fun h => hfailed ⟨h.2, ‹_›⟩]
      · rfl
    rw [hkept, ShowsSent, hactive, iff_false_left hfailed, not_not]
    constructor
    · rintro ⟨-, hgone⟩ hlast
      by_contra hunsent
      exact hlast (Option.not_isSome_iff_eq_none.mp (by simp [hgone hunsent]))
    · intro hsent
      refine ⟨fun _ => hvalue, fun hunsent => ?_⟩
      by_contra hlast
      exact hunsent (hsent fun h => hlast (by rw [h]; rfl))

/-- **Partial failure**: where `send_data` raises, each data point shows what was sent of it exactly
if the data points that have a value and were not sent are those of the failed paramset, and the
failure is an `Exception`. -/
theorem partial_failure {now : Nat} {exc : PyException}
    (hraise : (c.sendData answer now dps).1 = .error exc) :
    ∃ n s, c.orderedParamsets[n]? = some s ∧ answer n = .error exc ∧
      (∀ m < n, ∃ r, answer m = .ok r) ∧
      ((∀ e ∈ c.collectedDataPoints, DataPoint.appliesOptimistic (dps e.dpk).info = true →
          ShowsSent (c.Sent answer n e.dpk) (c.lastValue e.dpk)
            ((c.sendData answer now dps).2 e.dpk)) ↔
        ∀ e ∈ c.collectedDataPoints, DataPoint.appliesOptimistic (dps e.dpk).info = true →
          c.lastValue e.dpk ≠ none →
            ((s.Covers e.dpk ∧ exc.cls.isException = true) ↔ ¬ c.Sent answer n e.dpk)) := by
  obtain ⟨n, s, hs, herror, hbefore, hdps⟩ := sendParamsets_error (Prod.ext hraise rfl)
  rw [Nat.zero_add] at herror
  refine ⟨n, s, hs, herror, fun m hm => by simpa using hbefore m hm, ?_⟩
  refine forall₃_congr fun e he happlies => ?_
  have hcollected : c.collectedFor e.dpk ≠ [] :=
    List.ne_nil_of_mem (List.mem_filter.mpr ⟨he, decide_eq_true rfl⟩)
  have hafter : (c.sendData answer now dps).2 e.dpk =
      c.paramsetFailed s exc (c.applyOptimistic now dps) e.dpk := congrFun hdps e.dpk
  rw [hafter]
  exact showsSent_paramsetFailed hcollected (value_applyOptimistic hcollected happlies)

/-! ## Two channels -/

def sampleDimmer (channelAddress : String) : DataPointKey :=
  ⟨"CCU-HmIP-RF", channelAddress, .values, "LEVEL"⟩

def sampleDataPoints : DataPoints Nat Nat := fun dpk =>
  { info := { dpk, convertValue := some }, currentValue := some 0, stateUncertain := false }

/-- The dimmers of two channels, one paramset for each. -/
def sampleCollector : CallParameterCollector Nat :=
  addDataPoint (sampleDimmer "VCU1:4") (some 1) 50 none
    (addDataPoint (sampleDimmer "VCU1:3") (some 1) 50 none {})

def sampleSend (channelAddress : String) : ParamsetSend Nat where
  paramsetKey := .values
  collectorOrder := 50
  channelAddress := channelAddress
  values := Dict.empty.set "LEVEL" (some 1)

theorem sampleCollector_orderedParamsets :
    sampleCollector.orderedParamsets = [sampleSend "VCU1:3", sampleSend "VCU1:4"] := rfl

/-- The first `n` calls send their paramset, and the next one raises. -/
def sampleAnswer (n m : Nat) : Except PyException CallResult :=
  if m < n then .ok .sent else .error { cls := .timeoutError }

/-- The second paramset fails: its data point is rolled back, the sent one keeps its value. -/
theorem partial_failure_second :
    let dps := (sampleCollector.sendData (sampleAnswer 1) 0 sampleDataPoints).2
    (dps (sampleDimmer "VCU1:3")).optimistic.value = some 1 ∧
      (dps (sampleDimmer "VCU1:4")).isOptimistic = false := by
  have hraise : (sampleCollector.sendData (sampleAnswer 1) 0 sampleDataPoints).1 =
      .error { cls := .timeoutError } := rfl
  obtain ⟨n, s, hs, herror, hbefore, hshows⟩ := partial_failure hraise
  rw [sampleCollector_orderedParamsets] at hs
  have hsent : sampleCollector.Sent (sampleAnswer 1) 1 (sampleDimmer "VCU1:3") :=
    ⟨0, Nat.one_pos, _, rfl, by decide, rfl⟩
  have hunsent : ¬ sampleCollector.Sent (sampleAnswer 1) 1 (sampleDimmer "VCU1:4") := by
    rintro ⟨m, hm, s, hs, hcovers, -⟩
    obtain rfl : m = 0 := by omega
    cases hs
    exact absurd hcovers (by decide)
  match n, hs with
  | 0, _ => cases herror
  | 1, hs =>
    cases hs
    have hall := hshows.mpr ?_
    · exact ⟨(hall ⟨sampleDimmer "VCU1:3", some 1, none⟩ (by simp [sampleCollector, addDataPoint])
          rfl).1 hsent,
        (hall ⟨sampleDimmer "VCU1:4", some 1, none⟩ (by simp [sampleCollector, addDataPoint])
          rfl).2 hunsent⟩
    · intro e he _ _
      rcases List.mem_cons.mp he with rfl | he
      · exact iff_of_false (by decide) (not_not_intro hsent)
      · cases List.mem_singleton.mp he
        exact iff_of_true (by decide) hunsent

/-- The first paramset fails: the dimmer of the other channel, which was not sent, goes on showing
its optimistic value. -/
theorem partial_failure_first :
    let (result, dps) := sampleCollector.sendData (sampleAnswer 0) 0 sampleDataPoints
    result = .error { cls := .timeoutError } ∧
      ¬ sampleCollector.Sent (sampleAnswer 0) 0 (sampleDimmer "VCU1:4") ∧
      (dps (sampleDimmer "VCU1:3")).isOptimistic = false ∧
      (dps (sampleDimmer "VCU1:4")).isOptimistic = true := by
  refine ⟨rfl, ?_, ?_, ?_⟩
  · rintro ⟨m, hm, -⟩
    exact absurd hm (Nat.not_lt_zero m)
  · decide
  · decide

end AioHomematic.Model.CallParameterCollector
